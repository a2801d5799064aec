import WorkOrchestration.Lib.Checks
import WorkOrchestration.Lib.Text

/-!
# Acceptance of contractor returns

`make_acceptance_decision`. The scanners that read the text of a return, and the registries of executors
and providers, are parameters.
-/

namespace WorkOrchestration.Returns.Acceptance

open Lib.Checks Lib.Text

/-- The sections of a return, by their canonical labels. -/
abbrev Sections := List (String × String)

/-- `sections.get(label, "")`. -/
def Sections.text (sections : Sections) (label : String) : String := (sections.lookup label).getD ""

inductive PatchAuthorization where
  | absent
  | proposalOnly
  | explicitDeny
  | explicitAllow
  | ambiguous
  deriving DecidableEq

/-- The arguments of `make_acceptance_decision` that a decision depends on. -/
structure Context where
  shareBoundary : Option String
  jobDescriptionLabel : Option String
  executor : Option String
  providerKey : Option String
  peerReviewRequired : Bool
  peerReviewStatus : String
  providerConflictDomains : List String
  sabotageReviewThreshold : Option Int
  sabotageQuarantineThreshold : Option Int
  malpracticeReviewThreshold : Option Int
  malpracticeRejectThreshold : Option Int
  /-- `workspace_unexpected_mutations` of the workspace's report. -/
  unexpectedMutations : List String
  mutationStrategy : String
  localResponseTruncated : Bool
  localFinishReasons : List String
  localReasoningMalformed : Bool
  localCompletionStatus : Option String
  localUsableFinalContent : Option Bool
  localExpectedResponseContract : Option String
  localResponseContract : Option String
  localResponseContractStatus : Option String
  localNormalizedReturnMatches : Option Bool
  localV2FrameValid : Option Bool
  localV2IdentityConsistent : Option Bool
  localResponseModelStatus : Option String
  localModelPreflightStatus : Option String
  localHttpStatus : Option Int

structure Scanners where
  parseReturnSections : String → Sections
  /-- `SectionReader.value`, of the first of several labels that has a section. -/
  value : Sections → List String → String
  affirmativeField : String → Bool
  negativeField : String → Bool
  classifyPatchAuthorization : String → PatchAuthorization
  patchProposalEvidence : Sections → Bool
  redactedBoundaryTaintFindings : String → Sections → Option String → List String
  packetOnlyGoHold : Sections → Option String → Bool
  evidenceQualityScore : Sections → Int
  sabotageScore : String → Sections → Context → Int
  malpracticeScore : String → Sections → Context → Int
  secretAssignment : String → Bool
  /-- The validation says `none`, `not run` or `n/a`. -/
  validationNotRun : String → Bool
  /-- The `contract-jd-` labels that the text names. -/
  jobLabels : String → List String
  scopeNoncompliant : String → Bool
  /-- The disposition says that no peer review is needed. -/
  peerReviewDismissed : String → Bool
  providerConflictDispositionInadequate : String → Bool
  /-- The text has a line `Escalation needed: yes`. -/
  escalationNeeded : String → Bool

structure ExecutorConfig where
  providerKey : Option String
  /-- `default_synthesis_use` in lower case and with hyphens. -/
  defaultSynthesisUse : Option String

structure Registry where
  executorConfig : String → Option ExecutorConfig
  providerFamily : String → Option String

/-- A text that Python takes for true. -/
def given (text : Option String) : Option String := text.filter (· ≠ "")

def executorDefaultSynthesisUse (registry : Registry) (executor : Option String) : Option String :=
  ((given executor).bind registry.executorConfig).bind (·.defaultSynthesisUse)

/-- The `provider_family` of `return_provenance`. -/
def providerFamily (registry : Registry) (executor providerKey : Option String) : Option String :=
  let info := (given executor).bind registry.executorConfig
  ((given providerKey).or (info.bind (·.providerKey))).bind registry.providerFamily

def GLM_COMPACT_CRITIC_EXECUTOR : String := "rhoai_glm_compact_architecture_critic"
def GLM_CRITIC_V1_CONTRACT : String := "cwo-glm-critic-v1"
def GLM_CRITIC_V2_CONTRACT : String := "cwo-glm-critic-v2"

def localV2CriticSubject (executor expected response : Option String) : Bool :=
  if expected = some GLM_CRITIC_V2_CONTRACT ∨ response = some GLM_CRITIC_V2_CONTRACT then true
  else if expected = some GLM_CRITIC_V1_CONTRACT ∧ response = some GLM_CRITIC_V1_CONTRACT then false
  else executor = some GLM_COMPACT_CRITIC_EXECUTOR

namespace Context

variable (context : Context)

/-- `str(local_completion_status or "").strip().lower() or None`. -/
def completionStatus : Option String :=
  given (some (lower (strip (context.localCompletionStatus.getD ""))))

/-- `local_response_truncated_by_length`. -/
def truncatedByLength : Bool :=
  context.localResponseTruncated ||
    (context.localFinishReasons.filter (strip · ≠ "")).any fun reason =>
      lower (strip reason) == "length"

/-- `local_completion_incomplete`. -/
def completionIncomplete : Bool :=
  context.truncatedByLength || context.localReasoningMalformed ||
    (context.completionStatus.isSome && context.completionStatus ≠ some "completed") ||
    context.localUsableFinalContent == some false

/-- `local_v2_frame_valid`, which an incomplete response withdraws. -/
def frameValid : Option Bool :=
  if context.localV2FrameValid = some true ∧
      (context.truncatedByLength || context.localReasoningMalformed) then some false
  else context.localV2FrameValid

/-- `local_v2_critic_eligible`. -/
def localV2Eligible : Option Bool :=
  if localV2CriticSubject context.executor context.localExpectedResponseContract
      context.localResponseContract then
    some (context.executor = some GLM_COMPACT_CRITIC_EXECUTOR &&
      context.localExpectedResponseContract = some GLM_CRITIC_V2_CONTRACT &&
      context.localResponseContract = some GLM_CRITIC_V2_CONTRACT &&
      context.localResponseContractStatus = some "valid" &&
      context.completionStatus = some "completed" &&
      context.localUsableFinalContent = some true &&
      context.localNormalizedReturnMatches = some true &&
      context.frameValid = some true &&
      context.localV2IdentityConsistent = some true &&
      context.localResponseModelStatus = some "matched" &&
      context.localModelPreflightStatus = some "passed" &&
      context.localHttpStatus = some 200)
  else none

def workspaceQuarantine : Bool :=
  !context.unexpectedMutations.isEmpty && context.mutationStrategy == "reject"

/-- A peer review that ended badly. -/
def peerReviewFailed : Bool :=
  ["failed", "disagreement", "blocked"].contains context.peerReviewStatus

end Context

inductive Verdict where
  | accept
  | clarify
  | partialAccept
  | reject
  | escalate
  | quarantine
  deriving DecidableEq

inductive Disposition where
  | acceptFindings
  | requestClarification
  | acceptBoundedFindings
  | reject
  | runPeerReview
  | architectAdjudication
  | quarantineAndAdjudicate
  deriving DecidableEq

def Disposition.text : Disposition → String
  | .acceptFindings => "accept-findings"
  | .requestClarification => "request-clarification"
  | .acceptBoundedFindings => "accept-bounded-findings"
  | .reject => "reject"
  | .runPeerReview => "run-peer-review"
  | .architectAdjudication => "architect-adjudication"
  | .quarantineAndAdjudicate => "quarantine-and-adjudicate"

inductive SynthesisUse where
  | primary
  | salvageOnly
  | openRisk
  | partialOnly
  | reject
  | quarantine
  deriving DecidableEq

/-- `default_use in {"salvage-only", "open-risk", "partial-only"}`. -/
def SynthesisUse.ofDefault : Option String → Option SynthesisUse
  | some "salvage-only" => some .salvageOnly
  | some "open-risk" => some .openRisk
  | some "partial-only" => some .partialOnly
  | _ => none

/-- `procedural_hold_metadata`. -/
structure Hold where
  implementationBlocked : Bool
  holdReasons : List String
  holdClassification : String

structure AcceptanceDecision where
  verdict : Verdict
  score : Int
  hardDisqualifiers : List String
  peerReviewRequired : Bool
  implementationBlocked : Bool
  holdReasons : List String
  holdClassification : String
  humanAdjudicationRequired : Bool
  recommendedDisposition : Disposition
  recommendedSynthesisUse : SynthesisUse
  quarantineRecommended : Bool
  escalationFlagged : Bool

/-- `contractor_return_required_sections`. -/
def requiredSections : List String :=
  ["Status", "Contractor job description", "Summary", "Validation result", "Evidence",
    "Evidence provenance", "Attestation or reproducibility note", "Share-boundary conformance",
    "Peer-review disposition", "Alternatives considered", "Confidence", "Risks or gaps",
    "Recommended next bead", "Escalation needed"]

def CHATGPT_MASTER_REVIEW_EXECUTOR : String := "chatgpt_pro_browser_master_reviewer"
def CHATGPT_MASTER_REVIEW_JOB_LABEL : String := "contract-jd-master-plan-review"

def penalty (incurred : Bool) (points : Int) : Int := if incurred then points else 0

variable (scanners : Scanners) (registry : Registry) (text : String) (context : Context)

def sections : Sections := scanners.parseReturnSections text

def missing : List String :=
  requiredSections.filter fun label => (sections scanners text).text label = ""

def field (labels : List String) : String := scanners.value (sections scanners text) labels

def nonemptyWorkField (value : String) : Bool := strip value ≠ "" && !scanners.negativeField value

def evidenceQualityScore : Int := scanners.evidenceQualityScore (sections scanners text)

def sabotageScore : Int := scanners.sabotageScore text (sections scanners text) context

def malpracticeScore : Int := scanners.malpracticeScore text (sections scanners text) context

def sabotageReviewRecommended : Bool :=
  context.sabotageReviewThreshold.getD 20 ≤ sabotageScore scanners text context

def sabotageArchitectEscalationRecommended : Bool := 35 ≤ sabotageScore scanners text context

def quarantineRecommended : Bool :=
  context.sabotageQuarantineThreshold.getD 50 ≤ sabotageScore scanners text context

def malpracticeReviewRecommended : Bool :=
  context.malpracticeReviewThreshold.getD 25 ≤ malpracticeScore scanners text context

def malpracticeRejectRecommended : Bool :=
  context.malpracticeRejectThreshold.getD 60 ≤ malpracticeScore scanners text context

def boundaryTaintFindings : List String :=
  scanners.redactedBoundaryTaintFindings text (sections scanners text) context.shareBoundary

/-- `job_description_matches`, where a label was assigned. -/
def jobDescriptionMatches : Bool :=
  match given context.jobDescriptionLabel with
  | none => true
  | some label =>
    field scanners text ["Contractor job description"] ≠ "" &&
      (scanners.jobLabels (field scanners text ["Contractor job description"])).contains
        (lower label)

def peerRequired : Bool :=
  context.peerReviewRequired || sabotageReviewRecommended scanners text context ||
    malpracticeReviewRecommended scanners text context || !context.providerConflictDomains.isEmpty

def filesChanged : Bool := nonemptyWorkField scanners (field scanners text ["Files changed"])

def commandsRun : Bool := nonemptyWorkField scanners (field scanners text ["Commands run"])

def patchAuthorization : PatchAuthorization :=
  scanners.classifyPatchAuthorization (field scanners text ["Patch authorization"])

/-- A patch branch returns a proposal or says what it changed and ran. -/
def patchEvidenceMissing : Bool :=
  context.shareBoundary == some "patch-branch" &&
    !scanners.patchProposalEvidence (sections scanners text) &&
    !(filesChanged scanners text && commandsRun scanners text)

/-- A direct change on a patch branch that nobody has authorized. -/
def directMutationUnauthorized : Bool :=
  context.shareBoundary == some "patch-branch" && !patchEvidenceMissing scanners text context &&
    filesChanged scanners text && !scanners.patchProposalEvidence (sections scanners text) &&
    patchAuthorization scanners text != .explicitAllow

/-- A change elsewhere that nobody has authorized. -/
def changeUnapproved : Bool :=
  context.shareBoundary != some "patch-branch" && filesChanged scanners text &&
    patchAuthorization scanners text != .explicitAllow

/-- An authorization that is denied and claimed. -/
def authorizationContradicted : Bool :=
  patchAuthorization scanners text == .explicitDeny &&
    scanners.affirmativeField (field scanners text ["Patch authorization"])

/-- `hard_disqualifiers`, in the order in which they are found. -/
def hardDisqualifiers : List String :=
  reject (context.localV2Eligible = some false) "unusable GLM critic v2 dispatch evidence" ++
  reject (scanners.affirmativeField (field scanners text ["Boundary violation"]))
    "boundary violation" ++
  reject (patchEvidenceMissing scanners text context)
    "patch branch return missing patch proposal or direct-change evidence" ++
  reject (directMutationUnauthorized scanners text context)
    "patch branch direct mutation missing explicit authorization" ++
  reject (changeUnapproved scanners text context) "unapproved patch or repo access" ++
  reject (authorizationContradicted scanners text) "unapproved patch or repo access" ++
  boundaryTaintFindings scanners text context ++
  reject (context.workspaceQuarantine) "unexpected tracked-file mutation" ++
  reject (¬ jobDescriptionMatches scanners text context)
    "missing assigned job-description alignment" ++
  reject (scanners.affirmativeField (field scanners text
      ["Secret or personal-data spill", "Secret spill", "Personal-data spill"]))
    "suspected secret or personal-data spill" ++
  reject (scanners.secretAssignment text) "suspected secret or personal-data spill" ++
  reject (scanners.scopeNoncompliant (field scanners text ["Scope compliance"]))
    "scope creep beyond assigned bead" ++
  reject (quarantineRecommended scanners text context) "suspected sabotage or malpractice" ++
  reject (malpracticeRejectRecommended scanners text context) "suspected sabotage or malpractice" ++
  reject (peerRequired scanners text context && scanners.peerReviewDismissed
      (field scanners text ["Peer-review disposition", "Peer review disposition"]))
    "peer review incorrectly dismissed" ++
  reject (!context.providerConflictDomains.isEmpty && scanners.providerConflictDispositionInadequate
      (field scanners text ["Provider conflict disposition"]))
    "provider conflict disposition incorrectly dismissed" ++
  reject (peerRequired scanners text context && context.peerReviewFailed)
    "peer review failed or blocked"

/-- All that is taken off the score. -/
def penalties : Int :=
  20 * (missing scanners text).length +
  penalty ((words ((sections scanners text).text "Evidence")).length < 4) 20 +
  penalty ((sections scanners text).text "Validation result" = "" ||
    scanners.validationNotRun ((sections scanners text).text "Validation result")) 15 +
  penalty ((words ((sections scanners text).text "Recommended next bead")).length < 4) 15 +
  penalty ((sections scanners text).text "Confidence" = "") 10 +
  penalty ((sections scanners text).text "Risks or gaps" = "") 10 +
  penalty (evidenceQualityScore scanners text < 85) 20 +
  penalty (!context.unexpectedMutations.isEmpty && context.mutationStrategy != "reject") 20 +
  penalty (scanners.scopeNoncompliant (field scanners text ["Scope compliance"])) 10 +
  penalty (!quarantineRecommended scanners text context &&
    sabotageReviewRecommended scanners text context) 20 +
  penalty (!malpracticeRejectRecommended scanners text context &&
    malpracticeReviewRecommended scanners text context) 10

def score : Int := max 0 (min 100 (100 - penalties scanners text context))

def masterReviewPacketOnlyGoHold : Bool :=
  (context.executor == some CHATGPT_MASTER_REVIEW_EXECUTOR ||
    lower (strip (context.jobDescriptionLabel.getD "")) == CHATGPT_MASTER_REVIEW_JOB_LABEL) &&
    scanners.packetOnlyGoHold (sections scanners text) context.shareBoundary

/-- `procedural_hold_metadata` and the hold of a master review. -/
def hold : Hold :=
  let pending := peerRequired scanners text context &&
    ["not-run", "pending"].contains context.peerReviewStatus
  let conflict := !context.providerConflictDomains.isEmpty
  let procedural :=
    reject (pending = true) "peer-review-pending" ++
    reject (pending && conflict) "provider-conflict-peer-review-pending" ++
    reject (pending && (sabotageReviewRecommended scanners text context ||
      malpracticeReviewRecommended scanners text context)) "risk-review-pending"
  { implementationBlocked := !procedural.isEmpty || masterReviewPacketOnlyGoHold scanners text context
    holdReasons := procedural ++ reject (masterReviewPacketOnlyGoHold scanners text context)
      "reviewer packet-only GO claim for merge/readiness requires architect adjudication"
    holdClassification :=
      if conflict && pending then "provider-conflict-pending"
      else if pending then "peer-review-pending"
      else "none" }

/-- What puts a return into quarantine. -/
def quarantined : Bool :=
  quarantineRecommended scanners text context || context.workspaceQuarantine ||
    context.localV2Eligible == some false

def verdict : Verdict :=
  if quarantined scanners text context then .quarantine
  else if hardDisqualifiers scanners text context ≠ [] then .reject
  else if scanners.escalationNeeded text then .escalate
  else if 85 ≤ score scanners text context then .accept
  else if 70 ≤ score scanners text context then .clarify
  else if 50 ≤ score scanners text context then .partialAccept
  else .reject

def humanAdjudicationRequired : Bool :=
  hardDisqualifiers scanners text context ≠ [] || scanners.escalationNeeded text ||
    verdict scanners text context == .escalate || verdict scanners text context == .quarantine ||
    sabotageArchitectEscalationRecommended scanners text context ||
    (hold scanners text context).implementationBlocked || context.peerReviewFailed ||
    context.workspaceQuarantine || context.completionIncomplete

/-- The disposition before an incomplete local dispatch is looked at. -/
def firstDisposition : Disposition :=
  if verdict scanners text context = .quarantine then .quarantineAndAdjudicate
  else if (hold scanners text context).implementationBlocked ∧
      hardDisqualifiers scanners text context = [] then
    if masterReviewPacketOnlyGoHold scanners text context then .architectAdjudication
    else .runPeerReview
  else if hardDisqualifiers scanners text context ≠ [] then .reject
  else if humanAdjudicationRequired scanners text context then .architectAdjudication
  else match verdict scanners text context with
    | .accept => .acceptFindings
    | .clarify => .requestClarification
    | .partialAccept => .acceptBoundedFindings
    | _ => .reject

def recommendedDisposition : Disposition :=
  -- The source spells quarantine as no disposition is spelled.
  if context.completionIncomplete ∧ ¬ ["reject", "quarantine", "architect-adjudication"].contains
        (firstDisposition scanners text context).text then .requestClarification
  else firstDisposition scanners text context

def recommendSynthesisUse : SynthesisUse :=
  if boundaryTaintFindings scanners text context ≠ [] ∨
      verdict scanners text context = .quarantine then .quarantine
  else if hardDisqualifiers scanners text context ≠ [] ∨ verdict scanners text context = .reject ∨
      recommendedDisposition scanners text context = .reject then .reject
  else if context.completionIncomplete ∧
      [Verdict.accept, .clarify, .partialAccept].contains (verdict scanners text context) then
    .salvageOnly
  else match SynthesisUse.ofDefault (executorDefaultSynthesisUse registry context.executor) with
    | some use => use
    | none =>
      if providerFamily registry context.executor context.providerKey = some "google" ∧
          [Verdict.accept, .partialAccept].contains (verdict scanners text context) then
        .salvageOnly
      else if evidenceQualityScore scanners text < 40 then .reject
      else if evidenceQualityScore scanners text < 60 then .salvageOnly
      else if evidenceQualityScore scanners text < 85 then .salvageOnly
      else match verdict scanners text context with
        | .accept => .primary
        | .partialAccept => .salvageOnly
        | .clarify => .openRisk
        | _ => .reject

def makeAcceptanceDecision : AcceptanceDecision :=
  let hold := hold scanners text context
  let use := recommendSynthesisUse scanners registry text context
  { verdict := verdict scanners text context
    score := score scanners text context
    hardDisqualifiers := hardDisqualifiers scanners text context
    peerReviewRequired := peerRequired scanners text context
    implementationBlocked := hold.implementationBlocked
    holdReasons := hold.holdReasons
    holdClassification := hold.holdClassification
    humanAdjudicationRequired := humanAdjudicationRequired scanners text context
    recommendedDisposition := recommendedDisposition scanners text context
    recommendedSynthesisUse :=
      if hold.implementationBlocked && use == .primary then .openRisk else use
    quarantineRecommended := quarantined scanners text context
    escalationFlagged := scanners.escalationNeeded text }

end WorkOrchestration.Returns.Acceptance
