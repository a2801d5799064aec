import WorkOrchestration.Returns.Acceptance

/-!
# The outputs of an acceptance decision

The verdict is decided first. The rest follows it, except where an incomplete local dispatch overwrites
the disposition of a quarantine, and where a return stays primary although somebody has to adjudicate it.
-/

namespace WorkOrchestration.Returns.Acceptance

open List Lib.Checks Lib.Text

def Verdict.Accepting (verdict : Verdict) : Prop :=
  verdict = .accept ∨ verdict = .partialAccept

def Disposition.Accepting (disposition : Disposition) : Prop :=
  disposition = .acceptFindings ∨ disposition = .acceptBoundedFindings

/-- The outputs of a decision do not contradict each other. -/
structure AcceptanceDecision.Consistent (decision : AcceptanceDecision) : Prop where
  disposition : decision.recommendedDisposition = .quarantineAndAdjudicate ↔
    decision.verdict = .quarantine
  quarantine : decision.verdict = .quarantine → decision.recommendedSynthesisUse = .quarantine
  primary : decision.recommendedSynthesisUse = .primary →
    decision.verdict.Accepting ∧ decision.recommendedDisposition.Accepting ∧
      decision.hardDisqualifiers = [] ∧ decision.humanAdjudicationRequired = false ∧
      decision.implementationBlocked = false

section

variable (scanners : Scanners) (registry : Registry) (text : String) (context : Context)

/-- A local dispatch is incomplete, and something puts its return into quarantine. -/
def QuarantinedIncomplete : Prop :=
  (context.sabotageQuarantineThreshold.getD 50 ≤ sabotageScore scanners text context ∨
    (context.unexpectedMutations ≠ [] ∧ context.mutationStrategy = "reject") ∨
    context.localV2Eligible = some false) ∧
  context.completionIncomplete = true

/-- A peer review is due for another reason than the sabotage score. -/
def ReviewDue : Prop :=
  context.peerReviewRequired = true ∨ context.providerConflictDomains ≠ [] ∨
    context.malpracticeReviewThreshold.getD 25 ≤ malpracticeScore scanners text context

/-- Nothing in the return or around it speaks against taking it as primary. -/
structure Unopposed : Prop where
  sabotage : sabotageScore scanners text context < context.sabotageQuarantineThreshold.getD 50
  sabotageReview : sabotageScore scanners text context < context.sabotageReviewThreshold.getD 20
  malpractice : malpracticeScore scanners text context < context.malpracticeRejectThreshold.getD 60
  dispatch : context.localV2Eligible ≠ some false
  complete : context.completionIncomplete = false
  workspace : context.unexpectedMutations = []
  boundary : scanners.affirmativeField (field scanners text ["Boundary violation"]) = false
  patchEvidence : patchEvidenceMissing scanners text context = false
  directMutation : directMutationUnauthorized scanners text context = false
  change : changeUnapproved scanners text context = false
  authorization : authorizationContradicted scanners text = false
  taint : scanners.redactedBoundaryTaintFindings text (sections scanners text)
    context.shareBoundary = []
  job : jobDescriptionMatches scanners text context = true
  spill : scanners.affirmativeField (field scanners text
    ["Secret or personal-data spill", "Secret spill", "Personal-data spill"]) = false
  secret : scanners.secretAssignment text = false
  scope : scanners.scopeNoncompliant (field scanners text ["Scope compliance"]) = false
  review : ReviewDue scanners text context → context.peerReviewStatus ∉
    ["failed", "disagreement", "blocked", "not-run", "pending"] ∧
    scanners.peerReviewDismissed
      (field scanners text ["Peer-review disposition", "Peer review disposition"]) = false
  conflict : context.providerConflictDomains ≠ [] →
    scanners.providerConflictDispositionInadequate
      (field scanners text ["Provider conflict disposition"]) = false
  masterReview : masterReviewPacketOnlyGoHold scanners text context = false
  escalation : scanners.escalationNeeded text = false
  present : ∀ label ∈ requiredSections, (sections scanners text).text label ≠ ""
  evidence : 4 ≤ (words ((sections scanners text).text "Evidence")).length
  quality : 85 ≤ scanners.evidenceQualityScore (sections scanners text)
  /-- One of three lapses is forgiven. -/
  validationOrBead : scanners.validationNotRun
      ((sections scanners text).text "Validation result") = true →
    4 ≤ (words ((sections scanners text).text "Recommended next bead")).length
  validationOrReview : scanners.validationNotRun
      ((sections scanners text).text "Validation result") = true →
    malpracticeScore scanners text context < context.malpracticeReviewThreshold.getD 25
  beadOrReview : (words ((sections scanners text).text "Recommended next bead")).length < 4 →
    malpracticeScore scanners text context < context.malpracticeReviewThreshold.getD 25
  executorUse : SynthesisUse.ofDefault (executorDefaultSynthesisUse registry context.executor) = none
  family : providerFamily registry context.executor context.providerKey ≠ some "google"

/-- A return that is primary although its adjudication is due: its sabotage score calls for the
architect and a raised threshold for no peer review, or a peer review that nobody asked for has
failed. -/
def AdjudicatedPrimary : Prop :=
  Unopposed scanners registry text context ∧
    (35 ≤ sabotageScore scanners text context ∨ context.peerReviewFailed = true)

variable {scanners registry text context}

/-! ## The score -/

theorem penalty_nonneg (points : Int) (incurred : Bool) (positive : 0 ≤ points) :
    0 ≤ penalty incurred points := by
  unfold penalty
  split
  · exact positive
  · exact Int.le_refl 0

theorem penalty_small (points bound : Int) (incurred : Bool)
    (small : penalty incurred points ≤ bound) (large : bound < points) : incurred = false := by
  unfold penalty at small
  split at small
  · omega
  · rename_i forgiven
    exact Bool.eq_false_iff.mpr forgiven

theorem missing_eq_nil : missing scanners text = [] ↔
    ∀ label ∈ requiredSections, (sections scanners text).text label ≠ "" := by
  unfold missing
  rw [filter_eq_nil_iff]
  simp only [decide_eq_true_eq]

theorem score_accepts :
    85 ≤ score scanners text context ↔ penalties scanners text context ≤ 15 := by
  unfold score
  omega

/-- At most one lapse of 10 or 15 points leaves a return acceptable, and any larger one does not. -/
theorem penalties_accept : penalties scanners text context ≤ 15 ↔
    (∀ label ∈ requiredSections, (sections scanners text).text label ≠ "") ∧
    4 ≤ (words ((sections scanners text).text "Evidence")).length ∧
    85 ≤ evidenceQualityScore scanners text ∧
    (context.unexpectedMutations ≠ [] → context.mutationStrategy = "reject") ∧
    (quarantineRecommended scanners text context = false →
      sabotageReviewRecommended scanners text context = false) ∧
    penalty (scanners.validationNotRun ((sections scanners text).text "Validation result")) 15 +
      penalty ((words ((sections scanners text).text "Recommended next bead")).length < 4) 15 +
      penalty (scanners.scopeNoncompliant (field scanners text ["Scope compliance"])) 10 +
      penalty (!malpracticeRejectRecommended scanners text context &&
        malpracticeReviewRecommended scanners text context) 10 ≤ 15 := by
  rw [← missing_eq_nil]
  unfold penalties
  have evidence := penalty_nonneg 20
    (decide ((words ((sections scanners text).text "Evidence")).length < 4)) (by decide)
  have validation := penalty_nonneg 15
    (decide ((sections scanners text).text "Validation result" = "") ||
      scanners.validationNotRun ((sections scanners text).text "Validation result")) (by decide)
  have bead := penalty_nonneg 15
    (decide ((words ((sections scanners text).text "Recommended next bead")).length < 4)) (by decide)
  have confidence := penalty_nonneg 10
    (decide ((sections scanners text).text "Confidence" = "")) (by decide)
  have risks := penalty_nonneg 10
    (decide ((sections scanners text).text "Risks or gaps" = "")) (by decide)
  have quality := penalty_nonneg 20
    (decide (evidenceQualityScore scanners text < 85)) (by decide)
  have mutation := penalty_nonneg 20
    (!context.unexpectedMutations.isEmpty && context.mutationStrategy != "reject") (by decide)
  have scope := penalty_nonneg 10
    (scanners.scopeNoncompliant (field scanners text ["Scope compliance"])) (by decide)
  have sabotage := penalty_nonneg 20 (!quarantineRecommended scanners text context &&
    sabotageReviewRecommended scanners text context) (by decide)
  have malpractice := penalty_nonneg 10
    (!malpracticeRejectRecommended scanners text context &&
      malpracticeReviewRecommended scanners text context) (by decide)
  constructor
  · intro small
    have none' : missing scanners text = [] := by
      apply eq_nil_of_length_eq_zero
      omega
    have present := missing_eq_nil.mp none'
    have validated : (sections scanners text).text "Validation result" ≠ "" :=
      present _ (by decide)
    simp only [validated, decide_false, Bool.false_or] at small validation
    have thick := penalty_small 20 15
      (decide ((words ((sections scanners text).text "Evidence")).length < 4)) (by omega) (by decide)
    have good := penalty_small 20 15 (decide (evidenceQualityScore scanners text < 85)) (by omega)
    have kept := penalty_small 20 15
      (!context.unexpectedMutations.isEmpty && context.mutationStrategy != "reject") (by omega)
    have trusted := penalty_small 20 15
      (!quarantineRecommended scanners text context &&
        sabotageReviewRecommended scanners text context) (by omega) (by decide)
    refine ⟨none', ?_, ?_, ?_, ?_, by omega⟩
    · simpa using thick
    · simpa using good
    · simpa using kept
    · simpa using trusted
  · rintro ⟨none', thick, good, kept, trusted, rest⟩
    have present := missing_eq_nil.mp none'
    have validated : (sections scanners text).text "Validation result" ≠ "" :=
      present _ (by decide)
    have confident : (sections scanners text).text "Confidence" ≠ "" := present _ (by decide)
    have risky : (sections scanners text).text "Risks or gaps" ≠ "" := present _ (by decide)
    have mutated : (!context.unexpectedMutations.isEmpty && context.mutationStrategy != "reject") =
        false := by simpa using kept
    have suspected : (!quarantineRecommended scanners text context &&
        sabotageReviewRecommended scanners text context) = false := by
      simpa using trusted
    rw [mutated, suspected, none']
    simp only [validated, confident, risky, decide_false, Bool.false_or, Nat.not_lt.mpr thick,
      Int.not_lt.mpr good, length_nil]
    simp only [penalty, Bool.false_eq_true, if_false] at rest ⊢
    omega

/-! ## Verdict and disposition -/

theorem quarantined_iff : quarantined scanners text context = true ↔
    context.sabotageQuarantineThreshold.getD 50 ≤ sabotageScore scanners text context ∨
      (context.unexpectedMutations ≠ [] ∧ context.mutationStrategy = "reject") ∨
      context.localV2Eligible = some false := by
  unfold quarantined quarantineRecommended Context.workspaceQuarantine
  simp only [Bool.or_eq_true, Bool.and_eq_true, decide_eq_true_eq, beq_iff_eq, Bool.not_eq_true',
    isEmpty_eq_false_iff, or_assoc]

theorem verdict_quarantine : verdict scanners text context = .quarantine ↔
    quarantined scanners text context = true := by
  unfold verdict
  split
  · simp_all
  · rename_i free
    constructor
    · intro quarantine
      repeat' split at quarantine
      all_goals cases quarantine
    · intro held
      exact absurd held free

theorem verdict_accept : verdict scanners text context = .accept ↔
    quarantined scanners text context = false ∧ hardDisqualifiers scanners text context = [] ∧
      scanners.escalationNeeded text = false ∧ penalties scanners text context ≤ 15 := by
  rw [← score_accepts]
  unfold verdict
  by_cases held : quarantined scanners text context = true
  · simp [held]
  by_cases hard : hardDisqualifiers scanners text context = []
  · by_cases escalated : scanners.escalationNeeded text = true
    · simp [held, hard, escalated]
    · by_cases accepted : 85 ≤ score scanners text context
      · simp [held, hard, escalated, accepted]
      · simp only [held, hard, escalated, accepted, ne_eq, not_true_eq_false, if_false,
          Bool.false_eq_true]
        split
        · simp
        · split <;> simp
  · simp [held, hard]

theorem recommendedDisposition_quarantine :
    recommendedDisposition scanners text context = .quarantineAndAdjudicate ↔
      verdict scanners text context = .quarantine ∧ context.completionIncomplete = false := by
  by_cases held : verdict scanners text context = .quarantine
  · have first : firstDisposition scanners text context = .quarantineAndAdjudicate := by
      unfold firstDisposition
      rw [if_pos held]
    unfold recommendedDisposition
    rw [first]
    cases context.completionIncomplete with
    | true => simp [held, Disposition.text]
    | false => simp [held]
  · have first : firstDisposition scanners text context ≠ .quarantineAndAdjudicate := by
      unfold firstDisposition
      rw [if_neg held]
      repeat' split
      all_goals simp
    unfold recommendedDisposition
    constructor
    · intro disposition
      split at disposition
      · cases disposition
      · exact absurd disposition first
    · intro both
      exact absurd both.1 held

theorem recommendedDisposition_accept (accepted : verdict scanners text context = .accept)
    (hard : hardDisqualifiers scanners text context = [])
    (free : (hold scanners text context).implementationBlocked = false)
    (complete : context.completionIncomplete = false) :
    recommendedDisposition scanners text context =
      if humanAdjudicationRequired scanners text context then .architectAdjudication
      else .acceptFindings := by
  unfold recommendedDisposition firstDisposition
  rw [accepted, hard, free, complete]
  simp

/-! ## Primary use -/

theorem ofDefault_ne_primary (default' : Option String) :
    SynthesisUse.ofDefault default' ≠ some .primary := by
  unfold SynthesisUse.ofDefault
  split <;> simp

theorem recommendSynthesisUse_quarantine (held : verdict scanners text context = .quarantine) :
    recommendSynthesisUse scanners registry text context = .quarantine := by
  unfold recommendSynthesisUse
  rw [if_pos (.inr held)]

theorem recommendSynthesisUse_primary :
    recommendSynthesisUse scanners registry text context = .primary ↔
      verdict scanners text context = .accept ∧ boundaryTaintFindings scanners text context = [] ∧
      hardDisqualifiers scanners text context = [] ∧
      recommendedDisposition scanners text context ≠ .reject ∧
      context.completionIncomplete = false ∧
      SynthesisUse.ofDefault (executorDefaultSynthesisUse registry context.executor) = none ∧
      providerFamily registry context.executor context.providerKey ≠ some "google" ∧
      85 ≤ evidenceQualityScore scanners text := by
  constructor
  · intro primary
    unfold recommendSynthesisUse at primary
    split at primary
    · cases primary
    rename_i clear
    split at primary
    · cases primary
    rename_i sound
    split at primary
    · cases primary
    rename_i whole
    split at primary
    · rename_i use default'
      rw [primary] at default'
      exact absurd default' (ofDefault_ne_primary _)
    rename_i default'
    split at primary
    · cases primary
    rename_i elsewhere
    split at primary
    · cases primary
    split at primary
    · cases primary
    split at primary
    · cases primary
    split at primary
    · rename_i accepted
      rw [accepted] at whole elsewhere
      simp only [not_or, not_not] at clear sound
      refine ⟨accepted, clear.1, sound.1, sound.2.2, ?_, default', ?_, by omega⟩
      · simpa using whole
      · simpa using elsewhere
    · cases primary
    · cases primary
    · cases primary
  · rintro ⟨accepted, clear, sound, disposition, complete, default', family, quality⟩
    unfold recommendSynthesisUse
    rw [accepted, clear, sound, complete, default']
    have thin : ¬ evidenceQualityScore scanners text < 40 := by omega
    have weak : ¬ evidenceQualityScore scanners text < 60 := by omega
    have poor : ¬ evidenceQualityScore scanners text < 85 := by omega
    simp [disposition, family, thin, weak, poor]

theorem hold_free : (hold scanners text context).implementationBlocked = false ↔
    (peerRequired scanners text context = true →
      context.peerReviewStatus ∉ ["not-run", "pending"]) ∧
    masterReviewPacketOnlyGoHold scanners text context = false := by
  unfold hold
  simp only [Bool.or_eq_false_iff, Bool.not_eq_false', List.isEmpty_iff, List.append_eq_nil_iff,
    reject_eq_nil, Bool.and_eq_true, List.contains_iff_mem]
  constructor
  · rintro ⟨⟨⟨pending, _⟩, _⟩, free⟩
    exact ⟨fun required waits => pending ⟨required, waits⟩, free⟩
  · rintro ⟨pending, free⟩
    refine ⟨⟨⟨fun both => pending both.1 both.2, fun both => pending both.1.1 both.1.2⟩,
      fun both => pending both.1.1 both.1.2⟩, free⟩

theorem peerRequired_iff (trusted : sabotageReviewRecommended scanners text context = false) :
    peerRequired scanners text context = true ↔ ReviewDue scanners text context := by
  unfold peerRequired ReviewDue malpracticeReviewRecommended
  rw [trusted]
  simp only [Bool.or_false, Bool.or_eq_true, decide_eq_true_eq, Bool.not_eq_true',
    isEmpty_eq_false_iff]
  constructor
  · rintro ((required | suspected) | conflict)
    · exact .inl required
    · exact .inr (.inr suspected)
    · exact .inr (.inl conflict)
  · rintro (required | conflict | suspected)
    · exact .inl (.inl required)
    · exact .inr conflict
    · exact .inl (.inr suspected)

theorem hardDisqualifiers_eq_nil : hardDisqualifiers scanners text context = [] ↔
    context.localV2Eligible ≠ some false ∧
    scanners.affirmativeField (field scanners text ["Boundary violation"]) = false ∧
    patchEvidenceMissing scanners text context = false ∧
    directMutationUnauthorized scanners text context = false ∧
    changeUnapproved scanners text context = false ∧
    authorizationContradicted scanners text = false ∧
    boundaryTaintFindings scanners text context = [] ∧
    context.workspaceQuarantine = false ∧
    jobDescriptionMatches scanners text context = true ∧
    scanners.affirmativeField (field scanners text
      ["Secret or personal-data spill", "Secret spill", "Personal-data spill"]) = false ∧
    scanners.secretAssignment text = false ∧
    scanners.scopeNoncompliant (field scanners text ["Scope compliance"]) = false ∧
    quarantineRecommended scanners text context = false ∧
    malpracticeRejectRecommended scanners text context = false ∧
    (peerRequired scanners text context = true → scanners.peerReviewDismissed
      (field scanners text ["Peer-review disposition", "Peer review disposition"]) = false) ∧
    (context.providerConflictDomains ≠ [] → scanners.providerConflictDispositionInadequate
      (field scanners text ["Provider conflict disposition"]) = false) ∧
    (peerRequired scanners text context = true → context.peerReviewFailed = false) := by
  unfold hardDisqualifiers
  simp only [List.append_eq_nil_iff, reject_eq_nil, Bool.not_eq_true, Bool.not_eq_false,
    Bool.and_eq_true, Bool.not_eq_true', isEmpty_eq_false_iff, not_and, and_assoc, ne_eq]

/-- A return is primary exactly where nothing speaks against it. -/
theorem primary_iff : recommendSynthesisUse scanners registry text context = .primary ∧
      (hold scanners text context).implementationBlocked = false ↔
    Unopposed scanners registry text context := by
  rw [recommendSynthesisUse_primary, verdict_accept, penalties_accept, hold_free,
    hardDisqualifiers_eq_nil]
  constructor
  · rintro ⟨⟨⟨free, ⟨dispatch, boundary, patchEvidence, directMutation, change, authorization, taint,
      workspace, job, spill, secret, scope, sabotage, malpractice, dismissed, conflict, failed⟩,
      escalation, present, evidence, quality, mutated, suspected, lapses⟩, _, _, _, complete,
      executorUse, family, _⟩, waits, masterReview⟩
    have review := suspected sabotage
    have due := peerRequired_iff review
    rw [malpractice, scope] at lapses
    unfold Context.workspaceQuarantine at workspace
    unfold quarantineRecommended at sabotage
    unfold sabotageReviewRecommended at review
    unfold malpracticeRejectRecommended at malpractice
    unfold malpracticeReviewRecommended at lapses
    constructor
    case sabotage => simpa using sabotage
    case sabotageReview => simpa using review
    case malpractice => simpa using malpractice
    case dispatch => exact dispatch
    case complete => exact complete
    case workspace =>
      by_contra changed
      rw [mutated changed] at workspace
      simp [changed] at workspace
    case boundary => exact boundary
    case patchEvidence => exact patchEvidence
    case directMutation => exact directMutation
    case change => exact change
    case authorization => exact authorization
    case taint => exact taint
    case job => exact job
    case spill => exact spill
    case secret => exact secret
    case scope => exact scope
    case review =>
      intro required
      have ended := failed (due.mpr required)
      have waiting := waits (due.mpr required)
      refine ⟨?_, dismissed (due.mpr required)⟩
      unfold Context.peerReviewFailed at ended
      simp only [contains_eq_mem, mem_cons, not_mem_nil, or_false,
        decide_eq_false_iff_not, not_or] at ended waiting ⊢
      exact ⟨ended.1, ended.2.1, ended.2.2, waiting.1, waiting.2⟩
    case conflict => exact conflict
    case masterReview => exact masterReview
    case escalation => exact escalation
    case present => exact present
    case evidence => exact evidence
    case quality => exact quality
    case executorUse => exact executorUse
    case family => exact family
    all_goals
      intro lapsed
      by_contra also
    case validationOrBead =>
      rw [lapsed] at lapses
      simp [penalty, Nat.not_le.mp also] at lapses
      split at lapses <;> omega
    case validationOrReview =>
      rw [lapsed] at lapses
      simp [penalty, Int.not_lt.mp also] at lapses
      split at lapses <;> omega
    case beadOrReview =>
      simp [penalty, lapsed, Int.not_lt.mp also] at lapses
      split at lapses <;> omega
  · intro unopposed
    have sabotage : quarantineRecommended scanners text context = false := by
      simpa [quarantineRecommended] using unopposed.sabotage
    have review : sabotageReviewRecommended scanners text context = false := by
      simpa [sabotageReviewRecommended] using unopposed.sabotageReview
    have malpractice : malpracticeRejectRecommended scanners text context = false := by
      simpa [malpracticeRejectRecommended] using unopposed.malpractice
    have workspace : context.workspaceQuarantine = false := by
      simp [Context.workspaceQuarantine, unopposed.workspace]
    have due : peerRequired scanners text context = true ↔ ReviewDue scanners text context :=
      peerRequired_iff review
    have reviewed : peerRequired scanners text context = true →
        context.peerReviewFailed = false ∧ context.peerReviewStatus ∉ ["not-run", "pending"] := by
      intro required
      have ended := (unopposed.review (due.mp required)).1
      unfold Context.peerReviewFailed
      simp only [contains_eq_mem, mem_cons, not_mem_nil, or_false,
        decide_eq_false_iff_not, not_or] at ended ⊢
      exact ⟨⟨ended.1, ended.2.1, ended.2.2.1⟩, ended.2.2.2⟩
    have waits : peerRequired scanners text context = true →
        context.peerReviewStatus ∉ ["not-run", "pending"] := fun required => (reviewed required).2
    have hard : hardDisqualifiers scanners text context = [] := by
      rw [hardDisqualifiers_eq_nil]
      exact ⟨unopposed.dispatch, unopposed.boundary, unopposed.patchEvidence,
        unopposed.directMutation, unopposed.change, unopposed.authorization, unopposed.taint,
        workspace, unopposed.job, unopposed.spill, unopposed.secret, unopposed.scope, sabotage,
        malpractice, fun required => (unopposed.review (due.mp required)).2, unopposed.conflict,
        fun required => (reviewed required).1⟩
    have free : quarantined scanners text context = false := by
      simp [quarantined, sabotage, workspace, unopposed.dispatch]
    have lapses : penalty (scanners.validationNotRun
          ((sections scanners text).text "Validation result")) 15 +
        penalty ((words ((sections scanners text).text "Recommended next bead")).length < 4) 15 +
        penalty (scanners.scopeNoncompliant (field scanners text ["Scope compliance"])) 10 +
        penalty (!malpracticeRejectRecommended scanners text context &&
          malpracticeReviewRecommended scanners text context) 10 ≤ 15 := by
      rw [unopposed.scope]
      unfold malpracticeReviewRecommended
      have one := unopposed.validationOrBead
      have two := unopposed.validationOrReview
      have three := unopposed.beadOrReview
      cases validated : scanners.validationNotRun
          ((sections scanners text).text "Validation result") with
      | true =>
        have bead := one validated
        have calm := two validated
        simp [penalty, Nat.not_lt.mpr bead, Int.not_le.mpr calm]
      | false =>
        by_cases bead : (words ((sections scanners text).text "Recommended next bead")).length < 4
        · have calm := three bead
          simp [penalty, bead, Int.not_le.mpr calm]
        · simp only [penalty, bead, decide_false, Bool.false_eq_true, if_false]
          split <;> decide
    have accepted : verdict scanners text context = .accept := by
      rw [verdict_accept, penalties_accept]
      exact ⟨free, hard, unopposed.escalation, unopposed.present, unopposed.evidence,
        unopposed.quality, fun changed => absurd unopposed.workspace changed, fun _ => review, lapses⟩
    have unheld := hold_free.mpr ⟨waits, unopposed.masterReview⟩
    have disposition := recommendedDisposition_accept accepted hard unheld unopposed.complete
    rw [hardDisqualifiers_eq_nil] at hard
    rw [verdict_accept, penalties_accept, hardDisqualifiers_eq_nil] at accepted
    refine ⟨⟨accepted, unopposed.taint, hard, ?_, unopposed.complete, unopposed.executorUse,
      unopposed.family, unopposed.quality⟩, waits, unopposed.masterReview⟩
    rw [disposition]
    split <;> simp

theorem humanAdjudicationRequired_accept (accepted : verdict scanners text context = .accept)
    (free : (hold scanners text context).implementationBlocked = false)
    (complete : context.completionIncomplete = false) :
    humanAdjudicationRequired scanners text context = true ↔
      35 ≤ sabotageScore scanners text context ∨ context.peerReviewFailed = true := by
  obtain ⟨loose, hard, calm, _⟩ := verdict_accept.mp accepted
  have workspace : context.workspaceQuarantine = false := by
    unfold quarantined at loose
    simp only [Bool.or_eq_false_iff] at loose
    exact loose.1.2
  unfold humanAdjudicationRequired sabotageArchitectEscalationRecommended
  rw [hard, calm, accepted, free, complete, workspace]
  simp

section

variable (scanners : Scanners) (registry : Registry) (text : String) (context : Context)

@[simp] theorem makeAcceptanceDecision_verdict :
    (makeAcceptanceDecision scanners registry text context).verdict =
      verdict scanners text context := by
  simp only [makeAcceptanceDecision]

@[simp] theorem makeAcceptanceDecision_recommendedDisposition :
    (makeAcceptanceDecision scanners registry text context).recommendedDisposition =
      recommendedDisposition scanners text context := by
  simp only [makeAcceptanceDecision]

@[simp] theorem makeAcceptanceDecision_hardDisqualifiers :
    (makeAcceptanceDecision scanners registry text context).hardDisqualifiers =
      hardDisqualifiers scanners text context := by
  simp only [makeAcceptanceDecision]

@[simp] theorem makeAcceptanceDecision_humanAdjudicationRequired :
    (makeAcceptanceDecision scanners registry text context).humanAdjudicationRequired =
      humanAdjudicationRequired scanners text context := by
  simp only [makeAcceptanceDecision]

@[simp] theorem makeAcceptanceDecision_implementationBlocked :
    (makeAcceptanceDecision scanners registry text context).implementationBlocked =
      (hold scanners text context).implementationBlocked := by
  simp only [makeAcceptanceDecision]

theorem makeAcceptanceDecision_recommendedSynthesisUse :
    (makeAcceptanceDecision scanners registry text context).recommendedSynthesisUse =
      if (hold scanners text context).implementationBlocked &&
          recommendSynthesisUse scanners registry text context == .primary then .openRisk
      else recommendSynthesisUse scanners registry text context := by
  simp only [makeAcceptanceDecision]

end

/-- The outputs agree unless an incomplete dispatch is quarantined or a primary return is due for
adjudication. -/
theorem acceptance_consistent_iff (scanners : Scanners) (registry : Registry) (text : String)
    (context : Context) :
    (makeAcceptanceDecision scanners registry text context).Consistent ↔
      ¬ QuarantinedIncomplete scanners text context ∧
        ¬ AdjudicatedPrimary scanners registry text context := by
  unfold QuarantinedIncomplete AdjudicatedPrimary
  rw [← quarantined_iff, ← verdict_quarantine, ← primary_iff]
  constructor
  · intro consistent
    obtain ⟨disposition, _, used⟩ := consistent
    rw [makeAcceptanceDecision_recommendedDisposition, makeAcceptanceDecision_verdict,
      recommendedDisposition_quarantine] at disposition
    rw [makeAcceptanceDecision_recommendedSynthesisUse,
      makeAcceptanceDecision_humanAdjudicationRequired] at used
    constructor
    · rintro ⟨held, incomplete⟩
      have complete := (disposition.mpr held).2
      rw [incomplete] at complete
      cases complete
    · rintro ⟨⟨primary, free⟩, due⟩
      rw [primary, free] at used
      obtain ⟨_, _, _, alone, _⟩ := used rfl
      obtain ⟨accepted, _, _, _, complete, _⟩ := recommendSynthesisUse_primary.mp primary
      rw [(humanAdjudicationRequired_accept accepted free complete).mpr due] at alone
      cases alone
  · rintro ⟨whole, unadjudicated⟩
    constructor
    case disposition =>
      rw [makeAcceptanceDecision_recommendedDisposition, makeAcceptanceDecision_verdict,
        recommendedDisposition_quarantine]
      constructor
      · exact And.left
      · intro held
        refine ⟨held, ?_⟩
        by_contra incomplete
        exact whole ⟨held, by simpa using incomplete⟩
    case quarantine =>
      intro held
      rw [makeAcceptanceDecision_recommendedSynthesisUse, recommendSynthesisUse_quarantine held]
      simp
    case primary =>
      intro used
      rw [makeAcceptanceDecision_recommendedSynthesisUse] at used
      have primary : recommendSynthesisUse scanners registry text context = .primary ∧
          (hold scanners text context).implementationBlocked = false := by
        split at used
        · cases used
        · rename_i free
          rw [used] at free
          exact ⟨used, by simpa using free⟩
      obtain ⟨accepted, _, hard, _, complete, _⟩ := recommendSynthesisUse_primary.mp primary.1
      have alone : humanAdjudicationRequired scanners text context = false := by
        rw [Bool.eq_false_iff]
        intro due
        exact unadjudicated
          ⟨primary, (humanAdjudicationRequired_accept accepted primary.2 complete).mp due⟩
      have disposition := recommendedDisposition_accept accepted hard primary.2 complete
      rw [alone] at disposition
      rw [makeAcceptanceDecision_verdict, makeAcceptanceDecision_recommendedDisposition,
        makeAcceptanceDecision_hardDisqualifiers, makeAcceptanceDecision_humanAdjudicationRequired,
        makeAcceptanceDecision_implementationBlocked]
      exact ⟨.inl accepted, .inl disposition, hard, alone, primary.2⟩

end

def emptyScanners : Scanners where
  parseReturnSections _ := []
  value _ _ := ""
  affirmativeField _ := false
  negativeField _ := false
  classifyPatchAuthorization _ := .absent
  patchProposalEvidence _ := false
  redactedBoundaryTaintFindings _ _ _ := []
  packetOnlyGoHold _ _ := false
  evidenceQualityScore _ := 80
  sabotageScore _ _ _ := 0
  malpracticeScore _ _ _ := 100
  secretAssignment _ := false
  validationNotRun _ := false
  jobLabels _ := []
  scopeNoncompliant _ := false
  peerReviewDismissed _ := false
  providerConflictDispositionInadequate _ := false
  escalationNeeded _ := false

def sampleRegistry : Registry where
  executorConfig executor :=
    if executor = GLM_COMPACT_CRITIC_EXECUTOR then some ⟨some "openshift_ai_vllm", none⟩ else none
  providerFamily provider :=
    if provider = "openshift_ai_vllm" then some "local-openai-compatible" else none

/-- A local critic's dispatch that ended without a usable answer. -/
def brokenDispatch : Context where
  shareBoundary := none
  jobDescriptionLabel := none
  executor := some GLM_COMPACT_CRITIC_EXECUTOR
  providerKey := none
  peerReviewRequired := false
  peerReviewStatus := "not-run"
  providerConflictDomains := []
  sabotageReviewThreshold := none
  sabotageQuarantineThreshold := none
  malpracticeReviewThreshold := none
  malpracticeRejectThreshold := none
  unexpectedMutations := []
  mutationStrategy := "reject"
  localResponseTruncated := false
  localFinishReasons := []
  localReasoningMalformed := false
  localCompletionStatus := none
  localUsableFinalContent := some false
  localExpectedResponseContract := none
  localResponseContract := none
  localResponseContractStatus := none
  localNormalizedReturnMatches := none
  localV2FrameValid := none
  localV2IdentityConsistent := none
  localResponseModelStatus := none
  localModelPreflightStatus := none
  localHttpStatus := none

/-- A quarantined return whose recommended disposition is to ask for clarification. -/
theorem quarantine_asks_for_clarification :
    (makeAcceptanceDecision emptyScanners sampleRegistry "" brokenDispatch).verdict = .quarantine ∧
      ¬ (makeAcceptanceDecision emptyScanners sampleRegistry "" brokenDispatch).Consistent := by
  have held : verdict emptyScanners "" brokenDispatch = .quarantine := by
    rw [verdict_quarantine, quarantined_iff]
    exact .inr (.inr (by decide))
  refine ⟨held, ?_⟩
  intro consistent
  have disposition := consistent.disposition.mpr held
  rw [makeAcceptanceDecision_recommendedDisposition, recommendedDisposition_quarantine] at disposition
  have complete := disposition.2
  revert complete
  decide

end WorkOrchestration.Returns.Acceptance
