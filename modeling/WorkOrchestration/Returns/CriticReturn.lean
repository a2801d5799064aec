import WorkOrchestration.Lib.Checks
import WorkOrchestration.Native.Artifacts
import WorkOrchestration.Returns.Sections

/-!
# Returns of the local critic

The contract that the answer of a reviewing model is held to, and the return that is rendered from an
answer that meets it.
-/

namespace WorkOrchestration.Returns.CriticReturn

open Lib.Checks (forEach reject)
open Lib.Lines
open Lib.Text (isSpace)
open Native.Artifacts (Json)
open Sections

inductive Verdict where
  | approve
  | revise
  | reject

inductive Confidence where
  | high
  | medium
  | low

inductive Severity where
  | critical
  | high
  | medium
  | low

namespace Verdict

def text : Verdict → Chars
  | approve => "approve".toList
  | revise => "revise".toList
  | reject => "reject".toList

def ofJson? : Option Json → Option Verdict
  | some (.str text) =>
    if text = "approve" then some approve
    else if text = "revise" then some revise
    else if text = "reject" then some reject
    else none
  | _ => none

end Verdict

namespace Confidence

def text : Confidence → Chars
  | high => "high".toList
  | medium => "medium".toList
  | low => "low".toList

def ofJson? : Option Json → Option Confidence
  | some (.str text) =>
    if text = "high" then some high
    else if text = "medium" then some medium
    else if text = "low" then some low
    else none
  | _ => none

end Confidence

namespace Severity

def text : Severity → Chars
  | critical => "critical".toList
  | high => "high".toList
  | medium => "medium".toList
  | low => "low".toList

def ofJson? : Option Json → Option Severity
  | some (.str text) =>
    if text = "critical" then some critical
    else if text = "high" then some high
    else if text = "medium" then some medium
    else if text = "low" then some low
    else none
  | _ => none

end Severity

structure Finding where
  severity : Severity
  claim : Chars
  evidence : Chars
  repair : Chars

/-- An answer that meets the contract. -/
structure Review where
  verdict : Verdict
  summary : Chars
  findings : List Finding
  alternatives : List Chars
  risks : List Chars
  confidence : Confidence
  recommendedNextAction : Chars
  escalationNeeded : Chars

def textOf? : Option Json → Option Chars
  | some (.str text) => some text.toList
  | _ => none

def listOf? (value : Option Json) : Option (List Json) := value.bind Json.elements?

def Finding.ofJson? (finding : Json) : Option Finding := do
  let severity ← Severity.ofJson? (finding.get? "severity")
  let claim ← textOf? (finding.get? "claim")
  let evidence ← textOf? (finding.get? "evidence")
  let repair ← textOf? (finding.get? "repair")
  return ⟨severity, claim, evidence, repair⟩

def textsOf? (value : Option Json) : Option (List Chars) :=
  (listOf? value).bind fun items => items.mapM fun item => textOf? (some item)

variable (contract : String) (value : Json)

/-- The fields of an answer, as the renderer reads them. -/
def Review.ofJson? : Option Review := do
  let verdict ← Verdict.ofJson? (value.get? "verdict")
  let summary ← textOf? (value.get? "summary")
  let items ← listOf? (value.get? "findings")
  let findings ← items.mapM Finding.ofJson?
  let alternatives ← textsOf? (value.get? "alternatives")
  let risks ← textsOf? (value.get? "risks")
  let confidence ← Confidence.ofJson? (value.get? "confidence")
  let recommendedNextAction ← textOf? (value.get? "recommended_next_action")
  let escalationNeeded ← textOf? (value.get? "escalation_needed")
  return ⟨verdict, summary, findings, alternatives, risks, confidence, recommendedNextAction,
    escalationNeeded⟩

def glmCriticContractV1 : String := "cwo-glm-critic-v1"

def glmCriticContract : String := "cwo-glm-critic-v2"

def glmCriticFields : List String :=
  ["verdict", "summary", "findings", "alternatives", "risks", "confidence",
    "recommended_next_action", "escalation_needed"]

def glmCriticFindingFields : List String := ["severity", "claim", "evidence", "repair"]

def glmCriticMaxFindings : Nat := 3

def glmCriticMaxAlternatives : Nat := 2

def glmCriticMaxRisks : Nat := 2

def glmCriticMaxSummaryChars : Nat := 320

def glmCriticMaxFindingTextChars : Nat := 300

def glmCriticMaxListItemChars : Nat := 240

def glmCriticMaxActionChars : Nat := 320

def glmCriticMaxEscalationChars : Nat := 240

def glmCriticMaxFinalChars : Int := 6000

def nonemptyString : Option Json → Bool
  | some (.str text) => decide (Lib.Text.Nonempty text)
  | _ => false

def boundedNonemptyString (maximum : Nat) : Option Json → Bool
  | some (.str text) => decide (Lib.Text.Nonempty text) && decide (text.length ≤ maximum)
  | _ => false

def stringErrors : List String :=
  if contract = glmCriticContractV1 then
    [("summary", glmCriticMaxSummaryChars), ("recommended_next_action", glmCriticMaxActionChars),
      ("escalation_needed", glmCriticMaxEscalationChars)].flatMap fun (field, maximum) =>
        reject (boundedNonemptyString maximum (value.get? field) = false)
          s!"{field} must be a non-empty string no longer than {maximum} characters"
  else
    ["summary", "recommended_next_action", "escalation_needed"].flatMap fun field =>
      reject (nonemptyString (value.get? field) = false) s!"{field} must be a non-empty string"

def findingErrors (index : Nat) (finding : Json) : List String :=
  let mismatch := s!"finding {index} fields do not exactly match the contract"
  let first := contract = glmCriticContractV1
  if finding.isObject = false then [mismatch]
  else if finding.hasExactly glmCriticFindingFields = false ∧ first then [mismatch]
  else
    reject (finding.hasExactly glmCriticFindingFields = false) mismatch ++
      reject (Severity.ofJson? (finding.get? "severity") = none) s!"finding {index} severity is invalid" ++
      ["claim", "evidence", "repair"].flatMap fun field =>
        let item := finding.get? field
        let valid :=
          if first then boundedNonemptyString glmCriticMaxFindingTextChars item else nonemptyString item
        let qualifier := if first then "bounded " else ""
        reject (valid = false) s!"finding {index} {field} must be a {qualifier}non-empty string"

def findingsErrors : List String :=
  match listOf? (value.get? "findings") with
  | none => [s!"findings must contain one to {glmCriticMaxFindings} items"]
  | some findings =>
    if 1 ≤ findings.length ∧ findings.length ≤ glmCriticMaxFindings then
      forEach findings (findingErrors contract)
    else [s!"findings must contain one to {glmCriticMaxFindings} items"]

def listErrors (field : String) (maximum : Nat) : List String :=
  match listOf? (value.get? field) with
  | none => [s!"{field} must be a list of at most {maximum} items"]
  | some items =>
    if maximum < items.length then [s!"{field} must be a list of at most {maximum} items"]
    else if contract = glmCriticContractV1 then
      reject (items.all (fun item => boundedNonemptyString glmCriticMaxListItemChars (some item)) = false)
        s!"{field} items must be bounded non-empty strings"
    else
      reject (items.all (fun item => nonemptyString (some item)) = false)
        s!"{field} items must be non-empty strings"

/-- The rules on the decoded answer. -/
def contractErrors : List String :=
  reject (value.hasExactly glmCriticFields = false) s!"final object fields do not exactly match {contract}" ++
    reject (Verdict.ofJson? (value.get? "verdict") = none) "verdict must be approve, revise, or reject" ++
    reject (Confidence.ofJson? (value.get? "confidence") = none) "confidence must be high, medium, or low" ++
    stringErrors contract value ++ findingsErrors contract value ++
    listErrors contract value "alternatives" glmCriticMaxAlternatives ++
    listErrors contract value "risks" glmCriticMaxRisks

/-- How the text of an answer is analysed and decoded. -/
structure ContentReader where
  unsafeUnicode : Chars → Bool
  strictJsonLoads : Chars → Except String Json
  unsafeDecoded : Json → Bool

/-- The accepted answer, if it was accepted, and the errors. -/
def validateLocalResponseContract (reader : ContentReader) (content : Chars) (contract : Option String)
    (maxFinalChars : Option Int) : Option Json × List String :=
  let contract := contract.getD ""
  let maximum := maxFinalChars.getD glmCriticMaxFinalChars
  if contract = "" then (none, [])
  else if contract ≠ glmCriticContractV1 ∧ contract ≠ glmCriticContract then
    (none, [s!"unsupported local response contract: {contract}"])
  else if maximum ≤ 0 then (none, ["local response contract requires a positive max_final_chars"])
  else if maximum < content.length then (none, [s!"final content exceeds max_final_chars={maximum}"])
  else if reader.unsafeUnicode content then (none, ["final content contains dangerous Unicode controls"])
  else
    match reader.strictJsonLoads content with
    | .error decodeError => (none, [s!"final content is not one safe JSON object: {decodeError}"])
    | .ok value =>
      if reader.unsafeDecoded value then (none, ["final content contains dangerous Unicode controls"])
      else if value.isObject = false then (none, ["final content must be a JSON object"])
      else
        match contractErrors contract value with
        | [] => (some value, [])
        | errors => (none, errors)

/-- What the renderer takes from the character database. -/
structure UnicodeData where
  normalize : Chars → Chars
  isPrintable : Char → Bool

def renderModelText (data : UnicodeData) (value : Chars) : Chars :=
  let printable := (data.normalize value).map fun character =>
    if data.isPrintable character then character else ' '
  let words := (printable.splitOnP isSpace).filter (· ≠ [])
  (List.intercalate [' '] words).flatMap fun character =>
    if character = '#' then ['\\', '#'] else [character]

/-- The fields of the packet that the return repeats. -/
structure Envelope where
  model : Option Chars
  jobDescriptionLabel : Option Chars
  shareBoundary : Option Chars

structure ResponseMetadata where
  preflightStatus : Option Chars
  finalContentSha256 : Chars

/-- `value or default`. -/
def orElse (value : Option Chars) (default : Chars) : Chars :=
  match value with
  | some text => if text = [] then default else text
  | none => default

variable (data : UnicodeData) (review : Review) (envelope : Envelope) (metadata : ResponseMetadata)

def findingLine (finding : Finding) : Chars :=
  "- [".toList ++ finding.severity.text ++ "] ".toList ++ renderModelText data finding.claim ++
    " Evidence: ".toList ++ renderModelText data finding.evidence ++
    " Repair: ".toList ++ renderModelText data finding.repair

def bullet (item : Chars) : Chars := '-' :: ' ' :: renderModelText data item

def bullets (items : List Chars) : Chars :=
  orElse (some (joinLines (items.map (bullet data)))) "- none supplied".toList

def jobDescription : Chars :=
  orElse envelope.jobDescriptionLabel "contract-jd-architecture-reasoning".toList

def provenance : Chars :=
  "Exact requested model: ".toList ++ orElse envelope.model "unknown".toList ++ "; preflight: ".toList ++
    metadata.preflightStatus.getD "not-recorded".toList ++ "; final-content SHA-256: ".toList ++
    metadata.finalContentSha256 ++ ".".toList

def boundary : Chars :=
  orElse envelope.shareBoundary "no-outside-sharing".toList ++
    "; no tools, shell, web, or repo-write authority.".toList

/-- The headings of the return and the text under each. -/
def returnTexts : List (Chars × Chars) :=
  [("Status".toList, "completed".toList),
    ("Contractor job description".toList, renderModelText data (jobDescription envelope)),
    ("Summary".toList, review.verdict.text ++ ": ".toList ++ renderModelText data review.summary),
    ("Validation result".toList, "The compact GLM critic return contract passed.".toList),
    ("Evidence".toList, joinLines (review.findings.map (findingLine data))),
    ("Evidence provenance".toList, provenance envelope metadata),
    ("Attestation or reproducibility note".toList,
      "The shared dispatcher performed the configured exact-model preflight immediately before the POST; ".toList ++
        "the response model and stop finish reason remain mandatory.".toList),
    ("Share-boundary conformance".toList, boundary envelope),
    ("Peer-review disposition".toList,
      "pending independent evaluator review and architect adjudication".toList),
    ("Alternatives considered".toList, bullets data review.alternatives),
    ("Confidence".toList, review.confidence.text),
    ("Risks or gaps".toList, bullets data review.risks),
    ("Recommended next bead".toList, renderModelText data review.recommendedNextAction),
    ("Escalation needed".toList, renderModelText data review.escalationNeeded)]

/-- Each heading stands on the line above its text, with an empty line between two sections. -/
def renderLocalCriticReturn : Chars :=
  ((returnTexts data review envelope metadata).flatMap fun (name, text) =>
    [[], heading name, text]).tail.flatMap (· ++ ['\n'])

end WorkOrchestration.Returns.CriticReturn
