import WorkOrchestration.Native.Documents

/-!
# Current authority

The claim by which a controller asks for a route, read field by field before anything is decided.
-/

namespace WorkOrchestration.Routing.CurrentAuthority

open Lib.Text (strip)
open Native.Artifacts
open Native.Artifacts.Json (isOneOf)

def terraModel : String := "gpt-5.6-terra"

def lunaModel : String := "gpt-5.6-luna"

def taskSelectedPortfolio : List String := [lunaModel, terraModel]

def require (condition : Bool) (message : String) : Except PyError Unit :=
  if condition then .ok () else .error (valueError message)

/-- `_string(value)`. -/
def stripped : Json → Json
  | .str text => .str (strip text)
  | .sha256 preimage => .sha256 preimage
  | _ => .str ""

/-- `bool(_string(value))`. -/
def nonblank (value : Json) : Bool := decide (stripped value ≠ .str "")

def stringList (value : Json) : List Json := ((value.elements?.getD []).filter nonblank).map stripped

def isHexDigit (character : Char) : Bool := character.isDigit || ('a' ≤ character && character ≤ 'f')

/-- What `_sha256` takes. -/
def isSha256 : Json → Bool
  | .str text => (strip text).length = 64 && (strip text).toList.all isHexDigit
  | .sha256 _ => true
  | _ => false

def requireSha256 (label : String) (value : Json) : Except PyError Unit :=
  require (isSha256 value) (label ++ " must be a lowercase SHA-256 hex digest")

/-- `type(value) is int and value >= minimum`. -/
def isIntFrom (minimum : Int) : Json → Bool
  | .int number => decide (minimum ≤ number)
  | _ => false

/-- The number that a field holds. -/
def numberOf : Json → Int
  | .int number => number
  | _ => 0

/-- A text that is not empty and has no white space around it. -/
def tidyText : Json → Bool
  | .str text => text ≠ "" && text = strip text
  | .sha256 _ => true
  | _ => false

/-- What reading a timestamp comes to, in microseconds. -/
inductive TimeReading where
  | unreadable
  | naive
  | outOfRange
  | moment (microseconds : Int)

/-- How `fromisoformat` and `astimezone` read a text. -/
structure Clock where
  read : String → TimeReading

/-- What `astimezone` raises near the ends of the calendar. -/
def overflowError : PyError := ⟨.other, "OverflowError", "date value out of range"⟩

variable (budget : Json) (clock : Clock)

def parseTime (label : String) (value : Json) : Except PyError Int :=
  match stripped value with
  | .str text =>
    if text = "" then .error (valueError (label ++ " must be a non-empty timestamp"))
    else
      match clock.read text with
      | .unreadable => .error (valueError (label ++ " must be an ISO-8601 timestamp"))
      | .naive => .error (valueError (label ++ " must include a timezone"))
      | .outOfRange => .error overflowError
      | .moment time => .ok time
  | _ => .error (valueError (label ++ " must be an ISO-8601 timestamp"))

def currentAuthorityBudgetFields : List String :=
  ["tool_calls_hard", "runtime_seconds_hard", "allocation_before", "allocation_ceiling",
    "terminal_reserve", "budget_reset_allowed"]

def maintenanceBudgetFields : List String :=
  ["mode", "mission_id", "mission_sha256", "operation_id", "cumulative_before", "reservation",
    "budget_reset_allowed"]

def maintenanceReservationFields : List String :=
  ["mode", "sessions", "tool_calls", "runtime_seconds", "cleanup_seconds", "max_concurrency"]

/-- `value.get("mode") == "maintenance-unbounded"`. -/
def isMaintenance : Bool := decide (budget.value "mode" = .str "maintenance-unbounded")

def requireUnreset : Except PyError Unit :=
  require (decide (budget.value "budget_reset_allowed" = .bool false))
    "aggregate budget budget_reset_allowed must be false"

def requireReservation (reservation : Json) : Except PyError Unit := do
  require (reservation.hasExactly maintenanceReservationFields) "maintenance reservation fields are invalid"
  require (decide (reservation.value "mode" = .str "finite-operation"))
    "maintenance reservation mode is invalid"
  ["sessions", "tool_calls", "runtime_seconds", "cleanup_seconds", "max_concurrency"].forM fun field =>
    require (isIntFrom 1 (reservation.value field)) ("maintenance reservation " ++ field ++ " is invalid")
  require (decide (numberOf (reservation.value "max_concurrency") ≤ 3 ∧
      numberOf (reservation.value "max_concurrency") ≤ numberOf (reservation.value "sessions")))
    "maintenance reservation concurrency is invalid"

def requireMaintenanceBudget : Except PyError Unit := do
  require (budget.hasExactly maintenanceBudgetFields) "maintenance aggregate budget fields are invalid"
  ["mission_id", "operation_id"].forM fun field =>
    require (tidyText (budget.value field)) ("maintenance aggregate budget " ++ field ++ " is invalid")
  requireSha256 "maintenance aggregate budget mission_sha256" (budget.value "mission_sha256")
  require (decide (stripped (budget.value "mission_sha256") = budget.value "mission_sha256"))
    "maintenance aggregate budget mission_sha256 is invalid"
  require (isIntFrom 0 (budget.value "cumulative_before"))
    "maintenance aggregate budget cumulative_before is invalid"
  requireReservation (budget.value "reservation")
  requireUnreset budget

def requireFiniteBudget : Except PyError Unit := do
  require (budget.hasExactly currentAuthorityBudgetFields) "aggregate budget fields are invalid"
  require (["tool_calls_hard", "runtime_seconds_hard", "allocation_ceiling"].all fun field =>
    isIntFrom 1 (budget.value field)) "aggregate budget is invalid"
  require (["allocation_before", "terminal_reserve"].all fun field => isIntFrom 0 (budget.value field))
    "aggregate budget is invalid"
  requireUnreset budget

/-- The budget itself, once it is known to be one of the two forms. -/
def normalizeCurrentBudget : Except PyError Json := do
  if isMaintenance budget then requireMaintenanceBudget budget else requireFiniteBudget budget
  return budget

def currentAuthorityFields : List String :=
  ["version", "fit_inputs", "provenance", "attempt", "attempt_state", "bound_model", "identity",
    "qualifications", "escalation"]

def currentAuthorityFitInputFields : List String :=
  ["work_estimate", "cache_profile", "capability_evidence", "context", "aggregate_budget"]

def currentAuthorityQualificationHashes : List String :=
  ["receipt_sha256", "canary_sha256", "tool_profile_sha256", "control_image_sha256",
    "host_provenance_sha256", "command_sha256", "execution_sha256", "runner_sha256"]

def currentAuthorityQualificationFields : List String :=
  ["model", "origin_issued_at", "origin_expires_at"] ++ currentAuthorityQualificationHashes

def currentAuthorityProvenanceFields : List String :=
  ["source_sha256", "context_sha256", "scope_sha256", "candidate_sha256"]

def currentAuthorityAttemptFields : List String :=
  ["attempt_id", "bead_id", "work_lineage_id", "ownership_sha256", "fresh_segment"]

def currentAuthorityIdentityFields : List String :=
  ["tool_profile_sha256", "control_image_sha256", "host_provenance_sha256"]

def currentAuthorityEscalationFields : List String :=
  ["kind", "reason", "evidence_sha256", "fit_sha256", "attempt_id"]

def escalationKinds : List String := ["fit", "qualification", "risk", "economics"]

def isBool : Json → Bool
  | .bool _ => true
  | _ => false

def requireFitInputs (inputs : Json) : Except PyError Unit := do
  require (inputs.hasExactly currentAuthorityFitInputFields) "current authority fit_inputs fields are invalid"
  ["work_estimate", "cache_profile", "capability_evidence", "context"].forM fun field =>
    require (inputs.value field).isObject ("current authority fit_inputs " ++ field ++ " must be an object")
  let _ ← normalizeCurrentBudget (inputs.value "aggregate_budget")

def requireProvenance (provenance : Json) : Except PyError Unit := do
  require (provenance.hasExactly currentAuthorityProvenanceFields)
    "current authority provenance fields are invalid"
  currentAuthorityProvenanceFields.forM fun field =>
    requireSha256 ("current authority provenance " ++ field) (provenance.value field)

def requireAttempt (attempt : Json) : Except PyError Unit := do
  require (attempt.hasExactly currentAuthorityAttemptFields) "current authority attempt fields are invalid"
  ["attempt_id", "bead_id", "work_lineage_id"].forM fun field =>
    require (nonblank (attempt.value field)) ("current authority attempt " ++ field ++ " is invalid")
  requireSha256 "current authority attempt ownership_sha256" (attempt.value "ownership_sha256")
  require (isBool (attempt.value "fresh_segment")) "current authority attempt fresh_segment is invalid"

def requireIdentity (identity : Json) : Except PyError Unit := do
  require (identity.hasExactly currentAuthorityIdentityFields) "current authority identity fields are invalid"
  currentAuthorityIdentityFields.forM fun field =>
    requireSha256 ("current authority identity " ++ field) (identity.value field)

/-- A model without a qualification has `null` in its place. -/
def requireQualification (model : String) (qualification : Json) : Except PyError Unit := do
  if qualification = .null then return ()
  require (qualification.hasExactly currentAuthorityQualificationFields)
    ("current authority qualification " ++ model ++ " fields are invalid")
  require (decide (qualification.value "model" = .str model))
    "current authority qualification model is invalid"
  let _ ← parseTime clock "current authority qualification origin_issued_at"
    (qualification.value "origin_issued_at")
  let _ ← parseTime clock "current authority qualification origin_expires_at"
    (qualification.value "origin_expires_at")
  currentAuthorityQualificationHashes.forM fun field =>
    requireSha256 ("current authority qualification " ++ field) (qualification.value field)

def requireQualifications (qualifications : Json) : Except PyError Unit := do
  require (qualifications.hasExactly taskSelectedPortfolio) "current authority qualifications are invalid"
  taskSelectedPortfolio.forM fun model => requireQualification clock model (qualifications.value model)

def requireEscalation (attempt escalation : Json) : Except PyError Unit := do
  if escalation = .null then return ()
  require (escalation.hasExactly currentAuthorityEscalationFields)
    "current authority escalation fields are invalid"
  require (isOneOf escalationKinds (escalation.value "kind")) "current authority escalation kind is invalid"
  require (nonblank (escalation.value "reason") &&
    decide (escalation.value "attempt_id" = attempt.value "attempt_id"))
    "current authority escalation is invalid"
  requireSha256 "current authority escalation evidence_sha256" (escalation.value "evidence_sha256")
  requireSha256 "current authority escalation fit_sha256" (escalation.value "fit_sha256")

/-- The claim itself, once every field of it has been checked. -/
def normalizeCurrentAuthority (source : Json) : Except PyError Json := do
  require (source.hasExactly currentAuthorityFields) "current authority fields are invalid"
  require (decide (source.value "version" = .int 1)) "current authority version is invalid"
  requireFitInputs (source.value "fit_inputs")
  requireProvenance (source.value "provenance")
  requireAttempt (source.value "attempt")
  require (isOneOf ["ready", "stopped"] (source.value "attempt_state"))
    "current authority attempt_state is invalid"
  require (decide (source.value "bound_model" = .null) ||
    isOneOf taskSelectedPortfolio (source.value "bound_model")) "current authority bound_model is invalid"
  requireIdentity (source.value "identity")
  requireQualifications clock (source.value "qualifications")
  requireEscalation (source.value "attempt") (source.value "escalation")
  return source

end WorkOrchestration.Routing.CurrentAuthority
