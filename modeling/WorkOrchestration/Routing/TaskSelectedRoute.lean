import Mathlib.Data.List.Sort
import WorkOrchestration.Lib.Checks
import WorkOrchestration.Routing.TaskSelectedFit

/-!
# Task-selected routes

The route that a claim is answered with, granted or denied; the validator of the shape of a route; and the
validator that a dispatch asks before it uses one.
-/

namespace WorkOrchestration.Routing.TaskSelectedRoute

open Lib.Checks (reject)
open Native.Artifacts hiding canonicalSha256
open Native.Artifacts.Json (isOneOf)
open CurrentAuthority
open TaskSelectedFit hiding requireProvenance

/-- `except (TypeError, ValueError, OverflowError)`. -/
def isCaught (error : PyError) : Bool :=
  error.kind = .value || error.kind = .type || error.typeName = "OverflowError"

def lunaExecutor : String := "internal_worker_luna"

def terraExecutor : String := "internal_worker_terra"

variable (clock : Clock) (route : Json) (policies : Policies) (request : Request) (authority : Json)
  (model : String) (sizing : WorkSizing)

/-- The executor that a model of the portfolio is dispatched to. -/
def alias? : Option String :=
  if model = lunaModel then some lunaExecutor
  else if model = terraModel then some terraExecutor
  else none

/-- `TASK_SELECTED_ROLES`. -/
def role? : Option String :=
  if model = lunaModel then some "luna-first-operative-worker"
  else if model = terraModel then some "escalation-only-operative-worker"
  else none

/-- The arguments of the resolver; inputs that are not supplied are `none`, a missing claim is `null`. -/
structure Request where
  executionEnvironment : String
  riskLevel : String
  dataSensitivity : String
  capabilityEvidence : Option Json
  workEstimate : Option Json
  context : Option Json
  aggregateBudget : Option Json
  evaluatedAt : String
  currentAuthority : Json

def sealRoute (fields : List (String × Json)) : Json :=
  .obj (fields ++ [("route_sha256", (canonicalSha256 (.obj fields)).json)])

def policyActive : Bool :=
  policies.task.status = "active" && policies.task.active && policies.task.dispatchAuthority

def blockedFields (budget : Json) (stopReason : String) : List (String × Json) :=
  [("route_type", .str "cwo-operative-route"), ("version", .int 3),
    ("execution_environment", .str request.executionEnvironment), ("risk_level", .str request.riskLevel),
    ("data_sensitivity", .str request.dataSensitivity), ("evaluated_at", .str request.evaluatedAt),
    ("selected_model", .null), ("selected_executor", .null), ("dispatch_authorized", .bool false),
    ("protected_stop", .bool true), ("stop_reason", .str stopReason),
    ("policy_active", .bool (policyActive policies)),
    ("policy_sha256", (policies.taskSelectedPolicySha256 request.executionEnvironment).json),
    ("portfolio_version", .int 3), ("selector_version", .int 1), ("binding_rule_version", .int 1),
    ("work_estimate_sha256", .null), ("neutral_work_estimate_sha256", .null), ("fit_evidence", .null),
    ("fit_sha256", .null), ("capability_evidence_sha256", .null), ("qualification", .null),
    ("provenance", .null), ("attempt", .null), ("aggregate_budget", budget), ("budget_reset", .bool false),
    ("role", .null), ("reasoning_effort", .null),
    ("selection_reason",
      .str "C1 preserves current authority for later selection; it does not authorize dispatch."),
    ("candidate_exclusions", .arr [])]

def blockedTaskSelectedRoute (budget : Json) (stopReason : String) : Json :=
  sealRoute (blockedFields policies request budget stopReason)

/-- The inputs that the caller may repeat, in the order in which they are compared with the claim. -/
def suppliedInputs : List (String × String × Option Json) :=
  [("capability_evidence", "capability-evidence", request.capabilityEvidence),
    ("work_estimate", "work-estimate", request.workEstimate), ("context", "context", request.context),
    ("aggregate_budget", "aggregate-budget", request.aggregateBudget)]

/-- The first supplied input that disagrees with the claim. -/
def inputMismatch : Option String :=
  ((suppliedInputs request).find? fun (field, _, supplied) =>
    supplied.any fun value =>
      decide (canonicalSha256 value ≠ canonicalSha256 ((authority.value "fit_inputs").value field))).map
    fun (_, name, _) => "current-authority-" ++ name ++ "-mismatch"

def fitRequest : FitRequest where
  inputs := authority.value "fit_inputs"
  executionEnvironment := request.executionEnvironment
  riskLevel := request.riskLevel
  dataSensitivity := request.dataSensitivity
  evaluatedAt := .str request.evaluatedAt

/-- A route that is granted, from the fit, the candidate and the claim. -/
def selectedFields (fit : Fit) (candidate : Candidate) : List (String × Json) :=
  let inputs := authority.value "fit_inputs"
  [("route_type", .str "cwo-operative-route"), ("version", .int 3),
    ("execution_environment", .str request.executionEnvironment), ("risk_level", .str request.riskLevel),
    ("data_sensitivity", .str request.dataSensitivity), ("evaluated_at", .str request.evaluatedAt),
    ("selected_model", .str model), ("selected_executor", .str candidate.executor),
    ("dispatch_authorized", .bool true), ("protected_stop", .bool false), ("stop_reason", .null),
    ("policy_active", .bool true), ("policy_sha256", fit.policySha256.json), ("portfolio_version", .int 3),
    ("selector_version", .int 1), ("binding_rule_version", .int 1),
    ("work_estimate_sha256", fit.workEstimateSha256.json),
    ("neutral_work_estimate_sha256", fit.neutralWorkEstimateSha256.json), ("fit_evidence", fit.json),
    ("fit_sha256", fit.sha256.json), ("capability_evidence_sha256", fit.capabilityEvidenceSha256.json),
    ("qualification", (authority.value "qualifications").value model),
    ("provenance", authority.value "provenance"), ("attempt", authority.value "attempt"),
    ("aggregate_budget", inputs.value "aggregate_budget"), ("budget_reset", .bool false),
    ("role", .str ((role? model).getD "")), ("reasoning_effort", .str "high"),
    ("selection_reason", .str (if model = lunaModel then "Qualified Luna-first current selection."
      else "Qualified Terra selection with recorded escalation.")),
    ("candidate_exclusions", .arr ((fit.candidates.filter fun item => !item.eligible).map fun item =>
      .obj [("model", .str item.model), ("exclusion_reasons", .strings item.exclusionReasons)]))]

def escalates (escalation : Json) : Bool :=
  escalation.isObject && isOneOf escalationKinds (escalation.value "kind")

/-- The model that the claim is bound to, if it is one of the portfolio. -/
def boundModel : Option String :=
  match authority.value "bound_model" with
  | .str model => if taskSelectedPortfolio.contains model then some model else none
  | _ => none

/-- When a qualification holds, or that its times cannot be read. -/
def qualificationTimes (qualification evaluatedAt : Json) : Except PyError (Int × Int × Int) := do
  let issued ← parseTime clock "qualification origin_issued_at" (qualification.value "origin_issued_at")
  let expires ← parseTime clock "qualification origin_expires_at" (qualification.value "origin_expires_at")
  let current ← parseTime clock "evaluated_at" evaluatedAt
  return (issued, expires, current)

/-- What is left to check once the model fits. -/
def qualifiedRoute (fit : Fit) (candidate : Candidate) : Except PyError (Except String Json) :=
  let attempt := authority.value "attempt"
  let qualification := (authority.value "qualifications").value model
  let identity := authority.value "identity"
  let context := (authority.value "fit_inputs").value "context"
  match qualificationTimes clock qualification (.str request.evaluatedAt) with
  | .error error =>
    if error.kind = .value then .ok (.error "current-authority-qualification-invalid") else .error error
  | .ok (issued, expires, current) =>
    if qualification.value "model" ≠ .str model ∨ ¬ (issued ≤ current ∧ current < expires) then
      .ok (.error "current-authority-qualification-not-current")
    else if currentAuthorityIdentityFields.any (fun field =>
        decide (qualification.value field ≠ identity.value field)) then
      .ok (.error "current-authority-identity-mismatch")
    else if attempt.value "bead_id" ≠ context.value "bead_id" ∨
        attempt.value "work_lineage_id" ≠ context.value "work_lineage_id" then
      .ok (.error "current-authority-attempt-context-mismatch")
    else .ok (.ok (sealRoute (selectedFields request authority model fit candidate)))

/-- The route for a claim, or why there is none. -/
def selectedTaskRoute (request : Request)
    (authority : Json) : Except PyError (Except String Json) :=
  let attempt := authority.value "attempt"
  if policyActive policies = false then .ok (.error "task-selected-policy-inactive")
  else if authority.value "attempt_state" ≠ .str "ready" ∨ attempt.value "fresh_segment" ≠ .bool true then
    .ok (.error "current-authority-attempt-not-ready")
  else
    match boundModel authority with
    | none => .ok (.error "current-authority-bound-model-missing-or-invalid")
    | some model => do
        let fit ← buildTaskSelectedFit clock policies sizing (fitRequest request authority)
        match fit.candidates.find? fun item => decide (item.model = model) with
        | none => return .error "current-authority-bound-model-not-qualified"
        | some candidate =>
          if candidate.eligible = false then
            return .error "current-authority-bound-model-not-qualified"
          else if model = terraModel ∧ escalates (authority.value "escalation") = false then
            return .error "terra-selection-requires-recorded-escalation"
          else if model = terraModel ∧
              (authority.value "escalation").value "fit_sha256" ≠ fit.sha256.json then
            return .error "terra-escalation-fit-mismatch"
          else qualifiedRoute clock request authority model fit candidate

/-- The claim that is left after reading it, or why it is not used. -/
def readAuthority : Except PyError (Except String Json) :=
  if request.currentAuthority = .null then .ok (.error "current-authority-missing")
  else
    match normalizeCurrentAuthority clock request.currentAuthority with
    | .ok authority => .ok (.ok authority)
    | .error error => if isCaught error then .ok (.error "current-authority-invalid") else .error error

def suppliedBudget (claim : Except String Json) : Json :=
  match request.aggregateBudget, claim with
  | some budget, _ => budget
  | none, .ok authority => (authority.value "fit_inputs").value "aggregate_budget"
  | none, .error _ => .null

/-- The budget of a route, `null` where none can be read, and the claim, which needs one. -/
def readBudget (claim : Except String Json) : Json × Except String Json :=
  match normalizeCurrentBudget (suppliedBudget request claim), claim with
  | .ok budget, claim => (budget, claim)
  | .error _, .ok _ => (.null, .error "current-authority-budget-invalid")
  | .error _, .error reason => (.null, .error reason)

/-- `resolve_operative_route` where the task-selected policy is in force. -/
def resolveOperativeRoute (request : Request) :
    Except PyError Json := do
  let _ ← parseTime clock "evaluated_at" (.str request.evaluatedAt)
  let claim ← readAuthority clock request
  let (budget, claim) := readBudget request claim
  match claim with
  | .error reason => return blockedTaskSelectedRoute policies request budget reason
  | .ok authority =>
    match inputMismatch request authority with
    | some reason => return blockedTaskSelectedRoute policies request budget reason
    | none =>
      match ← selectedTaskRoute clock policies sizing request authority with
      | .ok route => return route
      | .error reason => return blockedTaskSelectedRoute policies request budget reason

def taskSelectedRouteFields : List String :=
  ["route_type", "version", "execution_environment", "risk_level", "data_sensitivity", "evaluated_at",
    "selected_model", "selected_executor", "dispatch_authorized", "protected_stop", "stop_reason",
    "policy_active", "policy_sha256", "portfolio_version", "selector_version", "binding_rule_version",
    "work_estimate_sha256", "neutral_work_estimate_sha256", "fit_evidence", "fit_sha256",
    "capability_evidence_sha256", "qualification", "provenance", "attempt", "aggregate_budget",
    "budget_reset", "role", "reasoning_effort", "selection_reason", "candidate_exclusions", "route_sha256"]

/-- `_route_shape_error`. -/
def shapeError (condition : Bool) (message : String) : List String := reject (condition = false) message

def shapeSha256 (field : String) (value : Json) : List String :=
  shapeError (isSha256 value) (field ++ " is invalid")

def shapeNullableSha256 (field : String) (value : Json) : List String :=
  shapeError (decide (value = .null) || isSha256 value) (field ++ " is invalid")

/-- The time, if it can be read, and the errors. -/
def shapeTime (field : String) (value : Json) : Except PyError (Option Int × List String) :=
  match parseTime clock field value with
  | .ok time => .ok (some time, [])
  | .error error => if error.kind = .value then .ok (none, [field ++ " is invalid"]) else .error error

def candidateFields : List String :=
  ["executor", "model", "display_name", "policy_rank", "rank", "task_fit", "cache_strategy_valid",
    "quota_domain", "cached_input_metering_domain", "domain_independent", "live_available",
    "evidence_fresh", "exact_model", "control_eligible", "risk_eligible", "data_sensitivity_eligible",
    "headroom_sufficient", "aggregate_budget_sufficient", "eligible", "model_evidence_sha256",
    "inclusion_reasons", "exclusion_reasons", "task_fit_warning", "acknowledgement_required"]

def taskSelectedFitFields : List String :=
  ["fit_type", "version", "binding_rule_version", "evaluated_at", "work_estimate_sha256",
    "neutral_work_estimate_sha256", "policy_version", "policy_sha256", "capability_evidence_sha256",
    "aggregate_budget_sha256", "context", "cache_profile", "classifications", "candidates", "fit_sha256"]

def fitHashes : List String :=
  ["work_estimate_sha256", "neutral_work_estimate_sha256", "policy_sha256", "capability_evidence_sha256",
    "aggregate_budget_sha256", "fit_sha256"]

def candidatesShape (candidates : Json) : List String :=
  match candidates.elements? with
  | none => ["fit_evidence candidates must be a non-empty array"]
  | some items =>
    shapeError (!items.isEmpty) "fit_evidence candidates must be a non-empty array" ++
      items.flatMap fun item => shapeError (item.hasExactly candidateFields) "fit_evidence candidate is invalid"

def fitShape (fit : Json) : Except PyError (List String) :=
  if fit = .null then .ok []
  else if fit.isObject = false then .ok ["fit_evidence must be an object"]
  else if fit.hasExactly taskSelectedFitFields = false then .ok ["fit_evidence fields are invalid"]
  else do
    let evaluated ← shapeTime clock "fit_evidence evaluated_at" (fit.value "evaluated_at")
    return shapeError (decide (fit.value "fit_type" = .str "cwo-task-selected-fit"))
        "fit_evidence type is invalid" ++
      shapeError (decide (fit.value "version" = .int 3)) "fit_evidence version is invalid" ++
      shapeError (decide (fit.value "binding_rule_version" = .int 1))
        "fit_evidence binding rule version is invalid" ++
      shapeError (decide (fit.value "policy_version" = .int 3)) "fit_evidence policy version is invalid" ++
      evaluated.2 ++
      fitHashes.flatMap (fun field => shapeSha256 ("fit_evidence " ++ field) (fit.value field)) ++
      ["context", "cache_profile", "classifications"].flatMap (fun field =>
        shapeError (fit.value field).isObject ("fit_evidence " ++ field ++ " must be an object")) ++
      candidatesShape (fit.value "candidates")

/-- When the qualification of a route holds, and the errors. -/
def qualificationShape (qualification : Json) :
    Except PyError ((Option Int × Option Int) × List String) :=
  if qualification = .null then .ok ((none, none), [])
  else if qualification.hasExactly currentAuthorityQualificationFields = false then
    .ok ((none, none), ["qualification fields are invalid"])
  else do
    let issued ← shapeTime clock "qualification origin_issued_at" (qualification.value "origin_issued_at")
    let expires ← shapeTime clock "qualification origin_expires_at" (qualification.value "origin_expires_at")
    return ((issued.1, expires.1), issued.2 ++ expires.2 ++
      shapeError (isOneOf taskSelectedPortfolio (qualification.value "model"))
        "qualification model is invalid" ++
      currentAuthorityQualificationHashes.flatMap fun field =>
        shapeSha256 ("qualification " ++ field) (qualification.value field))

def provenanceShape (provenance : Json) : List String :=
  if provenance = .null then []
  else if provenance.hasExactly currentAuthorityProvenanceFields = false then
    ["provenance fields are invalid"]
  else currentAuthorityProvenanceFields.flatMap fun field =>
    shapeSha256 ("provenance " ++ field) (provenance.value field)

def attemptShape (attempt : Json) : List String :=
  if attempt = .null then []
  else if attempt.hasExactly currentAuthorityAttemptFields = false then ["attempt fields are invalid"]
  else
    ["attempt_id", "bead_id", "work_lineage_id"].flatMap (fun field =>
        shapeError (nonblank (attempt.value field)) ("attempt " ++ field ++ " is invalid")) ++
      shapeSha256 "attempt ownership_sha256" (attempt.value "ownership_sha256") ++
      shapeError (isBool (attempt.value "fresh_segment")) "attempt fresh_segment must be a boolean"

/-- A finite budget has to leave some of its allocation once the terminal reserve is set aside. -/
def leavesTerminalAllocation (budget : Json) : Bool :=
  isMaintenance budget ||
    decide (numberOf (budget.value "allocation_before") + numberOf (budget.value "terminal_reserve") <
      numberOf (budget.value "allocation_ceiling"))

def budgetShape (dispatchAuthorized budget : Json) : List String :=
  if budget = .null ∧ dispatchAuthorized = .bool false then []
  else
    match normalizeCurrentBudget budget with
    | .error _ => ["aggregate_budget fields or values are invalid"]
    | .ok budget =>
      shapeError (decide (dispatchAuthorized ≠ .bool true) || leavesTerminalAllocation budget)
        "aggregate_budget leaves no protected terminal allocation"

def isPlainReason : Json → Bool
  | .str text => nonblank (.str text)
  | .sha256 _ => true
  | _ => false

def exclusionShape (seen : List Json) (item : Json) : List String :=
  if item.hasExactly ["model", "exclusion_reasons"] = false then ["candidate_exclusions item is invalid"]
  else
    let model := item.value "model"
    let reasons := item.value "exclusion_reasons"
    shapeError (isOneOf taskSelectedPortfolio model && !seen.contains model)
        "candidate_exclusions model is invalid" ++
      shapeError (match reasons.elements? with
        | none => false
        | some reasons => !reasons.isEmpty && reasons.all isPlainReason)
        "candidate_exclusions reasons are invalid"

/-- Each item is held against the models of the items before it. -/
def exclusionsShapeFrom (seen : List Json) : List Json → List String
  | [] => []
  | item :: rest =>
    exclusionShape seen item ++ exclusionsShapeFrom
        (if item.hasExactly ["model", "exclusion_reasons"] then item.value "model" :: seen else seen) rest

def exclusionsShape (exclusions : Json) : List String :=
  match exclusions.elements? with
  | none => ["candidate_exclusions must be an array"]
  | some items => exclusionsShapeFrom [] items

/-- `aliases.get(model)` and the like: `null` for anything but a known model. -/
def forModel (table : String → Option String) (model : Json) : Json :=
  match model with
  | .str name => Json.optional .str (table name)
  | _ => .null

def authorizedShape : List String :=
  let model := route.value "selected_model"
  let qualification := route.value "qualification"
  let attempt := route.value "attempt"
  shapeError (decide (route.value "protected_stop" = .bool false))
      "authorized route must not be protected_stop" ++
    shapeError (decide (route.value "stop_reason" = .null)) "authorized route stop_reason must be null" ++
    shapeError (decide (route.value "policy_active" = .bool true)) "authorized route policy must be active" ++
    shapeError (decide (forModel alias? model ≠ .null)) "authorized route model is invalid" ++
    shapeError (decide (route.value "selected_executor" = forModel alias? model))
      "authorized route executor does not match model" ++
    shapeError (decide (route.value "role" = forModel role? model))
      "authorized route role does not match model" ++
    shapeError (decide (route.value "reasoning_effort" = .str "high"))
      "authorized route reasoning_effort is invalid" ++
    ["work_estimate_sha256", "neutral_work_estimate_sha256", "fit_evidence", "fit_sha256",
      "capability_evidence_sha256", "qualification", "provenance", "attempt"].flatMap (fun field =>
        shapeError (decide (route.value field ≠ .null)) ("authorized route requires " ++ field)) ++
    shapeError (!qualification.isObject || decide (qualification.value "model" = model))
      "qualification model does not match selected_model" ++
    shapeError (!attempt.isObject || decide (attempt.value "fresh_segment" = .bool true))
      "authorized route requires a fresh attempt"

def blockedShape : List String :=
  shapeError (decide (route.value "protected_stop" = .bool true)) "blocked route must be protected_stop" ++
    shapeError (nonblank (route.value "stop_reason")) "blocked route requires stop_reason" ++
    ["selected_model", "selected_executor", "role", "reasoning_effort"].flatMap fun field =>
      shapeError (decide (route.value field = .null)) ("blocked route " ++ field ++ " must be null")

def decisionShape : List String :=
  match route.value "dispatch_authorized" with
  | .bool true => authorizedShape route
  | .bool false => blockedShape route
  | _ => ["dispatch_authorized must be a boolean"]

def sealShape : List String :=
  match route.value "route_sha256" with
  | .str _ => ["route_sha256 does not match route contents"]
  | .sha256 preimage =>
    shapeError (decide (Json.sha256 preimage = (canonicalSha256 (route.erase "route_sha256")).json))
      "route_sha256 does not match route contents"
  | _ => []

/-- `isinstance(value, str) and value.strip()` for the name of an environment. -/
def isEnvironmentName : Json → Bool
  | .str text => nonblank (.str text)
  | _ => false

def headShape : List String :=
  shapeError (decide (route.value "route_type" = .str "cwo-operative-route")) "route_type is invalid" ++
    shapeError (decide (route.value "version" = .int 3)) "version is invalid" ++
    shapeError (isEnvironmentName (route.value "execution_environment"))
      "execution_environment is invalid" ++
    shapeError (isOneOf riskOrder (route.value "risk_level")) "risk_level is invalid" ++
    shapeError (isOneOf dataSensitivityOrder (route.value "data_sensitivity")) "data_sensitivity is invalid"

def fieldsShape : List String :=
  [("portfolio_version", 3), ("selector_version", 1), ("binding_rule_version", 1)].flatMap
      (fun (field, expected) => shapeError (decide (route.value field = .int expected)) (field ++ " is invalid")) ++
    ["dispatch_authorized", "protected_stop", "policy_active"].flatMap (fun field =>
      shapeError (isBool (route.value field)) (field ++ " must be a boolean")) ++
    shapeError (decide (route.value "budget_reset" = .bool false)) "budget_reset must be false" ++
    ["policy_sha256", "route_sha256"].flatMap (fun field => shapeSha256 field (route.value field)) ++
    ["work_estimate_sha256", "neutral_work_estimate_sha256", "fit_sha256",
      "capability_evidence_sha256"].flatMap (fun field => shapeNullableSha256 field (route.value field)) ++
    ["selected_executor", "stop_reason", "role", "reasoning_effort"].flatMap (fun field =>
      shapeError (decide (route.value field = .null) || nonblank (route.value field))
        (field ++ " is invalid")) ++
    shapeError (nonblank (route.value "selection_reason")) "selection_reason is invalid" ++
    shapeError (decide (route.value "selected_model" = .null) ||
      isOneOf taskSelectedPortfolio (route.value "selected_model")) "selected_model is invalid"

def expiryShape (times : Option Int × Option Int) : List String :=
  match times with
  | (some issued, some expires) =>
    shapeError (decide (issued < expires)) "qualification expiry must follow issuance"
  | _ => []

/-- A list of texts as Python writes it. -/
def listRepr (names : List String) : String :=
  "[" ++ ", ".intercalate (names.map fun name => "'" ++ name ++ "'") ++ "]"

def fieldsMessage : String :=
  "task selected route fields are invalid; missing=" ++
    listRepr ((taskSelectedRouteFields.filter fun field => !route.keys.contains field).insertionSort (· ≤ ·)) ++
    "; unknown=" ++
    listRepr ((route.keys.filter fun key => !taskSelectedRouteFields.contains key).insertionSort (· ≤ ·))

def validateTaskSelectedRouteShape : Except PyError (List String) :=
  if route.isObject = false then .ok ["task selected route must be an object"]
  else if route.hasExactly taskSelectedRouteFields = false then .ok [fieldsMessage route]
  else do
    let evaluated ← shapeTime clock "evaluated_at" (route.value "evaluated_at")
    let qualification ← qualificationShape clock (route.value "qualification")
    let fit ← fitShape clock (route.value "fit_evidence")
    return headShape route ++ evaluated.2 ++ fieldsShape route ++ qualification.2 ++
      provenanceShape (route.value "provenance") ++ attemptShape (route.value "attempt") ++
      budgetShape (route.value "dispatch_authorized") (route.value "aggregate_budget") ++
      exclusionsShape (route.value "candidate_exclusions") ++ fit ++ expiryShape qualification.1 ++
      decisionShape route ++ sealShape route

/-- `_string(value) or default`. -/
def textOr (default : String) (value : Json) : String :=
  match stripped value with
  | .str text => if text = "" then default else text
  | _ => default

/-- What the validator asks the resolver again. -/
def renewedRequest : Request where
  executionEnvironment := textOr "connected-codex" (route.value "execution_environment")
  riskLevel := textOr "medium" (route.value "risk_level")
  dataSensitivity := textOr "internal" (route.value "data_sensitivity")
  capabilityEvidence := none
  workEstimate := none
  context := none
  aggregateBudget := none
  evaluatedAt := textOr "" (route.value "evaluated_at")
  currentAuthority := authority

/-- `current_authority["qualifications"].get(selected_model)`. -/
def qualificationOf (model : Json) : Json :=
  match model with
  | .str name => (authority.value "qualifications").value name
  | _ => .null

/-- The route and the claim as of now, and the route that the claim is answered with. -/
def validateCurrent (route : Json)
    (requestedModel : String) (workEstimate : Option Json) (now : String) (authority : Json) :
    Except PyError (List String) :=
  let times := do
    let current ← parseTime clock "now" (.str now)
    let evaluated ← parseTime clock "evaluated_at" (route.value "evaluated_at")
    return (current, evaluated)
  match times with
  | .error error =>
    if isCaught error then .ok ["task selected route current time is invalid"] else .error error
  | .ok (current, evaluated) =>
    if current < evaluated then .ok ["task selected route was evaluated after current validation time"]
    else if workEstimate.any (fun estimate => decide (canonicalSha256 estimate ≠
        canonicalSha256 ((authority.value "fit_inputs").value "work_estimate"))) then
      .ok ["task selected route work estimate does not match current authority"]
    else
      let qualification := qualificationOf authority (route.value "selected_model")
      let window := do
        let issued ← parseTime clock "current authority qualification origin_issued_at"
          (qualification.value "origin_issued_at")
        let expires ← parseTime clock "current authority qualification origin_expires_at"
          (qualification.value "origin_expires_at")
        return (issued, expires)
      match window with
      | .error error =>
        if isCaught error then .ok ["task selected route current qualification is invalid"]
        else .error error
      | .ok (issued, expires) =>
        if ¬ (issued ≤ current ∧ current < expires) then
          .ok ["task selected route qualification is not current"]
        else
          match resolveOperativeRoute clock policies sizing (renewedRequest route authority) with
          | .error error =>
            if isCaught error then
              .ok ["task selected route current evaluation failed: " ++ error.message]
            else .error error
          | .ok expected =>
            if expected.value "dispatch_authorized" ≠ .bool true then
              .ok ["task selected route is not currently authorized: " ++
                textOr "None" (expected.value "stop_reason")]
            else if .str requestedModel ≠ route.value "selected_model" then
              .ok ["task selected route selected_model does not match requested model"]
            else if canonicalSha256 route ≠ canonicalSha256 expected then
              .ok ["task selected route does not match current authority evaluation"]
            else .ok []

/-- `validate_operative_route_for_model` of a new dispatch; the rules for routes of version 2 are given. -/
def validateOperativeRouteForModel
    (historicalErrors : Json → List String) (route : Json) (requestedModel : String)
    (workEstimate : Option Json) (now : String) (currentAuthority : Json) : Except PyError (List String) :=
  let value := if route.isObject then route else .objEnd
  let named := decide (value.value "route_type" = .str "cwo-operative-route")
  if (value.value "version").equalsNat 2 ∧ policies.task.status = "active" then
    .ok ["historical v2 route is parseable but cannot authorize new dispatch"]
  else if named ∧ (value.value "version").equalsNat 3 then do
    let shape ← validateTaskSelectedRouteShape clock value
    if shape ≠ [] then return shape.map ("task selected route shape: " ++ ·)
    else if currentAuthority = .null then return ["task selected route requires current authority"]
    else
      match normalizeCurrentAuthority clock currentAuthority with
      | .error error =>
        if isCaught error then return ["task selected route current authority is invalid"]
        else .error error
      | .ok authority =>
        validateCurrent clock policies sizing value requestedModel workEstimate now authority
  else if named ∧ (value.value "version").equalsNat 2 then .ok (historicalErrors value)
  else .ok ["operative routing metadata must be cwo-operative-route version 2"]

end WorkOrchestration.Routing.TaskSelectedRoute
