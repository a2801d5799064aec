import WorkOrchestration.Native.ActivationLedger
import WorkOrchestration.Native.OperatorApprovals
import WorkOrchestration.Native.PoolContracts

/-!
# Transaction plans

A transaction plan fixes the children of an admitted pool before anything is allocated: their Beads,
models, work plans and write paths, the session budget and the bounds of the startup. The first check that
fails decides the one error that is reported.
-/

namespace WorkOrchestration.Native.TransactionPlans

open Lib.Text Artifacts
open Artifacts.Json (digitLimit)
open ActivationLedger (isHexDigit)
open OperatorApprovals (Parsed sortedTexts)
open PoolContracts (posixParts)
open ProtectedChanges (digitsError)

/-- `NativePoolTransactionError`. -/
def transactionError (message : String) : PyError := ⟨.value, "NativePoolTransactionError", message⟩

def require (condition : Bool) (message : String) : Except PyError Unit :=
  if condition then .ok () else .error (transactionError message)

/-- What `json.dumps` raises about a value, if it does. -/
def dumpsError? : Json → Option PyError
  | .int value => if value.natAbs < digitLimit then none else some digitsError
  | .item head tail => (dumpsError? head).or (dumpsError? tail)
  | .field _ value rest => (dumpsError? value).or (dumpsError? rest)
  | .bytes _ => some ⟨.type, "TypeError", "Object of type bytes is not JSON serializable"⟩
  | .foreign typeName =>
    some ⟨.type, "TypeError", "Object of type " ++ typeName ++ " is not JSON serializable"⟩
  | _ => none

variable (version : Int) (fromIsoformat : List Char → Parsed) (plan value child : Json)
  (label : String)

/-- `canonical_sha256`. -/
def canonicalHash : Except PyError Json :=
  match dumpsError? value with
  | some error => .error error
  | none => .ok (.sha256 value.canonical)

/-- `type(value) is dict`. -/
def isDictionary : Bool := value.isDict && decide value.keys.Nodup

def strictWithOptional (requiredFields optionalFields : List String) (label : String)
    (value : Json) : Except PyError Unit :=
  if !isDictionary value then .error (transactionError (label ++ "-must-be-object"))
  else
    let missing := sortedTexts (requiredFields.filter fun key => !value.keys.contains key)
    let extra := sortedTexts (value.keys.filter fun key =>
      !requiredFields.contains key && !optionalFields.contains key)
    if missing.isEmpty && extra.isEmpty then .ok ()
    else
      let details :=
        (if missing.isEmpty then [] else ["missing=" ++ joinWith "," missing]) ++
          (if extra.isEmpty then [] else ["unknown=" ++ joinWith "," extra])
      .error (transactionError (label ++ "-fields-invalid:" ++ joinWith ";" details))

def strict (fields : List String) (label : String) (value : Json) : Except PyError Unit :=
  strictWithOptional fields [] label value

def nonempty (value : Json) (label : String) : Except PyError String :=
  match value with
  | .str text =>
    if Nonempty text then .ok (strip text)
    else .error (transactionError (label ++ "-must-be-nonempty-string"))
  | _ => .error (transactionError (label ++ "-must-be-nonempty-string"))

/-- `_nonempty` where the text is not used. -/
def requireNonempty : Except PyError Unit := do
  let _ ← nonempty value label

/-- `_hash`; what is spelled like a digest may be a text with space around it. -/
def requireHash : Except PyError Unit :=
  match value with
  | .sha256 _ => .ok ()
  | value => do
      let text ← nonempty value label
      require (text.length == 64 && text.toList.all isHexDigit) (label ++ "-must-be-sha256")

def integer (value : Json) (label : String) (minimum : Int) : Except PyError Int :=
  match value with
  | .int number =>
    if minimum ≤ number then .ok number
    else .error (transactionError s!"{label}-must-be-integer-gte-{minimum}")
  | _ => .error (transactionError s!"{label}-must-be-integer-gte-{minimum}")

def requireInteger : Except PyError Unit := do
  let _ ← integer value label 0

/-- A value of which `_integer` has been asked. -/
def intOf : Json → Int
  | .int number => number
  | _ => 0

/-- `text.replace("Z", "+00:00")`. -/
def expandZ (text : List Char) : List Char :=
  text.flatMap fun character =>
    if character = 'Z' then ['+', '0', '0', ':', '0', '0'] else [character]

/-- The instant of a text that the library has read. -/
def timeOf : Parsed → Except PyError Int
  | .invalid => .error (transactionError (label ++ "-invalid"))
  | .naive => .error (transactionError (label ++ "-timezone-required"))
  | .outOfRange => .error ⟨.other, "OverflowError", "date value out of range"⟩
  | .instant time => .ok time

/-- `_parse_time`, given what the library makes of a text. -/
def parseTime :
    Except PyError Int := do
  let text ← nonempty value label
  timeOf label (fromIsoformat (expandZ text.toList))

def maintenancePlanVersion : Int := 8

def ninthCampaignRecoveryPlanVersion : Int := 7

def isMaintenance : Bool := version == maintenancePlanVersion

def isRecovery : Bool := 2 ≤ version && version ≤ 7

def isCampaignRecovery : Bool := 3 ≤ version && version ≤ 7

def isNinthCampaignRecovery : Bool := version == ninthCampaignRecoveryPlanVersion

def planSchema? : Option String :=
  if version = 1 then some "schemas/native-pool-transaction-plan.schema.json"
  else if isRecovery version then
    some ("schemas/native-pool-transaction-plan-v" ++ toString version ++ ".schema.json")
  else none

def maintenancePlanSchema : String := "schemas/native-pool-transaction-plan-v8.schema.json"

def recoveryField : String :=
  if isNinthCampaignRecovery version then "campaign_recovery" else "infrastructure_recovery"

/-- The number of the grant that a recovery plan of a version carries. -/
def grantVersion : Int :=
  if isNinthCampaignRecovery version then 1 else version - 1

def recoveryType : String :=
  if isNinthCampaignRecovery version then "cwo-native-pool-campaign-opportunity-recovery"
  else "cwo-native-pool-campaign-infrastructure-recovery"

def recoveryBead : String :=
  if version = 7 then "complex-work-orchestration-bpm4.16"
  else if version = 6 then "complex-work-orchestration-bpm4.15"
  else if version = 5 then "complex-work-orchestration-bpm4.14"
  else "complex-work-orchestration-bpm4"

def planFields : List String :=
  ["plan_type", "version", "schema", "transaction_id", "phase_id", "candidate_manifest_sha256",
    "controller_overlay_sha256", "authority_sha256", "call_graph_sha256", "runtime_adapter_path",
    "runtime_adapter_sha256", "created_at", "selected_model", "prelude_session_count",
    "required_session_count", "budget", "startup_bounds_ms", "children", "plan_sha256"]

def recoveryFields : List String :=
  ["recovery_type", "version", "campaign_id", "phase_id", "bead_id", "selected_model",
    "authority_sha256", "prior_failure_evidence_sha256", "opportunity_ledger_path",
    "additional_opportunities", "grant_sha256"]

def budgetFields : List String :=
  if isMaintenance version then ["cumulative_before", "reserved_sessions"]
  else if isNinthCampaignRecovery version then
    ["cumulative_before", "cumulative_ceiling", "reserved_sessions", "prior_campaign_opportunities",
      "prior_infrastructure_failures", "prior_item_failures", "maximum_campaign_opportunities"]
  else
    ["cumulative_before", "cumulative_ceiling", "reserved_sessions", "infrastructure_failures_before",
      "maximum_infrastructure_failures"]

def startupFields : List String :=
  ["pre_allocation_ms", "per_allocation_ms", "runtime_binding_ms", "admission_ms",
    "dispatch_and_first_observation_ms", "safety_margin_ms"]

def childFields : List String :=
  ["child_id", "bead_id", "segment_id", "work_unit_id", "requested_model", "bead_projection_sha256",
    "worktree_identity_sha256", "work_plan_sha256", "packet_blueprint_sha256", "write_paths"]

/-- `TRANSACTION_CALL_GRAPH_SHA256`. -/
def callGraphSha256 : Json :=
  .sha256 (.obj [("call_graph", .strings
    ["validate_plan", "validate_execution_authoritative_beads", "reserve_complete_transaction_budget",
      "run_prelude_sessions", "build_readiness_record", "validate_remaining_release_horizon",
      "persist_allocation_intent", "start_and_attest_session", "bind_admission_and_supervision",
      "arm_effect_atomic_cohort", "run_admitted_native_pool", "contain_and_validate",
      "record_terminal_disposition"])])

/-- The type and the schema that a plan names. -/
def checkHeader : Except PyError Unit := do
  require (plan.value "plan_type" == .str "cwo-native-pool-transaction-plan" &&
      (isMaintenance version ||
        (planSchema? version).any fun schema => plan.value "schema" == .str schema))
    "transaction-plan-header-invalid"
  require (!isMaintenance version || plan.value "schema" == .str maintenancePlanSchema)
    "transaction-maintenance-schema-invalid"

def checkTexts : Except PyError Unit := do
  ["transaction_id", "phase_id", "runtime_adapter_path", "selected_model"].forM fun field =>
    requireNonempty (plan.value field) ("transaction-plan." ++ field)
  let _ ← parseTime fromIsoformat (plan.value "created_at") "transaction-plan.created_at"
  ["candidate_manifest_sha256", "controller_overlay_sha256", "authority_sha256",
    "call_graph_sha256", "runtime_adapter_sha256", "plan_sha256"].forM fun field =>
    requireHash (plan.value field) ("transaction-plan." ++ field)
  require (plan.value "call_graph_sha256" == callGraphSha256) "transaction-plan-call-graph-mismatch"

def checkRecoveryBudget (preludeCount requiredCount : Int) (budget : Json) :
    Except PyError Unit :=
  let count := fun field => intOf (budget.value field)
  if isNinthCampaignRecovery version then
    require (count "prior_campaign_opportunities" == 8 && count "prior_infrastructure_failures" == 7 &&
        count "prior_item_failures" == 1 && count "maximum_campaign_opportunities" == 9 &&
        count "prior_campaign_opportunities" ==
          count "prior_infrastructure_failures" + count "prior_item_failures" &&
        preludeCount == 1 && requiredCount == 2)
      "transaction-plan-campaign-split-budget-invalid"
  else
    require (!isRecovery version || (count "maximum_infrastructure_failures" == version + 2 &&
          count "infrastructure_failures_before" == version + 1 && preludeCount == 1 &&
          requiredCount == 2))
      "transaction-plan-recovery-budget-or-shape-invalid"

def checkBudget (preludeCount requiredCount : Int) (budget : Json) :
    Except PyError Unit := do
  let maintenance := isMaintenance version
  let count := fun field => intOf (budget.value field)
  strict (budgetFields version ++ if maintenance then ["mode"] else []) "transaction-plan.budget"
    budget
  (budgetFields version).forM fun field =>
    requireInteger (budget.value field) ("transaction-plan.budget." ++ field)
  require (!maintenance || budget.value "mode" == .str "maintenance-unbounded")
    "transaction-maintenance-budget-mode-invalid"
  require (isRecovery version || maintenance || count "maximum_infrastructure_failures" == 3)
    "transaction-plan-maximum-infrastructure-failures-must-equal-3"
  checkRecoveryBudget version preludeCount requiredCount budget
  require (maintenance || isNinthCampaignRecovery version ||
      count "infrastructure_failures_before" < count "maximum_infrastructure_failures")
    "transaction-plan-infrastructure-fuse-open"
  require (requiredCount ≤ count "reserved_sessions")
    "transaction-plan-session-reservation-insufficient"
  require (maintenance ||
      count "cumulative_before" + count "reserved_sessions" ≤ count "cumulative_ceiling")
    "transaction-plan-cumulative-budget-exceeded"

def checkStartup (bounds : Json) : Except PyError Unit := do
  strict startupFields "transaction-plan.startup-bounds" bounds
  startupFields.forM fun field =>
    requireInteger (bounds.value field) ("transaction-plan.startup-bounds." ++ field)
  require (1 ≤ intOf (bounds.value "safety_margin_ms")) "transaction-plan-safety-margin-required"

/-- The record of a recovery grant, and what it says about the plan and its only child. -/
def checkRecovery : Except PyError Unit := do
  let recovery := plan.value (recoveryField version)
  let label := "transaction-plan.infrastructure-recovery"
  strict recoveryFields label recovery
  require (recovery.value "recovery_type" == .str (recoveryType version) &&
      recovery.value "version" == .int (grantVersion version))
    "transaction-plan-recovery-header-invalid"
  require (recovery.value "additional_opportunities" == .int 1)
    "transaction-plan-recovery-additional-opportunity-invalid"
  require (isDictionary child) "transaction-plan-recovery-child-must-be-object"
  ["campaign_id", "phase_id", "bead_id", "selected_model", "opportunity_ledger_path"].forM fun field =>
    requireNonempty (recovery.value field) (label ++ "." ++ field)
  ["authority_sha256", "prior_failure_evidence_sha256", "grant_sha256"].forM fun field =>
    requireHash (recovery.value field) (label ++ "." ++ field)
  let granted ← canonicalHash (recovery.erase "grant_sha256")
  require (recovery.value "grant_sha256" == granted) "transaction-plan-recovery-grant-hash-mismatch"
  require (match recovery.value "opportunity_ledger_path" with
      | .str path => path.toList.head? == some '/' && !(posixParts path).contains ".."
      | _ => false)
    "transaction-plan-recovery-ledger-path-invalid"
  require (recovery.value "phase_id" == plan.value "phase_id" &&
      recovery.value "bead_id" == child.value "bead_id" &&
      recovery.value "selected_model" == plan.value "selected_model" &&
      recovery.value "authority_sha256" == plan.value "authority_sha256")
    "transaction-plan-recovery-binding-mismatch"
  require (!isCampaignRecovery version ||
      (recovery.value "campaign_id" == .str "spark-retirement-task-selected-p1a" &&
        recovery.value "phase_id" == .str "task-selected-route-private-full-git-jit" &&
        recovery.value "bead_id" == .str (recoveryBead version)))
    "transaction-plan-recovery-campaign-invalid"

/-- The sets that the loop over the children fills. -/
structure Seen where
  childIds : List Json
  beadIds : List Json
  segments : List Json
  workUnits : List Json
  ownedPaths : List String

def Seen.empty : Seen := ⟨[], [], [], [], []⟩

def texts? : Option (List String) :=
  value.elements?.bind fun items => items.mapM fun item =>
    match item with
    | .str text => some text
    | _ => none

/-- The write paths of a child, if they are distinct texts in each of which something is visible. -/
def writePaths? : Option (List String) :=
  (texts? (child.value "write_paths")).filter fun paths =>
    paths.all (fun path => decide (Nonempty path)) && decide paths.Nodup

def readPaths : Except PyError (List String) :=
  match writePaths? child with
  | some paths => .ok paths
  | none => .error (transactionError "transaction-plan-child-write-paths-invalid")

/-- The fields of a child that are read without regard to the other children. -/
def checkChildFields (index : Nat) (child : Json) : Except PyError Unit := do
  let label := s!"transaction-plan.child[{index}]"
  strictWithOptional childFields ["read_only"] label child
  ["child_id", "bead_id", "segment_id", "work_unit_id", "requested_model"].forM fun field =>
    requireNonempty (child.value field) (label ++ "." ++ field)
  ["bead_projection_sha256", "worktree_identity_sha256", "work_plan_sha256",
    "packet_blueprint_sha256"].forM fun field => requireHash (child.value field) (label ++ "." ++ field)
  require (child.value "requested_model" == plan.value "selected_model")
    "transaction-plan-child-model-mismatch"

/-- A child is marked as read-only exactly when it has no write paths. -/
def checkReadOnly (paths : List String) : Except PyError Unit :=
  require ((child.get? "read_only").getD (.bool false) == .bool paths.isEmpty)
    "transaction-plan-child-read-only-invalid"

def checkChild (index : Nat) (child : Json) (seen : Seen) : Except PyError Seen := do
  checkChildFields plan index child
  let paths ← readPaths child
  checkReadOnly child paths
  require (paths.all fun path => !seen.ownedPaths.contains path)
    "transaction-plan-child-write-paths-overlap"
  require (!seen.childIds.contains (child.value "child_id")) "transaction-plan-child-id-duplicate"
  require (!seen.beadIds.contains (child.value "bead_id")) "transaction-plan-bead-id-duplicate"
  require (!seen.segments.contains (child.value "segment_id"))
    "transaction-plan-segment-id-duplicate"
  require (!seen.workUnits.contains (child.value "work_unit_id"))
    "transaction-plan-work-unit-id-duplicate"
  return {
    childIds := child.value "child_id" :: seen.childIds
    beadIds := child.value "bead_id" :: seen.beadIds
    segments := child.value "segment_id" :: seen.segments
    workUnits := child.value "work_unit_id" :: seen.workUnits
    ownedPaths := seen.ownedPaths ++ paths }

/-- The loop over the children. -/
def checkChildren (plan : Json) : Nat → List Json → Seen → Except PyError Unit
  | _, [], _ => .ok ()
  | index, child :: rest, seen => do
      let seen ← checkChild plan index child seen
      checkChildren plan (index + 1) rest seen

/-- `plan["children"]` of a plan that has been accepted. -/
def childrenOf : List Json := (plan.value "children").elements?.getD []

def readChildren : Except PyError (List Json) :=
  match (plan.value "children").elements? with
  | some children =>
    if 1 ≤ children.length ∧ children.length ≤ 3 then .ok children
    else .error (transactionError "transaction-plan-children-must-have-one-to-three-items")
  | none => .error (transactionError "transaction-plan-children-must-have-one-to-three-items")

/-- A recovery plan has one child, to which the grant belongs. -/
def checkGrant (children : List Json) : Except PyError Unit :=
  if isRecovery version then
    match children with
    | [child] => checkRecovery version plan child
    | _ => .error (transactionError "transaction-plan-recovery-requires-one-child")
  else .ok ()

def readVersion : Except PyError Int :=
  match plan.value "version" with
  | .int version => .ok version
  | _ => .error (transactionError "transaction-plan-version-must-be-integer")

/-- The body of `validate_transaction_plan`. -/
def checkPlan : Except PyError Unit := do
  require (isDictionary plan) "transaction-plan-must-be-object"
  let version ← readVersion plan
  strict (planFields ++ if isRecovery version then [recoveryField version] else [])
    "transaction-plan" plan
  checkHeader version plan
  checkTexts fromIsoformat plan
  let preludeCount ← integer (plan.value "prelude_session_count")
    "transaction-plan.prelude_session_count" 0
  let requiredCount ← integer (plan.value "required_session_count")
    "transaction-plan.required_session_count" 1
  checkBudget version preludeCount requiredCount (plan.value "budget")
  checkStartup (plan.value "startup_bounds_ms")
  let children ← readChildren plan
  checkGrant version plan children
  require (requiredCount == preludeCount + children.length)
    "transaction-plan-required-session-count-mismatch"
  checkChildren plan 0 children .empty
  let digest ← canonicalHash (plan.erase "plan_sha256")
  require (plan.value "plan_sha256" == digest) "transaction-plan-canonical-hash-mismatch"

/-- `except (NativePoolTransactionError, TypeError, ValueError)`. -/
def reported (checked : Except PyError Unit) : Except PyError (List String) :=
  match checked with
  | .ok _ => .ok []
  | .error error =>
    if error.kind = .value ∨ error.kind = .type then .ok [error.message] else .error error

def validateTransactionPlan :
    Except PyError (List String) :=
  reported (checkPlan fromIsoformat plan)

end WorkOrchestration.Native.TransactionPlans
