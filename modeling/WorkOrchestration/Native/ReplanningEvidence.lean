import WorkOrchestration.Native.ProtectedChanges

/-!
# Replanning evidence and policies

The values that replanning is given: what a caller reports about a work unit, and the policy section that
limits it.
-/

namespace WorkOrchestration.Native.Replanning

open Lib.Checks Lib.Text Artifacts
open Artifacts.Json (hashable isOneOf)
open ProtectedChanges

/-- The text that a value is, if it is one; a digest is written in hexadecimal. -/
def text? : Json → Option String
  | .str text => some text
  | .sha256 preimage => some (Digest.hex ⟨preimage⟩)
  | _ => none

/-- `document.get(key, default)`. -/
def getOr (document : Json) (key : String) (default : Json) : Json := (document.get? key).getD default

def malformed (path text : String) : PyError := valueError ("malformed payload: " ++ path ++ text)

variable (path : String) (autonomous : Json) (policy : Policy) (value : Json)

def ensureMapping : Except PyError Json :=
  if value.isObject then .ok value else .error (malformed path " must be a mapping")

def ensureNonemptyStr : Except PyError String :=
  match text? value with
  | some text => if text = "" then .error (malformed path " must be a non-empty string") else .ok text
  | none => .error (malformed path " must be a non-empty string")

/-- `_ensure_int` with the minimum that every caller asks for. -/
def ensureInt : Json → Except PyError Nat
  | .int value =>
    if value < 0 then .error (malformed path " must be between 0 and None") else .ok value.toNat
  | _ => .error (malformed path " must be an integer")

def ensureBool : Json → Except PyError Bool
  | .bool value => .ok value
  | _ => .error (malformed path " must be a boolean")

def ensureList : Except PyError (List Json) :=
  match value.elements? with
  | some elements => .ok elements
  | none => .error (malformed path " must be a list")

/-- `_ensure_list` of a list that may not be empty. -/
def ensureNonemptyList : Except PyError (List Json) := do
  let elements ← ensureList path value
  if elements.isEmpty then .error (malformed path " cannot be empty")
  return elements

/-- The items of `_ensure_str_list` from a position on. -/
def ensureStrItems (path : String) : Nat → List Json → Except PyError (List String)
  | _, [] => .ok []
  | index, item :: rest => do
      let text ← ensureNonemptyStr (path ++ "[" ++ toString index ++ "]") item
      return text :: (← ensureStrItems path (index + 1) rest)

/-- `_ensure_str_list` of a list that may not be empty. -/
def ensureStrList : Except PyError (List String) := do
  ensureStrItems path 0 (← ensureNonemptyList path value)

/-- `set(values)`. -/
def setOf : List Json → Except PyError Unit
  | [] => .ok ()
  | value :: rest => do
      hashable value
      setOf rest

/-- `set(names) <= set(values)`. -/
def includes (values : List Json) (names : List String) : Bool :=
  names.all fun name => values.contains (.str name)

/-- The fields that an object has beyond the known ones, in the order of `sorted`. -/
def unknownFields (known : List String) (value : Json) : List String :=
  (value.keys.filter (!known.contains ·)).mergeSort (· ≤ ·)

/-- An object that may have no other fields. -/
def ensureKnown (known : List String) (value : Json) : Except PyError Unit :=
  let unknown := unknownFields known value
  if unknown.isEmpty then .ok ()
  else .error (malformed path (" has unknown field(s) " ++ joinWith "," unknown))

/-- `REQUIRED_STATES`. -/
inductive Phase where
  | planned
  | commitmentRequired
  | dispatchable
  | executing
  | pmRealignment
  | architectRealignment
  | reassignmentReady
  | protectedStop
  | completed
  deriving DecidableEq

def Phase.text : Phase → String
  | planned => "planned"
  | commitmentRequired => "commitment-required"
  | dispatchable => "dispatchable"
  | executing => "executing"
  | pmRealignment => "pm-realignment"
  | architectRealignment => "architect-realignment"
  | reassignmentReady => "reassignment-ready"
  | protectedStop => "protected-stop"
  | completed => "completed"

def requiredStates : List String :=
  [Phase.planned, .commitmentRequired, .dispatchable, .executing, .pmRealignment,
    .architectRealignment, .reassignmentReady, .protectedStop, .completed].map Phase.text

/-- The events that stop a lifecycle wherever it stands. -/
inductive StopEvent where
  | modelMismatch
  | controlLoss
  | securityOrAuthorityAmbiguity
  | outOfScopeMutation
  | taintedMutation
  | operatorTrigger
  deriving DecidableEq

def StopEvent.text : StopEvent → String
  | modelMismatch => "model-mismatch"
  | controlLoss => "control-loss"
  | securityOrAuthorityAmbiguity => "security-or-authority-ambiguity"
  | outOfScopeMutation => "out-of-scope-mutation"
  | taintedMutation => "tainted-mutation"
  | operatorTrigger => "operator-trigger"

/-- The two events of exploration control. -/
inductive Exploration where
  | explorationLimit
  | cleanNoArtifact
  deriving DecidableEq

/-- `KNOWN_EVENTS`. -/
inductive Event where
  | accepted
  | dispatchStarted
  | needsReplan
  | exploration (kind : Exploration)
  | workerCompaction
  | pmRefined
  | architectRefined
  | freshWorkerAssigned
  | completed
  | stop (event : StopEvent)
  deriving DecidableEq

def Event.text : Event → String
  | accepted => "accepted"
  | dispatchStarted => "dispatch-started"
  | needsReplan => "needs-replan"
  | exploration .explorationLimit => "exploration-limit"
  | exploration .cleanNoArtifact => "clean-no-artifact"
  | workerCompaction => "worker-compaction"
  | pmRefined => "pm-refined"
  | architectRefined => "architect-refined"
  | freshWorkerAssigned => "fresh-worker-assigned"
  | completed => "completed"
  | stop event => event.text

def knownEvents : List Event :=
  [.accepted, .dispatchStarted, .needsReplan, .exploration .explorationLimit,
    .exploration .cleanNoArtifact, .workerCompaction, .pmRefined, .architectRefined,
    .freshWorkerAssigned, .completed, .stop .modelMismatch, .stop .controlLoss,
    .stop .securityOrAuthorityAmbiguity, .stop .outOfScopeMutation, .stop .taintedMutation,
    .stop .operatorTrigger]

/-- The other names of `accepted`. -/
def acceptedAliases : List String :=
  ["accept", "acceptance", "commitment-accepted", "commitment accepted"]

/-- `_coerce_event`, and the check that the event is known. -/
def coerceEvent (event : Json) : Except PyError Event :=
  match text? event with
  | none => .error (valueError "malformed event: must be a non-empty string")
  | some text =>
    if text = "" then .error (valueError "malformed event: must be a non-empty string")
    else if acceptedAliases.contains (lower (strip text)) then .ok .accepted
    else
      match knownEvents.find? fun known => known.text = lower (strip text) with
      | some known => .ok known
      | none => .error (valueError "malformed event: unknown event")

/-- What replanning reads of `_normalize_autonomous_policy`. -/
structure Policy where
  dispatchSoftCap : Nat
  dispatchSoftCapAction : String
  maxPmReplans : Nat
  maxArchitectCycles : Nat
  maxCompactions : Nat
  explorationLimit : Nat
  cleanNoArtifact : Nat
  freshWorkerReassignmentRequired : Bool
  freshWorkerReassignmentEvent : String
  liveReplayEnabled : Bool
  mainThreadSources : List String
  cleanAttributableRoute : String
  ambiguousRoute : String
  deriving DecidableEq

/-- `exploration_limits`. -/
def Policy.explorationCompactions : Exploration → Nat
  | .explorationLimit => policy.explorationLimit
  | .cleanNoArtifact => policy.cleanNoArtifact

/-- `_load_policy_section` of the policy that was given or of the repository's own. -/
def loadPolicySection (policy : Json) : Except PyError Json := do
  let policy ← ensureMapping "policy" policy
  let sizing ← ensureMapping "policy.work_sizing" (policy.value "work_sizing")
  if sizing.value "version" ≠ .int 1 ∧ sizing.value "version" ≠ .str "1" then
    .error (valueError "malformed policy: work_sizing.version must be 1")
  let enforcement ← ensureMapping "policy.work_sizing.enforcement" (sizing.value "enforcement")
  let foundation ← ensureMapping "policy.work_sizing.enforcement.foundation-canary"
    (enforcement.value "foundation-canary")
  ensureMapping "policy.work_sizing.enforcement.foundation-canary.autonomous_replanning"
    (foundation.value "autonomous_replanning")

def policyPath (field : String) : String := "policy.autonomous_replanning." ++ field

def policyNames (field : String) (required : List String) (error : String) :
    Except PyError Unit := do
  let names ← ensureNonemptyList (policyPath field) (autonomous.value field)
  setOf names
  if includes names required = false then .error (valueError error)

/-- One of the `exploration_limits`. -/
def explorationCompactions (limits : Json) (event : String) : Except PyError Nat := do
  let path := policyPath ("exploration_limits[" ++ event ++ "]")
  let eventLimits ← ensureMapping path (limits.value event)
  ensureInt (path ++ ".max_compactions") (eventLimits.value "max_compactions")

/-- `refined_child_budgeting`, which only has to be there. -/
def refinedChildBudgeting : Except PyError Unit := do
  let budgeting ← ensureMapping (policyPath "refined_child_budgeting")
    (autonomous.value "refined_child_budgeting")
  let field := fun name => policyPath ("refined_child_budgeting." ++ name)
  let _ ← ensureNonemptyStr (field "materially_refined_child")
    (budgeting.value "materially_refined_child")
  let _ ← ensureNonemptyStr (field "immutable_retry") (budgeting.value "immutable_retry")
  let _ ← ensureBool (field "cumulative_lineage_usage_required")
    (budgeting.value "cumulative_lineage_usage_required")

/-- `fresh-worker-reassignment`: whether it is required, and by which event. -/
def freshWorkerReassignment : Except PyError (Bool × String) := do
  let reassignment ← ensureMapping (policyPath "fresh-worker-reassignment")
    (autonomous.value "fresh-worker-reassignment")
  match reassignment.value "required" with
  | .bool required => do
      let event ← ensureNonemptyStr (policyPath "fresh-worker-reassignment.event")
        (reassignment.value "event")
      return (required, event)
  | _ => .error (valueError ("malformed policy: autonomous_replanning.fresh-worker-reassignment." ++
      "required must be a boolean"))

/-- `operator_required_for`, which lists every protected change type. -/
def operatorRequiredFor : Except PyError Unit := do
  let required ← ensureNonemptyList (policyPath "operator_required_for")
    (autonomous.value "operator_required_for")
  setOf required
  if required ≠ ChangeType.all.map fun changeType => .str changeType.text then
    .error (valueError ("malformed policy: autonomous_replanning.operator_required_for must " ++
      "contain every supported protected change category exactly once"))

def requiredMainThreadRuntimeFields : List String :=
  ["model", "effort", "source", "recommended_effort", "recommendation_reason", "advisory",
    "user_selected_effort_retained"]

/-- A flag of `main_thread_effort` that has one legal value. -/
def mainThreadFlag (effort : Json) (field : String) (legal : Bool) : Except PyError Unit := do
  let flag ← ensureBool (policyPath ("main_thread_effort." ++ field)) (effort.value field)
  if flag ≠ legal then
    .error (valueError ("malformed policy: main_thread_effort." ++ field ++ " must be " ++
      (if legal then "true" else "false")))

def requireRuntimeFields (fields : List String) : Except PyError Unit :=
  match requiredMainThreadRuntimeFields.find? (!fields.contains ·) with
  | some field => .error (valueError
      ("malformed policy: main_thread_effort.required_runtime_fields must include " ++ field))
  | none => .ok ()

/-- `main_thread_effort` up to its lists. -/
def mainThreadEffort : Except PyError Json := do
  let effort ← ensureMapping (policyPath "main_thread_effort") (autonomous.value "main_thread_effort")
  let fields ← ensureStrList (policyPath "main_thread_effort.required_runtime_fields")
    (effort.value "required_runtime_fields")
  requireRuntimeFields fields
  mainThreadFlag effort "recommendation_advisory" true
  mainThreadFlag effort "user_selection_authoritative" true
  mainThreadFlag effort "automatic_effort_change" false
  mainThreadFlag effort "effort_is_execution_gate" false
  mainThreadFlag effort "effort_is_authority_boundary" false
  return effort

/-- `worker_compaction`: the routes of clean and of ambiguous compactions. -/
def workerCompaction (compaction : Json) : Except PyError (String × String) := do
  let text := fun field =>
    ensureNonemptyStr (policyPath ("worker_compaction." ++ field)) (compaction.value field)
  let _ ← text "affected_worker_action"
  let _ ← ensureStrList (policyPath "worker_compaction.clean_attributable_requires")
    (compaction.value "clean_attributable_requires")
  let clean ← text "clean_attributable_route"
  let _ ← text "retained_artifact_disposition"
  let ambiguous ← text "ambiguous_route"
  let _ ← text "effort_escalation"
  return (clean, ambiguous)

def normalizeAutonomousPolicy (policy : Json) : Except PyError Policy := do
  let autonomous ← loadPolicySection policy
  policyNames autonomous "states" requiredStates
    "malformed policy: autonomous_replanning.states must include required replanning states"
  policyNames autonomous "events" (knownEvents.map Event.text)
    "malformed policy: autonomous_replanning.events missing required names"
  policyNames autonomous "telemetry_fields"
    ["tool_calls", "runtime_seconds", "dispatches", "compactions"]
    ("malformed policy: telemetry_fields must include " ++
      "tool_calls/runtime_seconds/dispatches/compactions")
  let _ ← ensureNonemptyList (policyPath "protected_stop_reasons")
    (autonomous.value "protected_stop_reasons")
  let _ ← ensureList (policyPath "continuation_requires") (autonomous.value "continuation_requires")
  let limits ← ensureMapping (policyPath "exploration_limits") (autonomous.value "exploration_limits")
  if (limits.get? "exploration-limit").isNone ∨ (limits.get? "clean-no-artifact").isNone then
    .error (valueError ("malformed policy: exploration_limits must include exploration-limit and " ++
      "clean-no-artifact"))
  let explorationLimit ← explorationCompactions limits "exploration-limit"
  let cleanNoArtifact ← explorationCompactions limits "clean-no-artifact"
  refinedChildBudgeting autonomous
  let reassignment ← freshWorkerReassignment autonomous
  operatorRequiredFor autonomous
  let effort ← mainThreadEffort autonomous
  let compaction ← ensureMapping (policyPath "worker_compaction") (autonomous.value "worker_compaction")
  let limit := fun field => ensureInt (policyPath field) (autonomous.value field)
  let dispatchSoftCap ← limit "dispatch_soft_cap"
  let dispatchSoftCapAction ← ensureNonemptyStr (policyPath "dispatch_soft_cap_action")
    (autonomous.value "dispatch_soft_cap_action")
  let maxPmReplans ← limit "max_pm_replans"
  let maxArchitectCycles ← limit "max_architect_cycles"
  let maxCompactions ← limit "max_compactions"
  let _ ← limit "tool_calls_extra"
  let _ ← limit "runtime_seconds_extra"
  let liveReplayEnabled ← ensureBool (policyPath "live_replay_enabled")
    (autonomous.value "live_replay_enabled")
  let _ ← ensureStrList (policyPath "main_thread_effort.capture_at") (effort.value "capture_at")
  let mainThreadSources ← ensureStrList (policyPath "main_thread_effort.sources")
    (effort.value "sources")
  let routes ← workerCompaction compaction
  return {
    dispatchSoftCap, dispatchSoftCapAction, maxPmReplans, maxArchitectCycles, maxCompactions,
    explorationLimit, cleanNoArtifact
    freshWorkerReassignmentRequired := reassignment.1
    freshWorkerReassignmentEvent := reassignment.2
    liveReplayEnabled, mainThreadSources
    cleanAttributableRoute := routes.1
    ambiguousRoute := routes.2 }

structure Counters where
  dispatches : Nat
  toolCallsUsed : Nat
  runtimeSecondsUsed : Nat
  contextCompactions : Nat
  pmReplansUsed : Nat
  architectCyclesUsed : Nat
  deriving DecidableEq

def Counters.json (counters : Counters) : Json :=
  .obj [("dispatches", .nat counters.dispatches), ("tool_calls_used", .nat counters.toolCallsUsed),
    ("runtime_seconds_used", .nat counters.runtimeSecondsUsed),
    ("context_compactions", .nat counters.contextCompactions),
    ("pm_replans_used", .nat counters.pmReplansUsed),
    ("architect_cycles_used", .nat counters.architectCyclesUsed)]

def normalizeCounters : Except PyError Counters := do
  let source ← ensureMapping path value
  ensureKnown path ["dispatches", "tool_calls_used", "runtime_seconds_used", "context_compactions",
    "pm_replans_used", "architect_cycles_used"] source
  let counter := fun field => ensureInt (path ++ "." ++ field) (getOr source field (.int 0))
  return ⟨← counter "dispatches", ← counter "tool_calls_used", ← counter "runtime_seconds_used",
    ← counter "context_compactions", ← counter "pm_replans_used",
    ← counter "architect_cycles_used"⟩

structure Allowance where
  toolCallsHard : Nat
  runtimeSecondsHard : Nat
  dispatchSoftCap : Nat
  dispatchSoftCapAction : String
  maxPmReplans : Nat
  maxArchitectCycles : Nat
  maxCompactions : Nat
  deriving DecidableEq

def Allowance.json (allowance : Allowance) : Json :=
  .obj [("tool_calls_hard", .nat allowance.toolCallsHard),
    ("runtime_seconds_hard", .nat allowance.runtimeSecondsHard),
    ("dispatch_soft_cap", .nat allowance.dispatchSoftCap),
    ("dispatch_soft_cap_action", .str allowance.dispatchSoftCapAction),
    ("max_pm_replans", .nat allowance.maxPmReplans),
    ("max_architect_cycles", .nat allowance.maxArchitectCycles),
    ("max_compactions", .nat allowance.maxCompactions)]

/-- `_normalize_allowance`: two limits of the caller, the others of the policy. -/
def normalizeAllowance : Except PyError Allowance := do
  let source ← ensureMapping path value
  let toolCallsHard ← ensureInt (path ++ ".tool_calls_hard") (source.value "tool_calls_hard")
  let runtimeSecondsHard ← ensureInt (path ++ ".runtime_seconds_hard")
    (source.value "runtime_seconds_hard")
  return ⟨toolCallsHard, runtimeSecondsHard, policy.dispatchSoftCap, policy.dispatchSoftCapAction,
    policy.maxPmReplans, policy.maxArchitectCycles, policy.maxCompactions⟩

structure Mutation where
  outOfScope : Bool
  tainted : Bool
  deriving DecidableEq

def Mutation.json (mutation : Mutation) : Json :=
  .obj [("out_of_scope", .bool mutation.outOfScope), ("tainted", .bool mutation.tainted)]

def normalizeMutation : Except PyError Mutation := do
  let source ← ensureMapping path value
  ensureKnown path ["out_of_scope", "tainted"] source
  let flag := fun field => ensureBool (path ++ "." ++ field) (getOr source field (.bool false))
  return ⟨← flag "out_of_scope", ← flag "tainted"⟩

structure Latches where
  tainted : Bool
  contradictoryValidation : Bool
  deriving DecidableEq

def Latches.json (latches : Latches) : Json :=
  .obj [("tainted", .bool latches.tainted),
    ("contradictory_validation", .bool latches.contradictoryValidation)]

def normalizeTerminalLatches : Except PyError Latches := do
  let source ← ensureMapping path value
  ensureKnown path ["tainted", "contradictory_validation"] source
  let flag := fun field => ensureBool (path ++ "." ++ field) (getOr source field (.bool false))
  return ⟨← flag "tainted", ← flag "contradictory_validation"⟩

structure MainThread where
  model : String
  effort : String
  source : String
  recommendedEffort : String
  recommendationReason : String
  advisory : Bool
  userSelectedEffortRetained : Bool
  deriving DecidableEq

def MainThread.json (thread : MainThread) : Json :=
  .obj [("model", .str thread.model), ("effort", .str thread.effort), ("source", .str thread.source),
    ("recommended_effort", .str thread.recommendedEffort),
    ("recommendation_reason", .str thread.recommendationReason), ("advisory", .bool thread.advisory),
    ("user_selected_effort_retained", .bool thread.userSelectedEffortRetained)]

/-- The main thread as a state records it. -/
def mainThreadFields : Except PyError MainThread := do
  let source ← if value = .null then .ok .objEnd else ensureMapping path value
  let text := fun field => ensureNonemptyStr (path ++ "." ++ field) (source.value field)
  let flag := fun field => ensureBool (path ++ "." ++ field) (source.value field)
  return ⟨← text "model", ← text "effort", ← text "source", ← text "recommended_effort",
    ← text "recommendation_reason", ← flag "advisory", ← flag "user_selected_effort_retained"⟩

/-- `left or right` of two fields. -/
def either (left right : String) : Json :=
  if (value.value left).truthy then value.value left else value.value right

/-- `_extract_main_thread_turn_context`: a model and an effort, one of which is given. -/
def extractMainThreadTurnContext : Option (Json × Json) :=
  if value.isObject then
    let model := either value "attested_model" "model"
    let effort := either value "claude_effort" "effort"
    if model = .null ∧ effort = .null then none else some (model, effort)
  else none

/-- The main thread as the turn context attests it. -/
def applyTurnContext (evidence : Json) (thread : MainThread) : Except PyError MainThread :=
  match extractMainThreadTurnContext (evidence.value "turn_context") with
  | none => .ok thread
  | some context => do
      let model ← ensureNonemptyStr "evidence.turn_context.model" context.1
      let effort ← ensureNonemptyStr "evidence.turn_context.effort" context.2
      return { thread with
        model, effort, source := "trusted-turn-context", userSelectedEffortRetained := true,
        advisory := true }

def coalesceMainThreadField (key default : String) : Except PyError String :=
  match value.get? key with
  | none => .ok default
  | some given => ensureNonemptyStr ("evidence.main_thread." ++ key) given

def coalesceMainThreadBool (key : String) (default : Bool) : Except PyError Bool :=
  match value.get? key with
  | none => .ok default
  | some given => ensureBool ("evidence.main_thread." ++ key) given

def applyDeclaration (evidence : Json) (thread : MainThread) : Except PyError MainThread :=
  let declared := evidence.value "main_thread"
  if declared.isObject then do
    let model ← coalesceMainThreadField declared "model" thread.model
    let effort ← coalesceMainThreadField declared "effort" thread.effort
    let recommendedEffort ←
      coalesceMainThreadField declared "recommended_effort" thread.recommendedEffort
    let recommendationReason ←
      coalesceMainThreadField declared "recommendation_reason" thread.recommendationReason
    let advisory ← coalesceMainThreadBool declared "advisory" thread.advisory
    let retained ← coalesceMainThreadBool declared "user_selected_effort_retained"
      thread.userSelectedEffortRetained
    return ⟨model, effort, "user-declaration", recommendedEffort, recommendationReason, advisory,
      retained⟩
  else .ok thread

/-- `sorted(texts)!s` for texts without quotes. -/
def sortedText (texts : List String) : String :=
  "[" ++ joinWith ", " ((texts.dedup.mergeSort (· ≤ ·)).map fun text => "'" ++ text ++ "'") ++ "]"

/-- The main thread has to be one that the policy allows. -/
def requireMainThread (thread : MainThread) : Except PyError Unit := do
  if policy.mainThreadSources.contains thread.source = false then
    .error (malformed path (".source must be one of " ++ sortedText policy.mainThreadSources))
  if thread.advisory = false then
    .error (valueError "malformed payload: state.main_thread.advisory must match policy requirement")
  if thread.userSelectedEffortRetained = false then
    .error (valueError ("malformed payload: state.main_thread.user_selected_effort_retained must " ++
      "match policy requirement"))

def normalizeMainThread (evidence : Json)
    (allowRuntimeOverrides : Bool) (value : Json) : Except PyError MainThread := do
  let recorded ← mainThreadFields path value
  let thread ← if allowRuntimeOverrides then do
      applyDeclaration evidence (← applyTurnContext evidence recorded)
    else .ok recorded
  requireMainThread path policy thread
  return thread

end WorkOrchestration.Native.Replanning
