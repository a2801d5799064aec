import WorkOrchestration.Native.Replanning

/-!
# Transitions of a replanning state

What every event does. The evidence of a call is recorded before the event is looked at. Then a call stops
the lifecycle, or one branch decides the next state.
-/

namespace WorkOrchestration.Native.Replanning

open Lib.Text Lib.Programs Artifacts
open Artifacts.Json (hashable isOneOf)
open Authority ProtectedChanges OperatorApprovals

def needsReplanFields : List String :=
  ["reason_code", "completed_evidence", "discovered_facts", "files_touched", "mutation_state",
    "mutation_stopped", "remaining_outcomes", "remaining_files", "remaining_tests", "uncertainty",
    "scope_delta", "bounded_options", "recommendation", "cumulative_usage"]

def needsReplanReasons : List String :=
  ["hidden-coupling", "scope-growth", "unexpected-reasoning", "decision-uncertainty", "environment"]

def needsReplanDecisions : List String := ["pm-refine", "architect-reasoning", "reassign-spark"]

def needsReplanRoutes : List String := needsReplanDecisions ++ ["protected-stop"]

def visibleText (value : Json) : Bool :=
  match text? value with
  | some text => decide (Nonempty text)
  | none => false

def validStringList (nonempty : Bool) (value : Json) : Bool :=
  match value.elements? with
  | some items => (!items.isEmpty || !nonempty) && items.all visibleText
  | none => false

def nonnegativeInt : Json → Bool
  | .int value => decide (0 ≤ value)
  | _ => false

/-- `isinstance(value, bool)`. -/
def isBool : Json → Bool
  | .bool _ => true
  | _ => false

/-- A rule whose value is looked up in a set of texts. -/
def unlessOneOf (texts : List String) (value : Json) (error : String) : Except PyError (List String) := do
  hashable value
  return if isOneOf texts value then [] else [error]

def unlessHolds (condition : Bool) (error : String) : List String := if condition then [] else [error]

/-- The errors of `uncertainty`. -/
def uncertaintyErrors (uncertainty : Json) : Except PyError (List String) :=
  if uncertainty.isObject && uncertainty.hasExactly ["class", "decision", "detail"] then do
    let classErrors ← unlessOneOf ["bounded", "material", "architect"] (uncertainty.value "class")
      "replan.uncertainty.class is not recognized"
    let decisionErrors ← unlessOneOf needsReplanDecisions (uncertainty.value "decision")
      "replan.uncertainty.decision is not recognized"
    return classErrors ++ decisionErrors ++ unlessHolds (visibleText (uncertainty.value "detail"))
        "replan.uncertainty.detail must be non-empty" ++
      unlessHolds (uncertainty.value "class" ≠ .str "architect" ||
          uncertainty.value "decision" = .str "architect-reasoning")
        "architect uncertainty requires architect-reasoning"
  else .ok ["replan.uncertainty has an invalid shape"]

/-- The errors of `scope_delta`. -/
def scopeErrors (scope : Json) : List String :=
  if scope.isObject && scope.hasExactly ["outcomes_added", "files_added", "tests_added",
      "within_original_objective", "within_aggregate_allowance"] then
    unlessHolds (["outcomes_added", "files_added", "tests_added"].all fun field =>
        nonnegativeInt (scope.value field))
      "replan.scope_delta counts must be non-negative integers" ++
    unlessHolds (["within_original_objective", "within_aggregate_allowance"].all fun field =>
        isBool (scope.value field))
      "replan.scope_delta boundary flags must be booleans"
  else ["replan.scope_delta has an invalid shape"]

/-- The errors of `bounded_options` from a position on, and the identifiers they name. -/
def optionErrors : Nat → List Json → List Json → Except PyError (List String × List Json)
  | _, ids, [] => .ok ([], ids)
  | index, ids, option :: rest => do
      let named := "replan.bounded_options[" ++ toString index ++ "]"
      if option.isObject && option.hasExactly ["option_id", "route", "description", "tool_calls_p90",
          "runtime_seconds_p90"] then
        let id := option.value "option_id"
        let fresh := visibleText id && !ids.contains id
        let routeErrors ← unlessOneOf needsReplanRoutes (option.value "route")
          (named ++ ".route is invalid")
        let later ← optionErrors (index + 1) (if fresh then ids ++ [id] else ids) rest
        return (unlessHolds fresh (named ++ ".option_id is invalid") ++ routeErrors ++
          unlessHolds (visibleText (option.value "description"))
            (named ++ ".description is invalid") ++
          unlessHolds (["tool_calls_p90", "runtime_seconds_p90"].all fun field =>
              nonnegativeInt (option.value field))
            (named ++ " budget is invalid") ++ later.1, later.2)
      else
        let later ← optionErrors (index + 1) ids rest
        return ((named ++ " has an invalid shape") :: later.1, later.2)

/-- The errors of `bounded_options` and the identifiers that a recommendation may name. -/
def boundedOptionErrors (options : Json) : Except PyError (List String × List Json) :=
  match options.elements? with
  | some (first :: rest) => optionErrors 0 [] (first :: rest)
  | _ => .ok (["replan.bounded_options must be a non-empty list"], [])

/-- The fields of `cumulative_usage`. -/
def usageFields : List String :=
  ["tool_calls", "runtime_seconds", "context_compactions", "full_suite_runs"]

def validateNeedsReplanPayload (value : Json) : Except PyError (List String) :=
  if !value.isObject then .ok ["replan must be an object"]
  else if !value.hasExactly needsReplanFields then
    .ok ["replan must contain exactly the required typed fields"]
  else do
    let reasonErrors ← unlessOneOf needsReplanReasons (value.value "reason_code")
      "replan.reason_code is not recognized"
    let stateErrors ← unlessOneOf ["clean", "modified", "committed", "unknown"]
      (value.value "mutation_state") "replan.mutation_state is invalid"
    let uncertain ← uncertaintyErrors (value.value "uncertainty")
    let options ← boundedOptionErrors (value.value "bounded_options")
    let usage := value.value "cumulative_usage"
    return reasonErrors ++ unlessHolds (visibleText (value.value "completed_evidence"))
        "replan.completed_evidence must be a non-empty string" ++
      ["discovered_facts", "files_touched", "remaining_outcomes", "remaining_files",
        "remaining_tests"].flatMap (fun field =>
          unlessHolds (validStringList (field == "discovered_facts") (value.value field))
            ("replan." ++ field ++ " must be a list of non-empty strings")) ++
      unlessHolds (["remaining_outcomes", "remaining_files", "remaining_tests"].any fun field =>
          (value.value field).truthy)
        "replan must declare remaining work" ++
      stateErrors ++
      unlessHolds (value.value "mutation_stopped" = .bool true)
        "replan.mutation_stopped must be true" ++
      uncertain ++ scopeErrors (value.value "scope_delta") ++ options.1 ++
      unlessHolds (options.2.contains (value.value "recommendation"))
        "replan.recommendation must identify one bounded option" ++
      unlessHolds (usage.isObject && usage.hasExactly usageFields &&
          usageFields.all fun field => nonnegativeInt (usage.value field))
        "replan.cumulative_usage has an invalid shape"

/-- `PROTECTED_REPLANNING_CHANGE_FIELDS`. -/
def protectedChangeFields : List String :=
  ["objective", "requested_model", "security_context", "aggregate_allowance"]

/-- A proposal names protected fields, and at least one. -/
def requireChanges (changes : Json) : Except PyError Unit := do
  let unknown := unknownFields protectedChangeFields changes
  refuse (unknown ≠ []) ("malformed evidence: proposed_changes has unsupported field(s): " ++
    joinWith "," unknown)
  refuse (changes.keys = []) "malformed evidence: proposed_changes must not be empty"

/-- Whether an event refines a state. -/
def Event.refines : Event → Bool
  | pmRefined => true
  | architectRefined => true
  | _ => false

/-- `proposed_changes`, checked before anything is recorded. -/
def proposedChanges (event : Event) (evidence : Json) (receipts : Option Json) :
    Except PyError (Option Json) :=
  let proposed := evidence.value "proposed_changes"
  if proposed = .null then
    match receipts with
    | none => .ok none
    | some receipts => do
        let unexpected ←
          (canonicalJsonObject "operator-approval-receipts" receipts).mapError asValueError
        refuse (unexpected.keys ≠ []) "operator approval receipts require proposed_changes"
        return none
  else do
    refuse (event.refines = false)
      "malformed evidence: proposed_changes is valid only for refinement events"
    let changes ← (canonicalJsonObject "evidence.proposed_changes" proposed).mapError asValueError
    requireChanges changes
    return some changes

/-- `_usage_from_evidence`, added to what was used before. -/
def applyUsage (counters : Counters) (evidence : Json) : Except PyError Counters := do
  let delta := fun field => ensureInt ("evidence." ++ field) (getOr evidence field (.int 0))
  let toolCalls ← delta "tool_calls_delta"
  let runtimeSeconds ← delta "runtime_seconds_delta"
  let compactions ← delta "context_compactions_delta"
  return { counters with
    toolCallsUsed := counters.toolCallsUsed + toolCalls
    runtimeSecondsUsed := counters.runtimeSecondsUsed + runtimeSeconds
    contextCompactions := counters.contextCompactions + compactions }

/-- What a call records of its caller, its policy and its evidence. -/
def observe (source : State) (authority : VerifiedAuthority) (policy : Policy) (evidence : Json) :
    Except PyError State := do
  let mainThread ← normalizeMainThread "state.main_thread" policy evidence true
    source.mainThread.json
  let observed ← normalizeMutation "evidence.mutation"
    (getOr evidence "mutation" source.mutation.json)
  let contradictory ← ensureBool "evidence.contradictory_validation"
    (getOr evidence "contradictory_validation" (.bool false))
  let counters ← applyUsage source.counters evidence
  let tainted := source.latches.tainted || source.mutation.tainted || observed.tainted
  return { source with
    authority := authority.payload
    snapshot := policy.snapshot
    mainThread
    mutation := ⟨source.mutation.outOfScope || observed.outOfScope, tainted⟩
    latches := ⟨tainted, source.latches.contradictoryValidation || contradictory⟩
    counters }

variable (context : Context) (next : State)

/-- What a call works with once its arguments have been checked. -/
structure Context where
  source : State
  event : Event
  authority : VerifiedAuthority
  policy : Policy
  evidence : Json

namespace Context

/-- The state that the event leaves, with its receipt. -/
def conclude (decision : String) (next : State) : Except PyError State := do
  let receipt ← emitReceipt context.source.phase context.event.text context.authority decision next
  return { next with receipt }

/-- `_to_protected_stop`. -/
def protectedStop (context : Context) (next : State) (reasonCodes : List String)
    (nextAction : String) : Except PyError State :=
  context.conclude "protected-stop" { next with phase := .protectedStop, reasonCodes, nextAction }

/-- `protected_stop` with its usual next action. -/
def stop (reasonCodes : List String) : Except PyError State :=
  context.protectedStop next reasonCodes "operator-review"

/-- The events of one branch are valid in one state only. -/
def validFrom (phases : List Phase) (message : String) : Except PyError Unit :=
  refuse (phases.contains context.source.phase = false) ("malformed event: " ++ message)

/-- A flag of the evidence with the type check that goes with it. -/
def evidenceBool (field : String) (default : Bool) : Except PyError Bool :=
  ensureBool ("evidence." ++ field) (getOr context.evidence field (.bool default))

/-- A flag of the evidence that counts by its truth value. -/
def evidenceTruth (field : String) : Bool := (getOr context.evidence field (.bool false)).truthy

def accepted (context : Context) (next : State) : Except PyError State := do
  context.validFrom [.planned, .commitmentRequired]
    "accepted is valid only from planned or commitment-required"
  match getOr context.evidence "commitment_accepted" (.bool true) with
  | .bool true =>
    context.conclude "advance" { next with
      phase := .dispatchable
      nextAction := "dispatch"
      reasonCodes := ["commitment-accepted"] }
  | .bool false => context.stop next ["invalid-trusted-evidence"]
  | _ => .error (valueError
      "malformed evidence: commitment_accepted must be a boolean when provided")

/-- What follows from a dispatch that has been counted. -/
def afterDispatch : Except PyError State :=
  context.conclude "advance" { next with
    phase := .executing
    reasonCodes := "dispatch-started" ::
      (if next.remainingDispatchCapacity < 0 then ["dispatch-soft-cap-exceeded"] else [])
    nextAction := if next.remainingDispatchCapacity < 0 then "pm-architect-review"
      else next.allowance.dispatchSoftCapAction }

/-- `dispatch-started`. -/
def dispatchStarted : Except PyError State := do
  context.validFrom [.dispatchable] "dispatch-started is valid only from dispatchable"
  context.afterDispatch { next with
    counters := { next.counters with dispatches := next.counters.dispatches + 1 } }

/-- A flag of the evidence that is checked without a path. -/
def reportedBool (field : String) (default : Bool) : Except PyError Bool :=
  match getOr context.evidence field (.bool default) with
  | .bool value => .ok value
  | _ => .error (valueError ("malformed evidence: " ++ field ++ " must be a boolean"))

def compactionReasons (trusted contained : Bool) : List String :=
  unlessHolds trusted "invalid-trusted-evidence" ++
  unlessHolds next.modelMatch "model-mismatch" ++
  unlessHolds next.controlHealthy "control-loss" ++
  unlessHolds contained "affected-worker-containment" ++
  unlessHolds (!next.mutation.outOfScope) "out-of-scope-mutation" ++
  unlessHolds (!next.mutation.tainted) "tainted-mutation" ++
  unlessHolds (!context.evidenceTruth "security_changed") "security-or-authority-change" ++
  unlessHolds (!context.evidenceTruth "authority_changed") "security-or-authority-change"

/-- What follows from the health that was reported with a compaction. -/
def afterCompaction (trusted contained : Bool) :
    Except PyError State :=
  if context.compactionReasons next trusted contained = [] then
    context.conclude "replan" { next with
      phase := .architectRealignment
      nextAction := context.policy.cleanAttributableRoute
      reasonCodes := ["clean-attributable-compaction", "event:" ++ context.event.text] }
  else
    context.protectedStop next
      (context.compactionReasons next trusted contained ++ ["main-thread-adjudication"])
      context.policy.ambiguousRoute

/-- `worker-compaction`. -/
def workerCompaction : Except PyError State := do
  context.validFrom [.executing] "worker-compaction is valid only from executing"
  let mainThread ← normalizeMainThread "state.main_thread" context.policy .objEnd false
    context.source.mainThread.json
  let trusted ← context.reportedBool "trusted_evidence" false
  let exactModel ← context.reportedBool "exact_model" next.modelMatch
  let controlHealthy ← context.reportedBool "control_healthy" next.controlHealthy
  let contained ← context.reportedBool "affected_worker_contained" false
  context.afterCompaction { next with mainThread, modelMatch := exactModel, controlHealthy } trusted
    contained

/-- The reported usage is the recorded one. -/
def usageMatches (replan : Json) (counters : Counters) : Bool :=
  let usage := replan.value "cumulative_usage"
  usage.value "tool_calls" = .nat counters.toolCallsUsed &&
    usage.value "runtime_seconds" = .nat counters.runtimeSecondsUsed &&
    usage.value "context_compactions" = .nat counters.contextCompactions

/-- `value > bound` of an integer. -/
def exceeds (value : Json) (bound : Int) : Bool :=
  match value with
  | .int value => decide (bound < value)
  | _ => false

/-- An option that goes on asks for more than is left. -/
def optionExceeds (option : Json) : Bool :=
  option.value "route" ≠ .str "protected-stop" &&
    (exceeds (option.value "tool_calls_p90") next.remainingAllowance.1 ||
      exceeds (option.value "runtime_seconds_p90") next.remainingAllowance.2)

/-- The reasons for which a valid report stops the lifecycle. -/
def replanStops (replan : Json) (next : State) : List String :=
  let scope := replan.value "scope_delta"
  if usageMatches replan next.counters = false then ["invalid-needs-replan-evidence"]
  else if (scope.value "within_original_objective").truthy = false then ["objective-change"]
  else if (scope.value "within_aggregate_allowance").truthy = false then
    ["aggregate-allowance-exhausted"]
  else if ((replan.value "bounded_options").elements?.getD []).any (optionExceeds next) then
    ["invalid-needs-replan-evidence"]
  else []

/-- `str(replan["reason_code"])`. -/
def replanReasonCode (replan : Json) : String := (text? (replan.value "reason_code")).getD ""

/-- The realignment that a valid report asks for. -/
def realign (replan : Json) : Except PyError State :=
  if (replan.value "uncertainty").value "decision" = .str "architect-reasoning" then
    context.conclude "replan" { next with
      phase := .architectRealignment
      nextAction := "request-architect-refinement"
      reasonCodes := ["worker-needs-replan", replanReasonCode replan, "architect-reasoning-required"] }
  else if context.policy.maxPmReplans ≤ next.counters.pmReplansUsed then
    context.stop next ["pm-replan-exhausted"]
  else
    context.conclude "replan" { next with
      phase := .pmRealignment
      counters := { next.counters with pmReplansUsed := next.counters.pmReplansUsed + 1 }
      nextAction := "request-pm-refinement"
      reasonCodes := ["worker-needs-replan", replanReasonCode replan] }

/-- What is reported of the trust in the evidence, the model and the control. -/
structure Health where
  trusted : Bool
  exactModel : Bool
  controlHealthy : Bool

/-- The reasons for which a report stops the lifecycle before its options are looked at. -/
def replanReasons (health : Health) (replanErrors : List String) : List String :=
  unlessHolds health.trusted "invalid-trusted-evidence" ++
  unlessHolds health.exactModel "model-mismatch" ++
  unlessHolds health.controlHealthy "control-loss" ++
  unlessHolds (!next.mutation.outOfScope) "out-of-scope-mutation" ++
  unlessHolds (!next.mutation.tainted) "tainted-mutation" ++
  unlessHolds (next.counters.contextCompactions ≤ next.allowance.maxCompactions) "compaction" ++
  unlessHolds replanErrors.isEmpty "invalid-needs-replan-evidence"

/-- What follows from the health that was reported with `needs-replan`. -/
def afterReport (health : Health) (replanErrors : List String) :
    Except PyError State :=
  if replanReasons next health replanErrors ≠ [] then
    context.stop next (replanReasons next health replanErrors)
  else if replanStops (context.evidence.value "replan") next ≠ [] then
    context.stop next (replanStops (context.evidence.value "replan") next)
  else context.realign next (context.evidence.value "replan")

/-- `needs-replan`. -/
def needsReplan : Except PyError State := do
  context.validFrom [.executing] "needs-replan is valid only from executing"
  let trusted ← context.evidenceBool "trusted_evidence" false
  let exactModel ← context.evidenceBool "exact_model" next.modelMatch
  let controlHealthy ← context.evidenceBool "control_healthy" next.controlHealthy
  let replanErrors ← validateNeedsReplanPayload (context.evidence.value "replan")
  context.afterReport { next with
    modelMatch := next.modelMatch && exactModel
    controlHealthy := next.controlHealthy && controlHealthy } ⟨trusted, exactModel, controlHealthy⟩
    replanErrors

def explorationReasons (kind : Exploration) (next : State) (health : Health) :
    List String :=
  unlessHolds health.trusted "invalid-trusted-evidence" ++
  unlessHolds health.exactModel "model-mismatch" ++
  unlessHolds health.controlHealthy "control-loss" ++
  unlessHolds (!next.mutation.outOfScope) "out-of-scope-mutation" ++
  unlessHolds (!next.mutation.tainted) "tainted-mutation" ++
  unlessHolds (!context.evidenceTruth "objective_changed") "objective-change" ++
  unlessHolds (!context.evidenceTruth "security_changed") "security-or-authority-change" ++
  unlessHolds (!context.evidenceTruth "authority_changed") "security-or-authority-change" ++
  unlessHolds (next.counters.contextCompactions ≤ context.policy.explorationCompactions kind)
    "compaction" ++
  unlessHolds (next.counters.pmReplansUsed < context.policy.maxPmReplans) "pm-replan-exhausted"

/-- What follows from the health that was reported with an event of exploration control. -/
def afterExploration (kind : Exploration) (next : State) (health : Health) :
    Except PyError State :=
  if context.explorationReasons kind next health = [] then
    context.conclude "replan" { next with
      phase := .pmRealignment
      counters := { next.counters with pmReplansUsed := next.counters.pmReplansUsed + 1 }
      nextAction := "request-pm-refinement"
      reasonCodes := ["exploration-limit-trigger", "event:" ++ context.event.text] }
  else context.stop next (context.explorationReasons kind next health)

/-- `exploration-limit` and `clean-no-artifact`. -/
def exploration (context : Context) (kind : Exploration) (next : State) : Except PyError State := do
  context.validFrom [.executing] "exploration-control events are valid only from executing"
  let trusted ← context.evidenceBool "trusted_evidence" true
  let exactModel ← context.evidenceBool "exact_model" next.modelMatch
  let controlHealthy ← context.evidenceBool "control_healthy" next.controlHealthy
  context.afterExploration kind { next with
    modelMatch := exactModel
    controlHealthy := next.controlHealthy && controlHealthy } ⟨trusted, exactModel, controlHealthy⟩

/-- `fresh-worker-assigned`. -/
def freshWorkerAssigned : Except PyError State := do
  context.validFrom [.reassignmentReady]
    "fresh-worker-assigned is valid only from reassignment-ready"
  context.conclude "advance" { next with
    phase := .dispatchable
    nextAction := "dispatch"
    reasonCodes := [context.policy.freshWorkerReassignmentEvent] }

def completed (context : Context) (next : State) : Except PyError State := do
  context.validFrom [.executing] "completed is valid only from executing"
  if context.evidenceTruth "completed" then
    context.conclude "complete" { next with
      phase := .completed, nextAction := "finished", reasonCodes := ["completed"] }
  else context.stop next ["invalid-completion-evidence"]

end Context

variable (fromIsoformat : String → Parsed) {σ : Type}

/-- `authorize_assessment` of an assessment, with the receipts and the nonces that were used. -/
abbrev Authorizer (σ : Type) := Assessment → Json → List Json → EStateM PyError σ (List Approval)

/-- What an `AuthorityProvenanceError` in a program is raised again as. -/
def raisesValueError {α : Type} (program : EStateM PyError σ α) : EStateM PyError σ α :=
  tryCatch program fun error => throw (asValueError error)

def proposedText (changes : Json) (field current : String) : Except PyError String :=
  match changes.get? field with
  | none => .ok current
  | some value => ensureNonemptyStr ("evidence.proposed_changes." ++ field) value

variable (state : State)

/-- The allowance of a proposal, which may not be below what has been used. -/
def proposedAllowance (changes : Json) (policy : Policy) :
    Except PyError Allowance :=
  match changes.get? "aggregate_allowance" with
  | none => .ok state.allowance
  | some value => do
      let path := "evidence.proposed_changes.aggregate_allowance"
      let allowance ← ensureMapping path value
      refuse (allowance.hasExactly ["tool_calls_hard", "runtime_seconds_hard"] = false)
        ("malformed evidence: proposed aggregate_allowance must contain exactly " ++
          "tool_calls_hard and runtime_seconds_hard")
      let normalized ← normalizeAllowance path policy allowance
      refuse ({ state with allowance := normalized }.checkAggregateAllowance ≠ [])
        "malformed evidence: proposed aggregate allowance is below cumulative usage"
      return normalized

/-- The state as a proposal would have it. -/
def refinementCandidate (changes : Json) (policy : Policy) : Except PyError State := do
  requireChanges changes
  let objective ← proposedText changes "objective" state.objective
  let requestedModel ← proposedText changes "requested_model" state.requestedModel
  let securityContext ← proposedText changes "security_context" state.securityContext
  let allowance ← proposedAllowance state changes policy
  let candidate := { state with objective, requestedModel, securityContext, allowance }
  refuse (candidate = state) "malformed evidence: proposed_changes is an idempotent no-op"
  return candidate

def State.changeIdentity : Identity where
  artifactType := replanningStateType
  artifactId := replanningStateType ++ ":3"
  workUnitId := some state.workUnitId
  beadId := some state.beadId
  packetId := some state.packetId

/-- The assessment of a candidate; both documents carry the hash of the state before. -/
def assessRefinement (candidate : State) (stateSha256 : Json) : Except PyError Assessment := do
  let identity ← (protectedChangeIdentity state.changeIdentity).mapError asValueError
  (assessOperatorRequiredChanges (state.json stateSha256) (candidate.json stateSha256)
    .replanningRefinement identity).mapError asValueError

def approveRefinement (authorizer : Option (Authorizer σ)) (assessment : Assessment)
    (receipts : Json) (priorNonces : List Json) : EStateM PyError σ (List Approval) :=
  if assessment.requiredChangeTypes = [] then do
    ofExcept (refuse (receipts.keys ≠ [])
      "operator approval receipts are unexpected for this refinement")
    return []
  else
    match authorizer with
    | none => throw (valueError ("verified operator approval required for: " ++
        joinWith "," (assessment.requiredChangeTypes.map ChangeType.text)))
    | some authorize => raisesValueError do
        let approvals ← authorize assessment receipts priorNonces
        ofExcept (requireExactOperatorApprovalResults fromIsoformat approvals assessment)
        return approvals

/-- `_apply_operator_protected_refinement`: the refined state and the audits of its approvals. -/
def applyOperatorProtectedRefinement (stateSha256 changes : Json) (policy : Policy)
    (authorizer : Option (Authorizer σ)) (receipts : Option Json) :
    EStateM PyError σ (State × List Json) := do
  let candidate ← ofExcept (refinementCandidate state changes policy)
  let assessment ← ofExcept (assessRefinement state candidate stateSha256)
  let receipts ← ofExcept ((canonicalJsonObject "operator-approval-receipts"
    (receipts.getD .objEnd)).mapError asValueError)
  let approvals ← approveRefinement fromIsoformat authorizer assessment receipts
    (state.authorizations.map (Json.value "nonce"))
  let audit := approvals.map Approval.audit
  return ({ candidate with authorizations := state.authorizations ++ audit }, audit)

/-- The refinement that a call proposes, if it proposes one. -/
def refinement (stateSha256 : Json) (changes : Option Json) (policy : Policy)
    (authorizer : Option (Authorizer σ)) (receipts : Option Json) :
    EStateM PyError σ (State × List Json) :=
  match changes with
  | none => return (state, [])
  | some changes =>
    applyOperatorProtectedRefinement fromIsoformat state stateSha256 changes policy authorizer receipts

def refinementReasons (event : Event) (audit : List Json) : List String :=
  event.text :: audit.map fun approval =>
    "operator-approved:" ++ (text? (approval.value "change_type")).getD ""

def Policy.afterRefinement (policy : Policy) : String :=
  if policy.freshWorkerReassignmentRequired then "fresh-worker-assignment" else "operator-resume"

/-- The arguments of a call beside the state. -/
structure Request (σ : Type) where
  event : Json
  evidence : Json
  authority : VerifiedAuthority
  authorizer : Option (Authorizer σ)
  receipts : Option Json
  policy : Json

variable (context : Context) (next : State) (stateSha256 : Json) (changes : Option Json)
  (request : Request σ)

/-- `pm-refined`. -/
def pmRefined : EStateM PyError σ State := do
  ofExcept (context.validFrom [.pmRealignment] "pm-refined is valid only from pm-realignment")
  let requiresArchitect ← ofExcept (context.reportedBool "requires_architect_cycle" false)
  let refined ← refinement fromIsoformat next stateSha256 changes context.policy
    request.authorizer request.receipts
  ofExcept (context.conclude (if requiresArchitect then "replan" else "advance") { refined.1 with
      phase := if requiresArchitect then .architectRealignment else .reassignmentReady
      nextAction := if requiresArchitect then "request-architect-refinement"
        else context.policy.afterRefinement
      reasonCodes := refinementReasons context.event refined.2 })

/-- `architect-refined`. -/
def architectRefined : EStateM PyError σ State := do
  ofExcept (context.validFrom [.architectRealignment]
    "architect-refined is valid only from architect-realignment")
  if context.policy.maxArchitectCycles ≤ next.counters.architectCyclesUsed then
    ofExcept (context.stop next ["architect-cycle-exhausted"])
  else
    let refined ← refinement fromIsoformat next stateSha256 changes context.policy
      request.authorizer request.receipts
    ofExcept (context.conclude "advance" { refined.1 with
        counters := { refined.1.counters with
          architectCyclesUsed := refined.1.counters.architectCyclesUsed + 1 }
        phase := .reassignmentReady
        nextAction := context.policy.afterRefinement
        reasonCodes := refinementReasons context.event refined.2 })

/-- The flags for which a lifecycle stops whatever the event is. -/
def terminalReasons (next : State) : List String :=
  (if next.mutation.tainted then ["tainted-mutation"] else []) ++
    if next.latches.contradictoryValidation then ["contradictory-validation"] else []

/-- The reasons for which a call stops before it comes to the branch of its event. -/
def stopReasons (event : Event) (next : State) : List String :=
  if terminalReasons next ≠ [] then terminalReasons next
  else
    match event with
    | .stop event => [event.text]
    | _ => next.checkAggregateAllowance

def decideEvent : EStateM PyError σ State :=
  match context.event with
  | .accepted => ofExcept (context.accepted next)
  | .dispatchStarted => ofExcept (context.dispatchStarted next)
  | .needsReplan => ofExcept (context.needsReplan next)
  | .exploration kind => ofExcept (context.exploration kind next)
  | .workerCompaction => ofExcept (context.workerCompaction next)
  | .pmRefined => pmRefined fromIsoformat context next stateSha256 changes request
  | .architectRefined => architectRefined fromIsoformat context next stateSha256 changes request
  | .freshWorkerAssigned => ofExcept (context.freshWorkerAssigned next)
  | .completed => ofExcept (context.completed next)
  | .stop _ => throw (valueError "malformed event: unsupported transition")

/-- A call stops, or leaves the decision to the branch of its event. -/
def settle : EStateM PyError σ State :=
  if stopReasons context.event next ≠ [] then
    ofExcept (context.stop next (stopReasons context.event next))
  else decideEvent fromIsoformat context next stateSha256 changes request

variable (source : VerifiedState fromIsoformat) (request : Request σ)

/-- The checks of a call before it decides anything, and what it records. -/
def prepare : Except PyError (Context × State × Option Json) := do
  validateReplanningState fromIsoformat source.state source.stateSha256
  let event ← coerceEvent request.event
  requireMinimumAuthority request.authority event.minimumAuthority ("replanning-" ++ event.text)
  let policy ← normalizeAutonomousPolicy request.policy
  let evidence ← ensureMapping "evidence" request.evidence
  let changes ← proposedChanges event evidence request.receipts
  let next ← observe source.state request.authority policy evidence
  return (⟨source.state, event, request.authority, policy, evidence⟩, next, changes)

/-- `_transition_replanning_state` of a state that has been claimed. -/
def transitionState : EStateM PyError σ State := do
  let prepared ← ofExcept (prepare fromIsoformat source request)
  settle fromIsoformat prepared.1 prepared.2.1 source.stateSha256 prepared.2.2 request

/-- `transition_replanning_state` between the claim of its source and the publication of the
successor. -/
def transitionReplanningState : EStateM PyError σ (VerifiedState fromIsoformat) := do
  let next ← transitionState fromIsoformat source request
  ofExcept (mintSealedReplanningState fromIsoformat next)

end WorkOrchestration.Native.Replanning
