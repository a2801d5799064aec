import WorkOrchestration.Native.Control
import WorkOrchestration.Native.PoolContracts
import WorkOrchestration.Native.Recovery
import WorkOrchestration.Native.StopScope

/-!
# Pool states and decisions

The documents a coordinator seals after every step, with the validators that
every reader of such a document applies, the coordinator itself included.
-/

namespace WorkOrchestration.Native.PoolStates

open Lib.Checks Lib.Text Artifacts Authority StopScope Accounting
open Recovery PoolContracts
open Control (Callback)

/-- `POOL_STATUSES`. -/
inductive PoolStatus where
  | created
  | capabilityValidated
  | admitting
  | running
  | draining
  | partialDrain
  | interruptPending
  | completed
  | closed
  | controlFailed
  deriving DecidableEq

def PoolStatus.text : PoolStatus → String
  | created => "created"
  | capabilityValidated => "capability-validated"
  | admitting => "admitting"
  | running => "running"
  | draining => "draining"
  | partialDrain => "partial-drain"
  | interruptPending => "interrupt-pending"
  | completed => "completed"
  | closed => "closed"
  | controlFailed => "control-failed"

/-- `CHILD_STATUSES`. -/
inductive ChildStatus where
  | created
  | armed
  | running
  | interruptPending
  | interruptConfirmed
  | completed
  | closed
  | controlFailed
  deriving DecidableEq

namespace ChildStatus

def text : ChildStatus → String
  | created => "created"
  | armed => "armed"
  | running => "running"
  | interruptPending => "interrupt-pending"
  | interruptConfirmed => "interrupt-confirmed"
  | completed => "completed"
  | closed => "closed"
  | controlFailed => "control-failed"

def isActive : ChildStatus → Bool
  | armed | running | interruptPending | interruptConfirmed | completed => true
  | created | closed | controlFailed => false

def isTerminal : ChildStatus → Bool
  | closed | controlFailed => true
  | _ => false

end ChildStatus

/-- `RUNTIME_DISPOSITIONS`. -/
inductive RuntimeDisposition where
  | active
  | completed
  | failedContained
  | failedAmbiguous
  | interrupted
  deriving DecidableEq

def RuntimeDisposition.text : RuntimeDisposition → String
  | active => "active"
  | completed => "completed"
  | failedContained => "failed-contained"
  | failedAmbiguous => "failed-ambiguous"
  | interrupted => "interrupted"

/-- `FIRST_PROTECTED_FAULT_FIELDS`; the observed latency is kept in nanoseconds. -/
structure FirstProtectedFault where
  code : String
  operation : Option Callback
  observedCallbackLatencyNs : Option Nat
  certifiedCallbackMaxMs : Option Nat
  latchedStateSequence : Nat
  deriving DecidableEq

def FirstProtectedFault.json (fault : FirstProtectedFault) : Json :=
  .obj [("code", .str fault.code),
      ("operation", .optional (fun operation => .str operation.text) fault.operation),
      ("observed_callback_latency_ms",
        .optional (fun observed => .ratio observed 1000000) fault.observedCallbackLatencyNs),
      ("certified_callback_max_ms",
        .optional (fun maximum => .ratio maximum 1) fault.certifiedCallbackMaxMs),
      ("latched_state_sequence", .nat fault.latchedStateSequence)]

/-- `_validate_first_protected_fault`, with the state sequence where it is known. -/
def validateFirstProtectedFault (stateSequence : Option Nat) :
    Option FirstProtectedFault → List String
  | none => []
  | some fault =>
    reject (¬ Nonempty fault.code) "invalid-first-protected-fault-code" ++
    reject (fault.observedCallbackLatencyNs.isSome ≠ fault.certifiedCallbackMaxMs.isSome)
      "invalid-first-protected-fault-callback-pair" ++
    reject (fault.operation = none ∧
        (fault.observedCallbackLatencyNs ≠ none ∨ fault.certifiedCallbackMaxMs ≠ none))
      "invalid-first-protected-fault-callback-operation" ++
    reject (∃ current ∈ stateSequence, current < fault.latchedStateSequence)
      "invalid-first-protected-fault-future-state-sequence"

/-- The rules that tie a list of reasons to the first protected fault. -/
def faultReasonErrors (fault : Option FirstProtectedFault) (reasons : List String) : List String :=
  match fault with
  | none => reject (reasons ≠ []) "reasons-require-first-protected-fault"
  | some fault =>
    reject (reasons = []) "first-protected-fault-requires-reason" ++
    reject (reasons ≠ [] ∧ fault.code ∉ reasons) "first-protected-fault-reason-mismatch"

def ReasonRecord.json (record : ReasonRecord) : Json :=
  .obj [("reason", .str record.reason), ("authority_provenance", record.authorityProvenance.json),
      ("detected_by", .str record.detectedBy)]

def validateReasonRecords (records : List ReasonRecord) (reasons : List String)
    (authority : Provenance) : List String :=
  if ∃ reason ∈ reasons, reason = "" then []
  else if records.length ≠ reasons.length then ["reason-records-lineage-mismatch"]
  else if validateAuthorityProvenance authority ≠ [] then ["reason-records-authority-invalid"]
  else
    forEach (records.zip reasons) fun index entry =>
      reject (entry.1.reason ≠ entry.2) s!"reason-record[{index}]-reason-mismatch" ++
      reject (entry.1.authorityProvenance ≠ authority)
        s!"reason-record[{index}]-authority-mismatch" ++
      reject (entry.1.detectedBy = "") s!"reason-record[{index}]-detector-invalid"

/-- `CHILD_STATE_FIELDS`. -/
structure ChildState where
  ordinal : Nat
  childId : Name
  status : ChildStatus
  runtimeDisposition : RuntimeDisposition
  recoveryProjection : Option RecoveryProjection
  lastDeadlineNs : Option Nat
  nextDeadlineNs : Option Nat
  childStateSha256 : Option Digest
  childReceiptSha256 : Option Digest
  lastCumulativeUsage : Usage
  leaseId : Name

def ChildState.json (child : ChildState) : Json :=
  .obj [("ordinal", .nat child.ordinal), ("child_id", .str child.childId.text),
      ("status", .str child.status.text),
      ("runtime_disposition", .str child.runtimeDisposition.text),
      ("recovery_projection", .optional RecoveryProjection.json child.recoveryProjection),
      ("last_deadline_ns", .optional .nat child.lastDeadlineNs),
      ("next_deadline_ns", .optional .nat child.nextDeadlineNs),
      ("child_state_sha256", .optional Digest.json child.childStateSha256),
      ("child_receipt_sha256", .optional Digest.json child.childReceiptSha256),
      ("last_cumulative_usage", child.lastCumulativeUsage.json),
      ("lease_id", .str child.leaseId.text)]

/-- The values of `control_loss_scope`. -/
inductive ControlLossScope where
  | child
  | pool

def ControlLossScope.text : ControlLossScope → String
  | child => "child"
  | pool => "pool"

variable (contract : PoolContract) (state : PoolState)

/-- `POOL_STATE_FIELDS`; seconds that are a quotient of nanoseconds are kept as those. -/
structure PoolState where
  poolId : Name
  poolEpoch : Name
  contractSha256 : Digest
  stateSequence : Nat
  status : PoolStatus
  owner : Owner
  coordinatorEpoch : Nat
  schedulerCursor : Nat
  activeChildren : List Name
  terminalChildren : List Name
  children : List ChildState
  aggregateUsage : Usage
  poolStartedMonotonicNs : Nat
  poolWallNs : Nat
  workerSeconds : Nat
  pollOverheadNs : Nat
  leaseBindings : List Digest
  reasons : List String
  reasonRecords : List ReasonRecord
  firstProtectedFault : Option FirstProtectedFault
  controlLossScope : Option ControlLossScope
  stop : StopMetadata
  stateSha256 : Digest

namespace PoolState

/-- Everything but the state's own digest. -/
def body : Json :=
  .obj ([("state_type", .str "cwo-native-supervision-pool-state"), ("version", .int 1),
      ("schema", .str "schemas/native-supervision-pool-state.schema.json"),
      ("pool_id", .str state.poolId.text), ("pool_epoch", .str state.poolEpoch.text),
      ("contract_sha256", state.contractSha256.json),
      ("state_sequence", .nat state.stateSequence), ("status", .str state.status.text),
      ("owner", state.owner.json), ("coordinator_epoch", .nat state.coordinatorEpoch),
      ("scheduler_cursor", .nat state.schedulerCursor),
      ("active_children", .strings (state.activeChildren.map Name.text)),
      ("terminal_children", .strings (state.terminalChildren.map Name.text)),
      ("children", .arr (state.children.map ChildState.json)),
      ("aggregate_usage", state.aggregateUsage.json),
      ("pool_started_monotonic_ns", .nat state.poolStartedMonotonicNs),
      ("pool_wall_seconds", .ratio state.poolWallNs 1000000000),
      ("worker_seconds", .nat state.workerSeconds),
      ("poll_overhead_seconds", .ratio state.pollOverheadNs 1000000000),
      ("lease_bindings", .arr (state.leaseBindings.map Digest.json)),
      ("reasons", .strings state.reasons),
      ("reason_records", .arr (state.reasonRecords.map ReasonRecord.json)),
      ("first_protected_fault", .optional FirstProtectedFault.json state.firstProtectedFault),
      ("control_loss_scope", .optional (fun scope => .str scope.text) state.controlLossScope)] ++
      state.stop.fields)

/-- `seal_artifact(state, "state_sha256")`. -/
def sealed : PoolState := { state with stateSha256 := canonicalSha256 state.body }

end PoolState

/-- The rules about one child of a state. -/
def childStateErrors (index : Nat) (child : ChildState) : List String :=
  reject (child.ordinal ≠ index) s!"invalid-child[{index}]-ordinal" ++
  match child.runtimeDisposition, child.recoveryProjection with
  | .failedContained, some projection =>
    (validateFixedCohortConsumptionProjection projection).map fun error =>
      s!"child[{index}]-recovery:" ++ error
  | .failedContained, none =>
    [s!"child[{index}]-recovery:consumption-projection-must-be-exact-object"]
  | _, some _ => [s!"child[{index}]-recovery-projection-forbidden"]
  | _, none => []

/-- The binding of a recovery projection to the contract that admitted the child. -/
def ProjectionBound (child : ChildContract) (projection : RecoveryProjection) : Prop :=
  contract.fixedCohortSha256 = some projection.fixedCohortSha256 ∧ child.admission =
      some ⟨projection.beadId, projection.workUnitId, projection.admittedChildSha256⟩ ∧
    projection.recoveryClass = .individualChildFailure ∧
    projection.requiredAuthority = "pm-controller-plus-verified-containment" ∧
    projection.stopScope = "child"

instance (child : ChildContract) (projection : RecoveryProjection) :
    Decidable (ProjectionBound contract child projection) :=
  inferInstanceAs (Decidable (_ ∧ _))

/-- The rules that compare the children of a state with an admitted contract. -/
def projectionErrors (children : List ChildState) : List String :=
  if contract.version = .admittedV2 then
    forEach (children.zip contract.children) fun index entry =>
      match entry.1.runtimeDisposition, entry.1.recoveryProjection with
      | .failedContained, some projection =>
        reject (¬ ProjectionBound contract entry.2 projection)
          s!"child[{index}]-recovery-projection-contract-mismatch"
      | _, _ => []
  else []

/-- The rules that compare a state with its contract. -/
def stateContractErrors (children : List ChildState) : List String :=
  reject (state.poolId ≠ contract.poolId) "state-pool-id-mismatch" ++
  reject (state.poolEpoch ≠ contract.poolEpoch) "state-pool-epoch-mismatch" ++
  reject (state.contractSha256 ≠ contract.contractSha256) "state-contract-sha256-mismatch" ++
  reject (state.owner ≠ contract.owner) "state-owner-mismatch" ++
  reject (children.map ChildState.childId ≠ contract.childIds) "state-child-order-mismatch" ++
  projectionErrors contract children ++
  reject (contract.childIds ≠ [] ∧ contract.childIds.length ≤ state.schedulerCursor)
    "scheduler-cursor-out-of-range"

def validatePoolState (contract : Option PoolContract) (state : PoolState) : List String :=
  let sized := 1 ≤ state.children.length ∧
    state.children.length ≤ CapacityLimits.repository.hardMaxActiveWorkers
  let children := if sized then state.children else []
  let childIds := children.map ChildState.childId
  let finishedErrors := fun (status : PoolStatus) (error : String) =>
    reject (state.status = status ∧
      ¬ (state.terminalChildren ⊆ childIds ∧ childIds ⊆ state.terminalChildren)) error
  validateOwner state.owner ++
  reject (¬ state.activeChildren.Nodup) "duplicate-active-children" ++
  reject (¬ state.terminalChildren.Nodup) "duplicate-terminal-children" ++
  reject (∃ childId ∈ state.activeChildren, childId ∈ state.terminalChildren)
    "active-terminal-overlap" ++
  (if sized then forEach children childStateErrors else ["invalid-children"]) ++
  reject (¬ childIds.Nodup) "duplicate-child-id" ++
  reject (¬ (state.activeChildren ⊆ childIds ∧ state.terminalChildren ⊆ childIds))
    "active-or-terminal-child-unknown" ++
  reject (state.activeChildren ≠
      (children.filter fun child => child.status.isActive).map ChildState.childId)
    "active-child-status-mismatch" ++
  reject (state.terminalChildren ≠
      (children.filter fun child => child.status.isTerminal).map ChildState.childId)
    "terminal-child-status-mismatch" ++
  reject (state.aggregateUsage ≠ usageSum (children.map ChildState.lastCumulativeUsage))
    "aggregate-usage-mismatch" ++
  reject (state.workerSeconds ≠
      (usageSum (children.map ChildState.lastCumulativeUsage)).runtimeSeconds)
    "worker-seconds-mismatch" ++
  reject (¬ state.leaseBindings.Nodup) "duplicate-lease-binding" ++
  reject (∃ reason ∈ state.reasons, ¬ Nonempty reason) "invalid-reasons" ++
  validateFirstProtectedFault (some state.stateSequence) state.firstProtectedFault ++
  faultReasonErrors state.firstProtectedFault state.reasons ++
  validateStopMetadata state.stop ++
  validateReasonRecords state.reasonRecords state.reasons state.stop.scopeAuthority ++
  reject (state.status = .controlFailed ∧ state.reasons = []) "control-failed-requires-reason" ++
  finishedErrors .completed "completed-requires-terminal-cohort" ++
  finishedErrors .closed "closed-requires-terminal-cohort" ++
  finishedErrors .controlFailed "control-failed-requires-terminal-cohort" ++
  (match contract with
    | some contract => stateContractErrors contract state children
    | none => []) ++
  reject (state.stateSha256 ≠ canonicalSha256 state.body) "state-sha256-mismatch"

/-- `POOL_DECISIONS`. -/
inductive DecisionKind where
  | continue
  | warn
  | complete
  | interrupt
  | controlLost

def DecisionKind.text : DecisionKind → String
  | .continue => "continue"
  | warn => "warn"
  | complete => "complete"
  | interrupt => "interrupt"
  | controlLost => "control-lost"

/-- `POOL_ALLOWED_ACTIONS`. -/
inductive PoolAction where
  | admitting
  | step
  | interrupt
  | close
  | finalize
  | releaseLeases
  deriving DecidableEq

def PoolAction.text : PoolAction → String
  | admitting => "admit"
  | step => "step"
  | interrupt => "interrupt"
  | close => "close"
  | finalize => "finalize"
  | releaseLeases => "release-leases"

/-- `POOL_DECISION_FIELDS`; the observed latency is kept in nanoseconds. -/
structure PoolDecision where
  poolId : Name
  poolEpoch : Name
  contractSha256 : Digest
  stateSha256 : Digest
  decisionSequence : Nat
  decision : DecisionKind
  selectedChildId : Option Name
  deadlines : List (Name × Option Nat)
  observedCallbackLatencyNs : Option Nat
  aggregateUsage : Usage
  reasons : List String
  reasonRecords : List ReasonRecord
  requiredControlActions : List PoolAction
  stop : StopMetadata
  decisionSha256 : Digest

namespace PoolDecision

/-- Everything but the decision's own digest. -/
def body (decision : PoolDecision) : Json :=
  .obj ([("decision_type", .str "cwo-native-supervision-pool-decision"), ("version", .int 1),
      ("schema", .str "schemas/native-supervision-pool-decision.schema.json"),
      ("pool_id", .str decision.poolId.text), ("pool_epoch", .str decision.poolEpoch.text),
      ("contract_sha256", decision.contractSha256.json),
      ("state_sha256", decision.stateSha256.json),
      ("decision_sequence", .nat decision.decisionSequence),
      ("decision", .str decision.decision.text),
      ("selected_child_id", .optional (fun childId => .str childId.text) decision.selectedChildId),
      ("deadlines", .arr (decision.deadlines.map fun entry =>
        .obj [("child_id", .str entry.1.text), ("next_deadline_ns", .optional .nat entry.2)])),
      ("observed_callback_latency_ms",
        .optional (fun observed => .ratio observed 1000000) decision.observedCallbackLatencyNs),
      ("aggregate_usage", decision.aggregateUsage.json),
      ("reasons", .strings decision.reasons),
      ("reason_records", .arr (decision.reasonRecords.map ReasonRecord.json)),
      ("required_control_actions", .strings (decision.requiredControlActions.map PoolAction.text))] ++
      decision.stop.fields)

/-- `seal_artifact(value, "decision_sha256")`. -/
def sealed (decision : PoolDecision) : PoolDecision :=
  { decision with decisionSha256 := canonicalSha256 decision.body }

end PoolDecision

/-- `validate_pool_decision` against a contract and the state it was made in. -/
def validatePoolDecision (decision : PoolDecision) :
    List String :=
  reject (¬ (decision.deadlines.map Prod.fst).Nodup) "duplicate-deadline-child" ++
  reject (∃ reason ∈ decision.reasons, ¬ Nonempty reason) "invalid-reasons" ++
  reject (¬ decision.requiredControlActions.Nodup) "duplicate-required-control-action" ++
  validateStopMetadata decision.stop ++
  validateReasonRecords decision.reasonRecords decision.reasons decision.stop.scopeAuthority ++
  reject (decision.poolId ≠ contract.poolId) "decision-pool-id-mismatch" ++
  reject (decision.poolEpoch ≠ contract.poolEpoch) "decision-pool-epoch-mismatch" ++
  reject (decision.contractSha256 ≠ contract.contractSha256) "decision-contract-sha256-mismatch" ++
  reject (∃ childId ∈ decision.selectedChildId, childId ∉ contract.childIds)
    "selected-child-unknown" ++
  reject (decision.deadlines.map Prod.fst ≠ contract.childIds) "deadline-child-order-mismatch" ++
  reject (decision.stateSha256 ≠ state.stateSha256) "decision-state-sha256-mismatch" ++
  reject (decision.decisionSequence ≠ state.stateSequence) "decision-sequence-mismatch" ++
  reject (decision.aggregateUsage ≠ state.aggregateUsage) "decision-aggregate-usage-mismatch" ++
  reject (decision.stop ≠ state.stop) "decision-stop-metadata-mismatch" ++
  reject (decision.reasonRecords ≠ state.reasonRecords) "decision-reason-records-mismatch" ++
  reject (decision.decisionSha256 ≠ canonicalSha256 decision.body) "decision-sha256-mismatch"

/--
The fields of a control request that its validator compares.  What it has to say
about the shape of the document is `furtherErrors`.
-/
structure ControlRequest where
  requestId : Name
  poolId : String
  poolEpoch : String
  contractSha256 : Digest
  observedStateSequence : Nat
  observedStateSha256 : Digest
  reason : String
  furtherErrors : List String

/-- `validate_pool_control_request` against a contract and the current state. -/
def validatePoolControlRequest (request : ControlRequest) : List String :=
  request.furtherErrors ++
  reject (request.poolId ≠ contract.poolId.text) "control-request-pool-id-mismatch" ++
  reject (request.poolEpoch ≠ contract.poolEpoch.text) "control-request-pool-epoch-mismatch" ++
  reject (request.contractSha256 ≠ contract.contractSha256)
    "control-request-contract-sha256-mismatch" ++
  reject (request.poolId ≠ state.poolId.text) "control-request-state-pool-id-mismatch" ++
  reject (request.poolEpoch ≠ state.poolEpoch.text) "control-request-state-pool-epoch-mismatch" ++
  reject (request.contractSha256 ≠ state.contractSha256)
    "control-request-state-contract-sha256-mismatch" ++
  reject (state.stateSequence < request.observedStateSequence)
    "control-request-state-sequence-from-future" ++
  reject (request.observedStateSequence = state.stateSequence ∧
      request.observedStateSha256 ≠ state.stateSha256) "control-request-state-sha256-mismatch"

end WorkOrchestration.Native.PoolStates
