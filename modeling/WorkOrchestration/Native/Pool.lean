import WorkOrchestration.Native.PoolReceipts
import WorkOrchestration.Native.Scheduler

/-!
# The state of a pool coordinator

What a coordinator knows about its cohort, and the updates it makes of that knowledge: entering a fault,
containing a child, absorbing evidence, following a control turn. An update is a function of the state
alone; their order is the business of the coordinator's programs.
-/

namespace WorkOrchestration.Native.Pool

open List Lib.Checks Lib.Text Artifacts Authority StopScope Accounting
open Recovery PoolContracts PoolStates PoolLeases PoolReceipts
open Control

/-- `NativePoolError`. -/
def poolError (message : String) : PyError := ⟨.value, "NativePoolError", message⟩

/-- `CHILD_EVIDENCE_FIELDS`, with the correlation that `_normalize_child_evidence` checks. -/
structure ChildEvidence where
  stateSha256 : Digest
  usage : Usage
  protectedFault : Bool
  controlLoss : Bool
  failureClass : Option FailureClass
  recoveryEvidenceSha256 : Option Digest
  reasons : List String
  sessionDisposition : SessionDisposition
  artifactDisposition : ArtifactDisposition
  classified : failureClass.isSome = (protectedFault || controlLoss)
  evidenced : recoveryEvidenceSha256.isSome = (protectedFault || controlLoss)
  lossClass : controlLoss = true → failureClass = some .controlSecurityFailure
  spelled : ∀ reason ∈ reasons, reason ≠ ""

def childEvidenceFields : List String :=
  ["state_sha256", "usage", "protected_fault", "control_loss", "failure_class",
    "recovery_evidence_sha256", "reasons", "session_disposition", "artifact_disposition"]

/-- The exception of looking a value up in a set, when it has no hash. -/
def unhashable : Json → Option PyError
  | .arrEnd | .item .. => some ⟨.type, "TypeError", "unhashable type: 'list'"⟩
  | .objEnd | .field .. => some ⟨.type, "TypeError", "unhashable type: 'dict'"⟩
  | _ => none

/-- The choice that a field spells, if it spells one of the given words. -/
def choiceField {α : Type} (words : List (String × α)) (error : String) (value : Json) :
    Except PyError α :=
  match unhashable value with
  | some failure => .error failure
  | none =>
    match value with
    | .str text =>
      match words.lookup text with
      | some choice => .ok choice
      | none => .error (poolError error)
    | _ => .error (poolError error)

def boolField (value : Option Json) (error : String) : Except PyError Bool :=
  match value with
  | some (.bool flag) => .ok flag
  | _ => .error (poolError error)

def failureClassWords : List (String × FailureClass) :=
  FailureClass.all.map fun failureClass => (failureClass.text, failureClass)

def sessionWords : List (String × SessionDisposition) :=
  [("accepted", .accepted), ("accepted-with-warning", .acceptedWithWarning),
    ("quarantined", .quarantined)]

def artifactWords : List (String × ArtifactDisposition) :=
  [("accepted", .accepted), ("independent-validation-required", .independentValidationRequired),
    ("architect-adjudication-required", .architectAdjudicationRequired), ("rejected", .rejected)]

/-- A text of a list of reasons, or the complaint that it is none. -/
def reasonText : Json → Except PyError { reason : String // reason ≠ "" }
  | .str reason =>
    if spelled : reason ≠ "" then .ok ⟨reason, spelled⟩
    else .error (poolError "child-evidence-reasons-invalid")
  | _ => .error (poolError "child-evidence-reasons-invalid")

def reasonTexts (value : Json) : Except PyError (List { reason : String // reason ≠ "" }) :=
  match value.elements? with
  | some items => items.mapM reasonText
  | none => .error (poolError "child-evidence-reasons-invalid")

def normalizeChildEvidence (value : Json) : Except PyError ChildEvidence := do
  if !value.hasExactly childEvidenceFields then
    throw (poolError "child-evidence-fields-invalid")
  let field := fun name => (value.get? name).getD .null
  let some stateSha256 := Digest.ofJson? (field "state_sha256")
    | throw (poolError "child-evidence-state-sha256-invalid")
  let usage ← normalizeUsage (field "usage")
  let protectedFault ←
    boolField (value.get? "protected_fault") "child-evidence-protected-fault-invalid"
  let controlLoss ← boolField (value.get? "control_loss") "child-evidence-control-loss-invalid"
  let failureClass ←
    if field "failure_class" = .null then pure none
    else
      let failureClass ← choiceField failureClassWords "child-evidence-failure-class-invalid"
        (field "failure_class")
      pure (some failureClass)
  let recoveryEvidenceSha256 := Digest.ofJson? (field "recovery_evidence_sha256")
  if field "recovery_evidence_sha256" ≠ .null ∧ recoveryEvidenceSha256 = none then
    throw (poolError "child-evidence-recovery-sha256-invalid")
  if uncorrelated : (protectedFault || controlLoss) = true ∧
      (failureClass.isSome = false ∨ recoveryEvidenceSha256.isSome = false) then
    throw (poolError "child-evidence-fault-correlation-required")
  else if unprompted : (protectedFault || controlLoss) = false ∧
      (failureClass.isSome = true ∨ recoveryEvidenceSha256.isSome = true) then
    throw (poolError "child-evidence-fault-correlation-without-fault")
  else if mismatch : controlLoss = true ∧ failureClass ≠ some .controlSecurityFailure then
    throw (poolError "child-evidence-control-loss-class-mismatch")
  else
    let reasons ← reasonTexts (field "reasons")
    let sessionDisposition ← choiceField sessionWords
      "child-evidence-session-disposition-invalid" (field "session_disposition")
    let artifactDisposition ← choiceField artifactWords
      "child-evidence-artifact-disposition-invalid" (field "artifact_disposition")
    return {
      stateSha256 := stateSha256
      usage := usage
      protectedFault := protectedFault
      controlLoss := controlLoss
      failureClass := failureClass
      recoveryEvidenceSha256 := recoveryEvidenceSha256
      reasons := reasons.map Subtype.val
      sessionDisposition := sessionDisposition
      artifactDisposition := artifactDisposition
      classified := by grind
      evidenced := by grind
      lossClass := by grind
      spelled := by
        intro reason member
        obtain ⟨entry, _, rfl⟩ := mem_map.mp member
        exact entry.property }

def poolWideChildFaultReasonCodes : List String :=
  ["authority-violation", "contradictory-validation", "control-loss", "failed-ambiguous-dispatch",
    "forbidden-tool-activity", "mutation-attribution-ambiguous", "security-violation",
    "shared-mutation"]

variable (setup : Setup) (request : FaultRequest) (slot : Slot) (reason : String) (childId : Name)
  (core : Core)

/-- The code of a reason: its text before the first colon. -/
def isPoolWide : Bool := beforeColon reason ∈ poolWideChildFaultReasonCodes

/--
The arguments of a coordinator that its constructor accepts.  Callbacks whose
answers decide a run are no part of it.
-/
structure Setup where
  limits : CapacityLimits
  contract : PoolContract
  controlContracts : Name → ControlContract
  callbacks : Name → CallbackTable
  taskInputs : Name → String
  /-- the reservation and dispatch of an admitted pool -/
  admission : Option AdmissionEvidence
  preacquired : Name → Option Lease
  /-- the recovery store, its controller root and the resolver are present -/
  recoveryAuthority : Bool
  hasStateFile : Bool
  hasDecisionFile : Bool
  hasControlFile : Bool
  valid : validatePoolContract limits contract = []
  released : limits.isReleased contract.maxActiveWorkers
  callable : ∀ childId, ∀ entry ∈ callbacks childId, entry.2 = true
  controlValid : ∀ child ∈ contract.children,
    validateControlTurnContract (controlContracts child.childId) = []
  controlBound : ∀ child ∈ contract.children,
    (controlContracts child.childId).contractSha256 = child.controlContractSha256 ∧
      (controlContracts child.childId).stateFile = child.stateFile ∧
      (controlContracts child.childId).agentId = child.agentId.text ∧
      (controlContracts child.childId).controlTurnId = child.controlTurnId.text ∧
      (controlContracts child.childId).pollIntervalMs = contract.pollIntervalMs
  admittedVersion : admission.isSome = true ↔ contract.version = .admittedV2
  dispatchBound : ∀ evidence ∈ admission,
    evidence.dispatchErrors = [] ∧ evidence.poolContractSha256 = contract.contractSha256
  preacquiredNone : ∀ childId, admission = none → preacquired childId = none
  preacquiredLeases : admission.isSome = true → ∀ child ∈ contract.children,
    ∃ lease, preacquired child.childId = some lease ∧ lease.childId = child.childId ∧
      validateLease (some contract) lease = [] ∧ lease.lifecycleState = .acquired

namespace Setup

def childIds (setup : Setup) : List Name := setup.contract.childIds

/-- `requires_capability_receipt(max_active_workers)`. -/
def Concurrent : Prop := setup.limits.requiresCapabilityReceipt setup.contract.maxActiveWorkers

instance : Decidable setup.Concurrent := inferInstanceAs (Decidable (_ ∧ _))

/-- The certified maximum of a callback; there is none without a certification. -/
def certifiedMaxMs (callback : Callback) : Option Nat :=
  if setup.Concurrent then
    some (match callback with
      | .arm => 100
      | .sendInput => 275
      | .markDispatched => 100
      | .check => 200
      | .interrupt => 250
      | .close => 250
      | .finalize => 100)
  else none

/-- `_certified_scheduler_overhead_ms`. -/
def overheadMs : Nat := if setup.Concurrent then certifiedOverheadMs else 0

/-- `slack_ms` of the scheduling proof. -/
def slackMs : Int :=
  setup.contract.pollIntervalMs -
    (certifiedLifecycleMs + setup.contract.maxActiveWorkers * certifiedCheckMs +
      certifiedOverheadMs : Nat)

/-- `_slack_warning_active` after a callback of the given latency. -/
def slackWarning (callback : Callback) (latencyNs : Nat) : Bool :=
  if setup.Concurrent then
    if callback = .sendInput then decide (250 * 1000000 < latencyNs)
    else decide (setup.slackMs ≤ 0 ∨ setup.slackMs * 4 * 1000000 ≤ latencyNs * 5)
  else false

end Setup

/-- A child of `_read_only_fast_path_child_ids`. -/
def isFastPath (child : ChildContract) : Bool :=
  child.isolationClass == .readOnlyShared && child.expectedMutationMode == .readOnly &&
    child.declaredWritePaths == [] && child.integrationTargetPaths == []

/-- The fields of an entry of `self._state["children"]` that change during a run. -/
structure ChildRecord where
  status : ChildStatus
  runtimeDisposition : RuntimeDisposition
  recoveryProjection : Option RecoveryProjection
  lastDeadlineNs : Option Nat
  nextDeadlineNs : Option Nat
  childStateSha256 : Option Digest
  childReceiptSha256 : Option Digest
  lastCumulativeUsage : Usage

namespace ChildRecord

def initial : ChildRecord where
  status := .created
  runtimeDisposition := .active
  recoveryProjection := none
  lastDeadlineNs := none
  nextDeadlineNs := none
  childStateSha256 := none
  childReceiptSha256 := none
  lastCumulativeUsage := zeroUsage

def state (record : ChildRecord) (child : ChildContract) : ChildState where
  ordinal := child.ordinal
  childId := child.childId
  status := record.status
  runtimeDisposition := record.runtimeDisposition
  recoveryProjection := record.recoveryProjection
  lastDeadlineNs := record.lastDeadlineNs
  nextDeadlineNs := record.nextDeadlineNs
  childStateSha256 := record.childStateSha256
  childReceiptSha256 := record.childReceiptSha256
  lastCumulativeUsage := record.lastCumulativeUsage
  leaseId := child.leaseId

end ChildRecord

/-- Everything the coordinator keeps under the id of one child. -/
structure Slot where
  turn : Turn
  progress : Progress
  record : ChildRecord
  disposition : Disposition
  firstPoll : Bool
  submissionNs : Option Nat
  lastPollNs : Option Nat
  lease : Option Lease
  /-- membership in `_contained_fault_children` -/
  contained : Bool
  /-- membership in `_classified_fault_children` -/
  classified : Bool
  /-- membership in `_rejected_children` -/
  rejected : Bool
  /-- membership in `_read_only_fast_path_children` -/
  fastPath : Bool
  /-- membership in `_invalidated_read_only_fast_path_children` -/
  invalidated : Bool

def Slot.initial : Slot where
  turn := .create (setup.controlContracts childId) (setup.callbacks childId)
  progress := ⟨.pending, .start, false, none⟩
  record := .initial
  disposition := ⟨.active, .quarantined, .rejected⟩
  firstPoll := false
  submissionNs := none
  lastPollNs := none
  lease := setup.preacquired childId
  contained := false
  classified := false
  rejected := false
  fastPath := setup.contract.children.any fun child =>
    child.childId == childId && isFastPath child
  invalidated := false

/-- What the coordinator knows, without its clock and its history. -/
structure Core where
  slots : Name → Slot
  /-- the last sealed state -/
  state : PoolState
  schedulerCursor : Nat
  stop : VerifiedStop
  reasons : List String
  firstProtectedFault : Option FirstProtectedFault
  protectedFault : Bool
  controlFailed : Bool
  ledger : Ledger
  pollOrder : List Name
  admissionOrder : List Name
  terminalOrder : List Name
  maxPollGapNs : Nat
  lastMutationEvidence : MutationEvidence
  initialMutationFault : Bool
  deferredReadOnlyWorkspaceCheck : Bool
  terminalComparisonComplete : Bool
  controlRequestSeen : Bool
  receipt : Option PoolReceipt

namespace Core

/-- `self._state["children"]`. -/
def children (setup : Setup) (core : Core) : List ChildState :=
  setup.contract.children.map fun child => (core.slots child.childId).record.state child

/-- `self._state` between two seals: its children and its cursor are changed in place. -/
def liveState : PoolState :=
  { core.state with children := core.children setup, schedulerCursor := core.schedulerCursor }

def allTerminal : Bool :=
  setup.childIds.all fun childId => (core.slots childId).progress.status == .terminal

def statusAfterAction : PoolStatus :=
  if core.protectedFault = true ∧ core.allTerminal setup = false then .interruptPending
  else if core.allTerminal setup then if core.controlFailed then .controlFailed else .completed
  else if setup.childIds.any fun childId => (core.slots childId).contained then .partialDrain
  else if ! setup.childIds.all fun childId => (core.slots childId).firstPoll then .admitting
  else if setup.childIds.any fun childId => (core.slots childId).progress.status == .terminal then
    .draining
  else .running

/-- An update of what is kept under one id. -/
def updateSlot (childId : Name) (update : Slot → Slot) : Core :=
  { core with slots := Function.update core.slots childId (update (core.slots childId)) }

end Core

def addReason (reasons : List String) (reason : String) : List String :=
  if reason ≠ "" ∧ reason ∉ reasons then reasons ++ [reason] else reasons

def addReasons (reasons added : List String) : List String := added.foldl addReason reasons

/-- The keys of `FAULT_SCOPE_POLICY_CAPS`. -/
inductive FaultRule where
  | childFault
  | cohortBudget
  | cohortControl
  | executionIntegrity

namespace FaultRule

def text : FaultRule → String
  | childFault => "child-fault"
  | cohortBudget => "cohort-budget"
  | cohortControl => "cohort-control"
  | executionIntegrity => "execution-integrity"

/-- `FAULT_SCOPE_POLICY_CAPS`. -/
def cap : FaultRule → Scope
  | childFault => .child
  | cohortBudget => .cohort
  | cohortControl => .cohort
  | executionIntegrity => .executionPath

theorem cap_ne_publication (rule : FaultRule) : rule.cap ≠ .publication := by
  cases rule <;> decide

end FaultRule

/-- A callback that took longer than it was certified to. -/
structure Overrun where
  operation : Callback
  observedLatencyNs : Nat
  certifiedMaxMs : Nat

/-- The arguments of `_enter_fault`, with its defaults. -/
structure FaultRequest where
  reason : Name
  controlFailed : Bool
  overrun : Option Overrun := none
  requestedStopScope : Scope := .child
  scopeAuthority : Option VerifiedAuthority := none
  affectedChildId : Option Name := none
  scopePolicyRule : FaultRule := .childFault

/-- A single way of going on, under conditions given in order. -/
def onlyPath (path : Continuation) (conditions : List Name)
    (sorted : conditions.Pairwise (·.text < ·.text)) : PathSet where
  paths := [⟨path, none, conditions⟩]
  canonical := fun _ member => by rwa [mem_singleton.mp member]
  distinct := nodup_singleton _

/-- `replace-child` for the affected child, and `continue-cohort`. -/
def childPaths (affectedChildId : Option Name) : PathSet where
  paths :=
    [⟨.replaceChild, affectedChildId,
        [⟨"fault-contained", by decide⟩, ⟨"fresh-attempt", by decide⟩]⟩,
      ⟨.continueCohort, none, [⟨"healthy-peer-evidence-preserved", by decide⟩]⟩]
  canonical := by
    have sorted : ([⟨"fault-contained", by decide⟩, ⟨"fresh-attempt", by decide⟩] :
        List Name).Pairwise (·.text < ·.text) := by decide
    intro entry member
    rcases mem_cons.mp member with rfl | last
    · exact sorted
    · rw [mem_singleton.mp last]
      exact pairwise_singleton _ _
  distinct := by simp

/-- The ways of going on that a stop of the given scope leaves open. -/
def continuationPaths (scope : Scope) (affectedChildId : Option Name) : PathSet :=
  match scope with
  | .child => childPaths affectedChildId
  | .cohort =>
    onlyPath .retryCohort [⟨"fault-remediated", by decide⟩, ⟨"new-pool-epoch", by decide⟩]
      (by decide)
  | .executionPath =>
    onlyPath .alternateExecutionPath [⟨"independent-validation", by decide⟩] (by decide)
  | .completeTask =>
    onlyPath .taskRemediation [⟨"architect-approved-remediation", by decide⟩] (by decide)
  | .publication =>
    onlyPath .operatorAdjudication [⟨"new-verified-operator-directive", by decide⟩] (by decide)

namespace FaultRequest

def authority : VerifiedAuthority :=
  request.scopeAuthority.getD <|
    policyAuthority ((⟨"native-pool-fault-policy:", by decide⟩ : Name).append
        request.scopePolicyRule.text)
      request.scopePolicyRule.cap request.scopePolicyRule.cap_ne_publication
      (some (canonicalSha256 (.obj [("reason", .str request.reason.text),
          ("requested_stop_scope", .str request.requestedStopScope.text),
          ("scope_policy_rule", .str request.scopePolicyRule.text),
          ("operation",
            .optional (fun overrun : Overrun => .str overrun.operation.text) request.overrun),
          ("affected_child_id",
            .optional (fun childId : Name => .str childId.text) request.affectedChildId)])))

/-- The stop metadata of the request alone. -/
def stop : VerifiedStop :=
  buildStopMetadata request.requestedStopScope request.authority (continuationPaths
      (Scope.narrower request.requestedStopScope request.authority.authorizedScope)
      request.affectedChildId)

def firstProtectedFault (stateSequence : Nat) : FirstProtectedFault where
  code := request.reason.text
  operation := request.overrun.map Overrun.operation
  observedCallbackLatencyNs := request.overrun.map Overrun.observedLatencyNs
  certifiedCallbackMaxMs := request.overrun.map Overrun.certifiedMaxMs
  latchedStateSequence := stateSequence

end FaultRequest

/-- The phases in which `_enter_fault` leaves a control turn alone. -/
def stoppingPhases : List Phase :=
  [.interrupt, .finalizeInterrupt, .waitingCloseInterrupt, .closeInterrupt, .finalizeClose,
    .finalizeControlFailed]

/-- The phases in which `_record_contained_fault` leaves a control turn alone. -/
def containedPhases : List Phase :=
  [.interrupt, .finalizeInterrupt, .closeInterrupt, .finalizeClose]

namespace Slot

/-- `progress.update(turn.request_interrupt(reason))`. -/
def interruptRequested : Slot :=
  match slot.turn.requestInterrupt reason with
  | (turn, none) => { slot with turn := turn, progress := turn.progress }
  | (turn, some _) => { slot with turn := turn }

/-- `request_interrupt` raises. -/
def refusesInterrupt : Bool := (slot.turn.requestInterrupt reason).2.isSome

/-- The first loop of `_enter_fault`: no child keeps an acceptable result. -/
def condemned (slot : Slot) : Slot :=
  { slot with
    rejected := true
    classified := slot.classified || decide (request.affectedChildId = some childId)
    disposition :=
      { runtime :=
          if request.affectedChildId = some childId then .failedAmbiguous
          else if slot.disposition.runtime = .completed then .completed
          else .interrupted
        session := .quarantined
        artifact := .rejected }
    -- the runtime disposition is never failed-contained here
    record := { slot.record with recoveryProjection := none } }

/-- A control turn that `_enter_fault` asks to interrupt itself. -/
def isRedirected : Bool :=
  slot.progress.status != .pending && slot.progress.status != .terminal &&
    !(stoppingPhases.contains slot.progress.phase)

/-- A child that will not be started any more. -/
def abandoned (reason : String) (slot : Slot) : Slot :=
  let receipt := TerminalReport.abandoned ["pool-not-admitted:" ++ reason]
  { slot with
    progress := ⟨.terminal, .terminal, false, some receipt⟩
    record :=
      { slot.record with
        status := .controlFailed
        childReceiptSha256 := some (canonicalSha256 receipt.json) } }

/-- The second loop of `_enter_fault`. -/
def stopped (slot : Slot) : Slot :=
  if slot.progress.status = .pending then slot.abandoned reason
  else if slot.isRedirected then slot.interruptRequested reason
  else slot

/-- `_record_contained_fault` on the child itself, up to the interrupt. -/
def containedWith (projection : RecoveryProjection) (slot : Slot) : Slot :=
  { slot with
    contained := true
    classified := true
    rejected := true
    disposition := ⟨.failedContained, .quarantined, .rejected⟩
    record := { slot.record with recoveryProjection := some projection } }

/-- A control turn that `_record_contained_fault` asks to interrupt itself. -/
def isContainmentRedirected : Bool :=
  slot.progress.status != .terminal && !(containedPhases.contains slot.progress.phase)

end Slot

namespace Core

def enterFault : Core :=
  { core with
    stop := mergeStopMetadata core.stop request.stop
    firstProtectedFault := core.firstProtectedFault.or
      (some (request.firstProtectedFault core.state.stateSequence))
    reasons := addReason core.reasons request.reason.text
    protectedFault := true
    controlFailed := core.controlFailed || request.controlFailed ||
      setup.childIds.any fun childId =>
        (core.slots childId).isRedirected &&
          (core.slots childId).refusesInterrupt request.reason.text
    slots := fun childId =>
      ((core.slots childId).condemned request childId).stopped request.reason.text
    terminalOrder := core.terminalOrder ++ setup.childIds.filter fun childId =>
      (core.slots childId).progress.status == .pending && !(core.terminalOrder.contains childId) }

def containedStop (projection : RecoveryProjection) : VerifiedStop :=
  buildStopMetadata .child
    (policyAuthority ⟨"native-pool-verified-fixed-cohort-recovery-v1", by decide⟩ .child
      child_ne_publication (some projection.auditProjectionSha256))
    (onlyPath .continueCohort
      [⟨"failed-child-closed", by decide⟩, ⟨"fixed-cohort-no-refill", by decide⟩,
        ⟨"verified-containment-consumed", by decide⟩] (by decide))

/-- `_record_contained_fault`, without the fault that follows a refused interrupt. -/
def recordContainedFault (reason : Name) (projection : RecoveryProjection) (core : Core) :
    Core :=
  let contained := (core.slots childId).containedWith projection
  { core with
    firstProtectedFault := core.firstProtectedFault.or
      (some ⟨reason.text, none, none, none, core.state.stateSequence⟩)
    reasons := addReason core.reasons reason.text
    stop := mergeStopMetadata core.stop (containedStop projection)
    slots := Function.update core.slots childId
      (if contained.isContainmentRedirected then contained.interruptRequested reason.text
        else contained) }

/-- The interrupt that `_record_contained_fault` requests is refused. -/
def refusesContainment (reason : Name) (core : Core) : Bool :=
  (core.slots childId).isContainmentRedirected && (core.slots childId).refusesInterrupt reason.text

end Core

end WorkOrchestration.Native.Pool
