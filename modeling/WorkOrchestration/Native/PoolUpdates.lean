import WorkOrchestration.Native.Pool

/-!
# Updates of a pool coordinator

The remaining updates of the coordinator's state: from absorbing child evidence to sealing a state and
assembling the receipt of a run.
-/

namespace WorkOrchestration.Native.Pool

open Lib.Checks Lib.Text Artifacts Authority StopScope Accounting
open Recovery PoolContracts PoolStates PoolLeases PoolReceipts
variable (setup : Setup) (childId : Name) (timing : Timing) (core : Core)

open Control

namespace Slot

/-- The child's own part of an accepted observation. -/
def observed (evidence : ChildEvidence) (usage : Usage) (slot : Slot) : Slot :=
  { slot with
    record :=
      { slot.record with
        childStateSha256 := some evidence.stateSha256
        lastCumulativeUsage := usage }
    disposition :=
      if slot.invalidated = false ∧ slot.rejected = false then
        ⟨slot.disposition.runtime, evidence.sessionDisposition, evidence.artifactDisposition⟩
      else slot.disposition }

/-- The runtime disposition of a child whose control turn has ended. -/
def terminalRuntime (current : RuntimeDisposition) (terminalState : Option TerminalState) :
    RuntimeDisposition :=
  if current = .active then
    match terminalState with
    | some .completed => .completed
    | some .controlFailed => .failedAmbiguous
    | _ => .interrupted
  else current

/-- The child's own part of `_update_child_progress`. -/
def progressed (progress : Progress) (slot : Slot) : Slot :=
  let terminalState := progress.receipt.map TerminalReport.terminalState
  let record := slot.record
  if progress.status = .terminal then
    { slot with
      progress := progress
      disposition :=
        { slot.disposition with runtime := terminalRuntime slot.disposition.runtime terminalState }
      record :=
        { record with
          status := if terminalState = some .controlFailed then .controlFailed else .closed
          nextDeadlineNs := none
          childReceiptSha256 :=
            some (canonicalSha256 (.optional TerminalReport.json progress.receipt)) } }
  else
    let record :=
      match progress.phase with
      | .sendInput | .markDispatched => { record with status := .armed }
      | .interrupt | .finalizeInterrupt | .waitingCloseInterrupt | .closeInterrupt =>
        { record with status := .interruptPending }
      | .finalizeClose => { record with status := .interruptConfirmed }
      | .waitingCloseComplete => { record with status := .completed }
      | .finalizeComplete | .closeComplete =>
        { record with status := .completed, nextDeadlineNs := none }
      | _ => { record with status := .running }
    { slot with progress := progress, record := record }

/-- The child's own part of `_record_poll`. -/
def polled (nowNs intervalNs : Nat) (slot : Slot) : Slot :=
  { slot with
    record :=
      { slot.record with
        lastDeadlineNs := some (slot.record.nextDeadlineNs.getD nowNs)
        nextDeadlineNs := some (nowNs + intervalNs) }
    lastPollNs := some nowNs
    firstPoll := true }

/-- Another poll interval for an archive that is still pending. -/
def deferred (endedNs intervalNs : Nat) (slot : Slot) : Slot :=
  { slot with
    record :=
      { slot.record with
        lastDeadlineNs := slot.record.nextDeadlineNs
        nextDeadlineNs := some (endedNs + intervalNs) } }

/-- The child's own part of `_invalidate_read_only_fast_path`. -/
def fastPathRevoked (slot : Slot) : Slot :=
  if slot.fastPath then
    { slot with
      fastPath := false
      invalidated := true
      disposition := ⟨slot.disposition.runtime, .quarantined, .rejected⟩ }
  else slot

end Slot

namespace Core

/-- The bookkeeping of `_read_evidence` for an accepted observation. -/
def absorb (evidence : ChildEvidence) (ledger : Ledger)
    (core : Core) : Core :=
  { core.updateSlot childId (Slot.observed evidence (ledger.latest childId)) with
    ledger := ledger
    reasons := addReasons core.reasons (evidence.reasons ++
      exhaustedBudget (ledger.aggregate setup.childIds) setup.contract.aggregateHardBudget) }

/-- A child that has just ended is the last of `_terminal_order`. -/
def endChild : Core :=
  if childId ∈ core.terminalOrder then core
  else { core with terminalOrder := core.terminalOrder ++ [childId] }

/-- `_update_child_progress`, without the fault that a failed control turn raises. -/
def updateChildProgress (progress : Progress) (core : Core) : Core :=
  let updated := core.updateSlot childId (Slot.progressed progress)
  if progress.status = .terminal then updated.endChild childId else updated

/-- The end of `_record_poll`, up to the lease of a child polled for the first time. -/
def recordPolled (nowNs : Nat) (core : Core) : Core :=
  let first := ! (core.slots childId).firstPoll
  { core.updateSlot childId (Slot.polled nowNs (setup.contract.pollIntervalMs * 1000000)) with
    pollOrder := core.pollOrder ++ [childId]
    admissionOrder := if first then core.admissionOrder ++ [childId] else core.admissionOrder }

/-- `_invalidate_read_only_fast_path`. -/
def invalidateFastPath : Core :=
  { core with
    slots := fun childId => (core.slots childId).fastPathRevoked
    deferredReadOnlyWorkspaceCheck := false }

/-- `if self._read_only_fast_path_children: self._invalidate_read_only_fast_path()`. -/
def invalidateFastPathIfAny : Core :=
  if setup.childIds.any fun childId => (core.slots childId).fastPath then core.invalidateFastPath
  else core

def setLease (lease : Lease) (core : Core) : Core :=
  core.updateSlot childId fun slot => { slot with lease := some lease }

/-- The leases of a freshly acquired set, under their children. -/
def setLeases (leases : List Lease) (core : Core) : Core :=
  { core with
    slots := fun childId =>
      { core.slots childId with lease := leases.find? fun lease => lease.childId = childId } }

/-- `self._leases` has an entry for every child. -/
def allLeased : Bool :=
  setup.childIds.all fun childId => (core.slots childId).lease.isSome

/-- `self._leases` is not empty. -/
def anyLeased : Bool :=
  setup.childIds.any fun childId => (core.slots childId).lease.isSome

def leases : List Lease :=
  setup.childIds.filterMap fun childId => (core.slots childId).lease

end Core

/-- The clock readings that outlive a step, and the buckets they are attributed to. -/
structure Timing where
  startedNs : Nat
  poolWallNs : Nat
  callbackNs : Nat
  noncallbackInvokeNs : Nat
  coordinatorNs : Nat
  waitNs : Nat
  waitStartedNs : Option Nat
  maxCallbackLatencyNs : Nat
  lastCallbackLatencyNs : Option Nat
  slackWarningActive : Bool
  frozen : Bool

namespace Timing

def attributedNs : Nat :=
  timing.callbackNs + timing.noncallbackInvokeNs + timing.waitNs

/-- `_capture_timing`; truncated subtraction is `max(0, …)`. -/
def capture (nowNs : Nat) (freeze : Bool) : Timing :=
  if timing.frozen then timing
  else
    { timing with
      poolWallNs := nowNs - timing.startedNs
      coordinatorNs := (nowNs - timing.startedNs) - timing.attributedNs
      frozen := freeze }

/-- The buckets and the readings behind them, without the latencies that decisions show. -/
def books : Timing :=
  { timing with
    maxCallbackLatencyNs := 0
    lastCallbackLatencyNs := none
    slackWarningActive := false }

/-- `_poll_overhead_seconds`, in nanoseconds. -/
def pollOverheadNs : Nat := timing.noncallbackInvokeNs + timing.coordinatorNs

end Timing

namespace Core

def detector : Name := ⟨"native-pool-supervision", by decide⟩

/-- The state that `_refresh_state` seals. -/
def refreshed (status : PoolStatus)
    (records : List ReasonRecord) (core : Core) : PoolState :=
  let aggregate := core.ledger.aggregate setup.childIds
  let live := core.liveState setup
  PoolState.sealed
    { live with
      stateSequence := live.stateSequence + 1
      status := status
      activeChildren := setup.childIds.filter fun childId =>
        (core.slots childId).progress.status ≠ .pending ∧
          (core.slots childId).progress.status ≠ .terminal
      terminalChildren := setup.childIds.filter fun childId =>
        (core.slots childId).progress.status = .terminal
      children := live.children.map fun child =>
        { child with runtimeDisposition := (core.slots child.childId).disposition.runtime }
      aggregateUsage := aggregate
      poolWallNs := timing.poolWallNs
      workerSeconds := aggregate.runtimeSeconds
      pollOverheadNs := timing.pollOverheadNs
      leaseBindings := (core.leases setup).map Lease.leaseSha256
      reasons := core.reasons
      reasonRecords := records
      firstProtectedFault := core.firstProtectedFault
      controlLossScope := if core.controlFailed then some .pool else none
      stop := core.stop.metadata }

/-- The update that `_refresh_state` makes before it persists the state. -/
def refresh (status : PoolStatus)
    (records : List ReasonRecord) (core : Core) : Core :=
  { core with
    state := core.refreshed setup timing status records
    slots := fun childId =>
      { core.slots childId with
        record :=
          { (core.slots childId).record with
            runtimeDisposition := (core.slots childId).disposition.runtime } } }

def controlReceipt? (slot : Slot) : Option ControlReceipt :=
  match setup.admission, slot.progress.receipt with
  | some _, some (.control receipt) => some receipt
  | _, _ => none

def childTerminalReceipt (child : ChildContract) (slot : Slot) :
    ChildTerminalReceipt where
  childId := child.childId
  receiptSha256 := slot.record.childReceiptSha256.getD (canonicalSha256 (.obj
    [("child_id", .str child.childId.text), ("terminal_state", .str "control-failed"),
      ("reason", .str "not-admitted")]))
  admitted :=
    if setup.admission.isSome then
      (childAdmission? child).map fun admission => ⟨admission, controlReceipt? setup slot⟩
    else none

def childDisposition (child : ChildContract) (slot : Slot) : ChildDisposition where
  childId := child.childId
  disposition := slot.disposition
  admitted :=
    if setup.admission.isSome then
      (childAdmission? child).map fun admission =>
        { admission := admission
          recoveryProjection := slot.record.recoveryProjection
          implementationBeadCloseAuthorized :=
            closeAuthorized slot.disposition (controlReceipt? setup slot)
          parentCloseAuthorized := false
          publicationCloseAuthorized := false }
    else none

def leaseEvidence (lease : Lease) : LeaseEvidence :=
  ⟨lease.leaseId, lease.leaseSha256, lease.lifecycleState⟩

/-- `accepting`, as `_build_receipt` computes it. -/
def accepting : Bool :=
  decide (core.state.status = .closed) && core.reasons.isEmpty &&
    core.firstProtectedFault.isNone && decide (core.admissionOrder = setup.childIds) &&
    core.lastMutationEvidence.isClean &&
    decide ((core.leases setup).length = setup.childIds.length) &&
    ((core.leases setup).all fun lease => lease.lifecycleState == .released) &&
    setup.childIds.all fun childId => decide (core.slots childId).disposition.IsAccepted

/-- `pool_disposition`, as `_build_receipt` computes it. -/
def poolDisposition : PoolDisposition :=
  if core.accepting setup then .accepted
  else if core.protectedFault || core.controlFailed then .quarantined
  else if setup.childIds.any fun childId =>
      (core.slots childId).disposition.artifact == .accepted then .partly
  else .rejected

/-- The receipt that `_build_receipt` assembles and seals. -/
def assemble (records : List ReasonRecord) (core : Core) :
    PoolReceipt :=
  PoolReceipt.sealed
    { poolId := setup.contract.poolId
      poolEpoch := setup.contract.poolEpoch
      contractSha256 := setup.contract.contractSha256
      terminalStateSha256 := core.state.stateSha256
      capabilityReceiptSha256 := setup.contract.capabilityReceiptSha256
      admissionOrder := core.admissionOrder
      pollOrder := core.pollOrder
      terminalOrder := core.terminalOrder
      timing :=
        { maxCallbackLatencyNs := timing.maxCallbackLatencyNs
          maxPollGapNs := core.maxPollGapNs
          pollIntervalMs := setup.contract.pollIntervalMs
          pollLagToleranceMs := setup.contract.pollLagToleranceMs
          callbackNs := timing.callbackNs
          noncallbackInvokeNs := timing.noncallbackInvokeNs
          coordinatorNs := timing.coordinatorNs
          waitNs := timing.waitNs }
      childTerminalReceipts := setup.contract.children.map fun child =>
        childTerminalReceipt setup child (core.slots child.childId)
      finalAggregateUsage := core.state.aggregateUsage
      poolWallNs := core.state.poolWallNs
      workerSeconds := core.state.workerSeconds
      leaseEvidence := (core.leases setup).map leaseEvidence
      mutationEvidence := core.lastMutationEvidence
      reasons := core.reasons
      reasonRecords := records
      firstProtectedFault := core.firstProtectedFault
      childDispositions := setup.contract.children.map fun child =>
        childDisposition setup child (core.slots child.childId)
      poolDisposition := core.poolDisposition setup
      accepting := core.accepting setup
      stop := core.stop.metadata
      admitted := setup.admission.map fun evidence =>
        ⟨evidence.reservationSha256, evidence.dispatchSha256⟩
      receiptSha256 := setup.contract.contractSha256 }

end Core

end WorkOrchestration.Native.Pool
