import WorkOrchestration.Native.CoordinatorSteps

/-!
# Crashes of a pool coordinator

What `run` does when an exception ends it: the children are condemned, the leases are handed back as far
as the registry takes them, and the state is sealed as failed with its timing frozen.
-/

namespace WorkOrchestration.Native.Coordinator

open Lib.Checks Lib.Programs Lib.Text Artifacts Authority StopScope
open Accounting PoolContracts PoolStates
open PoolLeases (Lease LeaseState)
open PoolReceipts Control Pool

variable (setup : Setup) (world : World) (error : PyError)

/-- The state that `_seal_crash_state` seals; its children are left as they stand. -/
def Core.crashState (timing : Timing) (increment : Bool)
    (records : List ReasonRecord) (core : Core) : PoolState :=
  let live := core.liveState setup
  let aggregate := usageSum (live.children.map ChildState.lastCumulativeUsage)
  PoolState.sealed { live with
      stateSequence := live.stateSequence + if increment then 1 else 0
      status := .controlFailed
      activeChildren := []
      terminalChildren := setup.childIds
      aggregateUsage := aggregate
      poolWallNs := timing.poolWallNs
      workerSeconds := aggregate.runtimeSeconds
      pollOverheadNs := timing.pollOverheadNs
      leaseBindings := (core.leases setup).map Lease.leaseSha256
      reasons := core.reasons
      reasonRecords := records
      firstProtectedFault := core.firstProtectedFault
      controlLossScope := some .pool
      stop := core.stop.metadata }

def sealCrashState (increment : Bool) : Program Unit := do
  let nowNs ← monotonicNs world
  modifyTiming fun timing => timing.capture nowNs true
  let coord ← get
  let records ← liftExcept (Core.reasonRecords coord.core)
  modify fun coord =>
    let state := Core.crashState setup coord.timing increment records coord.core
    { coord with
      core := { coord.core with state := state }
      history := .sealed coord.timing state :: coord.history }

/-- `_record_crash_cleanup_error`. -/
def recordCleanupError (stage : String) (childId : Option Name) (error : PyError) : Program Unit :=
  modifyCore fun core =>
    { core with
      reasons := addReason core.reasons ("coordinator-crash-cleanup-error:" ++ stage ++
          (match childId with
            | some childId => ":" ++ childId.text
            | none => "") ++
          ":" ++ error.typeName ++ ":" ++ sanitizeExceptionMessage error.message) }

/-- Run a part of the cleanup; its exception is recorded under a stage. -/
def attempt (stage : String) (childId : Option Name) (program : Program Unit) : Program Unit :=
  tryCatch program (recordCleanupError stage childId)

/-- Run a part of the cleanup, and tell whether it returned. -/
def succeeds (stage : String) (program : Program Unit) : Program Bool :=
  tryCatch (do program; pure true) fun error => do
    recordCleanupError stage none error
    pure false

def crashReason : Name :=
  (⟨"coordinator-crash:", by decide⟩ : Name).append
    (error.typeName ++ ":" ++ sanitizeExceptionMessage error.message)

theorem independentValidation_visible : Nonempty "independent-validation" := by decide

def crashStop (affected : List Name) : VerifiedStop :=
  buildStopMetadata .executionPath
    (policyAuthority ⟨"native-pool-coordinator-crash-v1", by decide⟩ .executionPath (by decide)
      (some (canonicalSha256 (.obj
        [("crash_reason", .str (crashReason error).text), ("exception_type", .str error.typeName),
          ("affected_child_ids", .strings (affected.map Name.text))]))))
    (onlyPath .alternateExecutionPath [⟨"coordinator-remediated", by decide⟩,
        ⟨"independent-validation", independentValidation_visible⟩] (by decide))

/-- The loop body of `_classify_crash`. -/
def Slot.crashed (slot : Slot) : Slot :=
  let receipt := TerminalReport.abandoned ["coordinator-crash:" ++ error.typeName]
  let ended := slot.progress.status = .terminal
  { slot with
    progress := if ended then slot.progress else ⟨.terminal, .terminal, false, some receipt⟩
    record :=
      { slot.record with
        childReceiptSha256 :=
          if ended then slot.record.childReceiptSha256 else some (canonicalSha256 receipt.json)
        status :=
          if slot.record.status = .closed ∨ slot.record.status = .controlFailed then
            slot.record.status
          else .controlFailed
        nextDeadlineNs := none } }

/-- `_classify_crash`, up to the seal. -/
def Core.crashed (affected : List Name) (core : Core) : Core :=
  { core with
    stop := mergeStopMetadata core.stop (crashStop error affected)
    firstProtectedFault := core.firstProtectedFault.or
      (some ⟨(crashReason error).text, none, none, none, core.state.stateSequence⟩)
    reasons := addReasons core.reasons [(crashReason error).text,
        "coordinator-crash-affected-children:" ++
          if affected = [] then "none" else joinWith "," (affected.map Name.text)]
    protectedFault := true
    controlFailed := true
    receipt := none
    slots := fun childId => Slot.crashed error (core.slots childId)
    terminalOrder := core.terminalOrder ++
      setup.childIds.filter fun childId => !(core.terminalOrder.contains childId) }

/-- The children that have not ended, or whose lease is not released. -/
def Core.affected (core : Core) : List Name :=
  setup.childIds.filter fun childId =>
    (core.slots childId).progress.status != .terminal ||
      (core.slots childId).lease.any fun lease => lease.lifecycleState != .released

/-- `_mark_lease_release_pending`, with a failure of the registry recorded. -/
def markCrashed (terminalSha256 : Digest) (childId : Name) :
    Program Unit := do
  let coord ← get
  match (coord.core.slots childId).lease with
  | none => pure ()
  | some lease =>
    if lease.lifecycleState = .released ∨ lease.lifecycleState = .releasePending then pure ()
    else do
      let result ← registryCall world
        (.markReleasePending lease.leaseId terminalSha256 "coordinator-crash")
      settleLease setup childId .markReleasePending result

/-- `_release_lease`, with a failure of the registry recorded. -/
def releaseCrashed (childId : Name) : Program Unit := do
  let coord ← get
  match (coord.core.slots childId).lease with
  | none => pure ()
  | some lease =>
    if lease.lifecycleState = .released then pure ()
    else do
      let result ← registryCall world
        (.release lease.leaseId (coord.core.liveState setup) "coordinator-crash")
      settleLease setup childId .release result

/-- `_persist_crash_state`, whose result only marks the cleanup as complete. -/
def persistCrashState : Program Unit := do
  let sealing : Program Unit := do
    sealCrashState setup world false
    persistState setup world
  let persisted ← succeeds "persist-state" sealing
  when (persisted = false) (attempt "persist-state-retry" none sealing)

/-- The end of the cleanup: the state is persisted and the lock released, with a retry. -/
def releaseCrashLock : Program Unit := do
  persistCrashState setup world
  let released ← succeeds "release-state-lock" (releaseStateLock setup world)
  when (released = false) do
    persistCrashState setup world
    let retried ← succeeds "release-state-lock-retry" (releaseStateLock setup world)
    when (retried = false) (persistCrashState setup world)

/-- `_cleanup_on_crash`, `begun` if an earlier cleanup has come to classify its crash. -/
def cleanupOnCrash (begun : Bool) (error : PyError) :
    Program Unit := do
  let coord ← get
  let affected := Core.affected setup coord.core
  attempt "classify" none do
    modifyCore (Core.crashed setup error affected)
    sealCrashState setup world !begun
  let coord ← get
  setup.childIds.forM fun childId =>
    attempt "mark-release-pending" (some childId)
      (markCrashed setup world coord.core.state.stateSha256 childId)
  setup.childIds.forM fun childId =>
    attempt "release-lease" (some childId) (releaseCrashed setup world childId)
  releaseCrashLock setup world

/-- An operation or the cleanup after a crash, however it ends. -/
inductive Leads (setup : Setup) (world : World) (before : Coord) : Coord → Prop where
  | operated (operation : Operation) :
      Leads setup world before (final (operate setup world operation) before)
  | crashed (begun : Bool) (error : PyError) :
      Leads setup world before (final (cleanupOnCrash setup world begun error) before)

/-- The coordinators of a run that may go on after exceptions and crashes. -/
inductive Lived (setup : Setup) (world : World) : Coord → Prop where
  | started {registry : List Lease} {coord : Coord}
      (constructed : start setup world registry = .ok coord) : Lived setup world coord
  | led {before after : Coord} (lived : Lived setup world before)
      (leads : Leads setup world before after) : Lived setup world after

end WorkOrchestration.Native.Coordinator
