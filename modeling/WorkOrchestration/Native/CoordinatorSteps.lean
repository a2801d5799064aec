import WorkOrchestration.Native.Coordinator

/-!
# Steps of the pool coordinator

One step of the coordinator: at most one adapter callback of one child, with everything that follows from
its reply, and one new sealed state. A run applies steps and interrupt requests to a constructed
coordinator.
-/

namespace WorkOrchestration.Native.Coordinator

open Lib.Checks Lib.Text Artifacts Authority StopScope Accounting
open PoolContracts PoolStates
open PoolLeases (Lease LeaseState RegistryError)
open PoolReceipts Control Scheduler Pool

/-! ## One control turn -/

/-- `_callback_fault` together with `_callback_fault_detail`. -/
structure CallbackFault where
  reason : Name
  overrun : Option Overrun

/-- What a step of a control turn shows of the callback it invoked. -/
structure CallbackReport where
  callback : Callback
  /-- absent when the clock failed after the callback -/
  latencyNs : Option Nat
  fault : Option CallbackFault

variable (setup : Setup) (world : World) (childId : Name) (poll : Bool)

variable (callback : Callback)

/-- The complaint about the clock readings around a callback. -/
def callbackFault (startedNs endedNs : Nat) :
    Option CallbackFault :=
  if endedNs < startedNs then some ⟨⟨"nonmonotonic-callback-clock", by decide⟩, none⟩
  else
    match setup.certifiedMaxMs callback with
    | none => none
    | some maximumMs =>
      if maximumMs * 1000000 < endedNs - startedNs then
        some ⟨(⟨"callback-overrun:", by decide⟩ : Name).append callback.text,
          some ⟨callback, endedNs - startedNs, maximumMs⟩⟩
      else none

/-- The wrapper `timed` around an adapter callback. -/
def timedCallback (call : Turn.Call) :
    Program (Reply × Option CallbackReport) := do
  let started ← ask world.clock
  match started with
  | .error error => pure (.raised error, none)
  | .ok startedNs => do
      let reply ← ask fun tick => world.adapter tick childId call
      record (.called childId call reply)
      let ended ← ask world.clock
      match ended with
      | .error error => pure (.raised error, some ⟨call.action.callback, none, none⟩)
      | .ok endedNs => do
          modifyTiming fun timing =>
            { timing with
              callbackNs :=
                if timing.frozen then timing.callbackNs
                else timing.callbackNs + (endedNs - startedNs)
              lastCallbackLatencyNs := some (endedNs - startedNs)
              maxCallbackLatencyNs := max timing.maxCallbackLatencyNs (endedNs - startedNs) }
          pure (reply, some ⟨call.action.callback, some (endedNs - startedNs),
            callbackFault setup call.action.callback startedNs endedNs⟩)

/-- A control turn as `_invoke_child` steps it: the turn, its input, and a refused resumption. -/
structure Entry where
  turn : Turn
  taskInput : Option String
  refusal : Option PyError

/-- The three ways in which `_invoke_child` steps a control turn. -/
def entry (slot : Slot) : Entry :=
  if slot.progress.status = .pending then ⟨slot.turn, some (setup.taskInputs childId), none⟩
  else if poll = true ∧ slot.progress.waitRequired = true then
    ⟨slot.turn.resumeAfterWait.1, none, slot.turn.resumeAfterWait.2⟩
  else ⟨slot.turn, none, none⟩

/-- The callback that stepping a control turn invokes. -/
def Entry.nextCall (entry : Entry) : Option Turn.Call :=
  if entry.refusal.isSome then none else entry.turn.nextCall entry.taskInput

/-- The control turn after its step, and the exception that escapes. -/
def Entry.result (entry : Entry) (reply : Reply) : Turn × Option PyError :=
  match entry.refusal with
  | some error => (entry.turn, some error)
  | none => entry.turn.step entry.taskInput reply

def setTurn (turn : Turn) (core : Core) : Core :=
  core.updateSlot childId fun slot => { slot with turn := turn }

/-- Step the control turn of a child, with its callback timed. -/
def serveTurn :
    Program (Option CallbackReport × Option PyError) := do
  let coord ← get
  let entry := entry setup childId poll (coord.core.slots childId)
  match entry.nextCall with
  | none => do
      let result := entry.result (.returned .null)
      modifyCore (setTurn childId result.1)
      pure (none, result.2)
  | some call => do
      let answer ← timedCallback setup world childId call
      let result := entry.result answer.1
      modifyCore (setTurn childId result.1)
      pure (answer.2, result.2)

/-- The fault that a comparison with mutations, or without a result, is entered under. -/
def integrityFault (reason : Name) (controlFailed : Bool) : FaultRequest where
  reason := reason
  controlFailed := controlFailed
  requestedStopScope := .executionPath
  scopePolicyRule := .executionIntegrity

/-- The comparison after a callback of a child that is not on the fast path. -/
def compareAfterCallback : Program Unit := do
  let compared ← compareWorkspaces world ("after-" ++ childId.text ++ "-" ++ callback.text)
  match compared with
  | .ok evidence => do
      modifyCore fun core => { core with lastMutationEvidence := evidence }
      if evidence.isClean then
        modifyCore fun core => { core with deferredReadOnlyWorkspaceCheck := false }
      else do
        modifyCore (Core.invalidateFastPathIfAny setup)
        enterFault setup (integrityFault ⟨"workspace-mutation-attribution-failed", by decide⟩ false)
  | .error reason => do
      modifyCore (Core.invalidateFastPathIfAny setup)
      enterFault setup (integrityFault reason true)

/-- A callback that only starts an archive, or has seen that it is still pending. -/
def isDeferredArchive (phase : Phase) : Bool :=
  (callback == .finalize || callback == .close) &&
    (phase == .waitingCloseComplete || phase == .waitingCloseInterrupt)

/-- The callbacks before the first trusted observation of a child. -/
def isPreObservation : Bool :=
  callback == .arm || callback == .sendInput || callback == .markDispatched

/-- The slack warning of a callback whose latency is known. -/
def noteSlack (report : CallbackReport) : Program Unit :=
  match report.latencyNs with
  | some latencyNs =>
    modifyTiming fun timing =>
      { timing with slackWarningActive := setup.slackWarning report.callback latencyNs }
  | none => pure ()

/-- The fault of a callback whose clock readings are out of order or too far apart. -/
def enterCallbackFault (report : CallbackReport) : Program Unit :=
  match report.fault with
  | some fault =>
    enterFault setup { reason := fault.reason, controlFailed := false, overrun := fault.overrun }
  | none => pure ()

/-- What follows a check: a poll is recorded, or the check has failed. -/
def settleCheck (endedNs : Nat) (phase : Phase) :
    Program Unit :=
  if phase = .waiting ∨ phase = .finalizeComplete ∨ phase = .interrupt then
    recordPoll setup world childId endedNs
  else
    enterFault setup { reason := ⟨"child-check-failed", by decide⟩, controlFailed := true }

/-- The comparison after a callback, or the note that the fast path has put it off. -/
def compareOrDefer : Program Unit := do
  let coord ← get
  if isPreObservation callback then pure ()
  else if (coord.core.slots childId).fastPath then
    modifyCore fun core => { core with deferredReadOnlyWorkspaceCheck := true }
  else compareAfterCallback setup world childId callback

/-- What `_invoke_child` does after a callback has been invoked. -/
def afterCallback (endedNs : Nat) (phase : Phase)
    (report : CallbackReport) : Program Unit := do
  when (report.callback = .sendInput)
    (modifyCore fun core => core.updateSlot childId fun slot =>
      { slot with submissionNs := some endedNs })
  noteSlack setup report
  when (isDeferredArchive report.callback phase = true)
    (modifyCore fun core => core.updateSlot childId
      (Slot.deferred endedNs (setup.contract.pollIntervalMs * 1000000)))
  when (isDeferredArchive report.callback phase = false ∧ isPreObservation report.callback = false)
    (readEvidence setup world childId)
  when (report.callback = .check) (settleCheck setup world childId endedNs phase)
  enterCallbackFault setup report
  compareOrDefer setup world childId report.callback

/-- What `_invoke_child` does with the progress of a control turn it has stepped. -/
def followTurn (endedNs : Nat)
    (report : Option CallbackReport) : Program Unit := do
  let coord ← get
  let progress := (coord.core.slots childId).turn.progress
  modifyCore (Core.updateChildProgress childId progress)
  when (progress.receipt.map TerminalReport.terminalState = some .controlFailed)
    (enterFault setup
      { reason := ⟨"child-control-turn-failed", by decide⟩
        controlFailed := true
        affectedChildId := some childId })
  match report with
  | none => pure ()
  | some report => afterCallback setup world childId endedNs progress.phase report

def invokeChild : Program Unit := do
  modifyTiming fun timing =>
    { timing with lastCallbackLatencyNs := none, slackWarningActive := false }
  let startedNs ← monotonicNs world
  let before ← get
  let served ← serveTurn setup world childId poll
  let endedNs ← monotonicNs world
  modifyTiming fun timing =>
    { timing with
      noncallbackInvokeNs :=
        if timing.frozen then timing.noncallbackInvokeNs
        else timing.noncallbackInvokeNs +
          ((endedNs - startedNs) - (timing.callbackNs - before.timing.callbackNs)) }
  raiseIf served.2
  followTurn setup world childId endedNs served.1

/-! ## Scheduling -/

def callbackName : Phase → Option Callback
  | .start | .arm => some .arm
  | .sendInput => some .sendInput
  | .markDispatched => some .markDispatched
  | .check | .waiting => some .check
  | .finalizeComplete => some .finalize
  | .closeComplete => some .close
  | .interrupt => some .interrupt
  | .finalizeInterrupt => some .finalize
  | .closeInterrupt => some .close
  | .finalizeClose => some .finalize
  | .finalizeControlFailed => some .finalize
  | .waitingCloseComplete | .waitingCloseInterrupt | .terminal => none

/-- A child that can be stepped at once. -/
def Slot.isReady (slot : Slot) : Bool :=
  slot.progress.status == .pending ||
    (slot.progress.status != .terminal && !slot.progress.waitRequired)

/-- What `_next_lifecycle_child` returns. -/
structure Turnout where
  childId : Option Name
  poll : Bool
  waitNs : Nat

/-- `_next_lifecycle_child`: the turnout and the cursor it leaves behind. -/
def nextLifecycleChild (core : Core) (nowNs : Nat) :
    Except PyError (Turnout × Nat) := do
  let children := core.children setup
  let due ← selectEarliestDeadline children core.schedulerCursor
  match due.filter fun selection => selection.deadlineNs ≤ nowNs with
  | some selection => return (⟨some selection.childId, true, 0⟩, selection.nextCursor)
  | none =>
    match setup.childIds.find? fun childId => Slot.isReady (core.slots childId) with
    | none =>
      return (⟨none, false, waitNs nowNs (due.map Selection.deadlineNs)⟩, core.schedulerCursor)
    | some proposed => do
        let callbackMs := ((callbackName (core.slots proposed).progress.phase).bind
          setup.certifiedMaxMs).getD 0
        let guard ← peerDeadlineGuard children core.schedulerCursor proposed nowNs callbackMs
          ((setup.certifiedMaxMs .check).getD 0) setup.overheadMs
        match guard with
        | some peer => return (⟨some peer.childId, true, 0⟩, peer.nextCursor)
        | none => return (⟨some proposed, false, 0⟩, core.schedulerCursor)

/-! ## Leases and receipts -/

/-- The loop of `_release_next`. -/
def releaseNext (setup : Setup) (world : World) : List Name → Bool → Program Bool
  | [], attempted => pure attempted
  | childId :: rest, attempted => do
      let coord ← get
      match (coord.core.slots childId).lease with
      | none => releaseNext setup world rest attempted
      | some lease =>
        if lease.lifecycleState = .released then releaseNext setup world rest attempted
        else do
          let result ← registryCall world
            (.release lease.leaseId (coord.core.liveState setup) "pool-closed")
          settleLease setup childId .release result
          match result with
          | .ok _ => pure true
          | .error _ => releaseNext setup world rest true

/-- The loop body of `_finish_control_failed`. -/
def markReleasePending (setup : Setup) (world : World) (terminalSha256 : Digest) (childId : Name) :
    Program Unit := do
  let coord ← get
  match (coord.core.slots childId).lease with
  | none => pure ()
  | some lease =>
    if lease.lifecycleState = .released ∨ lease.lifecycleState = .releasePending then pure ()
    else do
      let result ← registryCall world
        (.markReleasePending lease.leaseId terminalSha256 "pool-control-failed")
      settleLease setup childId .markReleasePending result

/-- `_compare_deferred_workspace_on_control_failure`. -/
def compareDeferredWorkspace : Program Unit := do
  let coord ← get
  if coord.core.deferredReadOnlyWorkspaceCheck = false ∨
      coord.core.terminalComparisonComplete = true then pure ()
  else do
    let compared ← compareWorkspaces world "close"
    match compared with
    | .ok evidence => do
        modifyCore fun core => { core with lastMutationEvidence := evidence }
        when (evidence.isClean = false) do
          modifyCore Core.invalidateFastPath
          enterFault setup
            (integrityFault ⟨"terminal-workspace-comparison-failed", by decide⟩ true)
        modifyCore fun core => { core with terminalComparisonComplete := true }
    | .error reason => do
        modifyCore Core.invalidateFastPath
        enterFault setup (integrityFault reason true)

def buildReceipt : Program Unit := do
  let coord ← get
  let records ← liftExcept (Core.reasonRecords coord.core)
  let receipt := coord.core.assemble setup coord.timing records
  record (.assembled coord.core coord.timing receipt)
  let errors := validatePoolReceipt setup.limits setup.contract coord.core.state setup.admission
    receipt
  when (errors ≠ []) (throw (poolError ("pool-receipt-invalid:" ++ joinWith ";" errors)))
  modifyCore fun core => { core with receipt := some receipt }

def releaseStateLock : Program Unit :=
  when (setup.hasStateFile = true) do
    let failure ← ask world.releaseLock
    raiseIf failure

def finishControlFailed : Program Unit := do
  compareDeferredWorkspace setup world
  let coord ← get
  setup.childIds.forM (markReleasePending setup world coord.core.state.stateSha256)
  refreshState setup world .controlFailed true
  buildReceipt setup
  releaseStateLock setup world

/-! ## The step -/

/-- `progress`, without the documents it copies. -/
structure PoolProgress where
  status : PoolStatus
  waitRequired : Bool
  waitNs : Option Nat

def progress : Program PoolProgress := do
  let coord ← get
  let deadline := ((coord.core.children setup).filterMap ChildState.nextDeadlineNs).min?
  let nowNs ← monotonicNs world
  let waiting := decide (coord.core.state.status ≠ .closed ∧
      coord.core.state.status ≠ .controlFailed ∧ deadline.isSome = true) &&
    !(setup.childIds.any fun childId => Slot.isReady (coord.core.slots childId))
  pure ⟨coord.core.state.status, waiting,
    if waiting then some (waitNs nowNs deadline) else none⟩

/-- Seal the state, decide and report: the end of most branches of a step. -/
def concludeWith (status : PoolStatus) (decision : DecisionKind)
    (selected : Option Name) (actions : List PoolAction) : Program PoolProgress := do
  refreshState setup world status
  decisionFor setup world decision selected actions
  progress setup world

/-- The end of a step that has entered a fault before any child was stepped. -/
def concludeInterrupted : Program PoolProgress := do
  let coord ← get
  concludeWith setup world (coord.core.statusAfterAction setup) .interrupt none [.interrupt]

/-- The end of a step that has lost control. -/
def concludeControlFailed (selected : Option Name) :
    Program PoolProgress := do
  finishControlFailed setup world
  decisionFor setup world .controlLost selected []
  progress setup world

def consumeControlRequest : Program Bool := do
  let coord ← get
  if setup.hasControlFile = false ∨ coord.core.controlRequestSeen = true then pure false
  else do
    let cohortFault := fun (reason : Name) =>
      enterFault setup
        { reason := reason
          controlFailed := false
          requestedStopScope := .cohort
          scopePolicyRule := .cohortControl }
    let failed : Name := ⟨"pool-control-request-failed:", by decide⟩
    let found ← ask world.controlFile
    match found with
    | .absent => pure false
    | .raised error => do
        modifyCore fun core => { core with controlRequestSeen := true }
        if error.typeName = "NativePoolError" then do
          cohortFault (failed.append error.describe)
          pure true
        else if error.kind = .os ∨ error.kind = .type ∨ error.typeName = "JSONDecodeError" then do
          cohortFault (failed.append error.typeName)
          pure true
        else throw error
    | .request request => do
        modifyCore fun core => { core with controlRequestSeen := true }
        let errors := validatePoolControlRequest setup.contract (coord.core.liveState setup) request
        cohortFault <|
          if errors ≠ [] then
            failed.append ("NativePoolError:pool-control-request-invalid:" ++ joinWith ";" errors)
          else
            (⟨"external-control-request:", by decide⟩ : Name).append
              (request.requestId.text ++ ":" ++
                (canonicalSha256 (.obj [("reason", .str request.reason)])).hex)
        pure true

/-- `_verify_state_watermark`: the text of the `NativePoolError` it raises. -/
def verifyStateWatermark : Program (Option Name) :=
  if setup.hasStateFile then do
    let reading ← ask world.watermark
    match reading with
    | .current => pure none
    | .unreadable => pure (some ⟨"pool-state-watermark-unreadable", by decide⟩)
    | .mismatch => pure (some ⟨"pool-state-watermark-mismatch", by decide⟩)
    | .raised error => throw error
  else pure none

/-- `_runtime_capability_errors`, which a pool under a protected fault no longer asks for. -/
def runtimeCapabilityErrors : Program (List String) := do
  let coord ← get
  if coord.core.protectedFault = false ∧ setup.Concurrent then do
    let answer ← ask world.capability
    liftExcept answer
  else pure []

/-- The branch of a step for a pool that has just been created. -/
def stepCreated : Program PoolProgress := do
  let coord ← get
  if coord.core.initialMutationFault then do
    enterFault setup (integrityFault ⟨"initial-workspace-comparison-failed", by decide⟩ false)
    concludeInterrupted setup world
  else
    concludeWith setup world (if setup.Concurrent then .capabilityValidated else .admitting)
      .continue none [.admitting]

/-- The comparison of the workspaces when all children have ended. -/
def compareTerminalWorkspaces : Program Unit := do
  let compared ← compareWorkspaces world "close"
  match compared with
  | .ok evidence => do
      modifyCore fun core => { core with lastMutationEvidence := evidence }
      when (evidence.isClean = false) do
        modifyCore (Core.invalidateFastPathIfAny setup)
        enterFault setup (integrityFault ⟨"terminal-workspace-comparison-failed", by decide⟩ false)
      modifyCore fun core => { core with terminalComparisonComplete := true }
  | .error reason => do
      modifyCore (Core.invalidateFastPathIfAny setup)
      enterFault setup (integrityFault reason true)

/-- Seal again as completed, unless the step has lost control. -/
def concludeCompleted : Program PoolProgress := do
  let coord ← get
  if coord.core.controlFailed then do
    refreshState setup world .controlFailed
    concludeControlFailed setup world none
  else concludeWith setup world .completed .continue none [.releaseLeases]

/-- The branch of a step for a completed pool: compare once, release the leases, close. -/
def stepCompleted : Program PoolProgress := do
  let coord ← get
  if coord.core.terminalComparisonComplete = false then do
    compareTerminalWorkspaces setup world
    concludeCompleted setup world
  else do
    let attempted ← releaseNext setup world setup.childIds false
    if attempted then concludeCompleted setup world
    else do
      refreshState setup world .closed true
      buildReceipt setup
      decisionFor setup world .complete none [.finalize]
      releaseStateLock setup world
      progress setup world

def firstChild : Option Name := setup.childIds.head?

/-- The failure of an acquisition, under the child it names or else the first one. -/
def blameAcquisition (error : RegistryError) : Program (Option Name) :=
  match error.childId.or (firstChild setup) with
  | some childId => do
      recordLeaseFailure setup childId .acquire error.error false
      pure (some childId)
  | none => pure none

/-- Acquire the leases of the cohort; the child that the step is about. -/
def acquireLeases : Program (Option Name) := do
  let coord ← get
  if coord.core.anyLeased setup then do
    enterFault setup
      { reason := ⟨"partial-cohort-lease-set-forbidden", by decide⟩
        controlFailed := true
        requestedStopScope := .cohort
        scopePolicyRule := .cohortControl }
    pure (firstChild setup)
  else do
    let result ← registryCall world
      (.acquireMany setup.contract (some (setup.childIds.map Name.text)) setup.limits)
    match result with
    | .ok leases => do
        modifyCore (Core.setLeases leases)
        pure (firstChild setup)
    | .error error =>
      if error.isLeaseError then blameAcquisition setup error else throw error.error

/-- The branch of a step that acquires the leases of the cohort. -/
def stepLeases : Program PoolProgress := do
  let selected ← acquireLeases setup world
  let coord ← get
  concludeWith setup world (coord.core.statusAfterAction setup)
    (if coord.core.protectedFault then .interrupt else .continue) selected
    [if coord.core.protectedFault then .interrupt else .admitting]

/-- The branch of a step that finds no child to step. -/
def stepIdle (waitNs : Nat) : Program PoolProgress := do
  let coord ← get
  let status := coord.core.statusAfterAction setup
  if coord.core.allTerminal setup then do
    refreshState setup world status
    if status = .controlFailed then concludeControlFailed setup world none
    else do
      decisionFor setup world .complete none [.releaseLeases]
      progress setup world
  else do
    let report ← concludeWith setup world status .continue none [.step]
    pure { report with waitRequired := true, waitNs := some waitNs }

def stepChild :
    Program PoolProgress := do
  invokeChild setup world childId poll
  let coord ← get
  let status := coord.core.statusAfterAction setup
  refreshState setup world status
  if status = .controlFailed then concludeControlFailed setup world (some childId)
  else do
    let coord ← get
    decisionFor setup world
      (if status = .interruptPending then .interrupt
        else if status = .completed then .complete
        else if coord.core.reasons ≠ [] ∨ coord.timing.slackWarningActive = true then .warn
        else .continue)
      (some childId)
      [if status = .interruptPending then .interrupt
        else if status = .completed then .releaseLeases else .step]
    progress setup world

/-- The branch of a step that serves the schedule. -/
def stepLifecycle : Program PoolProgress := do
  let nowNs ← monotonicNs world
  let coord ← get
  let next ← liftExcept (nextLifecycleChild setup coord.core nowNs)
  modifyCore fun core => { core with schedulerCursor := next.2 }
  match next.1.childId with
  | none => stepIdle setup world next.1.waitNs
  | some childId => stepChild setup world childId next.1.poll

/-- The branches of a step behind the watermark, the capability and the control file. -/
def stepStatus : Program PoolProgress := do
  let coord ← get
  if coord.core.state.status = .created then stepCreated setup world
  else if coord.core.state.status = .completed then stepCompleted setup world
  else if coord.core.protectedFault = false ∧ coord.core.allLeased setup = false then
    stepLeases setup world
  else stepLifecycle setup world

/-- The capability check and the control file, and then the branches of a step. -/
def stepChecked : Program PoolProgress := do
  let capabilityErrors ← runtimeCapabilityErrors setup world
  if capabilityErrors ≠ [] then do
    enterFault setup
      { reason := (⟨"capability-receipt-invalid:", by decide⟩ : Name).append
          (joinWith ";" capabilityErrors)
        controlFailed := false
        requestedStopScope := .cohort
        scopePolicyRule := .cohortControl }
    concludeInterrupted setup world
  else do
    let consumed ← consumeControlRequest setup world
    if consumed then concludeInterrupted setup world else stepStatus setup world

def stepOnce : Program PoolProgress := do
  let coord ← get
  if coord.core.state.status = .closed then progress setup world
  else if coord.core.state.status = .controlFailed then
    if coord.core.receipt.isNone then concludeControlFailed setup world none
    else progress setup world
  else do
    let complaint ← verifyStateWatermark setup world
    match complaint with
    | some reason => do
        enterFault setup (integrityFault reason false)
        concludeInterrupted setup world
    | none => stepChecked setup world

def step : Program PoolProgress := do
  completeWait world
  let report ← stepOnce setup world
  let coord ← get
  when (report.waitRequired = true ∧ coord.timing.frozen = false) do
    let nowNs ← monotonicNs world
    modifyTiming fun timing => { timing with waitStartedNs := some nowNs }
  pure report

/-- A request of an outer supervisor. -/
structure InterruptRequest where
  reason : Name
  stopScope : Scope
  scopeAuthority : Option VerifiedAuthority

/-- A scope wider than the cohort needs a directive of the operator. -/
def InterruptRequest.isRefused (request : InterruptRequest) : Bool :=
  request.scopeAuthority.any fun authority =>
    decide (Scope.cohort.rank < request.stopScope.rank) &&
      decide (authority.payload.sourceType ≠ .operatorDirective)

def InterruptRequest.fault (request : InterruptRequest) : FaultRequest where
  reason := (⟨"pool-interrupt:", by decide⟩ : Name).append (strip request.reason.text)
  controlFailed := false
  requestedStopScope := request.stopScope
  scopeAuthority := some (request.scopeAuthority.getD
    (policyAuthority ⟨"native-pool-explicit-interrupt-v1", by decide⟩ .cohort (by decide)
      (some (canonicalSha256 (.obj [("reason", .str (strip request.reason.text))])))))

def requestInterrupt (request : InterruptRequest) :
    Program PoolProgress := do
  let coord ← get
  if coord.core.state.status = .closed ∨ coord.core.state.status = .controlFailed then
    progress setup world
  else if request.isRefused then throw (poolError "broad-interrupt-requires-operator-directive")
  else do
    enterFault setup request.fault
    concludeWith setup world .interruptPending .interrupt none [.interrupt]

/-- The end of `run`, once the pool is closed or has lost control. -/
def conclude : Program PoolProgress := do
  let coord ← get
  when ((coord.core.state.status = .closed ∨ coord.core.state.status = .controlFailed) ∧
    coord.core.receipt.isNone = true) (buildReceipt setup)
  pure ⟨coord.core.state.status, false, none⟩

/-! ## Runs -/

/-- What is done to a coordinator from outside. -/
inductive Operation where
  | step
  | requestInterrupt (request : InterruptRequest)
  | conclude

def operate : Operation → Program PoolProgress
  | .step => step setup world
  | .requestInterrupt request => requestInterrupt setup world request
  | .conclude => conclude setup

def initialStop : VerifiedStop :=
  buildStopMetadata .child
    (policyAuthority ⟨"native-pool-baseline-v1", by decide⟩ .child
      child_ne_publication none)
    ⟨[], by simp, List.nodup_nil⟩

def newState (startedNs : Nat) : PoolState :=
  PoolState.sealed
    { poolId := setup.contract.poolId
      poolEpoch := setup.contract.poolEpoch
      contractSha256 := setup.contract.contractSha256
      stateSequence := 0
      status := .created
      owner := setup.contract.owner
      coordinatorEpoch := 0
      schedulerCursor := 0
      activeChildren := []
      terminalChildren := []
      children := setup.contract.children.map ChildRecord.initial.state
      aggregateUsage := zeroUsage
      poolStartedMonotonicNs := startedNs
      poolWallNs := 0
      workerSeconds := 0
      pollOverheadNs := 0
      leaseBindings := []
      reasons := []
      reasonRecords := []
      firstProtectedFault := none
      controlLossScope := none
      stop := initialStop.metadata
      stateSha256 := setup.contract.contractSha256 }

/-- The state of a coordinator that has just been constructed. -/
def initialCore (startedNs : Nat) (evidence : MutationEvidence) : Core where
  slots := Slot.initial setup
  state := newState setup startedNs
  schedulerCursor := 0
  stop := initialStop
  reasons := []
  firstProtectedFault := none
  protectedFault := false
  controlFailed := false
  ledger := .initial
  pollOrder := []
  admissionOrder := []
  terminalOrder := []
  maxPollGapNs := 0
  lastMutationEvidence := evidence
  initialMutationFault := !evidence.isClean
  deferredReadOnlyWorkspaceCheck := false
  terminalComparisonComplete := false
  controlRequestSeen := false
  receipt := none

def initialTiming (startedNs : Nat) : Timing where
  startedNs := startedNs
  poolWallNs := 0
  callbackNs := 0
  noncallbackInvokeNs := 0
  coordinatorNs := 0
  waitNs := 0
  waitStartedNs := none
  maxCallbackLatencyNs := 0
  lastCallbackLatencyNs := none
  slackWarningActive := false
  frozen := false

/-- A check of the constructor. -/
def refuseIf (condition : Prop) [Decidable condition] (error : PyError) : Except PyError Unit :=
  if condition then .error error else .ok ()

/-- A callback of the constructor that returns nothing. -/
def passOn : Option PyError → Except PyError Unit
  | none => .ok ()
  | some error => .error error

def initialComparison : Except PyError MutationEvidence :=
  match comparison (world.compare 1 "create") with
  | .ok evidence => .ok evidence
  | .error error =>
    if PyError.isTypeOrValue error then
      .error (poolError ("workspace-comparison-failed:" ++ error.message))
    else .error error

/-- The capability receipt and the scheduling proof of a concurrent pool. -/
def admitConcurrency : Except PyError Unit :=
  if setup.Concurrent then do
    let errors ← world.capability 2
    refuseIf (errors ≠ []) (poolError ("capability-receipt-invalid:" ++ joinWith ";" errors))
    refuseIf (¬ schedulable setup.contract.maxActiveWorkers certifiedOverheadMs
      setup.contract.pollIntervalMs) (poolError "pool-schedulability-proof-rejected")
  else .ok ()

/-- The coordinator that the constructor returns, from its first clock reading on. -/
def start (registry : List Lease) : Except PyError Coord := do
  refuseIf (∃ childId ∈ setup.childIds, ∃ lease ∈ setup.preacquired childId,
      (registry.find? fun entry => entry.leaseId = lease.leaseId) ≠ some lease)
    (poolError "admitted-lease-set-registry-mismatch")
  let startedNs ← world.clock 0
  let evidence ← initialComparison world
  admitConcurrency setup world
  let core := initialCore setup startedNs evidence
  passOn (if setup.hasStateFile then world.acquireLock 3 else none)
  let errors := validatePoolState (some setup.contract) core.state
  refuseIf (errors ≠ []) (poolError ("pool-state-invalid:" ++ joinWith ";" errors))
  passOn (if setup.hasStateFile then world.writeState 4 else none)
  return {
    core := core
    timing := initialTiming startedNs
    tick := 5
    registry := registry
    history := [.compared (.ok evidence)] }

/-- The coordinators that a run reaches by operations that return. -/
inductive Reached (setup : Setup) (world : World) : Coord → Prop where
  | started {registry : List Lease} {coord : Coord} (constructed : start setup world registry = .ok coord) :
      Reached setup world coord
  | operated {before after : Coord} {operation : Operation} {report : PoolProgress}
      (reached : Reached setup world before)
      (returned : operate setup world operation before = .ok report after) :
      Reached setup world after

/-- The coordinators that a run leaves behind, by a return or by an exception. -/
inductive Left (setup : Setup) (world : World) : Coord → Prop where
  | reached {coord : Coord} (reached : Reached setup world coord) : Left setup world coord
  | raised {before after : Coord} {operation : Operation} {error : PyError}
      (reached : Reached setup world before)
      (raised : operate setup world operation before = .error error after) :
      Left setup world after

end WorkOrchestration.Native.Coordinator
