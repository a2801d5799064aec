import WorkOrchestration.Lib.Runs
import WorkOrchestration.Native.Session

/-!
# Single-worker supervision

The supervisor's state file: armed, marked as dispatched, checked against the session log and the
workspace, and finalized by control receipts.
-/

namespace WorkOrchestration.Native.Supervision

open Lib.Runs Lib.Text Artifacts Session

inductive Status where
  | created
  | armed
  | running
  | interruptPending
  | interruptConfirmed
  | completed
  | closed
  | controlFailed
  deriving DecidableEq

/-- `FINAL_STATES`. -/
def Status.isFinal (status : Status) : Bool :=
  [Status.completed, .closed, .controlFailed].contains status

inductive Decision where
  | continue'
  | warn
  | interrupt
  | complete
  | controlLost
  deriving DecidableEq

/-- `_apply_supervision_stop_metadata` authorizes continuation paths only after these. -/
def Decision.isStop (decision : Decision) : Bool :=
  [Decision.interrupt, .controlLost].contains decision

inductive ControlAction where
  | workerCompleted
  | interruptConfirmed
  | closeConfirmed
  | controlFailed
  deriving DecidableEq

/-- `control_timing`; times are in microseconds since the epoch, gaps in milliseconds. -/
structure ControlTiming where
  monitorArmedBeforeDispatch : Bool
  armedAt : Option Int
  dispatchedAt : Option Int
  firstPollAt : Option Int
  lastPollAt : Option Int
  armToDispatchMs : Option Int
  dispatchToFirstPollMs : Option Int
  maxPollGapMs : Int
  latePollCount : Nat

/-- What the packet binds. -/
structure Config where
  baselineRecordCount : Nat
  requestedModel : String
  budget : Budget
  interruptToolCalls : Nat
  interruptRuntime : Int
  pollIntervalMs : Int
  pollLagToleranceMs : Int
  armToDispatchMaxMs : Int
  segmentStartGrace : Int

/-- The usage that a check observes. -/
structure Observed where
  counts : Counts
  elapsed : Int

structure State where
  config : Config
  status : Status
  decision : Decision
  reasons : List String
  controlActionRequired : Bool
  controlReceipts : List ControlAction
  controlTurnId : Option String
  submissionId : Option String
  observed : Observed
  controlTiming : ControlTiming
  updatedAt : Int
  finalizedAt : Option Int

def systemExit (message : String) : PyError := ⟨.base, "SystemExit", message⟩

/-- `_iso`, which keeps milliseconds. -/
def iso (time : Int) : Int := time / 1000 * 1000

/-- `_elapsed_ms`: half a millisecond is rounded to the even one. -/
def elapsedMs (start finish : Int) : Int :=
  let span := finish - start
  max 0 <|
    if span % 1000 < 500 ∨ (span % 1000 = 500 ∧ span / 1000 % 2 = 0) then span / 1000
    else span / 1000 + 1

/-- The state that `start` writes. -/
def State.started (config : Config) (now : Int) : State where
  config := config
  status := .created
  decision := .continue'
  reasons := []
  controlActionRequired := false
  controlReceipts := []
  controlTurnId := none
  submissionId := none
  observed := ⟨.zero, 0⟩
  controlTiming := ⟨false, none, none, none, none, none, none, 0, 0⟩
  updatedAt := iso now
  finalizedAt := none

/-- `_compare_live_workspace`. -/
structure WorkspaceReport where
  incomplete : Bool
  attributionAmbiguous : Bool
  outOfScope : Bool
  untracked : Bool
  /-- `bool(report["mutations"])`. -/
  mutated : Bool

/-- `_workspace_hard_reasons`. -/
def WorkspaceReport.hardReasons (report : WorkspaceReport) : List String :=
  (if report.incomplete then ["incomplete-mutation-evidence"] else []) ++
  (if report.attributionAmbiguous then ["mutation-attribution-ambiguity"] else []) ++
  (if report.outOfScope then ["out-of-scope-mutation"] else []) ++
  (if report.untracked then ["unexpected-untracked-mutation"] else [])

/-- What `_classify_native_activity` reports. -/
structure Activity where
  warnings : List String
  violations : List String

/-- What an operation finds when it reads the files around the state, or what reading raises. -/
structure Evidence where
  /-- The bound packet and the current authority. -/
  packet : Except PyError Unit
  /-- The release evidence of an operation that dispatches. -/
  release : Except PyError Unit
  /-- The bound packet, read again with the session. -/
  binding : Except PyError Unit
  session : Except PyError (List Json)
  workspace : Except PyError WorkspaceReport
  activity : Except PyError Activity
  /-- The violations of `_analyze_command_evidence`. -/
  commands : Except PyError (List String)

variable (state : State) (selected : Segment)

def controlTurn (value : String) : Except PyError String :=
  if strip value = "" then .error (systemExit "control-turn-id must be non-empty")
  else .ok (strip value)

namespace State

def requireControlTurn (value : String) : Except PyError Unit := do
  let controlTurnId ← controlTurn value
  if state.controlTurnId ≠ some controlTurnId then
    throw (systemExit "control-turn-id does not match the armed supervisor state")

def setControlLost (reason : String) (now : Int) : State :=
  { state with
    decision := .controlLost
    status := .interruptPending
    reasons := [reason]
    controlActionRequired := true
    updatedAt := iso now }

def arm (state : State) (evidence : Evidence) (controlTurnId : String) (now : Int) :
    Except PyError State := do
  evidence.release
  if state.status ≠ .created then
    throw (systemExit "arm requires a newly created supervision state")
  let turn ← controlTurn controlTurnId
  return { state with
    controlTurnId := some turn
    status := .armed
    controlTiming := { state.controlTiming with armedAt := some (iso now) }
    updatedAt := iso now }

/-- The state of a dispatch, before the turn and the latency are looked at. -/
def dispatched (submissionId : String) (latency now : Int) : State :=
  { state with
    submissionId := some submissionId
    updatedAt := iso now
    controlTiming := { state.controlTiming with
      armToDispatchMs := some latency
      dispatchedAt := some (iso now) } }

def markDispatched (evidence : Evidence) (controlTurnId submissionId : String)
    (now : Int) : Except PyError State := do
  evidence.release
  if state.status ≠ .armed then
    throw (systemExit "mark-dispatched requires an armed supervision state")
  let turn ← controlTurn controlTurnId
  if strip submissionId = "" then throw (systemExit "submission-id must be non-empty")
  let latency := elapsedMs (state.controlTiming.armedAt.getD now) now
  let sent := state.dispatched (strip submissionId) latency now
  if state.controlTurnId ≠ some turn then
    return sent.setControlLost "control-turn-mismatch-after-dispatch" now
  else if state.config.armToDispatchMaxMs < latency then
    return sent.setControlLost "arm-to-dispatch-latency-exceeded" now
  else
    return { sent with
      controlTiming := { sent.controlTiming with monitorArmedBeforeDispatch := true }
      status := .running }

/-- `_record_poll_timing`: the state with the poll in it, and whether the poll came late. -/
def recordPollTiming (now : Int) : Except PyError (State × Bool) :=
  match state.controlTiming.lastPollAt.or state.controlTiming.dispatchedAt with
  | none => .error (systemExit "control-lost: dispatched supervisor state has no poll reference")
  | some reference =>
    let gap := elapsedMs reference now
    let timing := state.controlTiming
    let late := state.config.pollIntervalMs + state.config.pollLagToleranceMs < gap
    .ok ({ state with
      controlTiming := { timing with
        firstPollAt := timing.firstPollAt.or (some (iso now))
        dispatchToFirstPollMs :=
          if timing.firstPollAt.isNone then some gap else timing.dispatchToFirstPollMs
        lastPollAt := some (iso now)
        maxPollGapMs := max timing.maxPollGapMs gap
        latePollCount := if late then timing.latePollCount + 1 else timing.latePollCount } },
      late)

/-- How long the worker has been dispatched, in microseconds. -/
def startupElapsed (now : Int) : Int := max 0 (now - state.controlTiming.dispatchedAt.getD now)

/-- `awaiting-task-boundary`: no decision yet. -/
def await (late : Bool) (now : Int) : State :=
  { state with
    decision := if late then .warn else .continue'
    status := .running
    reasons := "awaiting-task-boundary" :: (if late then ["poll-latency-observed"] else [])
    controlActionRequired := false
    updatedAt := iso now }

def attestationPending (report : WorkspaceReport)
    (activity : Activity) (violations : List String) (now : Int) : Bool :=
  !selected.complete && selected.models.isEmpty &&
    selected.hardStopReasons state.config.budget state.config.requestedModel ==
      ["missing-attestation"] &&
    selected.counts == .zero && !report.mutated && activity.violations.isEmpty &&
    violations.isEmpty && state.startupElapsed now ≤ state.config.segmentStartGrace

def hardReasons (state : State) (selected : Segment) (report : WorkspaceReport)
    (activity : Activity) (violations : List String) (now : Int) : List String :=
  (if selected.modelMismatch state.config.requestedModel &&
      !state.attestationPending selected report activity violations now then ["model-mismatch"]
    else []) ++
  (if state.config.budget.maxCompactions < selected.counts.contextCompactions then
    ["context-compaction"] else []) ++
  (if state.config.budget.maxFullSuiteRuns < selected.counts.fullSuiteRuns then
    ["full-suite-limit"] else []) ++
  report.hardReasons ++ activity.violations ++ violations

def reserveReasons : List String :=
  (if state.config.interruptToolCalls ≤ selected.counts.toolCalls then
    ["tool-call-interrupt-threshold"] else []) ++
  (if state.config.interruptRuntime ≤ selected.runtime then
    ["runtime-interrupt-threshold"] else [])

def warningReasons (activity : Activity) (late : Bool) :
    List String :=
  activity.warnings ++ (if late then ["poll-latency-observed"] else []) ++
  (if state.config.budget.toolCallsSoft < selected.counts.toolCalls then
    ["tool-call-soft-limit"] else []) ++
  (if state.config.budget.runtimeSoft < selected.runtime then ["runtime-soft-limit"] else [])

/-- The decision of a check and its reasons. -/
def decide' (report : WorkspaceReport) (activity : Activity)
    (violations : List String) (late : Bool) (now : Int) : Decision × List String :=
  let hard := state.hardReasons selected report activity violations now
  let warnings := state.warningReasons selected activity late
  if hard ≠ [] then (.interrupt, hard.eraseDups)
  else if selected.complete then (.complete, [])
  else if state.reserveReasons selected ≠ [] then
    (.interrupt, (state.reserveReasons selected).eraseDups)
  else if state.attestationPending selected report activity violations now then
    (if warnings ≠ [] then .warn else .continue', ("awaiting-model-attestation" :: warnings).eraseDups)
  else if warnings ≠ [] then (.warn, warnings.eraseDups)
  else (.continue', [])

/-- The state with a decision of a check in it. -/
def decided (decision : Decision) (reasons : List String) (selected : Segment)
    (now : Int) : State :=
  { state with
    decision
    status := if decision = .interrupt then .interruptPending else state.status
    reasons
    controlActionRequired := decision = .interrupt
    observed := ⟨selected.counts, selected.runtime⟩
    updatedAt := iso now }

/-- The rest of a check, when the poll has been recorded. -/
def judge (readers : Readers) (state : State) (evidence : Evidence) (records : List Json)
    (late : Bool) (now : Int) : Except PyError State := do
  if records.length < state.config.baselineRecordCount then
    throw (systemExit "control-lost: session log was truncated below the supervision watermark")
  let supervised := records.drop state.config.baselineRecordCount
  if supervised.any (isBoundary false) then
    let evaluation ← evaluateRecords readers supervised now
    let report ← evidence.workspace
    let activity ← evidence.activity
    let violations ← evidence.commands
    let decision := state.decide' evaluation.selected report activity violations late now
    return state.decided decision.1 decision.2 evaluation.selected now
  else if state.startupElapsed now ≤ state.config.segmentStartGrace then
    return state.await late now
  else throw (systemExit "control-lost: task boundary did not appear within startup grace")

/-- `except SystemExit`: evidence that could not be read is lost control. -/
def orLost (now : Int) (computed : Except PyError State) : Except PyError State :=
  match computed with
  | .ok after => .ok after
  | .error error =>
    if error.typeName = "SystemExit" then .ok (state.setControlLost error.message now)
    else .error error

/-- A check of a dispatched worker. -/
def observe (readers : Readers) (state : State) (evidence : Evidence) (now : Int) :
    Except PyError State :=
  match evidence.binding.bind fun _ => evidence.session with
  | .error error => state.orLost now (.error error)
  | .ok records =>
    match state.recordPollTiming now with
    | .error error => state.orLost now (.error error)
    | .ok (polled, late) => polled.orLost now (polled.judge readers evidence records late now)

/-- The statuses in which a check observes the worker. -/
def isLive : Bool := [Status.running, .interruptPending, .interruptConfirmed].contains state.status

def check (readers : Readers) (state : State) (evidence : Evidence) (controlTurnId : String)
    (now : Int) : Except PyError State :=
  match evidence.packet with
  | .error error =>
    if state.status.isFinal ∧ error.typeName = "SystemExit" then .ok state
    else if error.typeName = "SystemExit" then
      .ok (state.setControlLost "current-authority-invalid" now)
    else .error error
  | .ok _ =>
    match state.requireControlTurn controlTurnId with
    | .error error =>
      if state.isLive then
        .ok (state.setControlLost "control-turn-mismatch-during-monitoring" now)
      else .error error
    | .ok _ =>
      if state.status.isFinal then .ok state
      else if state.isLive then state.observe readers evidence now
      else .error (systemExit "check requires a marked-dispatched supervision state")

/-- The state that a control receipt makes of one that it is appended to. -/
def received (action : ControlAction) (now : Int) : Except PyError State :=
  match action with
  | .interruptConfirmed => .ok { state with status := .interruptConfirmed }
  | .closeConfirmed =>
    if ControlAction.interruptConfirmed ∈ state.controlReceipts then
      .ok { state with
        status := .closed
        controlActionRequired := false
        finalizedAt := some (iso now) }
    else .error (systemExit "close-confirmed requires an interrupt-confirmed receipt")
  | .workerCompleted =>
    .ok { state with
      status := .completed
      decision := .complete
      controlActionRequired := false
      finalizedAt := some (iso now) }
  | .controlFailed =>
    .ok { state with
      status := .controlFailed
      decision := .controlLost
      controlActionRequired := false
      finalizedAt := some (iso now) }

def finalize (evidence : Evidence) (controlTurnId : String) (action : ControlAction)
    (now : Int) : Except PyError State := do
  state.requireControlTurn controlTurnId
  if state.status.isFinal then
    throw (systemExit "finalized supervision state cannot be reopened")
  if action = .workerCompleted then
    evidence.packet
  if action = .workerCompleted ∧ state.decision ≠ .complete then
    throw (systemExit "worker-completed requires a complete supervisor decision")
  if action = .interruptConfirmed ∧ !state.decision.isStop then
    throw (systemExit "interrupt-confirmed requires an interrupt or control-lost supervisor decision")
  let after ← { state with controlReceipts := state.controlReceipts ++ [action] }.received action now
  return { after with updatedAt := iso now }

end State

inductive Move where
  | arm (evidence : Evidence) (controlTurnId : String) (now : Int)
  | markDispatched (evidence : Evidence) (controlTurnId submissionId : String) (now : Int)
  | check (evidence : Evidence) (controlTurnId : String) (now : Int)
  | finalize (evidence : Evidence) (controlTurnId : String) (action : ControlAction) (now : Int)

def State.perform (readers : Readers) (state : State) : Move → Except PyError State
  | .arm evidence controlTurnId now => state.arm evidence controlTurnId now
  | .markDispatched evidence controlTurnId submissionId now =>
    state.markDispatched evidence controlTurnId submissionId now
  | .check evidence controlTurnId now => state.check readers evidence controlTurnId now
  | .finalize evidence controlTurnId action now => state.finalize evidence controlTurnId action now

/-- One operation of a run: what it persists, or what it raises. -/
structure Transition where
  before : State
  move : Move
  result : Except PyError State

/-- An operation that raises leaves the file. -/
def Transition.after (step : Transition) : State :=
  match step.result with
  | .ok state => state
  | .error _ => step.before

def run (readers : Readers) (state : State) : List Move → List Transition
  | [] => []
  | move :: rest =>
    let step : Transition := ⟨state, move, state.perform readers move⟩
    step :: run readers step.after rest

end WorkOrchestration.Native.Supervision
