import WorkOrchestration.Native.Precommit
import WorkOrchestration.Workspace.BaselineCoverage

/-!
# Precommit runs

One precommit state over a session log that grows and a workspace that changes.  Every flag of the
state is backed by the operations behind it.
-/

namespace WorkOrchestration.Native.Precommit

open List Lib.Runs Lib.Text Artifacts Session
open Supervision (iso elapsedMs)
open Workspace.Baseline

/-! ## Runs -/

/-- What an operation finds: the processes, what keeps the session file from being read, and the
workspace. -/
structure Sight where
  host : Host
  fault : Option PyError
  workspace : Except PyError Capture
  /-- The allowed path `.` is the root. -/
  rooted : ∀ capture, workspace = .ok capture → capture.resolve "." = some []

def Sight.evidence (sight : Sight) (log : List Json) : Evidence where
  host := sight.host
  session :=
    match sight.fault with
    | some error => .error error
    | none => .ok log
  workspace :=
    match sight.workspace with
    | .ok capture => .ok (capture.baseline ["."])
    | .error error => .error error

/-- The records of the session file, and the state file. -/
structure System where
  log : List Json
  state : Option State

inductive Move where
  | grow (records : List Json)
  | create (request : Request) (sight : Sight) (now : Int)
  | arm (sight : Sight) (controlTurnId : String) (now : Int)
  | markFitDispatched (sight : Sight) (controlTurnId submissionId : String) (now : Int)
  | check (sight : Sight) (controlTurnId : String) (now : Int)
  | finalize (sight : Sight) (controlTurnId : String) (action : ControlAction) (now : Int)
  | issue (sight : Sight)

/-- The policy, and `json.loads`. -/
structure Setting where
  policy : Policy
  loads : String → Option Json

namespace System

def empty : System := ⟨[], none⟩

/-- An operation on the state file. -/
def update (system : System) (operation : State → Except PyError State) : Except PyError System :=
  match system.state with
  | none => .error (valueError "precommit state is unreadable")
  | some state =>
    match operation state with
    | .ok after => .ok { system with state := some after }
    | .error error => .error error

def step (setting : Setting) (system : System) : Move → Except PyError System
  | .grow records => .ok { system with log := system.log ++ records }
  | .create request sight now =>
    match system.state with
    | some _ => .error (valueError "precommit state artifact already exists")
    | none =>
      match createPrecommitState setting.policy request (sight.evidence system.log) now with
      | .ok state => .ok { system with state := some state }
      | .error error => .error error
  | .arm sight controlTurnId now =>
    system.update fun state => state.armPrecommit (sight.evidence system.log) controlTurnId now
  | .markFitDispatched sight controlTurnId submissionId now =>
    system.update fun state =>
      state.markFitDispatched (sight.evidence system.log) controlTurnId submissionId now
  | .check sight controlTurnId now =>
    system.update fun state =>
      state.checkPrecommit setting.loads (sight.evidence system.log) controlTurnId now
  | .finalize sight controlTurnId action now =>
    system.update fun state =>
      state.finalizePrecommit (sight.evidence system.log) controlTurnId action now
  | .issue sight =>
    system.update fun state =>
      match issuePrecommitReceipt setting.policy state (sight.evidence system.log) with
      | .ok _ => .ok state
      | .error error => .error error

end System

/-- One operation of a run: the system that it leaves, or what it raises. -/
structure Transition where
  before : System
  move : Move
  result : Except PyError System

variable (step : Transition)

/-- An operation that raises has written nothing. -/
def Transition.after : System :=
  match step.result with
  | .ok system => system
  | .error _ => step.before

def run (setting : Setting) (system : System) : List Move → List Transition
  | [] => []
  | move :: rest =>
    let step : Transition := ⟨system, move, system.step setting move⟩
    step :: run setting step.after rest

namespace Transition

/-- The state is created from a capture of the workspace. -/
def Creates (capture : Capture) : Prop :=
  ∃ request sight now system, step.move = .create request sight now ∧
    sight.workspace = .ok capture ∧ step.result = .ok system

def Arms (now : Int) : Prop :=
  ∃ sight controlTurnId system, step.move = .arm sight controlTurnId now ∧ step.result = .ok system

def Dispatches (submissionId : String) (now : Int) : Prop :=
  ∃ sight controlTurnId text system state, step.move = .markFitDispatched sight controlTurnId text now ∧
    strip text = submissionId ∧ step.result = .ok system ∧ system.state = some state ∧
    state.status = .fitDispatched

def Confirms (action : ControlAction) : Prop :=
  ∃ sight controlTurnId now system state, step.move = .finalize sight controlTurnId action now ∧
    step.result = .ok system ∧ step.before.state = some state ∧
    state.requireControlTurn controlTurnId = .ok ()

def poll : Option Int :=
  match step.move, step.before.state, step.result with
  | .check _ controlTurnId now, some state, .ok _ =>
    match state.requireControlTurn controlTurnId with
    | .ok _ => if state.status = .fitDispatched then some now else none
    | .error _ => none
  | _, _, _ => none

end Transition

def polls (steps : List Transition) : List Int := steps.filterMap Transition.poll

/-- Every poll comes within the allowed gap of the one before, and the first one of the reference. -/
def Paced (allowedMs reference : Int) : List Int → Prop
  | [] => True
  | time :: rest => elapsedMs reference time ≤ allowedMs ∧ Paced allowedMs (iso time) rest

/-! ## What backs a state -/

/-- The records of the log after the baseline. -/
def stretch (state : State) (log : List Json) : List Json := log.drop state.baseline.recordCount

/-- The fit has been completed, and it has not been interrupted since. -/
def State.Done (state : State) : Prop :=
  state.status = .completed ∨ state.status = .closed ∧ state.closureOutcome = some .completed

/-- What the last check saw. -/
structure Seen (loads : String → Option Json) (log : List Json) (state : State) (seen : List Json)
    (report : MutationReport) : Prop where
  terminal : state.terminal = some (boundaryOf seen)
  inLog : seen <+: log
  observed : state.observed = State.observe (stretch state seen) report
  completed : state.Done → (activity (stretch state seen)).taskCompleteObserved = true
  valid : state.Done → state.semanticStatus = .valid → ∃ result, state.fitResult = some result ∧
    parseFitResult loads ((finalResponse (stretch state seen)).getD "") = .ok result

/-- The operations behind a state, as far as its flags speak of them. -/
structure Backed (setting : Setting) (past : List Transition) (log : List Json) (state : State) :
    Prop where
  created : ∃ capture, (∃ step ∈ past, step.Creates capture) ∧
    state.workspaceBaseline = capture.baseline ["."]
  allowed : state.allowedGapMs = setting.policy.pollIntervalMs + setting.policy.pollLagToleranceMs
  latency : state.armToDispatchMaxMs = setting.policy.armToDispatchMaxMs
  armed : ∀ time, state.polling.armedAt = some time →
    ∃ now, (∃ step ∈ past, step.Arms now) ∧ time = iso now
  early : state.status = .created ∨ state.status = .armed → state.polling.dispatchedAt = none
  timed : state.status = .armed → state.polling.armedAt ≠ none
  unpolled : state.polling.dispatchedAt = none →
    polls past = [] ∧ state.polling.lastSuccessfulPollAt = none
  sent : state.status = .fitDispatched → state.polling.dispatchedAt ≠ none
  dispatched : ControlAction.dispatchMarked ∈ state.actions →
    ∃ submission armed now, (∃ step ∈ past, step.Arms armed) ∧
      (∃ step ∈ past, step.Dispatches submission now) ∧
      state.submissionId = some submission ∧ state.polling.dispatchedAt = some (iso now) ∧
      elapsedMs (iso armed) now ≤ setting.policy.armToDispatchMaxMs
  paced : state.polling.uninterrupted = true → ∀ reference,
    state.polling.dispatchedAt = some reference → Paced state.allowedGapMs reference (polls past) ∧
      state.polling.lastSuccessfulPollAt = (polls past).getLast?.map iso
  counted : state.polling.uninterrupted = true → state.polling.pollCount = (polls past).length
  judged : (state.terminal = none → ¬ state.Done) ∧ (state.terminal ≠ none → ∃ seen report,
    Seen setting.loads log state seen report)
  worked : ControlAction.workerCompleted ∈ state.actions →
    ∃ step ∈ past, step.Confirms .workerCompleted
  closed : state.closureOutcome = some .completed →
    ∃ front close back, past = front ++ close :: back ∧ close.Confirms .closeConfirmed ∧
      ∃ worker ∈ front, worker.Confirms .workerCompleted

section

variable {setting : Setting} {past : List Transition} {log : List Json} {state after : State}
  {step : Transition} {now : Int}

theorem Seen.grow {loads : String → Option Json} {seen more : List Json} {report : MutationReport}
    (held : Seen loads log state seen report) : Seen loads (log ++ more) state seen report :=
  { held with inLog := held.inLog.trans (prefix_append log more) }

/-- A step that polls nothing leaves what is behind a state behind it. -/
theorem Backed.extend (backed : Backed setting past log state) (step : Transition)
    (quiet : step.poll = none) (more : List Json) :
    Backed setting (past ++ [step]) (log ++ more) state := by
  have same : polls (past ++ [step]) = polls past := by
    unfold polls
    rw [filterMap_append, filterMap_cons_none quiet, filterMap_nil, append_nil]
  have kept {holds : Transition → Prop} : (∃ step ∈ past, holds step) →
      ∃ other ∈ past ++ [step], holds other := by
    rintro ⟨other, found, here⟩
    exact ⟨other, mem_append_left _ found, here⟩
  constructor
  case created =>
    obtain ⟨capture, creates, baseline⟩ := backed.created
    exact ⟨capture, kept creates, baseline⟩
  case allowed => exact backed.allowed
  case latency => exact backed.latency
  case armed =>
    intro time found
    obtain ⟨now, arms, same⟩ := backed.armed time found
    exact ⟨now, kept arms, same⟩
  case early => exact backed.early
  case timed => exact backed.timed
  case unpolled =>
    rw [same]
    exact backed.unpolled
  case sent => exact backed.sent
  case dispatched =>
    intro marked
    obtain ⟨submission, armed, now, arms, dispatches, rest⟩ := backed.dispatched marked
    exact ⟨submission, armed, now, kept arms, kept dispatches, rest⟩
  case paced =>
    rw [same]
    exact backed.paced
  case counted =>
    rw [same]
    exact backed.counted
  case judged =>
    refine ⟨backed.judged.1, ?_⟩
    intro ended
    obtain ⟨seen, report, held⟩ := backed.judged.2 ended
    exact ⟨seen, report, held.grow⟩
  case worked =>
    intro found
    exact kept (backed.worked found)
  case closed =>
    intro completed
    obtain ⟨front, close, back, split, rest⟩ := backed.closed completed
    refine ⟨front, close, back ++ [step], ?_, rest⟩
    rw [split, append_assoc, cons_append]

/-- What the last check saw is kept as long as the fit is not done anew. -/
structure KeepsSight (before after : State) : Prop where
  terminal : after.terminal = before.terminal
  observed : after.observed = before.observed
  baseline : after.baseline = before.baseline
  semanticStatus : after.semanticStatus = before.semanticStatus
  fitResult : after.fitResult = before.fitResult
  done : after.Done → before.Done

theorem Seen.carry {loads : String → Option Json} {seen : List Json} {report : MutationReport}
    (held : Seen loads log state seen report) (keeps : KeepsSight state after) :
    Seen loads log after seen report := by
  have same : stretch after seen = stretch state seen := by
    unfold stretch
    rw [keeps.baseline]
  constructor
  case terminal => rw [keeps.terminal, held.terminal]
  case inLog => exact held.inLog
  case observed => rw [keeps.observed, held.observed, same]
  case completed =>
    intro done
    rw [same]
    exact held.completed (keeps.done done)
  case valid =>
    intro done
    rw [same, keeps.semanticStatus, keeps.fitResult]
    exact held.valid (keeps.done done)

section

variable (backed : Backed setting past log state)

include backed

theorem Backed.judged_carry (keeps : KeepsSight state after) :
    (after.terminal = none → ¬ after.Done) ∧ (after.terminal ≠ none → ∃ seen report,
      Seen setting.loads log after seen report) := by
  rw [keeps.terminal]
  refine ⟨fun unjudged done => backed.judged.1 unjudged (keeps.done done), ?_⟩
  intro ended
  obtain ⟨seen, report, held⟩ := backed.judged.2 ended
  exact ⟨seen, report, held.carry keeps⟩

theorem Backed.setControlFailed (reason : String)
    (now : Int) : Backed setting past log (state.setControlFailed reason now) where
  __ := backed
  early := by
    rintro (created | armed)
    · cases created
    · cases armed
  timed := fun armed => Status.noConfusion armed
  sent := fun dispatched => Status.noConfusion dispatched
  paced := fun whole => Bool.noConfusion whole
  counted := fun whole => Bool.noConfusion whole
  judged := by
    apply backed.judged_carry
    refine ⟨rfl, rfl, rfl, rfl, rfl, ?_⟩
    rintro (completed | ⟨closed, _⟩)
    · cases completed
    · cases closed

theorem Backed.touch (time : Int) : Backed setting past log { state with updatedAt := time } where
  __ := backed
  judged := backed.judged_carry ⟨rfl, rfl, rfl, rfl, rfl, id⟩

end

theorem actions_controlReceipt (state : State) (action : ControlAction) (now : Int) :
    (state.controlReceipt action now).actions = state.actions ++ [action] := by
  unfold State.actions State.controlReceipt
  rw [map_append]
  rfl

variable {action : ControlAction}

theorem mem_actions_controlReceipt {other : ControlAction} :
    other ∈ (state.controlReceipt action now).actions ↔ other ∈ state.actions ∨ other = action := by
  rw [actions_controlReceipt, mem_append, mem_singleton]

section

variable (backed : Backed setting past log state)

include backed

theorem Backed.controlReceipt (unmarked : action ≠ .dispatchMarked)
    (worked : action = .workerCompleted → ∃ step ∈ past, step.Confirms .workerCompleted) (now : Int) :
    Backed setting past log (state.controlReceipt action now) where
  __ := backed
  dispatched := by
    intro found
    rcases mem_actions_controlReceipt.mp found with earlier | now
    · exact backed.dispatched earlier
    · exact absurd now.symm unmarked
  judged := backed.judged_carry ⟨rfl, rfl, rfl, rfl, rfl, id⟩
  worked := by
    intro found
    rcases mem_actions_controlReceipt.mp found with earlier | now
    · exact backed.worked earlier
    · exact worked now.symm

theorem Backed.arm (created : state.status = .created)
    (arms : ∃ step ∈ past, step.Arms now) (turn : String) :
    Backed setting past log { state with
      controlTurnId := some turn
      status := .armed
      polling := { state.polling with armedAt := some (iso now) }
      updatedAt := iso now } where
  __ := backed
  armed := by
    intro time found
    cases found
    exact ⟨now, arms, rfl⟩
  early := fun _ => backed.early (.inl created)
  timed := fun _ => Option.some_ne_none _
  sent := fun dispatched => Status.noConfusion dispatched
  judged := by
    apply backed.judged_carry
    refine ⟨rfl, rfl, rfl, rfl, rfl, ?_⟩
    rintro (completed | ⟨closed, _⟩)
    · cases completed
    · cases closed

theorem Backed.send (armed : state.status = .armed)
    {status : Status} (sent : status = .fitDispatched ∨ status = .controlFailed)
    (submission : String) :
    Backed setting past log { state.dispatched submission now with status } := by
  have undispatched := backed.early (.inr armed)
  obtain ⟨none', unpolled⟩ := backed.unpolled undispatched
  have unmarked : ControlAction.dispatchMarked ∉ state.actions := by
    intro marked
    obtain ⟨_, _, _, _, _, _, dispatchedAt, _⟩ := backed.dispatched marked
    rw [undispatched] at dispatchedAt
    cases dispatchedAt
  constructor
  case created => exact backed.created
  case allowed => exact backed.allowed
  case latency => exact backed.latency
  case armed => exact backed.armed
  case early =>
    rintro (created | armed)
    · rcases sent with rfl | rfl <;> cases created
    · rcases sent with rfl | rfl <;> cases armed
  case timed =>
    intro armed
    rcases sent with rfl | rfl <;> cases armed
  case unpolled =>
    intro absent
    cases absent
  case sent => exact fun _ => Option.some_ne_none _
  case dispatched =>
    intro marked
    exact absurd marked unmarked
  case paced =>
    intro _ reference _
    rw [none']
    exact ⟨True.intro, unpolled⟩
  case counted => exact backed.counted
  case judged =>
    apply backed.judged_carry
    refine ⟨rfl, rfl, rfl, rfl, rfl, ?_⟩
    rintro (completed | ⟨closed, _⟩)
    · rcases sent with rfl | rfl <;> cases completed
    · rcases sent with rfl | rfl <;> cases closed
  case worked => exact backed.worked
  case closed => exact backed.closed

theorem Backed.mark (time : Int)
    (marked : ∃ submission armed now, (∃ step ∈ past, step.Arms armed) ∧
      (∃ step ∈ past, step.Dispatches submission now) ∧
      state.submissionId = some submission ∧ state.polling.dispatchedAt = some (iso now) ∧
      elapsedMs (iso armed) now ≤ setting.policy.armToDispatchMaxMs) :
    Backed setting past log (state.controlReceipt .dispatchMarked time) where
  __ := backed
  dispatched := fun _ => marked
  judged := backed.judged_carry ⟨rfl, rfl, rfl, rfl, rfl, id⟩
  worked := by
    intro found
    rcases mem_actions_controlReceipt.mp found with earlier | other
    · exact backed.worked earlier
    · cases other

end

theorem paced_append {allowedMs reference : Int} {times : List Int} {time : Int}
    (paced : Paced allowedMs reference times)
    (close : elapsedMs ((times.getLast?.map iso).getD reference) time ≤ allowedMs) :
    Paced allowedMs reference (times ++ [time]) := by
  induction times generalizing reference with
  | nil => exact ⟨close, True.intro⟩
  | cons first rest ih =>
    obtain ⟨here, later⟩ := paced
    refine ⟨here, ih later ?_⟩
    cases rest with
    | nil => exact close
    | cons second others =>
      exact close

theorem polls_append (past : List Transition) (polled : step.poll = some now) :
    polls (past ++ [step]) = polls past ++ [now] := by
  unfold polls
  rw [filterMap_append, filterMap_cons_some polled, filterMap_nil]

/-- The polling of a state after a poll: its settings are the same, and unless the continuity is lost
it counts and dates the poll. -/
structure Polls (state : State) (now : Int) (polling : Polling) : Prop where
  intervalMs : polling.intervalMs = state.polling.intervalMs
  lagToleranceMs : polling.lagToleranceMs = state.polling.lagToleranceMs
  armedAt : polling.armedAt = state.polling.armedAt
  dispatchedAt : polling.dispatchedAt = state.polling.dispatchedAt
  whole : polling.uninterrupted = true → state.polling.uninterrupted = true ∧
    polling.lastSuccessfulPollAt = some (iso now) ∧
    polling.pollCount = state.polling.pollCount + 1 ∧
    ∃ reference, state.polling.lastSuccessfulPollAt.or state.polling.dispatchedAt = some reference ∧
      elapsedMs reference now ≤ state.allowedGapMs

theorem Backed.polled (backed : Backed setting past log state)
    (dispatched : state.status = .fitDispatched) (polled : step.poll = some now)
    (polling : Polling) (record : Polls state now polling) :
    Backed setting (past ++ [step]) log { state with polling } := by
  have kept {holds : Transition → Prop} : (∃ step ∈ past, holds step) →
      ∃ other ∈ past ++ [step], holds other := by
    rintro ⟨other, found, here⟩
    exact ⟨other, mem_append_left _ found, here⟩
  have gap : polling.intervalMs + polling.lagToleranceMs = state.allowedGapMs := by
    rw [record.intervalMs, record.lagToleranceMs]
    rfl
  constructor
  case created =>
    obtain ⟨capture, creates, baseline⟩ := backed.created
    exact ⟨capture, kept creates, baseline⟩
  case allowed => exact gap.trans backed.allowed
  case latency => exact backed.latency
  case armed =>
    intro time found
    obtain ⟨now, arms, same⟩ := backed.armed time (record.armedAt ▸ found)
    exact ⟨now, kept arms, same⟩
  case early =>
    rintro (created | armed)
    · exact absurd (dispatched.symm.trans created) Status.noConfusion
    · exact absurd (dispatched.symm.trans armed) Status.noConfusion
  case timed =>
    intro armed
    exact absurd (dispatched.symm.trans armed) Status.noConfusion
  case unpolled =>
    intro absent
    exact absurd (record.dispatchedAt ▸ absent) (backed.sent dispatched)
  case sent =>
    intro _ absent
    exact backed.sent dispatched (record.dispatchedAt ▸ absent)
  case dispatched =>
    intro marked
    obtain ⟨submission, armed, now, arms, dispatches, sub, dispatchedAt, rest⟩ :=
      backed.dispatched marked
    exact ⟨submission, armed, now, kept arms, kept dispatches, sub,
      record.dispatchedAt.trans dispatchedAt, rest⟩
  case paced =>
    intro whole reference dispatchedAt
    obtain ⟨before, last, _, previous, found, close⟩ := record.whole whole
    have dispatchedAt := record.dispatchedAt.symm.trans dispatchedAt
    obtain ⟨paced, lastBefore⟩ := backed.paced before reference dispatchedAt
    change Paced (polling.intervalMs + polling.lagToleranceMs) reference (polls (past ++ [step])) ∧ _
    rw [polls_append past polled, gap, getLast?_concat]
    refine ⟨paced_append paced ?_, last⟩
    rw [lastBefore, dispatchedAt] at found
    cases ended : (polls past).getLast?.map iso with
    | none | some =>
      rw [ended] at found
      cases found
      exact close
  case counted =>
    intro whole
    obtain ⟨before, _, count, _⟩ := record.whole whole
    rw [polls_append past polled, length_append]
    exact count.trans (congrArg (· + 1) (backed.counted before))
  case judged =>
    apply backed.judged_carry
    exact ⟨rfl, rfl, rfl, rfl, rfl, id⟩
  case worked =>
    intro found
    exact kept (backed.worked found)
  case closed =>
    intro completed
    obtain ⟨front, close, back, split, rest⟩ := backed.closed completed
    refine ⟨front, close, back ++ [step], ?_, rest⟩
    rw [split, append_assoc, cons_append]

theorem Backed.recordPoll (backed : Backed setting past log state)
    (dispatched : state.status = .fitDispatched) (polled : step.poll = some now) :
    Backed setting (past ++ [step]) log (state.recordPoll now) := by
  obtain ⟨sent, sentAt⟩ := Option.ne_none_iff_exists'.mp (backed.sent dispatched)
  obtain ⟨reference, found⟩ :
      ∃ reference, state.polling.lastSuccessfulPollAt.or state.polling.dispatchedAt =
        some reference := by
    rw [sentAt]
    cases state.polling.lastSuccessfulPollAt with
    | none => exact ⟨sent, rfl⟩
    | some time => exact ⟨time, rfl⟩
  unfold State.recordPoll
  dsimp only
  rw [found]
  dsimp only
  split
  · have lost := backed.polled dispatched polled { state.polling with
        maxGapMs := max state.polling.maxGapMs (elapsedMs reference now)
        latePollCount := state.polling.latePollCount + 1
        uninterrupted := false }
      ⟨rfl, rfl, rfl, rfl, fun whole => Bool.noConfusion whole⟩
    exact lost.setControlFailed "precommit-polling-continuity-lost" now
  · rename_i close
    apply backed.polled dispatched polled
    exact ⟨rfl, rfl, rfl, rfl, fun whole => ⟨whole, rfl, rfl, reference, found, Int.not_lt.mp close⟩⟩

theorem taskComplete_mono {front back : List Json} (inside : front <+: back)
    (complete : (activity front).taskCompleteObserved = true) :
    (activity back).taskCompleteObserved = true := by
  obtain ⟨more, rfl⟩ := inside
  unfold activity at complete ⊢
  dsimp only at complete ⊢
  rw [any_append, complete]
  rfl

theorem stretch_mono {front back : List Json} (inside : front <+: back) :
    stretch state front <+: stretch state back := by
  obtain ⟨more, rfl⟩ := inside
  unfold stretch
  rw [drop_append]
  exact prefix_append _ _

/-- What a judgement leaves as it is, and the statuses that it gives. -/
structure Judges (before after : State) : Prop where
  workspace : after.workspaceBaseline = before.workspaceBaseline
  latency : after.armToDispatchMaxMs = before.armToDispatchMaxMs
  polling : after.polling = before.polling
  receipts : after.controlReceipts = before.controlReceipts
  submission : after.submissionId = before.submissionId
  outcome : after.closureOutcome = before.closureOutcome
  baseline : after.baseline = before.baseline
  status : after.status = before.status ∨ after.status = .interruptPending ∨
    after.status = .completed

variable (backed : Backed setting past log state)

include backed

/-- What a check saw, when its judgement leaves the fit done only as a completed task. -/
theorem Backed.seen (report : MutationReport)
    (judges : Judges state after) (terminal : after.terminal = some (boundaryOf log))
    (observed : after.observed = State.observe (stretch state log) report)
    (done : after.Done → (activity (stretch state log)).taskCompleteObserved = true ∧
      (after.semanticStatus = .valid → ∃ result, after.fitResult = some result ∧
        parseFitResult setting.loads ((finalResponse (stretch state log)).getD "") = .ok result)) :
    Backed setting past log after := by
  obtain ⟨workspace, latency, polling, receipts, submission, outcome, baseline, status⟩ := judges
  have gap : after.allowedGapMs = state.allowedGapMs := by
    unfold State.allowedGapMs
    rw [polling]
  have actions : after.actions = state.actions := by
    unfold State.actions
    rw [receipts]
  have same : stretch after log = stretch state log := by
    unfold stretch
    rw [baseline]
  constructor
  case created =>
    rw [workspace]
    exact backed.created
  case allowed => exact gap.trans backed.allowed
  case latency => exact latency.trans backed.latency
  case armed =>
    rw [polling]
    exact backed.armed
  case early =>
    rw [polling]
    rcases status with kept | pending | completed
    · rw [kept]
      exact backed.early
    · rw [pending]
      rintro (created | armed)
      · cases created
      · cases armed
    · rw [completed]
      rintro (created | armed)
      · cases created
      · cases armed
  case timed =>
    rw [polling]
    rcases status with kept | pending | completed
    · rw [kept]
      exact backed.timed
    · rw [pending]
      exact fun armed => Status.noConfusion armed
    · rw [completed]
      exact fun armed => Status.noConfusion armed
  case unpolled =>
    rw [polling]
    exact backed.unpolled
  case sent =>
    rw [polling]
    rcases status with kept | pending | completed
    · rw [kept]
      exact backed.sent
    · rw [pending]
      exact fun dispatched => Status.noConfusion dispatched
    · rw [completed]
      exact fun dispatched => Status.noConfusion dispatched
  case dispatched =>
    rw [actions, submission, polling]
    exact backed.dispatched
  case paced =>
    rw [polling, gap]
    exact backed.paced
  case counted =>
    rw [polling]
    exact backed.counted
  case judged =>
    rw [terminal]
    refine ⟨fun absent => absurd absent (Option.some_ne_none _), ?_⟩
    intro _
    refine ⟨log, report, terminal, prefix_refl log, ?_, ?_, ?_⟩
    · rw [same]
      exact observed
    · rw [same]
      exact fun ended => (done ended).1
    · rw [same]
      exact fun ended => (done ended).2
  case worked =>
    rw [actions]
    exact backed.worked
  case closed =>
    rw [outcome]
    exact backed.closed

/-- The judgement of a check over the whole log. -/
theorem Backed.judge (going : state.status ≠ .closed) (report : MutationReport) :
    Backed setting past log
      (state.judge setting.loads (boundaryOf log) (stretch state log) report) := by
  unfold State.judge
  dsimp only
  split
  · rename_i failed
    refine backed.seen report ⟨rfl, rfl, rfl, rfl, rfl, rfl, rfl, .inl rfl⟩ rfl rfl ?_
    rintro (completed | ⟨closed, _⟩)
    · exact absurd (failed.symm.trans completed) Status.noConfusion
    · exact absurd (failed.symm.trans closed) Status.noConfusion
  split
  · refine backed.seen report ⟨rfl, rfl, rfl, rfl, rfl, rfl, rfl, .inr (.inl rfl)⟩ rfl rfl ?_
    rintro (completed | ⟨closed, _⟩)
    · cases completed
    · cases closed
  split
  · rename_i ended
    unfold State.complete
    dsimp only
    cases parsed : parseFitResult setting.loads ((finalResponse (stretch state log)).getD "") with
    | ok result =>
      refine backed.seen report ⟨rfl, rfl, rfl, rfl, rfl, rfl, rfl, .inr (.inr rfl)⟩ rfl rfl ?_
      intro _
      exact ⟨ended, fun _ => ⟨result, rfl, parsed⟩⟩
    | error error =>
      refine backed.seen report ⟨rfl, rfl, rfl, rfl, rfl, rfl, rfl, .inr (.inr rfl)⟩ rfl rfl ?_
      intro _
      exact ⟨ended, fun valid => SemanticStatus.noConfusion valid⟩
  · rename_i open'
    refine backed.seen report ⟨rfl, rfl, rfl, rfl, rfl, rfl, rfl, .inl rfl⟩ rfl rfl ?_
    rintro (completed | ⟨closed, _⟩)
    · have judged := backed.judged
      have terminal : state.terminal ≠ none := fun absent => judged.1 absent (.inl completed)
      obtain ⟨seen, _, held⟩ := judged.2 terminal
      exact absurd (taskComplete_mono (stretch_mono held.inLog) (held.completed (.inl completed)))
        open'
    · exact absurd closed going

omit backed in
theorem closing_completed (closing : state.closing = .ok .completed) :
    state.status = .completed ∧ ControlAction.workerCompleted ∈ state.actions := by
  unfold State.closing at closing
  split at closing
  · rename_i completed
    split at closing
    · rename_i worked
      exact ⟨completed.1, worked⟩
    · cases closing
  split at closing
  · split at closing <;> cases closing
  · split at closing <;> cases closing

theorem Backed.close (quiet : step.poll = none)
    (closes : step.Confirms .closeConfirmed) {outcome : Outcome}
    (closing : state.closing = .ok outcome) :
    Backed setting (past ++ [step]) log { state.controlReceipt .closeConfirmed now with
      closureOutcome := some outcome
      status := .closed
      closedAt := some (iso now) } := by
  have longer := backed.extend step quiet []
  rw [append_nil] at longer
  have received : Backed setting (past ++ [step]) log (state.controlReceipt .closeConfirmed now) :=
    longer.controlReceipt ControlAction.noConfusion (fun other => ControlAction.noConfusion other)
      now
  constructor
  case created => exact received.created
  case allowed => exact received.allowed
  case latency => exact received.latency
  case armed => exact received.armed
  case early =>
    rintro (created | armed)
    · cases created
    · cases armed
  case timed => exact fun armed => Status.noConfusion armed
  case unpolled => exact received.unpolled
  case sent => exact fun dispatched => Status.noConfusion dispatched
  case dispatched => exact received.dispatched
  case paced => exact received.paced
  case counted => exact received.counted
  case judged =>
    apply longer.judged_carry
    refine ⟨rfl, rfl, rfl, rfl, rfl, ?_⟩
    rintro (completed | ⟨_, completed⟩)
    · cases completed
    · cases completed
      exact .inl (closing_completed closing).1
  case worked => exact received.worked
  case closed =>
    intro completed
    cases completed
    exact ⟨past, step, [], rfl, closes, backed.worked (closing_completed closing).2⟩

theorem Backed.received (quiet : step.poll = none)
    (confirms : step.Confirms action) (received : state.received action now = .ok after) :
    Backed setting (past ++ [step]) log after := by
  have longer := backed.extend step quiet []
  rw [append_nil] at longer
  cases action with
  | workerCompleted =>
    unfold State.received at received
    dsimp only at received
    split at received
    · cases received
    · cases received
      exact longer.controlReceipt ControlAction.noConfusion
        (fun _ => ⟨step, mem_append_right _ mem_cons_self, confirms⟩) now
  | interruptConfirmed =>
    unfold State.received at received
    dsimp only at received
    split at received
    · cases received
    · cases received
      have requested : Backed setting (past ++ [step]) log
          { state with interruptRequested := true } :=
        { longer with judged := longer.judged_carry ⟨rfl, rfl, rfl, rfl, rfl, id⟩ }
      exact requested.controlReceipt ControlAction.noConfusion
        (fun other => ControlAction.noConfusion other) now
  | controlFailed =>
    cases received
    exact (longer.setControlFailed _ now).controlReceipt ControlAction.noConfusion
      (fun other => ControlAction.noConfusion other) now
  | closeConfirmed =>
    obtain ⟨outcome, closing, received⟩ := bind_ok received
    cases received
    exact backed.close quiet confirms closing
  | arm | nativeSendInput | dispatchMarked | deterministicFit => cases received

end

/-! ## Operations -/

variable {setting : Setting} {past : List Transition} {log : List Json} {state after : State}
  {step : Transition} {now : Int} {sight : Sight}

theorem captureBoundary_ok {sessionId : String} {session : Except PyError (List Json)}
    {boundary : Boundary} {records : List Json}
    (captured : captureBoundary sessionId session = .ok (boundary, records)) :
    session = .ok records ∧ boundary = boundaryOf records := by
  obtain ⟨read, session, captured⟩ := bind_ok captured
  by_cases empty : read = []
  · rw [if_pos empty] at captured
    cases captured
  rw [if_neg empty] at captured
  cases wrong : read.findSome? (identityError sessionId) with
  | some message =>
    rw [wrong] at captured
    cases captured
  | none =>
    rw [wrong] at captured
    dsimp only [bind, Except.bind, pure, Except.pure] at captured
    split at captured
    · cases captured
    · cases captured
      exact ⟨session, rfl⟩

theorem session_evidence {records : List Json}
    (read : (sight.evidence log).session = .ok records) : records = log := by
  unfold Sight.evidence at read
  split at read
  · cases read
  · cases read
    rfl

variable {controlTurnId : String}

theorem Backed.armPrecommit (backed : Backed setting past log state)
    (arms : ∃ step ∈ past, step.Arms now)
    (armed : state.armPrecommit (sight.evidence log) controlTurnId now = .ok after) :
    Backed setting past log after := by
  obtain ⟨_, _, armed⟩ := bind_ok armed
  by_cases created : state.status = .created
  · rw [if_neg (not_not.mpr created)] at armed
    obtain ⟨⟨boundary, records⟩, _, armed⟩ := bind_ok armed
    obtain ⟨_, _, armed⟩ := bind_ok armed
    split at armed
    · cases armed
    obtain ⟨_, _, armed⟩ := bind_ok armed
    obtain ⟨report, _, armed⟩ := bind_ok armed
    split at armed
    · cases armed
    obtain ⟨turn, _, armed⟩ := bind_ok armed
    cases armed
    exact (backed.arm created arms turn).controlReceipt ControlAction.noConfusion
      (fun other => ControlAction.noConfusion other) now
  · rw [if_pos created] at armed
    cases armed

theorem requireString_ok {value field text : String}
    (required : requireString value field = .ok text) : strip value = text := by
  unfold requireString at required
  split at required
  · cases required
  · cases required
    rfl

variable {evidence : Evidence}

theorem markFitDispatched_cases {submissionId : String}
    (marked : state.markFitDispatched evidence controlTurnId submissionId now = .ok after) :
    state.status = .armed ∧
      ((∃ reason, after = (state.dispatched (strip submissionId) now).setControlFailed reason now) ∨
        elapsedMs (state.polling.armedAt.getD now) now ≤ state.armToDispatchMaxMs ∧
          after = ({ state.dispatched (strip submissionId) now with
            status := .fitDispatched }.controlReceipt .nativeSendInput now).controlReceipt
              .dispatchMarked now) := by
  obtain ⟨_, _, marked⟩ := bind_ok marked
  by_cases armed : state.status = .armed
  · rw [if_neg (not_not.mpr armed)] at marked
    obtain ⟨_, _, marked⟩ := bind_ok marked
    obtain ⟨submission, required, marked⟩ := bind_ok marked
    rw [← requireString_ok required] at marked
    refine ⟨armed, ?_⟩
    split at marked
    · cases marked
      exact .inl ⟨_, rfl⟩
    split at marked
    · cases marked
      exact .inl ⟨_, rfl⟩
    · rename_i inTime
      cases marked
      exact .inr ⟨Int.not_lt.mp inTime, rfl⟩
  · rw [if_pos armed] at marked
    cases marked

section

variable (backed : Backed setting past log state)

include backed

theorem Backed.markFitDispatched {submissionId : String}
    (marked : state.markFitDispatched evidence controlTurnId submissionId now = .ok after)
    (dispatches : after.status = .fitDispatched →
      ∃ step ∈ past, step.Dispatches (strip submissionId) now) :
    Backed setting past log after := by
  obtain ⟨armed, ⟨reason, rfl⟩ | ⟨inTime, rfl⟩⟩ := markFitDispatched_cases marked
  · exact (backed.send armed (.inr rfl) (strip submissionId)).setControlFailed reason now
  · have sent : Backed setting past log ({ state.dispatched (strip submissionId) now with
        status := .fitDispatched }.controlReceipt .nativeSendInput now) :=
      (backed.send armed (.inl rfl) (strip submissionId)).controlReceipt
        ControlAction.noConfusion (fun other => ControlAction.noConfusion other) now
    apply sent.mark
    obtain ⟨time, armedAt⟩ := Option.ne_none_iff_exists'.mp (backed.timed armed)
    obtain ⟨begun, arms, rfl⟩ := backed.armed time armedAt
    rw [armedAt, backed.latency] at inTime
    exact ⟨strip submissionId, begun, now, arms, dispatches rfl, rfl, rfl, inTime⟩

omit backed in
theorem read_ok (readable : state.read setting.loads (sight.evidence log) = .ok after) :
    ∃ report, after = state.judge setting.loads (boundaryOf log) (stretch state log) report := by
  obtain ⟨_, _, readable⟩ := bind_ok readable
  obtain ⟨⟨boundary, records⟩, captured, readable⟩ := bind_ok readable
  obtain ⟨session, rfl⟩ := captureBoundary_ok captured
  have same := session_evidence session
  rw [same] at readable
  dsimp only at readable
  split at readable
  · cases readable
  obtain ⟨report, _, readable⟩ := bind_ok readable
  cases readable
  exact ⟨report, rfl⟩

theorem Backed.read (going : state.status ≠ .closed)
    (done : state.orControlFailed now (state.read setting.loads (sight.evidence log)) =
      .ok after) : Backed setting past log after := by
  cases readable : state.read setting.loads (sight.evidence log) with
  | ok judged =>
    rw [readable] at done
    cases done
    obtain ⟨report, rfl⟩ := read_ok readable
    exact backed.judge going report
  | error error =>
    rw [readable] at done
    unfold State.orControlFailed at done
    dsimp only at done
    split at done
    · cases done
      exact backed.setControlFailed error.message now
    · cases done

omit backed in
theorem recordPoll_going (going : state.status ≠ .closed) :
    (state.recordPoll now).status ≠ .closed := by
  unfold State.recordPoll
  dsimp only
  split
  · exact Status.noConfusion
  split
  · exact Status.noConfusion
  · exact going

theorem Backed.checkPrecommit
    (checked : state.checkPrecommit setting.loads (sight.evidence log) controlTurnId now = .ok after)
    (polls : state.requireControlTurn controlTurnId = .ok () → state.status = .fitDispatched →
      step.poll = some now)
    (quiet : state.requireControlTurn controlTurnId ≠ .ok () ∨ state.status ≠ .fitDispatched →
      step.poll = none) :
    Backed setting (past ++ [step]) log after := by
  have still (unpolled : step.poll = none) : Backed setting (past ++ [step]) log state := by
    have longer := backed.extend step unpolled []
    rwa [append_nil] at longer
  obtain ⟨_, _, checked⟩ := bind_ok checked
  cases turn : state.requireControlTurn controlTurnId with
  | error error =>
    rw [turn] at checked
    cases checked
    refine (still (quiet (.inl ?_))).setControlFailed _ now
    rw [turn]
    intro same
    cases same
  | ok valid =>
    rw [turn] at checked
    dsimp only at checked
    by_cases closed : state.status = .closed
    · rw [if_pos closed] at checked
      cases checked
      refine still (quiet (.inr ?_))
      rw [closed]
      exact Status.noConfusion
    rw [if_neg closed] at checked
    split at checked
    · cases checked
    obtain ⟨judged, readable, checked⟩ := bind_ok checked
    cases checked
    apply Backed.touch
    by_cases dispatched : state.status = .fitDispatched
    · rw [if_pos dispatched] at readable
      exact (backed.recordPoll dispatched (polls turn dispatched)).read (recordPoll_going closed)
        readable
    · rw [if_neg dispatched] at readable
      exact (still (quiet (.inr dispatched))).read closed readable

theorem Backed.finalizePrecommit (quiet : step.poll = none) {action : ControlAction}
    (finalized : state.finalizePrecommit (sight.evidence log) controlTurnId action now = .ok after)
    (confirms : state.requireControlTurn controlTurnId = .ok () → step.Confirms action) :
    Backed setting (past ++ [step]) log after := by
  obtain ⟨_, _, finalized⟩ := bind_ok finalized
  cases turn : state.requireControlTurn controlTurnId with
  | error error =>
    rw [turn] at finalized
    cases finalized
    have longer := backed.extend step quiet []
    rw [append_nil] at longer
    exact longer.setControlFailed _ now
  | ok valid =>
    rw [turn] at finalized
    dsimp only at finalized
    by_cases unknown : action ∉ COMPLETION_ACTIONS
    · rw [if_pos unknown] at finalized
      cases finalized
    rw [if_neg unknown] at finalized
    split at finalized
    · cases finalized
    obtain ⟨received, accepted, finalized⟩ := bind_ok finalized
    cases finalized
    exact (backed.received quiet (confirms turn) accepted).touch _

end

theorem createPrecommitState_ok {policy : Policy} {request : Request}
    (created : createPrecommitState policy request evidence now = .ok state) :
    ∃ owner boundary workspace, evidence.workspace = .ok workspace ∧
      state = State.initial policy request owner boundary workspace now := by
  unfold createPrecommitState at created
  by_cases unauthorized : policy.authorizedModels.contains request.requestedModel = false
  · rw [if_pos unauthorized] at created
    cases created
  rw [if_neg unauthorized] at created
  obtain ⟨_, _, created⟩ := bind_ok created
  obtain ⟨⟨boundary, records⟩, _, created⟩ := bind_ok created
  obtain ⟨_, _, created⟩ := bind_ok created
  obtain ⟨owner, _, created⟩ := bind_ok created
  obtain ⟨workspace, found, created⟩ := bind_ok created
  split at created
  · cases created
  · cases created
    exact ⟨owner, boundary, workspace, found, rfl⟩

/-- A state that has just been created is backed by its creation. -/
theorem backed_initial {request : Request} {owner : OwnerIdentity} {boundary : Boundary}
    {capture : Capture} (creates : ∃ step ∈ past, step.Creates capture)
    (unpolled : polls past = []) :
    Backed setting past log
      (State.initial setting.policy request owner boundary (capture.baseline ["."]) now) where
  created := ⟨capture, creates, rfl⟩
  allowed := rfl
  latency := rfl
  armed := by
    intro time absent
    cases absent
  early := fun _ => rfl
  timed := fun armed => Status.noConfusion armed
  unpolled := fun _ => ⟨unpolled, rfl⟩
  sent := fun dispatched => Status.noConfusion dispatched
  dispatched := fun absent => absurd absent not_mem_nil
  paced := by
    intro _ reference absent
    cases absent
  counted := by
    intro _
    rw [unpolled]
    rfl
  judged := by
    refine ⟨fun _ => ?_, fun ended => absurd rfl ended⟩
    rintro (completed | ⟨closed, _⟩)
    · cases completed
    · cases closed
  worked := fun absent => absurd absent not_mem_nil
  closed := by
    intro absent
    cases absent

end WorkOrchestration.Native.Precommit
