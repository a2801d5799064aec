import WorkOrchestration.Native.Supervision

/-!
# Supervision stops

A final status is never left.  A stop is taken back by a check that reads nothing that calls for one,
and by nothing else.
-/

namespace WorkOrchestration.Native.Supervision

open List Lib.Runs Lib.Text Artifacts Session

/-- The persisted decision is `interrupt` or `control-lost`. -/
def State.Stopped (state : State) : Prop := state.decision.isStop = true

/-! ## What a check reads -/

/-- The records call for no stop: no task has begun and the startup grace lasts, or the selected
segment breaks no limit, and it is complete or below the interrupt thresholds. -/
inductive Calm (readers : Readers) (state : State) (evidence : Evidence) (records : List Json)
    (now : Int) : Prop where
  | waiting (whole : state.config.baselineRecordCount ≤ records.length)
      (outside : (records.drop state.config.baselineRecordCount).any (isBoundary false) = false)
      (grace : state.startupElapsed now ≤ state.config.segmentStartGrace)
  | working (evaluation : Evaluation) (report : WorkspaceReport) (activity : Activity)
      (whole : state.config.baselineRecordCount ≤ records.length)
      (inside : (records.drop state.config.baselineRecordCount).any (isBoundary false) = true)
      (evaluated : evaluateRecords readers (records.drop state.config.baselineRecordCount) now =
        .ok evaluation)
      (compared : evidence.workspace = .ok report) (classified : evidence.activity = .ok activity)
      (commands : evidence.commands = .ok [])
      (model : evaluation.selected.modelMismatch state.config.requestedModel = true →
        state.attestationPending evaluation.selected report activity [] now = true)
      (compactions : evaluation.selected.counts.contextCompactions ≤
        state.config.budget.maxCompactions)
      (suites : evaluation.selected.counts.fullSuiteRuns ≤ state.config.budget.maxFullSuiteRuns)
      (clean : report.incomplete = false ∧ report.attributionAmbiguous = false ∧
        report.outOfScope = false ∧ report.untracked = false)
      (allowed : activity.violations = [])
      (goesOn : evaluation.selected.complete = true ∨
        evaluation.selected.counts.toolCalls < state.config.interruptToolCalls ∧
          evaluation.selected.runtime < state.config.interruptRuntime)

/-- A check can read all that it needs, and nothing in it calls for a stop. -/
def Quiet (readers : Readers) (state : State) (evidence : Evidence) (now : Int) : Prop :=
  ∃ records, evidence.binding = .ok () ∧ evidence.session = .ok records ∧
    (state.controlTiming.lastPollAt.or state.controlTiming.dispatchedAt).isSome ∧
    Calm readers state evidence records now

variable {readers : Readers} {state after : State} {evidence : Evidence} {now : Int}
  {records : List Json}

theorem WorkspaceReport.hardReasons_eq_nil {report : WorkspaceReport} :
    report.hardReasons = [] ↔ report.incomplete = false ∧ report.attributionAmbiguous = false ∧
      report.outOfScope = false ∧ report.untracked = false := by
  unfold WorkspaceReport.hardReasons
  cases report.incomplete <;> cases report.attributionAmbiguous <;> cases report.outOfScope <;>
    cases report.untracked <;> simp

theorem State.hardReasons_eq_nil {selected : Segment} {report : WorkspaceReport}
    {activity : Activity} {violations : List String} :
    state.hardReasons selected report activity violations now = [] ↔
      (selected.modelMismatch state.config.requestedModel = true →
        state.attestationPending selected report activity violations now = true) ∧
      selected.counts.contextCompactions ≤ state.config.budget.maxCompactions ∧
      selected.counts.fullSuiteRuns ≤ state.config.budget.maxFullSuiteRuns ∧
      (report.incomplete = false ∧ report.attributionAmbiguous = false ∧
        report.outOfScope = false ∧ report.untracked = false) ∧
      activity.violations = [] ∧ violations = [] := by
  unfold State.hardReasons
  simp only [append_eq_nil_iff, ite_eq_right_iff, cons_ne_nil, imp_false,
    WorkspaceReport.hardReasons_eq_nil, Bool.and_eq_true, Bool.not_eq_true', not_and,
    Bool.not_eq_false, Nat.not_lt, and_assoc]

theorem State.reserveReasons_eq_nil {selected : Segment} : state.reserveReasons selected = [] ↔
      selected.counts.toolCalls < state.config.interruptToolCalls ∧
        selected.runtime < state.config.interruptRuntime := by
  unfold State.reserveReasons
  simp only [append_eq_nil_iff, ite_eq_right_iff, cons_ne_nil, imp_false, Nat.not_le, Int.not_le]

theorem State.decide'_cases (selected : Segment) (report : WorkspaceReport) (activity : Activity)
    (violations : List String) (late : Bool) (now : Int) :
    (state.decide' selected report activity violations late now).1 = .interrupt ∧
        ¬ (state.hardReasons selected report activity violations now = [] ∧
          (selected.complete = true ∨ state.reserveReasons selected = [])) ∨
      (state.decide' selected report activity violations late now).1.isStop = false ∧
        state.hardReasons selected report activity violations now = [] ∧
          (selected.complete = true ∨ state.reserveReasons selected = []) := by
  unfold State.decide'
  dsimp only
  split
  · rename_i hard
    exact .inl ⟨rfl, fun quiet => hard quiet.1⟩
  rename_i sound
  have sound := not_not.mp sound
  split
  · rename_i complete
    exact .inr ⟨rfl, sound, .inl complete⟩
  rename_i unfinished
  split
  · rename_i reserve
    refine .inl ⟨rfl, ?_⟩
    rintro ⟨_, complete | free⟩
    · exact unfinished complete
    · exact reserve free
  rename_i free
  have free := not_not.mp free
  right
  refine ⟨?_, sound, .inr free⟩
  split
  · split <;> rfl
  · split <;> rfl

theorem State.recordPollTiming_ok {polled : State} {late : Bool}
    (recorded : state.recordPollTiming now = .ok (polled, late)) :
    (state.controlTiming.lastPollAt.or state.controlTiming.dispatchedAt).isSome ∧
      polled.config = state.config ∧ polled.status = state.status ∧
      polled.controlTiming.dispatchedAt = state.controlTiming.dispatchedAt := by
  unfold State.recordPollTiming at recorded
  split at recorded
  · cases recorded
  · rename_i reference found
    cases recorded
    rw [found]
    exact ⟨rfl, rfl, rfl, rfl⟩

/-- A stop that asks for an interrupt. -/
structure State.Pending (state : State) : Prop where
  stopped : state.Stopped
  pending : state.status = .interruptPending

theorem State.setControlLost_pending (state : State) (reason : String) (now : Int) :
    (state.setControlLost reason now).Pending := ⟨rfl, rfl⟩

theorem State.orLost_error {error : PyError}
    (kept : state.orLost now (.error error) = .ok after) : after.Pending := by
  unfold State.orLost at kept
  dsimp only at kept
  split at kept
  · cases kept
    exact state.setControlLost_pending error.message now
  · cases kept

theorem State.await_open (state : State) (late : Bool) (now : Int) :
    ¬ (state.await late now).Stopped := by
  cases late <;> exact Bool.false_ne_true

/-- What is decided about records stops the worker, unless they are calm. -/
theorem State.judge_cases {late : Bool}
    (judged : state.judge readers evidence records late now = .ok after) :
    after.Pending ∨ ¬ after.Stopped ∧ Calm readers state evidence records now := by
  unfold State.judge at judged
  by_cases short : records.length < state.config.baselineRecordCount
  · rw [if_pos short] at judged
    cases judged
  rw [if_neg short] at judged
  have whole := Nat.not_lt.mp short
  dsimp only at judged
  split at judged
  · rename_i inside
    obtain ⟨evaluation, evaluated, judged⟩ := bind_ok judged
    obtain ⟨report, compared, judged⟩ := bind_ok judged
    obtain ⟨activity, classified, judged⟩ := bind_ok judged
    obtain ⟨violations, commands, judged⟩ := bind_ok judged
    cases judged
    rcases state.decide'_cases evaluation.selected report activity violations late now
      with ⟨interrupt, _⟩ | ⟨goesOn, sound, rest⟩
    · left
      rw [interrupt]
      exact ⟨rfl, rfl⟩
    · right
      obtain ⟨model, compactions, suites, clean, allowed, none⟩ := State.hardReasons_eq_nil.mp sound
      rw [none] at model commands
      refine ⟨ne_true_of_eq_false goesOn, ?_⟩
      exact .working evaluation report activity whole inside evaluated compared classified commands
        model compactions suites clean allowed (rest.imp_right State.reserveReasons_eq_nil.mp)
  · rename_i outside
    split at judged
    · rename_i grace
      cases judged
      exact .inr ⟨state.await_open late now, .waiting whole (Bool.eq_false_iff.mpr outside) grace⟩
    · cases judged

/-- Calm records do not stop the worker. -/
theorem Calm.judge (calm : Calm readers state evidence records now) (late : Bool) :
    ∃ after, state.judge readers evidence records late now = .ok after ∧ ¬ after.Stopped := by
  unfold State.judge
  cases calm with
  | waiting whole outside grace =>
    rw [if_neg (Nat.not_lt.mpr whole)]
    rw [if_neg (ne_true_of_eq_false outside), if_pos grace]
    exact ⟨_, rfl, state.await_open late now⟩
  | working evaluation report activity whole inside evaluated compared classified commands model
      compactions suites clean allowed goesOn =>
      rw [if_neg (Nat.not_lt.mpr whole)]
      rw [if_pos inside, evaluated, compared, classified, commands]
      refine ⟨_, rfl, ?_⟩
      have sound : state.hardReasons evaluation.selected report activity [] now = [] :=
        State.hardReasons_eq_nil.mpr ⟨model, compactions, suites, clean, allowed, rfl⟩
      have rest := goesOn.imp_right State.reserveReasons_eq_nil.mpr
      rcases state.decide'_cases evaluation.selected report activity [] late now
        with ⟨_, loud⟩ | ⟨goesOn, _⟩
      · exact absurd ⟨sound, rest⟩ loud
      · exact ne_true_of_eq_false goesOn

/-- What is calm depends on the packet and on the time of the dispatch. -/
theorem Calm.congr {other : State} (calm : Calm readers state evidence records now)
    (config : other.config = state.config)
    (dispatchedAt : other.controlTiming.dispatchedAt = state.controlTiming.dispatchedAt) :
    Calm readers other evidence records now := by
  have elapsed : other.startupElapsed now = state.startupElapsed now := by
    unfold State.startupElapsed
    rw [dispatchedAt]
  have pending : ∀ selected report activity violations,
      other.attestationPending selected report activity violations now =
        state.attestationPending selected report activity violations now := by
    intro selected report activity violations
    unfold State.attestationPending
    rw [config, elapsed]
  cases calm with
  | waiting whole outside grace =>
    rw [← config] at whole outside grace
    rw [← elapsed] at grace
    exact .waiting whole outside grace
  | working evaluation report activity whole inside evaluated compared classified commands model
      compactions suites clean allowed goesOn =>
      rw [← pending] at model
      rw [← config] at whole inside evaluated model compactions suites goesOn
      exact .working evaluation report activity whole inside evaluated compared classified commands
        model compactions suites clean allowed goesOn

/-- A check of a dispatched worker stops it, unless it is quiet. -/
theorem State.observe_cases (observed : state.observe readers evidence now = .ok after) :
    after.Pending ∨ ¬ after.Stopped ∧ Quiet readers state evidence now := by
  unfold State.observe at observed
  cases binding : evidence.binding with
  | error error =>
    rw [binding] at observed
    exact .inl (State.orLost_error observed)
  | ok bound =>
  rw [binding] at observed
  cases session : evidence.session with
  | error error =>
    rw [session] at observed
    exact .inl (State.orLost_error observed)
  | ok records =>
  rw [session] at observed
  dsimp only [Except.bind] at observed
  cases recorded : state.recordPollTiming now with
  | error error =>
    rw [recorded] at observed
    exact .inl (State.orLost_error observed)
  | ok poll =>
  rw [recorded] at observed
  obtain ⟨polled, late⟩ := poll
  dsimp only at observed
  obtain ⟨reference, config, _, dispatchedAt⟩ := State.recordPollTiming_ok recorded
  cases judged : polled.judge readers evidence records late now with
  | error error =>
    rw [judged] at observed
    exact .inl (State.orLost_error observed)
  | ok result =>
  rw [judged] at observed
  cases observed
  rcases State.judge_cases judged with pending | ⟨goesOn, calm⟩
  · exact .inl pending
  · exact .inr ⟨goesOn, records, binding, session, reference, calm.congr config.symm
      dispatchedAt.symm⟩

theorem Quiet.observe (quiet : Quiet readers state evidence now) :
    ∃ after, state.observe readers evidence now = .ok after ∧ ¬ after.Stopped := by
  obtain ⟨records, binding, session, reference, calm⟩ := quiet
  unfold State.observe
  rw [binding, session]
  dsimp only [Except.bind]
  cases recorded : state.recordPollTiming now with
  | error error =>
    obtain ⟨time, found⟩ := Option.isSome_iff_exists.mp reference
    unfold State.recordPollTiming at recorded
    rw [found] at recorded
    cases recorded
  | ok poll =>
    obtain ⟨polled, late⟩ := poll
    obtain ⟨_, config, _, dispatchedAt⟩ := State.recordPollTiming_ok recorded
    obtain ⟨after, judged, goesOn⟩ := (calm.congr config dispatchedAt).judge late
    refine ⟨after, ?_, goesOn⟩
    dsimp only
    rw [judged]
    rfl

/-- A stop is asked for, confirmed, or final. -/
def State.Sound (state : State) : Prop :=
  state.Stopped →
    [Status.interruptPending, .interruptConfirmed, .closed, .controlFailed].contains state.status =
      true

theorem State.Pending.sound (pending : state.Pending) : state.Sound := by
  intro _
  rw [pending.pending]
  rfl

theorem State.Sound.open_of_status (sound : state.Sound)
    (early : [Status.created, .armed, .running, .completed].contains state.status = true) :
    ¬ state.Stopped := by
  intro stopped
  have late := sound stopped
  cases found : state.status <;> rw [found] at early late <;> revert early late <;> decide

theorem State.Sound.live (sound : state.Sound) (stopped : state.Stopped)
    (going : state.status.isFinal = false) : state.isLive = true := by
  have late := sound stopped
  unfold State.isLive
  cases found : state.status <;> rw [found] at going late <;> revert going late <;> decide

theorem State.isLive_of_final (final : state.status.isFinal = true) : state.isLive = false := by
  unfold State.isLive
  cases found : state.status <;> rw [found] at final <;> revert final <;> decide

variable {controlTurnId : String}

theorem State.check_cases (checked : state.check readers evidence controlTurnId now = .ok after) :
    after = state ∧ state.status.isFinal = true ∨ after.Pending ∧ state.status.isFinal = false ∨
      ¬ after.Stopped ∧ state.status.isFinal = false ∧ evidence.packet = .ok () ∧
        state.requireControlTurn controlTurnId = .ok () ∧ Quiet readers state evidence now := by
  unfold State.check at checked
  split at checked
  · rename_i error _
    by_cases exit : error.typeName = "SystemExit"
    · cases final : state.status.isFinal with
      | true =>
        rw [if_pos ⟨final, exit⟩] at checked
        cases checked
        exact .inl ⟨rfl, rfl⟩
      | false =>
        rw [if_neg (fun both => Bool.false_ne_true (final.symm.trans both.1)), if_pos exit]
          at checked
        cases checked
        exact .inr (.inl ⟨state.setControlLost_pending _ now, rfl⟩)
    · rw [if_neg (fun both => exit both.2), if_neg exit] at checked
      cases checked
  rename_i packet
  split at checked
  · split at checked
    · rename_i live
      cases checked
      refine .inr (.inl ⟨state.setControlLost_pending _ now, ?_⟩)
      rw [← Bool.not_eq_true]
      intro final
      exact Bool.false_ne_true ((State.isLive_of_final final).symm.trans live)
    · cases checked
  rename_i turn
  split at checked
  · rename_i final
    cases checked
    exact .inl ⟨rfl, final⟩
  rename_i going
  have going := Bool.eq_false_iff.mpr going
  split at checked
  · rcases State.observe_cases checked with pending | ⟨goesOn, quiet⟩
    · exact .inr (.inl ⟨pending, going⟩)
    · exact .inr (.inr ⟨goesOn, going, packet, turn, quiet⟩)
  · cases checked

theorem State.markDispatched_cases {submissionId : String}
    (marked : state.markDispatched evidence controlTurnId submissionId now = .ok after) :
    state.status = .armed ∧ (after.Pending ∨ after.decision = state.decision) := by
  obtain ⟨_, _, marked⟩ := bind_ok marked
  by_cases armed : state.status = .armed
  · rw [if_neg (not_not.mpr armed)] at marked
    dsimp only at marked
    obtain ⟨turn, _, marked⟩ := bind_ok marked
    refine ⟨armed, ?_⟩
    by_cases blank : strip submissionId = ""
    · rw [if_pos blank] at marked
      cases marked
    rw [if_neg blank] at marked
    split at marked
    · cases marked
      exact .inl (State.setControlLost_pending _ _ now)
    split at marked
    · cases marked
      exact .inl (State.setControlLost_pending _ _ now)
    · cases marked
      exact .inr rfl
  · rw [if_pos armed] at marked
    cases marked

theorem State.arm_cases (armed : state.arm evidence controlTurnId now = .ok after) :
    state.status = .created ∧ after.decision = state.decision := by
  obtain ⟨_, _, armed⟩ := bind_ok armed
  by_cases created : state.status = .created
  · rw [if_neg (not_not.mpr created)] at armed
    obtain ⟨turn, _, armed⟩ := bind_ok armed
    cases armed
    exact ⟨created, rfl⟩
  · rw [if_pos created] at armed
    cases armed

/-- What a receipt is accepted for, and what it makes of the state. -/
theorem State.finalize_cases {action : ControlAction}
    (finalized : state.finalize evidence controlTurnId action now = .ok after) :
    state.status.isFinal = false ∧
      (action = .workerCompleted ∧ state.decision = .complete ∧ after.decision = .complete ∨
        action ≠ .workerCompleted ∧ (after.decision = state.decision ∧
              [Status.interruptConfirmed, .closed].contains after.status = true ∨
            after.decision = .controlLost ∧ after.status = .controlFailed)) := by
  obtain ⟨_, _, finalized⟩ := bind_ok finalized
  cases final : state.status.isFinal with
  | true =>
    rw [final] at finalized
    cases finalized
  | false =>
  rw [final] at finalized
  refine ⟨rfl, ?_⟩
  cases action with
  | workerCompleted =>
    obtain ⟨_, _, finalized⟩ := bind_ok finalized
    by_cases complete : state.decision = .complete
    · rw [if_neg (fun both => both.2 complete)] at finalized
      cases finalized
      exact .inl ⟨rfl, complete, rfl⟩
    · rw [if_pos ⟨rfl, complete⟩] at finalized
      cases finalized
  | interruptConfirmed =>
    cases stop : state.decision.isStop with
    | true =>
      rw [stop] at finalized
      cases finalized
      exact .inr ⟨ControlAction.noConfusion, .inl ⟨rfl, rfl⟩⟩
    | false =>
      rw [stop] at finalized
      cases finalized
  | closeConfirmed =>
    obtain ⟨received, done, finalized⟩ := bind_ok finalized
    unfold State.received at done
    dsimp only at done
    split at done
    · cases done
      cases finalized
      exact .inr ⟨ControlAction.noConfusion, .inl ⟨rfl, rfl⟩⟩
    · cases done
  | controlFailed =>
    cases finalized
    exact .inr ⟨ControlAction.noConfusion, .inr ⟨rfl, rfl⟩⟩

/-! ## Steps -/

/-- A check takes a stop back: the packet, the authority and the control turn are valid, the stopped
worker is observed, and nothing that is read calls for a stop. -/
def Overlooks (readers : Readers) (move : Move) (before : State) : Prop :=
  before.Stopped ∧ before.status.isFinal = false ∧
    ∃ evidence controlTurnId now, move = .check evidence controlTurnId now ∧
      evidence.packet = .ok () ∧ before.requireControlTurn controlTurnId = .ok () ∧
      Quiet readers before evidence now

/-- What an operation makes of a state. -/
inductive Turns (readers : Readers) (move : Move) (before after : State) : Prop where
  | keeps (same : after = before)
  | starts (early : [Status.created, .armed].contains before.status = true)
      (same : after.decision = before.decision)
  | stops (going : before.status.isFinal = false) (pending : after.Pending)
  | goesOn (going : before.status.isFinal = false) (open' : ¬ after.Stopped)
      (overlooks : before.Stopped → Overlooks readers move before)
  | completes (going : before.status.isFinal = false) (complete : before.decision = .complete)
      (completed : after.decision = .complete)
  | confirms (going : before.status.isFinal = false) (same : after.decision = before.decision)
      (late : [Status.interruptConfirmed, .closed].contains after.status = true)
  | fails (going : before.status.isFinal = false) (lost : after.decision = .controlLost)
      (failed : after.status = .controlFailed)

theorem State.perform_turns {move : Move} (performed : state.perform readers move = .ok after) :
    Turns readers move state after := by
  cases move with
  | arm evidence controlTurnId now =>
    obtain ⟨created, same⟩ := State.arm_cases performed
    refine .starts ?_ same
    rw [created]
    rfl
  | markDispatched evidence controlTurnId submissionId now =>
    obtain ⟨armed, pending | same⟩ := State.markDispatched_cases performed
    · refine .stops ?_ pending
      rw [armed]
      rfl
    · refine .starts ?_ same
      rw [armed]
      rfl
  | check evidence controlTurnId now =>
    rcases State.check_cases performed with ⟨same, _⟩ | ⟨pending, going⟩ |
      ⟨open', going, packet, turn, quiet⟩
    · exact .keeps same
    · exact .stops going pending
    · refine .goesOn going open' ?_
      intro stopped
      exact ⟨stopped, going, evidence, controlTurnId, now, rfl, packet, turn, quiet⟩
  | finalize evidence controlTurnId action now =>
    obtain ⟨going, ⟨_, complete, completed⟩ | ⟨_, ⟨same, late⟩ | ⟨lost, failed⟩⟩⟩ :=
      State.finalize_cases performed
    · exact .completes going complete completed
    · exact .confirms going same late
    · exact .fails going lost failed

namespace Turns

variable {move : Move} {before : State}

theorem stopped_iff_of_decision_eq (same : after.decision = before.decision) :
    after.Stopped ↔ before.Stopped := by
  unfold State.Stopped
  rw [same]

theorem open_of_complete (complete : state.decision = .complete) : ¬ state.Stopped := by
  unfold State.Stopped
  rw [complete]
  exact Bool.false_ne_true

variable (turns : Turns readers move before after)

include turns

/-- A stop stays asked for, confirmed, or final. -/
theorem sound (sound : before.Sound) : after.Sound := by
  cases turns with
  | keeps same => rwa [same]
  | starts early same =>
    intro stopped
    refine absurd ((stopped_iff_of_decision_eq same).mp stopped) (sound.open_of_status ?_)
    cases found : before.status <;> rw [found] at early <;> revert early <;> decide
  | stops going pending => exact pending.sound
  | goesOn going open' overlooks =>
    intro stopped
    exact absurd stopped open'
  | completes going complete completed =>
    intro stopped
    exact absurd stopped (open_of_complete completed)
  | confirms going same late =>
    intro _
    cases found : after.status <;> rw [found] at late <;> revert late <;> decide
  | fails going lost failed =>
    intro _
    rw [failed]
    rfl

theorem final (final : before.status.isFinal = true) : after = before := by
  have apart {goal : Prop} (going : before.status.isFinal = false) : goal :=
    absurd (final.symm.trans going) Bool.noConfusion
  cases turns with
  | keeps same => exact same
  | starts early same =>
    apply apart
    cases found : before.status <;> rw [found] at early <;> revert early <;> decide
  | stops going | goesOn going | completes going | confirms going | fails going => exact apart going

theorem stopped (stopped : before.Stopped)
    (heeds : ¬ Overlooks readers move before) : after.Stopped := by
  cases turns with
  | keeps same => rwa [same]
  | starts _ same | confirms _ same => exact (stopped_iff_of_decision_eq same).mpr stopped
  | stops going pending => exact pending.stopped
  | goesOn going open' overlooks => exact absurd (overlooks stopped) heeds
  | completes going complete completed => exact absurd stopped (open_of_complete complete)
  | fails going lost failed =>
    unfold State.Stopped
    rw [lost]
    rfl

end Turns

/-! ## Runs -/

namespace Transition

variable {step : Transition}

def Taken (readers : Readers) (step : Transition) : Prop :=
  step.before.perform readers step.move = step.result

/-- A check persists status running, or a decision that stops nothing. -/
def Resumes (step : Transition) : Prop :=
  ∃ evidence controlTurnId now after, step.move = .check evidence controlTurnId now ∧
    step.result = .ok after ∧ (after.status = .running ∨ ¬ after.Stopped)

/-- A receipt that the worker has completed is accepted. -/
def Completes (step : Transition) : Prop :=
  ∃ evidence controlTurnId now after,
    step.move = .finalize evidence controlTurnId .workerCompleted now ∧ step.result = .ok after

theorem after_of_ok (returned : step.result = .ok after) : step.after = after := by
  unfold Transition.after
  rw [returned]

theorem Taken.turns (taken : step.Taken readers) :
    Turns readers step.move step.before step.after := by
  cases returned : step.result with
  | ok after =>
    rw [after_of_ok returned]
    exact State.perform_turns (taken.trans returned)
  | error error =>
    apply Turns.keeps
    unfold Transition.after
    rw [returned]

/-- A check resumes a stopped worker exactly when it overlooks the stop. -/
theorem Taken.resumes_iff (taken : step.Taken readers) (sound : step.before.Sound)
    (stopped : step.before.Stopped) : step.Resumes ↔ Overlooks readers step.move step.before := by
  constructor
  · rintro ⟨evidence, controlTurnId, now, after, moved, returned, resumed⟩
    by_contra heeds
    have turns := taken.turns
    have kept := turns.stopped stopped heeds
    have late := turns.sound sound kept
    rw [after_of_ok returned] at kept late
    rcases resumed with running | open'
    · rw [running] at late
      exact absurd late Bool.false_ne_true
    · exact open' kept
  · rintro ⟨_, going, evidence, controlTurnId, now, moved, packet, turn, quiet⟩
    obtain ⟨after, observed, open'⟩ := quiet.observe
    refine ⟨evidence, controlTurnId, now, after, moved, ?_, .inr open'⟩
    rw [← taken, moved]
    change step.before.check readers evidence controlTurnId now = _
    unfold State.check
    rw [packet]
    rw [turn]
    rw [if_neg (ne_true_of_eq_false going), if_pos (sound.live stopped going), observed]

theorem Taken.not_completes (taken : step.Taken readers) (stopped : step.before.Stopped) :
    ¬ step.Completes := by
  rintro ⟨evidence, controlTurnId, now, after, moved, returned⟩
  have finalized : step.before.finalize evidence controlTurnId .workerCompleted now = .ok after := by
    rw [← returned, ← taken, moved]
    rfl
  obtain ⟨_, ⟨_, complete, _⟩ | ⟨other, _⟩⟩ := State.finalize_cases finalized
  · exact Turns.open_of_complete complete stopped
  · exact other rfl

end Transition

variable {moves : List Move}

theorem run_taken : ∀ step ∈ run readers state moves, step.Taken readers := by
  induction moves generalizing state with
  | nil =>
    exact forall_mem_nil _
  | cons move rest ih =>
    exact forall_mem_cons.mpr ⟨rfl, ih⟩

theorem run_linked :
    Linked Transition.before Transition.after state (run readers state moves) := by
  induction moves generalizing state with
  | nil => exact True.intro
  | cons move rest ih => exact ⟨rfl, ih⟩

/-- After a stop no check resumes the worker, and no receipt completes it. -/
def StopsStick (steps : List Transition) : Prop :=
  steps.Pairwise fun earlier later => earlier.after.Stopped → ¬ later.Resumes ∧ ¬ later.Completes

/-- A final status is never left. -/
def FinalsStay (steps : List Transition) : Prop :=
  steps.Pairwise fun earlier later =>
    earlier.after.status.isFinal = true → later.after.status = earlier.after.status

theorem run_finalsStay : FinalsStay (run readers state moves) := by
  have linked : Linked Transition.before Transition.after state (run readers state moves) :=
    run_linked
  have kept := @Linked.pairwise State Transition _ _ _ _
    (fun before after => before.status.isFinal = true → after = before) linked
    (fun state _ => rfl)
    (fun {first second third} early late final => by
      have same := early final
      rw [late (same ▸ final), same])
    (fun step found => (run_taken step found).turns.final)
  apply List.Pairwise.imp_of_mem ?_ kept
  intro earlier later _ found kept final
  have same := kept final
  rw [(run_taken later found).turns.final (same ▸ final), same]

/-- A stop sticks in a run exactly when no check of it overlooks one. -/
theorem stops_stick_iff (readers : Readers) (config : Config) (now : Int) (moves : List Move) :
    (StopsStick (run readers (State.started config now) moves) ∧
        FinalsStay (run readers (State.started config now) moves)) ↔
      ∀ step ∈ run readers (State.started config now) moves,
        ¬ Overlooks readers step.move step.before := by
  have fresh : ¬ (State.started config now).Stopped := Bool.false_ne_true
  have linked : Linked Transition.before Transition.after (State.started config now)
    (run readers (State.started config now) moves) := run_linked
  have sound : ∀ step ∈ run readers (State.started config now) moves,
      step.before.Sound ∧ step.after.Sound :=
    linked.invariant (fun step found => (run_taken step found).turns.sound)
      (fun stopped => absurd stopped fresh)
  constructor
  · rintro ⟨sticks, _⟩ step found overlooks
    -- the stop that is overlooked has come about in an earlier step
    obtain ⟨past, rest, split⟩ := append_of_mem found
    obtain ⟨earlier, before, _, stopped⟩ := linked.origin fresh split overlooks.1
    unfold StopsStick at sticks
    rw [split, pairwise_append] at sticks
    have resumes := ((run_taken step found).resumes_iff (sound step found).1 overlooks.1).mpr
      overlooks
    exact (sticks.2.2 earlier before step mem_cons_self stopped).1 resumes
  · intro heeds
    refine ⟨?_, run_finalsStay⟩
    have kept := @Linked.pairwise State Transition _ _ _ _
      (fun before after => before.Stopped → after.Stopped) linked (fun _ stopped => stopped)
      (fun early late stopped => late (early stopped))
      (fun step found stopped => (run_taken step found).turns.stopped stopped (heeds step found))
    apply List.Pairwise.imp_of_mem ?_ kept
    intro earlier later _ found kept stopped
    have taken := run_taken later found
    refine ⟨?_, taken.not_completes (kept stopped)⟩
    rw [taken.resumes_iff (sound later found).1 (kept stopped)]
    exact heeds later found

/-! ## A stop that is taken back -/

def sampleConfig : Config where
  baselineRecordCount := 0
  requestedModel := "model"
  budget := ⟨8, 10, 60000000, 90000000, 0, 1⟩
  interruptToolCalls := 8
  interruptRuntime := 60000000
  pollIntervalMs := 5000
  pollLagToleranceMs := 1000
  armToDispatchMaxMs := 1000
  segmentStartGrace := 30000000

/-- All files are in order, and the worker has written nothing yet. -/
def sampleEvidence : Evidence where
  packet := .ok ()
  release := .ok ()
  binding := .ok ()
  session := .ok []
  workspace := .ok ⟨false, false, false, false, false⟩
  activity := .ok ⟨[], []⟩
  commands := .ok []

/-- The dispatch is marked four seconds too late, and a check follows a second later. -/
def sampleMoves : List Move :=
  [.arm sampleEvidence "turn" 0, .markDispatched sampleEvidence "turn" "submission" 5000000,
    .check sampleEvidence "turn" 6000000]

/-- The check within the startup grace takes back the stop of the late dispatch. -/
theorem stop_taken_back : ¬ ∀ (readers : Readers) (config : Config) (now : Int) (moves : List Move),
      StopsStick (run readers (State.started config now) moves) ∧
        FinalsStay (run readers (State.started config now) moves) := by
  intro claimed
  have sticks := (claimed ⟨fun _ => .ok 0, fun _ => none, fun _ => some []⟩ sampleConfig 0 sampleMoves).1
  have pair := (pairwise_cons.mp (pairwise_cons.mp sticks).2).1
  have lost := pair _ mem_cons_self rfl
  exact lost.1 ⟨_, _, _, _, rfl, rfl, .inl rfl⟩

end WorkOrchestration.Native.Supervision
