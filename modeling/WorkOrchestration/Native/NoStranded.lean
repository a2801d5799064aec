import WorkOrchestration.Native.PoolControl

/-!
# No stranded child

A child whose control turn waits has a deadline, and the coordinator's copy of
the progress of a started child is that of its control turn.  So the scheduler
finds a child to step, or a deadline to wait for, as long as a child has not ended.
-/

namespace WorkOrchestration.Native.NoStranded

open List Lib.Programs Lib.Text Artifacts PoolContracts PoolStates
open PoolLeases (Lease)
open Control Scheduler Pool Coordinator

variable {setup : Setup} {world : World} {childId : Name} {poll : Bool}

/-! ## Waiting turns -/

def waitPhases : List Phase := .waiting :: waitingClosePhases

/-- A control turn waits in a waiting phase only, and between its start and its end. -/
def Rests (turn : Turn) : Prop :=
  turn.waiting = true → turn.terminal = false ∧ turn.started = true ∧ turn.phase ∈ waitPhases

/-- A callback after which the coordinator sets the next deadline of the child. -/
def Reschedules (callback : Callback) (phase : Phase) : Prop :=
  isDeferredArchive callback phase = true ∨ callback = .check ∧ phase ∈ polledPhases

variable {turn : Turn}

theorem rests_of_not_waiting (active : turn.waiting = false) : Rests turn := by
  intro waiting
  rw [active] at waiting
  cases waiting

theorem failed_not_waiting (turn : Turn) (error : PyError) : (turn.failed error).waiting = false := by
  unfold Turn.failed
  split <;> rfl

variable {call : Turn.Call} {next : Turn}

theorem accepted_waits (active : turn.waiting = false)
    (called : turn.call? = some call) (accepted : turn.Accepted next)
    (waiting : next.waiting = true) :
    next.terminal = turn.terminal ∧ next.phase ∈ waitPhases ∧
      Reschedules call.action.callback next.phase := by
  cases accepted with
  | continued verdict goesOn phase =>
    simp only [Turn.call?, phase, Option.some.injEq] at called
    subst called
    exact ⟨rfl, by simp [waitPhases], .inr ⟨rfl, by simp [polledPhases]⟩⟩
  | completeDeferred phase | interruptDeferred phase =>
    refine ⟨rfl, by simp [waitPhases, waitingClosePhases], .inl ?_⟩
    rcases phase with phase | phase <;>
      simp only [Turn.call?, phase, Option.some.injEq] at called <;> subst called <;> rfl
  | _ => simp_all [Turn.finish]

theorem answered_raised {error : PyError}
    (answered : turn.answered call (.raised error) = (next, none)) : next.waiting = false := by
  unfold Turn.answered at answered
  simp only [Turn.outcome] at answered
  split at answered
  · cases answered
    exact failed_not_waiting _ error
  · cases answered

/-- The ways in which stepping leaves a turn waiting. -/
theorem advance_waits {reply : Reply} (advanced : turn.advance reply = (next, none))
    (waiting : next.waiting = true) :
    next = turn ∨ next.terminal = false ∧ next.started = turn.started ∧ next.phase ∈ waitPhases ∧
      ∃ call, turn.pendingCall = some call ∧ Reschedules call.action.callback next.phase := by
  have moves := Turn.advance_cases turn reply
  have started := (advance_started turn reply).1
  rw [advanced] at moves started
  generalize done : (next, (none : Option PyError)) = result at moves
  cases moves with
  | idle resting =>
    cases done
    exact .inl rfl
  | called call result pending answer =>
    obtain ⟨running, active, called⟩ := Turn.pendingCall_eq_some pending
    cases answer with
    | accepted after moves =>
      cases done
      have unmoved : (turn.labelled call).waiting = false := active
      have stillCalled : (turn.labelled call).call? = some call := called
      obtain ⟨ended, phase, reschedules⟩ := accepted_waits unmoved stillCalled moves waiting
      exact .inr ⟨ended.trans running, started, phase, call, pending, reschedules⟩
    | failed error caught =>
      cases done
      rw [failed_not_waiting] at waiting
      cases waiting
    | escaped error uncaught => cases done
  | lost error active noCall =>
    cases done
    cases waiting

theorem begin_not_waiting (rests : Rests turn) (taskInput : Option String)
    (waiting : (turn.begin taskInput).waiting = true) : turn.begin taskInput = turn := by
  unfold Turn.begin at waiting ⊢
  split
  · rfl
  · rename_i fresh
    rw [if_neg fresh] at waiting
    unfold Turn.start at waiting
    split at waiting
    · cases waiting
    · obtain ⟨_, unstarted⟩ := not_or.mp fresh
      exact absurd (rests waiting).2.1 unstarted

theorem resume_not_waiting (unrefused : turn.resumeAfterWait.2 = none)
    (running : turn.terminal = false) : turn.resumeAfterWait.1.waiting = false := by
  unfold Turn.resumeAfterWait at unrefused ⊢
  rw [if_neg (by simp [running])] at unrefused ⊢
  split
  · rename_i active
    rw [if_pos active] at unrefused
    cases unrefused
  · split <;> rfl

theorem rests_resume (rests : Rests turn) : Rests turn.resumeAfterWait.1 := by
  unfold Turn.resumeAfterWait
  split
  · exact rests
  · split
    · exact rests
    · split <;> exact rests_of_not_waiting rfl

variable {slot : Slot}

theorem rests_entry (setup : Setup) (childId : Name) (poll : Bool)
    (rests : Rests slot.turn) :
    Rests (entry setup childId poll slot).turn := by
  unfold entry
  split
  · exact rests
  · split
    · exact rests_resume rests
    · exact rests

theorem entry_waits (setup : Setup) (childId : Name) (poll : Bool)
    (rests : Rests slot.turn)
    (unrefused : (entry setup childId poll slot).refusal = none)
    (waiting : (entry setup childId poll slot).turn.waiting = true) :
    (entry setup childId poll slot).turn = slot.turn := by
  have running := (rests_entry setup childId poll rests waiting).1
  unfold entry at unrefused waiting running ⊢
  split
  · rfl
  · rename_i begun
    rw [if_neg begun] at unrefused waiting running
    split
    · rename_i resumes
      rw [if_pos resumes] at unrefused waiting running
      rw [(resumeAfterWait_started slot.turn).2] at running
      rw [resume_not_waiting unrefused running] at waiting
      cases waiting
    · rfl

/-- A result that waits is the turn of the entry, or that of a callback which reschedules. -/
theorem result_waits {asked : Entry} {reply : Reply} (rests : Rests asked.turn)
    (result : asked.result reply = (turn, none)) (waiting : turn.waiting = true) :
    asked.refusal = none ∧
      (turn = asked.turn ∨ turn.terminal = false ∧ turn.started = true ∧ turn.phase ∈ waitPhases ∧
        ∃ call, asked.nextCall = some call ∧ Reschedules call.action.callback turn.phase) := by
  unfold Entry.result at result
  split at result
  · cases result
  rename_i unrefused
  refine ⟨unrefused, ?_⟩
  rcases Turn.step_cases asked.turn asked.taskInput reply with unchanged | advanced
  · rw [result] at unchanged
    exact .inl unchanged
  · rw [result] at advanced
    rcases advance_waits advanced.symm waiting with same | ⟨active, started, phase, call, pending, sets⟩
    · rw [same] at waiting
      rw [begin_not_waiting rests asked.taskInput waiting] at same
      exact .inl same
    · obtain ⟨running, _, _⟩ := Turn.pendingCall_eq_some pending
      have begun := (begin_begun asked.turn asked.taskInput).resolve_right (by simp [running])
      refine .inr ⟨active, started.trans begun, phase, call, ?_, sets⟩
      have unended : ¬ asked.turn.terminal = true := by
        intro ended
        rw [begin_of_started _ (.inr ended), ended] at running
        cases running
      have unbound : ¬ (asked.turn.started = true ∧ asked.taskInput ≠ none) := by
        intro bound
        rw [Turn.step, if_neg unended, if_pos bound] at result
        cases result
      simp only [Entry.nextCall, unrefused, Option.isSome_none, Bool.false_eq_true, if_false,
        Turn.nextCall, if_neg (not_or.mpr ⟨unended, unbound⟩), pending]

theorem unclocked_not_waiting {asked : Entry} {error : PyError}
    (pending : asked.nextCall = some call) (result : asked.result (.raised error) = (turn, none)) :
    turn.waiting = false := by
  obtain ⟨unrefused, _, _, _⟩ := Entry.answered pending (.raised error)
  have called : asked.turn.nextCall asked.taskInput = some call := by
    simpa [Entry.nextCall, unrefused] using pending
  rw [Entry.result, unrefused] at result
  exact answered_raised ((Turn.step_of_nextCall called (.raised error)).2.2.symm.trans result)

variable {coord : Coord} {events : List Event} {callback : Option Callback}

/-- A served turn waits because it did before, or because its callback reschedules the child. -/
theorem served_waits (rests : Rests (coord.core.slots childId).turn)
    (served : Served setup childId poll coord turn none events callback)
    (waiting : turn.waiting = true) :
    turn = (coord.core.slots childId).turn ∨
      turn.terminal = false ∧ turn.started = true ∧ turn.phase ∈ waitPhases ∧
        ∃ invoked, callback = some invoked ∧ Reschedules invoked turn.phase := by
  have restsEntry := rests_entry setup childId poll rests
  have waits := entry_waits setup childId poll rests
  have serving := served.serving
  generalize entry setup childId poll (coord.core.slots childId) = asked at serving restsEntry waits
  have traced : ∀ reply, (turn, none) = asked.result reply →
      turn = (coord.core.slots childId).turn ∨
        turn.terminal = false ∧ turn.started = true ∧ turn.phase ∈ waitPhases ∧
          ∃ call, asked.nextCall = some call ∧ Reschedules call.action.callback turn.phase := by
    intro reply result
    obtain ⟨unrefused, cases⟩ := result_waits restsEntry result.symm waiting
    refine cases.imp_left fun same => same.trans (waits unrefused ?_)
    rwa [← same]
  generalize made : (turn, (none : Option PyError)) = result at serving
  cases serving with
  | silent noCall =>
    refine (traced _ made).imp_right fun ⟨_, _, _, call, pending, _⟩ => ?_
    rw [noCall] at pending
    cases pending
  | unclocked call error pending =>
    rw [unclocked_not_waiting pending made.symm] at waiting
    cases waiting
  | called call reply effective pending seen =>
    refine (traced _ made).imp_right fun ⟨running, started, phase, other, same, sets⟩ => ?_
    rw [pending] at same
    cases same
    exact ⟨running, started, phase, _, rfl, sets⟩

theorem served_rests (rests : Rests (coord.core.slots childId).turn)
    (served : Served setup childId poll coord turn none events callback) : Rests turn := by
  intro waiting
  rcases served_waits rests served waiting with same | ⟨running, started, phase, _⟩
  · rw [same] at waiting ⊢
    exact rests waiting
  · exact ⟨running, started, phase⟩

/-! ## Deadlines -/

/-- A child that waits has a deadline. -/
def Awake (slot : Slot) : Prop :=
  slot.progress.status = .waiting → slot.record.nextDeadlineNs.isSome = true

variable {core : Core}

variable {after : Coord} {before : Coord}

/-- What is known of the control turns and of the cursor at any time. -/
structure Steady (setup : Setup) (coord : Coord) : Prop where
  cached : AllCached coord
  rests : ∀ childId, Rests (coord.core.slots childId).turn
  cursor : coord.core.schedulerCursor < setup.contract.children.length

/-- No child is stranded. -/
def Unstranded (setup : Setup) (coord : Coord) : Prop :=
  Steady setup coord ∧ ∀ childId, Awake (coord.core.slots childId)

/-- A served child may wait without a deadline until its callback has been followed up. -/
def Serviced (setup : Setup) (childId : Name) (phase : Phase) (callback : Option Callback)
    (coord : Coord) : Prop :=
  Steady setup coord ∧ (∀ other, other ≠ childId → Awake (coord.core.slots other)) ∧
    ((∀ invoked, callback = some invoked → ¬ Reschedules invoked phase) →
      Awake (coord.core.slots childId))

theorem progressed_deadline (rests : Rests turn) (waiting : turn.waiting = true) :
    (({ slot with turn := turn } : Slot).progressed turn.progress).record.nextDeadlineNs =
      slot.record.nextDeadlineNs := by
  obtain ⟨running, _, phase⟩ := rests waiting
  have status : turn.progress.status = .waiting := by simp [Turn.progress, running, waiting]
  unfold Slot.progressed
  rw [if_neg (by simp [status])]
  simp only [waitPhases, waitingClosePhases, mem_cons, not_mem_nil, or_false] at phase
  have copied : turn.progress.phase = turn.phase := rfl
  rcases phase with phase | phase | phase <;> simp [copied, phase]

theorem waiting_of_status (waits : turn.progress.status = .waiting) : turn.waiting = true := by
  unfold Turn.progress at waits
  split at waits
  · cases waits
  · split at waits
    · assumption
    · cases waits

theorem Unstranded.serves (holds : Unstranded setup coord)
    (served : Served setup childId poll coord turn none events callback)
    (sees : Sees (followed childId turn coord.core) (events ++ coord.history) after) :
    Serviced setup childId turn.phase callback after := by
  obtain ⟨steady, awake⟩ := holds
  have rests := served_rests (steady.rests childId) served
  have still : Quiet { coord with
      core := followed childId turn coord.core, history := events ++ coord.history } after :=
    quiet_of_slots (by rw [sees.1]) (by rw [sees.1]) (.inl sees.2)
  refine ⟨⟨AllCached.quiet _ _ (steady.cached.serves served) still, fun other => ?_, ?_⟩, ?_, ?_⟩
  · rw [sees.1]
    by_cases same : other = childId
    · subst same
      simpa using rests
    · rw [followed_slots_of_ne same]
      exact steady.rests other
  · obtain ⟨_, same⟩ := followed_eq childId turn coord.core
    rw [sees.1, same]
    exact steady.cursor
  · intro other apart
    rw [sees.1, followed_slots_of_ne apart]
    exact awake other
  · intro left waits
    rw [sees.1] at waits ⊢
    rw [followed_progress] at waits
    have waiting := waiting_of_status waits
    rw [followed_slots, Function.update_self, progressed_deadline rests waiting]
    rcases served_waits (steady.rests childId) served waiting with same | ⟨_, _, _, invoked, shown, sets⟩
    · apply awake childId
      cases steady.cached childId with
      | pending _ unstarted | abandoned _ _ unstarted =>
        rw [← same, (rests waiting).2.1] at unstarted
        cases unstarted
      | followed copied begun => rw [copied, ← same, waits]
    · exact absurd sets (left invoked shown)

end WorkOrchestration.Native.NoStranded
