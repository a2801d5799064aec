import WorkOrchestration.Native.PoolMoves

/-!
# Runs of the pool coordinator

The rules by which an assertion is carried through a step: it survives every
single move, the step of a control turn and the seal of a state.  A run lemma
then says that it holds of every coordinator that a run reaches.
-/

namespace WorkOrchestration.Native.Coordinator

open Lib.Programs Lib.Text Artifacts Authority PoolContracts PoolStates
open PoolLeases (Lease LeaseState RegistryError)
open PoolReceipts Control Scheduler Pool

variable {setup : Setup} {world : World} {assertion fail : Coord → Prop} {α : Type}
  {childId : Name} {poll : Bool}

/-- The ways in which stepping a control turn goes, with the events and the callback it shows. -/
inductive Serving (childId : Name) (entry : Entry) :
    Turn × Option PyError → List Event → Option Callback → Prop where
  | silent (noCall : entry.nextCall = none) :
      Serving childId entry (entry.result (.returned .null)) [] none
  | unclocked (call : Turn.Call) (error : PyError) (pending : entry.nextCall = some call) :
      Serving childId entry (entry.result (.raised error)) [] none
  | called (call : Turn.Call) (reply effective : Reply) (pending : entry.nextCall = some call)
      (seen : effective = reply ∨ ∃ error, effective = .raised error) :
      Serving childId entry (entry.result effective) [.called childId call reply]
        (some call.action.callback)

/-- The core and the history of a coordinator, whatever its clock and its registry show. -/
def Sees (core : Core) (history : List Event) (coord : Coord) : Prop :=
  coord.core = core ∧ coord.history = history

variable {history : List Event} {core : Core}

theorem sees_ask (answers : Nat → α) :
    Triple (Sees core history) (ask answers) (fun _ => Sees core history) fail :=
  triple_ask fun _ sees => sees

theorem sees_modifyTiming (update : Timing → Timing) :
    Triple (Sees core history) (modifyTiming update) (fun _ => Sees core history) fail :=
  Triple.modify fun _ sees => sees

theorem triple_timedCallback (call : Turn.Call) :
    Triple (Sees core history) (timedCallback setup world childId call) (fun answer coord =>
        (∃ error, answer = (.raised error, none) ∧ Sees core history coord) ∨
        ∃ reply effective report, answer = (effective, some report) ∧
          report.callback = call.action.callback ∧
          (effective = reply ∨ ∃ error, effective = .raised error) ∧
          Sees core (.called childId call reply :: history) coord)
      fail := by
  refine Triple.bind (sees_ask _) fun started => ?_
  cases started with
  | error error => exact Triple.pure fun _ sees => .inl ⟨error, rfl, sees⟩
  | ok startedNs =>
    refine Triple.bind (sees_ask _) fun reply => ?_
    refine Triple.bind (m := fun _ => Sees core (.called childId call reply :: history))
      (Triple.modify fun _ sees => ⟨sees.1, congrArg _ sees.2⟩) fun _ => ?_
    refine Triple.bind (sees_ask _) fun ended => ?_
    cases ended with
    | error error =>
      exact Triple.pure fun _ sees =>
        .inr ⟨reply, .raised error, _, rfl, rfl, .inr ⟨error, rfl⟩, sees⟩
    | ok endedNs =>
      refine Triple.bind (sees_modifyTiming _) fun _ => ?_
      exact Triple.pure fun _ sees => .inr ⟨reply, reply, _, rfl, rfl, .inl rfl, sees⟩

/-- Stepping a control turn stores the turn and shows at most one callback. -/
theorem triple_serveTurn (core : Core) (history : List Event) :
    Triple (Sees core history) (serveTurn setup world childId poll)
      (fun served coord => ∃ turn events,
        Serving childId (entry setup childId poll (core.slots childId)) (turn, served.2) events
          (served.1.map CallbackReport.callback) ∧
        Sees (setTurn childId turn core) (events ++ history) coord)
      fail := by
  refine Triple.get_bind fun coord sees => ?_
  obtain ⟨rfl, rfl⟩ := sees
  simp only
  split
  · rename_i noCall
    refine Triple.bind (m := fun _ =>
        Sees (setTurn childId ((entry setup childId poll (coord.core.slots childId)).result
          (.returned .null)).1 coord.core) coord.history) (Triple.modify ?_) fun _ => ?_
    · rintro _ rfl
      exact ⟨rfl, rfl⟩
    · exact Triple.pure fun _ sees => ⟨_, _, .silent noCall, sees⟩
  · rename_i call pending
    refine Triple.bind ((triple_timedCallback call).consequence
      (fun _ same => ⟨congrArg _ same, congrArg _ same⟩) (fun _ _ => id) fun _ => id) fun answer => ?_
    refine Triple.bind (m := fun _ after => ∃ events,
        Serving childId (entry setup childId poll (coord.core.slots childId))
          ((entry setup childId poll (coord.core.slots childId)).result answer.1) events
          (answer.2.map CallbackReport.callback) ∧
        Sees (setTurn childId ((entry setup childId poll (coord.core.slots childId)).result
          answer.1).1 coord.core) (events ++ coord.history) after) (Triple.modify ?_) fun _ => ?_
    · rintro after (⟨error, rfl, same, seen⟩ | ⟨reply, effective, report, rfl, named, either, same, seen⟩)
      · exact ⟨[], .unclocked call error pending, by rw [same], seen⟩
      · refine ⟨[.called childId call reply], ?_, by rw [same], seen⟩
        simp only [Option.map_some, named]
        exact .called call reply effective pending either
    · exact Triple.pure fun _ ⟨events, serving, sees⟩ => ⟨_, events, serving, sees⟩

variable {call : Turn.Call} {turn : Turn}

theorem Turn.step_of_nextCall {taskInput : Option String}
    (pending : turn.nextCall taskInput = some call) (reply : Reply) :
    turn.terminal = false ∧ (turn.begin taskInput).pendingCall = some call ∧
      turn.step taskInput reply = (turn.begin taskInput).answered call reply := by
  unfold Turn.nextCall at pending
  split at pending
  · cases pending
  · rename_i active
    obtain ⟨running, unbound⟩ := not_or.mp active
    obtain ⟨notEnded, notWaiting, called⟩ := Turn.pendingCall_eq_some pending
    refine ⟨by simpa using running, pending, ?_⟩
    rw [Turn.step, if_neg running, if_neg unbound, Turn.advance,
      if_neg (by simp [notEnded, notWaiting])]
    simp only [called]

variable {entry : Entry}

theorem Entry.answered (pending : entry.nextCall = some call)
    (reply : Reply) :
    entry.refusal = none ∧ entry.turn.terminal = false ∧
      (entry.turn.begin entry.taskInput).pendingCall = some call ∧
      Turn.Answered (entry.turn.begin entry.taskInput) call (entry.result reply) := by
  unfold Entry.nextCall at pending
  split at pending
  · cases pending
  · rename_i accepted
    have unrefused : entry.refusal = none := by simpa using accepted
    obtain ⟨running, called, same⟩ := Turn.step_of_nextCall pending reply
    refine ⟨unrefused, running, called, ?_⟩
    simp only [Entry.result, unrefused, same]
    exact Turn.answered_cases (Turn.pendingCall_eq_some called).2.2 reply

def waitingClosePhases : List Phase := [.waitingCloseComplete, .waitingCloseInterrupt]

theorem failed_phase (turn : Turn) (error : PyError) :
    (turn.failed error).phase = .finalizeControlFailed ∨ (turn.failed error).phase = .terminal := by
  unfold Turn.failed
  split
  · exact .inr rfl
  · exact .inl rfl

theorem callback_of_waitingClose {turn next : Turn}
    (called : turn.call? = some call) (answer : Turn.Answered turn call (next, none))
    (waiting : next.phase ∈ waitingClosePhases) :
    call.action.callback = .finalize ∨ call.action.callback = .close := by
  generalize done : (next, (none : Option PyError)) = result at answer
  cases answer with
  | escaped error uncaught => cases done
  | failed error caught =>
    rcases failed_phase (turn.labelled call) error with failing | ended <;>
      simp_all [waitingClosePhases]
  | accepted after moves =>
    cases done
    cases moves with
    | completeDeferred phase | interruptDeferred phase =>
      rcases phase with phase | phase <;> simp only [Turn.labelled_phase] at phase <;>
        simp only [Turn.call?, phase, Option.some.injEq] at called <;> subst called
      · exact .inl rfl
      · exact .inr rfl
    | _ => simp_all [waitingClosePhases, Turn.finish]

theorem isDeferredArchive_of_waitingClose {events : List Event}
    {callback : Callback} (serving : Serving childId entry (turn, none) events (some callback))
    (waiting : turn.phase ∈ waitingClosePhases) :
    isDeferredArchive callback turn.phase = true := by
  generalize answer : (turn, (none : Option PyError)) = result at serving
  cases serving with
  | called call reply effective pending seen =>
    obtain ⟨_, _, called, answered⟩ := Entry.answered pending effective
    rw [← answer] at answered
    have named := callback_of_waitingClose (Turn.pendingCall_eq_some called).2.2 answered waiting
    have phases : turn.phase = .waitingCloseComplete ∨ turn.phase = .waitingCloseInterrupt := by
      simpa [waitingClosePhases] using waiting
    rcases named with named | named <;> rcases phases with phase | phase <;>
      simp [isDeferredArchive, named, phase]

theorem notWaiting_updateSlot {coord : Coord} {update : Slot → Slot}
    (same : ∀ slot, (update slot).turn = slot.turn) (active : NotWaiting childId coord) :
    NotWaiting childId { coord with core := coord.core.updateSlot childId update } := by
  intro waiting
  apply active
  simpa [Core.updateSlot, same] using waiting

/-- The callbacks after which the child may be waiting for an archive have put its evidence off. -/
def Settled (childId : Name) (callback : Callback) (phase : Phase) (coord : Coord) : Prop :=
  isDeferredArchive callback phase = false → NotWaiting childId coord

variable {phase : Phase}

theorem settled_updateSlot {coord : Coord} {update : Slot → Slot} {callback : Callback} (same : ∀ slot, (update slot).turn = slot.turn)
    (settled : Settled childId callback phase coord) :
    Settled childId callback phase { coord with core := coord.core.updateSlot childId update } :=
  fun active => notWaiting_updateSlot same (settled active)

theorem keeps_noteSlack (report : CallbackReport) :
    Keeps (Move setup world) (noteSlack setup report) := by
  unfold noteSlack
  split
  · exact keeps_modifyTiming fun _ => rfl
  · exact Keeps.pure

theorem keeps_enterCallbackFault (report : CallbackReport) :
    Keeps (Move setup world) (enterCallbackFault setup report) := by
  unfold enterCallbackFault
  split
  · exact keeps_enterFault _
  · exact Keeps.pure

theorem keeps_settleCheck (endedNs : Nat) (phase : Phase) :
    Keeps (Move setup world) (settleCheck setup world childId endedNs phase) := by
  unfold settleCheck
  split
  · exact keeps_recordPoll childId endedNs
  · exact keeps_enterFault _

theorem keeps_compareOrDefer (callback : Callback) :
    Keeps (Move setup world) (compareOrDefer setup world childId callback) := by
  refine Keeps.get_bind fun coord => ?_
  split
  · exact Keeps.pure
  · split
    · exact keeps_modifyCore fun _ => .readOnlyCheck true
    · exact keeps_compareAfterCallback childId callback

variable {endedNs : Nat}

theorem triple_afterCallback {report : CallbackReport}
    (closed : Closed (Move setup world) assertion) :
    Triple (fun coord => assertion coord ∧ Settled childId report.callback phase coord)
      (afterCallback setup world childId endedNs phase report) (fun _ => assertion) assertion := by
  let active := fun coord => assertion coord ∧ Settled childId report.callback phase coord
  refine Triple.bind (m := fun _ => active)
    (triple_when (fun _ => Triple.modify ?_) fun _ _ holds => holds) fun _ => ?_
  · rintro coord ⟨holds, settled⟩
    exact ⟨closed _ _ holds (.submitted childId endedNs), settled_updateSlot (fun _ => rfl) settled⟩
  refine Triple.bind (m := fun _ => active) ?_ fun _ => ?_
  · unfold noteSlack
    split
    · refine Triple.modify fun coord ⟨holds, settled⟩ => ⟨?_, settled⟩
      exact closed _ _ holds (.aside _ coord.tick coord.registry rfl le_rfl)
    · exact Triple.pure fun _ holds => holds
  refine Triple.bind (m := fun _ => active)
    (triple_when (fun _ => Triple.modify ?_) fun _ _ holds => holds) fun _ => ?_
  · rintro coord ⟨holds, settled⟩
    exact ⟨closed _ _ holds (.archiveDeferred childId endedNs),
      settled_updateSlot (fun _ => rfl) settled⟩
  refine Triple.bind (m := fun _ => assertion)
    (triple_when (fun observes => ?_) fun _ _ holds => holds.1) fun _ => ?_
  · exact (triple_readEvidence closed).consequence
      (fun _ holds => ⟨holds.1, holds.2 observes.1⟩) (fun _ _ => id) fun _ => id
  refine Keeps.triple (Keeps.bind (keeps_when fun _ => keeps_settleCheck endedNs phase)
    fun _ => ?_) closed
  exact Keeps.bind (keeps_enterCallbackFault report) fun _ => keeps_compareOrDefer report.callback

/-- A control turn that has been stepped, together with the progress that the coordinator copies. -/
def followed (childId : Name) (turn : Turn) (core : Core) : Core :=
  (setTurn childId turn core).updateChildProgress childId turn.progress

@[simp]
theorem progressed_turn (progress : Progress) (slot : Slot) :
    (slot.progressed progress).turn = slot.turn := by
  unfold Slot.progressed
  split
  · rfl
  · split <;> rfl

@[simp]
theorem progressed_progress (progress : Progress) (slot : Slot) :
    (slot.progressed progress).progress = progress := by
  unfold Slot.progressed
  split
  · rfl
  · split <;> rfl

@[simp]
theorem endChild_slots (core : Core) : (core.endChild childId).slots = core.slots := by
  unfold Core.endChild
  split <;> rfl

section

variable (childId : Name) (turn : Turn) (core : Core)

theorem followed_slots :
    (followed childId turn core).slots = Function.update core.slots childId
      (({ core.slots childId with turn := turn } : Slot).progressed turn.progress) := by
  unfold followed Core.updateChildProgress
  split <;> simp [setTurn, Core.updateSlot]

@[simp]
theorem followed_turn :
    ((followed childId turn core).slots childId).turn = turn := by
  simp [followed_slots]

@[simp]
theorem followed_progress :
    ((followed childId turn core).slots childId).progress = turn.progress := by
  simp [followed_slots]

theorem followed_eq :
    ∃ terminalOrder, followed childId turn core =
      { core with slots := (followed childId turn core).slots, terminalOrder := terminalOrder } := by
  unfold followed Core.updateChildProgress Core.endChild
  simp only
  split
  · split
    · exact ⟨_, rfl⟩
    · exact ⟨_, rfl⟩
  · exact ⟨_, rfl⟩

end

theorem followed_slots_of_ne {other : Name} (apart : other ≠ childId) (turn : Turn) (core : Core) :
    (followed childId turn core).slots other = core.slots other := by
  rw [followed_slots, Function.update_of_ne apart]

/--
Following a control turn: `middle` holds once its progress is copied, and the
updates after its callback, if it invoked one, lead from there to `assertion`.
-/
theorem triple_followTurn {middle : Coord → Prop} {history events : List Event} {report : Option CallbackReport}
    (closed : Closed (Move setup world) middle)
    (serving : Serving childId entry (turn, none) events (report.map CallbackReport.callback))
    (holds : ∀ coord, Sees (followed childId turn core) (events ++ history) coord → middle coord)
    (quiets : report = none → ∀ coord, middle coord → assertion coord)
    (follows : ∀ made, report = some made →
      Triple (fun coord => middle coord ∧ Settled childId made.callback turn.phase coord)
        (afterCallback setup world childId endedNs turn.phase made) (fun _ => assertion) fail) :
    Triple (Sees (setTurn childId turn core) (events ++ history))
      (followTurn setup world childId endedNs report) (fun _ => assertion) fail := by
  refine Triple.get_bind fun coord sees => ?_
  have stored : (coord.core.slots childId).turn = turn := by
    rw [sees.1]
    simp [setTurn, Core.updateSlot]
  simp only [stored]
  let settled := fun after : Coord => turn.phase ∉ waitingClosePhases → NotWaiting childId after
  refine Triple.bind (m := fun _ after => middle after ∧ settled after)
    (Triple.modify ?_) fun _ => ?_
  · rintro coord' rfl
    have same : (coord'.core.updateChildProgress childId turn.progress) =
        followed childId turn core := by rw [sees.1]; rfl
    refine ⟨holds _ ⟨same, sees.2⟩, fun active waiting => active ?_⟩
    rw [same, followed_turn] at waiting
    simp [waitingClosePhases, waiting]
  refine Triple.bind (m := fun _ after => middle after ∧ settled after)
    (triple_when (fun _ => Triple.modify ?_) fun _ _ kept => kept) fun _ => ?_
  · rintro after ⟨kept, active⟩
    exact ⟨closed _ _ kept (.faulted _), fun phase => notWaiting_enterFault (active phase)⟩
  cases report with
  | none => exact Triple.pure fun coord kept => quiets rfl coord kept.1
  | some report =>
    refine (follows report rfl).consequence (fun after kept => ⟨kept.1, fun settles => ?_⟩)
      (fun _ _ => id) fun _ => id
    refine kept.2 fun waiting => ?_
    have deferred := isDeferredArchive_of_waitingClose serving waiting
    rw [deferred] at settles
    cases settles

/-- The phases in which a check is recorded as a poll. -/
def polledPhases : List Phase := [.waiting, .finalizeComplete, .interrupt]

end WorkOrchestration.Native.Coordinator
