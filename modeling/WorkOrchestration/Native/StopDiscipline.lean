import WorkOrchestration.Native.PoolControl

/-!
# Nothing productive after a fault

Once a pool-wide fault has been entered, every adapter callback interrupts, finalizes or closes, and a
child that had not been started never is. Each control turn then is in one of the phases that lead to its
end, or has never begun.
-/

namespace WorkOrchestration.Native.StopDiscipline

open List Lib.Programs Lib.Text Artifacts PoolContracts
open PoolLeases (Lease)
open Control Pool Coordinator

variable {setup : Setup} {world : World} {childId : Name} {poll : Bool}

def stoppingCallbacks : List Callback := [.interrupt, .finalize, .close]

/-- The phases that a stopped control turn runs through. -/
def finalPhases : List Phase := .terminal :: stoppingPhases

/-- A control turn that will invoke stopping callbacks only, if it invokes any. -/
def Ends (turn : Turn) : Prop :=
  turn.started = false ∨ turn.terminal = true ∨ turn.phase ∈ finalPhases

variable {turn : Turn}

theorem ends_of_phase (phase : turn.phase ∈ finalPhases) : Ends turn :=
  .inr (.inr phase)

theorem call_stops {call : Turn.Call} (phase : turn.phase ∈ finalPhases)
    (called : turn.call? = some call) : call.action.callback ∈ stoppingCallbacks := by
  simp only [finalPhases, stoppingPhases, mem_cons, not_mem_nil, or_false] at phase
  rcases phase with phase | phase | phase | phase | phase | phase | phase <;>
    simp only [Turn.call?, phase, Option.map_eq_some_iff, Option.some.injEq, reduceCtorEq] at called
  · obtain ⟨_, _, rfl⟩ := called
    simp [stoppingCallbacks, Action.callback]
  all_goals
    subst called
    simp [stoppingCallbacks, Action.callback, Turn.finalizeCall]

theorem failed_final (turn : Turn) (error : PyError) : (turn.failed error).phase ∈ finalPhases := by
  rcases failed_phase turn error with phase | phase <;> simp [finalPhases, stoppingPhases, phase]

theorem accepted_final {next : Turn} (phase : turn.phase ∈ finalPhases)
    (accepted : turn.Accepted next) : next.phase ∈ finalPhases := by
  cases accepted with
  | completeDeferred which => rcases which with which | which <;> simp_all [finalPhases, stoppingPhases]
  | interruptDeferred which => simp [finalPhases, stoppingPhases]
  | _ => simp_all [finalPhases, stoppingPhases, Turn.finish]

theorem advance_ends (ends : turn.terminal = true ∨ turn.phase ∈ finalPhases) (reply : Reply) :
    Ends (turn.advance reply).1 := by
  have advanced := Turn.advance_cases turn reply
  generalize turn.advance reply = result at advanced
  cases advanced with
  | idle resting => exact .inr ends
  | called call result pending answer =>
    have running := (Turn.pendingCall_eq_some pending).1
    have phase := ends.resolve_left (by simp [running])
    cases answer with
    | accepted next moves =>
      have labelled : (turn.labelled call).phase ∈ finalPhases := phase
      have moved : next.phase ∈ finalPhases := accepted_final labelled moves
      exact ends_of_phase moved
    | failed error caught => exact ends_of_phase (failed_final _ error)
    | escaped error uncaught => exact ends_of_phase phase
  | lost error active noCall =>
    exact ends_of_phase (by simp [finalPhases, stoppingPhases, Turn.recordCallbackFailure])

theorem begin_ends (ends : Ends turn) :
    (turn.begin none).terminal = true ∨ (turn.begin none).phase ∈ finalPhases := by
  unfold Turn.begin
  split
  · rename_i begun
    rcases ends with unstarted | ended
    · exact .inl (begun.resolve_right (by simp [unstarted]))
    · exact ended
  · left
    unfold Turn.start
    rw [if_pos (by simp [Turn.startErrors])]
    rfl

theorem resumeAfterWait_ends (ends : Ends turn) : Ends turn.resumeAfterWait.1 := by
  obtain ⟨started, terminal⟩ := resumeAfterWait_started turn
  rcases ends with unstarted | ended | phase
  · exact .inl (started.trans unstarted)
  · exact .inr (.inl (terminal.trans ended))
  · refine ends_of_phase ?_
    unfold Turn.resumeAfterWait
    split
    · exact phase
    · split
      · exact phase
      · split <;> simp_all [finalPhases, stoppingPhases]

theorem entry_ends (setup : Setup) (childId : Name) (poll : Bool) {slot : Slot}
    (ends : Ends slot.turn) (begun : slot.progress.status ≠ .pending) :
    Ends (entry setup childId poll slot).turn ∧
      (entry setup childId poll slot).taskInput = none := by
  unfold entry
  rw [if_neg begun]
  split
  · exact ⟨resumeAfterWait_ends ends, rfl⟩
  · exact ⟨ends, rfl⟩

section

variable {asked : Entry}

theorem result_ends (ends : Ends asked.turn) (unbound : asked.taskInput = none) (reply : Reply) :
    Ends (asked.result reply).1 := by
  unfold Entry.result
  split
  · exact ends
  · rw [unbound]
    rcases Turn.step_cases asked.turn none reply with unchanged | advanced
    · rw [unchanged]
      exact ends
    · rw [advanced]
      exact advance_ends (begin_ends ends) reply

theorem begin_unstarted {turn : Turn} (unstarted : turn.started = false) :
    (turn.begin none).started = false := by
  unfold Turn.begin
  split
  · exact unstarted
  · rw [Turn.start, if_pos (by simp [Turn.startErrors])]
    exact unstarted

theorem result_unstarted (unstarted : asked.turn.started = false) (unbound : asked.taskInput = none)
    (reply : Reply) : (asked.result reply).1.started = false := by
  unfold Entry.result
  split
  · exact unstarted
  · rw [unbound]
    rcases Turn.step_cases asked.turn none reply with unchanged | advanced
    · rw [unchanged]
      exact unstarted
    · rw [advanced, (advance_started _ reply).1]
      exact begin_unstarted unstarted

theorem nextCall_stops (ends : Ends asked.turn) (unbound : asked.taskInput = none)
    {call : Turn.Call} (pending : asked.nextCall = some call) :
    call.action.callback ∈ stoppingCallbacks ∧ asked.turn.started = true := by
  obtain ⟨_, running, called, _⟩ := Entry.answered pending (.returned .null)
  rw [unbound] at called
  obtain ⟨stillRunning, _, invoked⟩ := Turn.pendingCall_eq_some called
  refine ⟨call_stops ((begin_ends ends).resolve_left (by simp [stillRunning])) invoked, ?_⟩
  by_contra unstarted
  have finished : (asked.turn.begin none).terminal = true := by
    rw [Turn.begin, if_neg (by simp [running, unstarted]), Turn.start,
      if_pos (by simp [Turn.startErrors])]
    rfl
  rw [finished] at stillRunning
  cases stillRunning

end

variable {coord : Coord} {escaped : Option PyError} {events : List Event}
  {callback : Option Callback}

/-- Serving a stopped child leaves it stopped, and invokes stopping callbacks only. -/
theorem served_ends (ends : Ends (coord.core.slots childId).turn)
    (begun : (coord.core.slots childId).progress.status ≠ .pending)
    (served : Served setup childId poll coord turn escaped events callback) :
    Ends turn ∧
      ((coord.core.slots childId).turn.started = false → turn.started = false) ∧
      (events = [] ∨ ∃ call reply, events = [.called childId call reply] ∧
        call.action.callback ∈ stoppingCallbacks ∧
        (coord.core.slots childId).turn.started = true) := by
  obtain ⟨askedEnds, unbound⟩ := entry_ends setup childId poll ends begun
  obtain ⟨sameStart, _⟩ := entry_started setup childId poll (coord.core.slots childId)
  obtain ⟨reply, same⟩ := served.serving.result
  have turnSame : turn = ((entry setup childId poll (coord.core.slots childId)).result reply).1 :=
    congrArg Prod.fst same
  refine ⟨?_, fun unstarted => ?_, ?_⟩
  · rw [turnSame]
    exact result_ends askedEnds unbound reply
  · rw [turnSame]
    exact result_unstarted (sameStart.trans unstarted) unbound reply
  · rcases served.serving.events with none | ⟨call, shown, pending, shows, _⟩
    · exact .inl none
    · obtain ⟨stops, started⟩ := nextCall_stops askedEnds unbound pending
      exact .inr ⟨call, shown, shows, stops, sameStart ▸ started⟩

/-- A callback after a fault stops a child, and one that had been started before the fault. -/
def Follows (newer older : Event) : Prop :=
  ∀ before request, older = .faulted before request →
    ∀ childId call reply, newer = .called childId call reply →
      call.action.callback ∈ stoppingCallbacks ∧ (before.slots childId).turn.started = true

/-- What a run shows of its faults, whatever ends it. -/
structure Obeys (coord : Coord) : Prop where
  ordered : coord.history.Pairwise Follows
  unstarted : ∀ before request, .faulted before request ∈ coord.history →
    ∀ childId, (before.slots childId).turn.started = false →
      (coord.core.slots childId).turn.started = false

/-- Under a fault every child is on its way to its end. -/
structure Stops (coord : Coord) : Prop where
  obeys : Obeys coord
  cached : AllCached coord
  latched : ∀ before request, .faulted before request ∈ coord.history →
    coord.core.protectedFault = true
  ends : coord.core.protectedFault = true → ∀ childId,
    Ends (coord.core.slots childId).turn ∧
      (coord.core.slots childId).progress.status ≠ .pending

theorem follows_of_isQuiet {newer older : Event} (quiet : newer.isQuiet = true) :
    Follows newer older := by
  rintro before request _ childId call reply rfl
  cases quiet

theorem not_faulted_of_isQuiet {event : Event} (quiet : event.isQuiet = true) (before : Core)
    (request : FaultRequest) : event ≠ .faulted before request := by
  rintro rfl
  cases quiet

variable {core : Core}

theorem mem_of_quiet {before after : Coord} (still : Quiet before after)
    {request : FaultRequest} (member : .faulted core request ∈ after.history) :
    .faulted core request ∈ before.history := by
  rcases still.events with same | ⟨event, quiet, same⟩
  · rwa [same] at member
  · rw [same] at member
    exact (mem_cons.mp member).resolve_left
      (not_faulted_of_isQuiet quiet core request).symm

theorem obeys_quiet : Closed Quiet Obeys := by
  intro before after obeys still
  refine ⟨?_, fun core request member childId unstarted => ?_⟩
  · rcases still.events with same | ⟨event, quiet, same⟩
    · rw [same]
      exact obeys.ordered
    · rw [same]
      exact pairwise_cons.mpr ⟨fun _ _ => follows_of_isQuiet quiet, obeys.ordered⟩
  · rw [still.turn childId]
    exact obeys.unstarted core request (mem_of_quiet still member) childId unstarted

theorem Obeys.adds {before : Coord} {event : Event} (obeys : Obeys before)
    (silent : ∀ childId call reply, event ≠ .called childId call reply)
    (faulty : ∀ snapshot request, event = .faulted snapshot request → snapshot = before.core)
    (kept : ∀ childId, (before.core.slots childId).turn.started = false →
      (core.slots childId).turn.started = false) :
    Obeys { before with core := core, history := event :: before.history } := by
  refine ⟨pairwise_cons.mpr ⟨?_, obeys.ordered⟩, ?_⟩
  · intro older _ snapshot request _ childId call reply same
    exact absurd same (silent childId call reply)
  · intro snapshot request member childId unstarted
    rcases mem_cons.mp member with same | earlier
    · rw [faulty snapshot request same.symm] at unstarted
      exact kept childId unstarted
    · exact kept childId (obeys.unstarted snapshot request earlier childId unstarted)

theorem redirected_started (turn : Turn) (reason : String) :
    (turn.redirected reason).started = turn.started := by
  rcases Turn.recordRequest_cases turn reason with same | same <;> simp [Turn.redirected, same]

theorem redirected_ends (turn : Turn) (reason : String) : Ends (turn.redirected reason) :=
  ends_of_phase (by simp [finalPhases, stoppingPhases])

section

variable {slot after : Slot} {reason : Name}

theorem stopped_started (stopped : Stopped slot reason after) :
    after.turn.started = slot.turn.started := by
  cases stopped with
  | abandoned _ _ turn | left _ _ turn => rw [turn]
  | redirected stoppable turn progress => rw [turn, redirected_started]

/-- A child that a fault leaves alone is on its way to its end already. -/
theorem ends_of_left (cached : Cached slot) (started : slot.progress.status ≠ .pending)
    (unstoppable : slot.isRedirected = false) : Ends slot.turn := by
  cases cached with
  | pending copied => exact absurd (by rw [copied]; rfl) started
  | abandoned errors copied unstarted => exact .inl unstarted
  | followed copied begun =>
    by_cases ended : slot.turn.terminal = true
    · exact .inr (.inl ended)
    · refine ends_of_phase (mem_cons_of_mem _ ?_)
      by_contra productive
      have unended : slot.progress.status ≠ .terminal := by
        rw [copied]
        unfold Turn.progress
        simp only [ended, Bool.false_eq_true, if_false]
        split
        · simp
        · simp
      have phase : slot.progress.phase = slot.turn.phase := by rw [copied]; rfl
      have stoppable : slot.isRedirected = true := by
        simp [Slot.isRedirected, started, unended, phase, productive]
      rw [stoppable] at unstoppable
      cases unstoppable

theorem stopped_ends (stopped : Stopped slot reason after) (cached : Cached slot) :
    Ends after.turn ∧ after.progress.status ≠ .pending := by
  cases stopped with
  | abandoned errors pending turn progress =>
    refine ⟨.inl ?_, by simp [progress]⟩
    rw [turn]
    cases cached with
    | pending _ unstarted | abandoned _ _ unstarted => exact unstarted
    | followed copied => exact absurd (copied ▸ pending) (progress_ne_pending _)
  | redirected stoppable turn progress =>
    refine ⟨?_, by rw [progress]; exact progress_ne_pending _⟩
    rw [turn]
    exact redirected_ends slot.turn reason.text
  | left started unstoppable turn progress =>
    rw [turn, progress]
    exact ⟨ends_of_left cached started unstoppable, started⟩

theorem contained_unstarted (redirected : Redirected slot reason after)
    (unstarted : slot.turn.started = false) : after.turn.started = false := by
  cases redirected with
  | redirected stoppable started => rw [started] at unstarted; cases unstarted
  | left turn progress => rw [turn, unstarted]

theorem contained_ends (redirected : Redirected slot reason after) (ends : Ends slot.turn)
    (begun : slot.progress.status ≠ .pending) :
    Ends after.turn ∧ after.progress.status ≠ .pending := by
  cases redirected with
  | redirected stoppable started running copied turn progress =>
    refine ⟨?_, by rw [progress]; exact progress_ne_pending _⟩
    rw [turn]
    exact redirected_ends slot.turn reason.text
  | left turn progress =>
    rw [turn, progress]
    exact ⟨ends, begun⟩

end

theorem Stops.faulted (stops : Stops coord) (request : FaultRequest) :
    Stops { coord with
      core := coord.core.enterFault setup request
      history := .faulted coord.core request :: coord.history } := by
  have each := fun childId => (stops.cached childId).stopped request childId
  refine ⟨stops.obeys.adds (fun _ _ _ same => ?_) ?_ ?_, stops.cached.faulted setup request _,
    fun _ _ _ => rfl, fun _ childId => stopped_ends (each childId) (stops.cached childId)⟩
  · cases same
  · rintro snapshot request' same
    cases same
    rfl
  · exact fun childId unstarted => (stopped_started (each childId)).trans unstarted

theorem Stops.contained (stops : Stops coord) {reason : Name}
    {projection : Recovery.RecoveryProjection} :
    Stops { coord with
      core := coord.core.recordContainedFault childId reason projection
      history := .contained coord.core childId reason :: coord.history } := by
  have each := Cached.recordContainedFault childId reason projection stops.cached
  refine ⟨stops.obeys.adds (fun _ _ _ same => ?_) (fun _ _ same => ?_) ?_,
    stops.cached.contained reason projection, ?_, ?_⟩
  · cases same
  · cases same
  · intro other unstarted
    rcases each other with ⟨_, redirected⟩ | same
    · exact contained_unstarted redirected unstarted
    · rw [same]
      exact unstarted
  · intro before request member
    rcases mem_cons.mp member with same | earlier
    · cases same
    · exact stops.latched before request earlier
  · intro latched other
    obtain ⟨ends, begun⟩ := stops.ends latched other
    rcases each other with ⟨_, redirected⟩ | same
    · exact contained_ends redirected ends begun
    · simp only [same]
      exact ⟨ends, begun⟩

/-- Serving a child keeps the order of the events, whatever is made of the turn afterwards. -/
theorem Stops.served (stops : Stops coord)
    (served : Served setup childId poll coord turn escaped events callback)
    (stored : (core.slots childId).turn = turn)
    (others : ∀ other, other ≠ childId → core.slots other = coord.core.slots other) :
    Obeys { coord with core := core, history := events ++ coord.history } := by
  have shown : events = [] ∨ ∃ call reply, events = [.called childId call reply] := by
    rcases served.serving.events with none | ⟨call, reply, _, shows, _⟩
    · exact .inl none
    · exact .inr ⟨call, reply, shows⟩
  refine ⟨?_, ?_⟩
  · rcases shown with rfl | ⟨call, reply, rfl⟩
    · exact stops.obeys.ordered
    · refine pairwise_cons.mpr ⟨?_, stops.obeys.ordered⟩
      rintro _ member before request rfl other call' reply' same
      cases same
      obtain ⟨ends, begun⟩ := stops.ends (stops.latched before request member) childId
      obtain ⟨_, _, silent | ⟨_, _, shows, stopping, started⟩⟩ := served_ends ends begun served
      · cases silent
      · cases shows
        refine ⟨stopping, ?_⟩
        by_contra unstarted
        have never := stops.obeys.unstarted before request member childId (by simpa using unstarted)
        rw [never] at started
        cases started
  · intro before request member other unstarted
    have earlier : .faulted before request ∈ coord.history := by
      rcases shown with rfl | ⟨call, reply, rfl⟩
      · exact member
      · exact (mem_cons.mp member).resolve_left nofun
    have still := stops.obeys.unstarted before request earlier other unstarted
    by_cases same : other = childId
    · subst same
      obtain ⟨ends, begun⟩ := stops.ends (stops.latched before request earlier) other
      exact stored ▸ (served_ends ends begun served).2.1 still
    · exact (congrArg (fun slot : Slot => slot.turn.started) (others other same)).trans still

theorem mem_of_served {history : List Event} {before : Core} {request : FaultRequest}
    (served : Served setup childId poll coord turn escaped events callback)
    (member : .faulted before request ∈ events ++ history) : .faulted before request ∈ history := by
  rcases served.serving.events with rfl | ⟨call, reply, _, rfl, _⟩
  · exact member
  · exact (mem_cons.mp member).resolve_left nofun

theorem stops_controls : Controls setup world Stops Obeys where
  weaker _ stops := stops.obeys
  quiet before after stops still := by
    refine ⟨obeys_quiet before after stops.obeys still,
      AllCached.quiet before after stops.cached still, fun core request member => ?_,
      fun latched childId => ?_⟩
    · rw [still.latched]
      exact stops.latched core request (mem_of_quiet still member)
    · rw [still.turn, still.progress]
      exact stops.ends (still.latched ▸ latched) childId
  failQuiet := obeys_quiet
  faulted _ request stops := stops.faulted request
  contained _ _ _ _ stops _ := stops.contained
  halves coord childId poll turn escaped events callback stops served := by
    refine stops.served served (by simp [setTurn, Core.updateSlot]) fun other apart => ?_
    simp [setTurn, Core.updateSlot, apart]
  serves coord childId poll turn events callback stops served := by
    obtain ⟨_, same⟩ := followed_eq childId turn coord.core
    refine ⟨stops.served served (followed_turn _ _ _) fun other apart =>
        followed_slots_of_ne apart turn coord.core, stops.cached.serves served, ?_, ?_⟩
    · intro before request member
      rw [same]
      exact stops.latched before request (mem_of_served served member)
    · intro latched other
      rw [same] at latched
      by_cases this : other = childId
      · subst this
        obtain ⟨ends, begun⟩ := stops.ends latched other
        refine ⟨?_, ?_⟩
        · simpa using (served_ends ends begun served).1
        · simpa using progress_ne_pending turn
      · simp only [followed_slots_of_ne this]
        exact stops.ends latched other

theorem stops_start {registry : List Lease} (constructed : start setup world registry = .ok coord) :
    Stops coord := by
  obtain ⟨startedNs, evidence, _, _, _, rfl⟩ := start_eq constructed
  refine ⟨⟨pairwise_singleton _ _, ?_⟩, cached_initial, ?_, ?_⟩
  · intro before request member
    exact absurd (mem_singleton.mp member) nofun
  · intro before request member
    exact absurd (mem_singleton.mp member) nofun
  · intro latched
    cases latched

/--
Once a fault has been entered, every callback invoked later in the run, for any
child, interrupts, finalizes or closes; and a child that had not been started is
never started.
-/
theorem nothing_productive_after_fault {coord : Coord} (left : Left setup world coord)
    {later earlier : List Event} {before : Core} {request : FaultRequest}
    (split : coord.history = later ++ .faulted before request :: earlier) :
    (∀ childId call reply, .called childId call reply ∈ later →
      call.action.callback = .interrupt ∨ call.action.callback = .finalize ∨
        call.action.callback = .close) ∧
    ∀ childId, (before.slots childId).turn.started = false →
      (coord.core.slots childId).turn.started = false ∧
        ∀ call reply, .called childId call reply ∉ later := by
  have obeys := stops_controls.carried.left (fun _ _ => stops_start) left
  have follows : ∀ childId call reply, .called childId call reply ∈ later →
      call.action.callback ∈ stoppingCallbacks ∧ (before.slots childId).turn.started = true := by
    intro childId call reply member
    have ordered := obeys.ordered
    rw [split] at ordered
    exact (pairwise_append.mp ordered).2.2 _ member _ mem_cons_self before request rfl
      childId call reply rfl
  have listed : .faulted before request ∈ coord.history := by
    rw [split]
    exact mem_append_right _ mem_cons_self
  refine ⟨fun childId call reply member => ?_, fun childId unstarted => ?_⟩
  · simpa [stoppingCallbacks] using (follows childId call reply member).1
  · refine ⟨obeys.unstarted before request listed childId unstarted, fun call reply member => ?_⟩
    rw [(follows childId call reply member).2] at unstarted
    cases unstarted

def isFault : Event → Bool
  | .faulted .. => true
  | _ => false

def isCall : Event → Bool
  | .called .. => true
  | _ => false

/-- The run ends under the fault, and something was called after it. -/
theorem loneInterrupt_runs : (playFrom loneSetup
      (loneWorld (obliging "complete") fun _ => loneEvidence false []) loneLeases
      loneInterrupt).any (fun coord => coord.core.protectedFault &&
        ((coord.history.takeWhile fun event => !isFault event).any isCall &&
          (coord.history.dropWhile fun event => !isFault event).head?.any isFault)) = true := by
  decide +kernel

/-- After the interrupt of an armed child the run calls back again, and only to stop. -/
theorem nothing_productive_after_fault_loneInterrupt :
    ∃ (coord : Coord) (later earlier : List Event) (before : Core) (request : FaultRequest),
      coord.history = later ++ .faulted before request :: earlier ∧
      later.any isCall = true ∧
      ∀ childId call reply, .called childId call reply ∈ later →
        call.action.callback = .interrupt ∨ call.action.callback = .finalize ∨
          call.action.callback = .close := by
  obtain ⟨coord, played, found⟩ := (Option.any_eq_true _ _).mp loneInterrupt_runs
  obtain ⟨_, found⟩ := Bool.and_eq_true_iff.mp found
  obtain ⟨called, headed⟩ := Bool.and_eq_true_iff.mp found
  obtain ⟨event, first, faulted⟩ := (Option.any_eq_true _ _).mp headed
  obtain ⟨earlier, rest⟩ := head?_eq_some_iff.mp first
  cases event with
  | faulted before request =>
    have split : coord.history = (coord.history.takeWhile fun event => !isFault event) ++
        .faulted before request :: earlier := by
      rw [← rest, takeWhile_append_dropWhile]
    exact ⟨coord, _, earlier, before, request, split, called,
      (nothing_productive_after_fault (.reached (reached_playFrom played)) split).1⟩
  | _ => cases faulted

/-- Every fault that was entered stays latched, and under it no child is pending: each has ended, is on
the way to its end or was never started. -/
theorem faults_latch {coord : Coord} (reached : Reached setup world coord) : Stops coord :=
  stops_controls.carried.reached (fun _ _ => stops_start) reached

theorem faults_latch_lone : ∃ coord, coord.core.protectedFault = true ∧ Stops coord := by
  obtain ⟨coord, played, found⟩ := (Option.any_eq_true _ _).mp loneInterrupt_runs
  obtain ⟨latched, _⟩ := Bool.and_eq_true_iff.mp found
  exact ⟨coord, latched, faults_latch (reached_playFrom played)⟩

end WorkOrchestration.Native.StopDiscipline
