import WorkOrchestration.Native.PoolControl

/-!
# One interrupt for each child

After its interrupt a control turn is in the phases that lead from there to its end, and nothing sends it
back but a contained fault of its child while it is finalizing as control-failed.
-/

namespace WorkOrchestration.Native.InterruptOnce

open List Lib.Programs Lib.Text Artifacts PoolContracts
open PoolLeases (Lease)
open Control Pool Coordinator

variable {setup : Setup} {world : World} {childId : Name} {poll : Bool}

/-- The event invokes the interrupt callback of the child. -/
def interrupts (childId : Name) : Event → Bool
  | .called other call _ => other == childId && call.action.callback == .interrupt
  | _ => false

def interruptCount (childId : Name) (history : List Event) : Nat :=
  history.countP (interrupts childId)

/-- No fault is contained while its child, interrupted before, finalizes as control-failed. -/
def Spares (newer older : Event) : Prop :=
  ∀ before childId reason, newer = .contained before childId reason →
    (before.slots childId).turn.phase = .finalizeControlFailed → interrupts childId older = false

/-- The phases from the interrupt to the end of a control turn. -/
def interruptedPhases : List Phase :=
  [.finalizeInterrupt, .waitingCloseInterrupt, .closeInterrupt, .finalizeClose,
    .finalizeControlFailed]

/-- A control turn whose interrupt has been invoked. -/
structure Interrupted (turn : Turn) : Prop where
  started : turn.started = true
  ended : turn.terminal = true ∨ turn.phase ∈ interruptedPhases

theorem failed_interrupted (turn : Turn) (error : PyError) :
    (turn.failed error).terminal = true ∨ (turn.failed error).phase ∈ interruptedPhases := by
  unfold Turn.failed
  split
  · exact .inl rfl
  · exact .inr (by simp [interruptedPhases, Turn.recordCallbackFailure])

variable {turn : Turn}

theorem accepted_interrupted {next : Turn}
    (phase : turn.phase = .interrupt ∨ turn.phase ∈ interruptedPhases)
    (accepted : turn.Accepted next) : next.terminal = true ∨ next.phase ∈ interruptedPhases := by
  cases accepted with
  | completeDeferred which => rcases which with which | which <;> simp_all [interruptedPhases]
  | interruptDeferred which => exact .inr (by simp [interruptedPhases])
  | _ => simp_all [interruptedPhases, Turn.finish]

theorem interrupted_advance (interrupted : Interrupted turn) (reply : Reply) :
    Interrupted (turn.advance reply).1 := by
  refine ⟨(advance_started turn reply).1.trans interrupted.started, ?_⟩
  have advanced := Turn.advance_cases turn reply
  generalize turn.advance reply = result at advanced
  cases advanced with
  | idle resting => exact interrupted.ended
  | called call result pending answer =>
    have running := (Turn.pendingCall_eq_some pending).1
    have phase := interrupted.ended.resolve_left (by simp [running])
    cases answer with
    | accepted next moves =>
      have labelled : (turn.labelled call).phase ∈ interruptedPhases := phase
      exact accepted_interrupted (.inr labelled) moves
    | failed error caught => exact failed_interrupted _ error
    | escaped error uncaught => exact .inr phase
  | lost error active noCall =>
    exact .inr (by simp [interruptedPhases, Turn.recordCallbackFailure])

theorem interrupted_resume (interrupted : Interrupted turn) :
    Interrupted turn.resumeAfterWait.1 := by
  obtain ⟨started, terminal⟩ := resumeAfterWait_started turn
  refine ⟨started.trans interrupted.started, ?_⟩
  rcases interrupted.ended with ended | phase
  · exact .inl (terminal.trans ended)
  · right
    unfold Turn.resumeAfterWait
    split
    · exact phase
    · split
      · exact phase
      · split <;> simp_all [interruptedPhases]

theorem interrupted_entry {slot : Slot} (interrupted : Interrupted slot.turn) :
    Interrupted (entry setup childId poll slot).turn := by
  unfold entry
  split
  · exact interrupted
  · split
    · exact interrupted_resume interrupted
    · exact interrupted

section

variable {asked : Entry}

theorem interrupted_result (interrupted : Interrupted asked.turn) (reply : Reply) :
    Interrupted (asked.result reply).1 := by
  unfold Entry.result
  split
  · exact interrupted
  · rcases Turn.step_cases asked.turn asked.taskInput reply with unchanged | advanced
    · rw [unchanged]
      exact interrupted
    · rw [advanced, begin_of_started _ (.inl interrupted.started)]
      exact interrupted_advance interrupted reply

theorem phase_of_interrupt {turn : Turn} {call : Turn.Call} (called : turn.call? = some call)
    (interrupt : call.action.callback = .interrupt) : turn.phase = .interrupt := by
  cases phase : turn.phase <;>
    simp only [Turn.call?, phase, Option.some.injEq, reduceCtorEq] at called <;> first
      | rfl
      | (subst called; cases interrupt)

/-- A turn that invokes its interrupt has not done so before, and counts as interrupted after. -/
theorem interrupted_of_interrupt {call : Turn.Call} (pending : asked.nextCall = some call)
    (interrupt : call.action.callback = .interrupt) :
    ¬ Interrupted asked.turn ∧
      ∀ reply, (asked.result reply).2 = none → Interrupted (asked.result reply).1 := by
  obtain ⟨_, running, called, _⟩ := Entry.answered pending (.returned .null)
  obtain ⟨stillRunning, _, invoked⟩ := Turn.pendingCall_eq_some called
  have phase := phase_of_interrupt invoked interrupt
  refine ⟨fun interrupted => ?_, fun reply returned => ?_⟩
  · rw [begin_of_started _ (.inl interrupted.started)] at phase
    have other := interrupted.ended.resolve_left (by simp [running])
    simp [interruptedPhases, phase] at other
  · have begun := (begin_begun asked.turn asked.taskInput).resolve_right (by simp [stillRunning])
    obtain ⟨_, _, _, answer⟩ := Entry.answered pending reply
    generalize asked.result reply = result at answer returned
    cases answer with
    | accepted next moves =>
      have labelled : ((asked.turn.begin asked.taskInput).labelled call).phase = .interrupt := phase
      exact ⟨(accepted_started moves).1.trans begun, accepted_interrupted (.inl labelled) moves⟩
    | failed error caught =>
      exact ⟨(failed_started _ error).1.trans begun, failed_interrupted _ error⟩
    | escaped error uncaught => cases returned

end

/-- Every child was interrupted at most once; one that was is on the way from there to its end. -/
def OnceFor (coord : Coord) : Prop :=
  ∀ childId, interruptCount childId coord.history = 0 ∨
    interruptCount childId coord.history = 1 ∧ Interrupted (coord.core.slots childId).turn

structure Once (coord : Coord) : Prop where
  cached : AllCached coord
  once : coord.history.Pairwise Spares → OnceFor coord

/-- What is left of it when an exception ends the run. -/
def AtMostOnce (coord : Coord) : Prop :=
  coord.history.Pairwise Spares → ∀ childId, interruptCount childId coord.history ≤ 1

variable {coord : Coord}

theorem OnceFor.atMost (once : OnceFor coord) (childId : Name) :
    interruptCount childId coord.history ≤ 1 := by
  rcases once childId with never | ⟨single, _⟩ <;> omega

theorem interrupts_quiet {event : Event} (quiet : event.isQuiet = true) (childId : Name) :
    interrupts childId event = false := by
  cases event with
  | called => cases quiet
  | _ => rfl

theorem interruptCount_silent {event : Event} {history : List Event}
    (silent : interrupts childId event = false) :
    interruptCount childId (event :: history) = interruptCount childId history := by
  simp [interruptCount, silent]

theorem quiet_history {before after : Coord} (still : Quiet before after) :
    (after.history.Pairwise Spares → before.history.Pairwise Spares) ∧
      ∀ childId, interruptCount childId after.history = interruptCount childId before.history := by
  rcases still.events with same | ⟨event, quiet, same⟩
  · rw [same]
    exact ⟨id, fun _ => rfl⟩
  · rw [same]
    exact ⟨List.Pairwise.of_cons, fun childId => interruptCount_silent (interrupts_quiet quiet childId)⟩

theorem once_quiet : Closed Quiet Once := by
  intro before after once still
  obtain ⟨spares, counts⟩ := quiet_history still
  refine ⟨AllCached.quiet before after once.cached still, fun spared childId => ?_⟩
  rw [counts, still.turn]
  exact once.once (spares spared) childId

theorem atMostOnce_quiet : Closed Quiet AtMostOnce := by
  intro before after atMost still spared childId
  obtain ⟨spares, counts⟩ := quiet_history still
  rw [counts]
  exact atMost (spares spared) childId

variable {reason : Name}

theorem interrupted_stopped {slot after : Slot}
    (stopped : Stopped slot reason after) (cached : Cached slot)
    (interrupted : Interrupted slot.turn) : Interrupted after.turn := by
  cases stopped with
  | abandoned _ _ turn | left _ _ turn => rwa [turn]
  | redirected stoppable turn progress =>
    obtain ⟨started, unended, productive⟩ := isRedirected_started stoppable
    obtain ⟨copied, _, running⟩ := cached.running started unended
    have phase := interrupted.ended.resolve_left (by simp [running])
    rw [copied] at productive
    change slot.turn.phase ∉ stoppingPhases at productive
    simp only [interruptedPhases, stoppingPhases, mem_cons, not_mem_nil, or_false,
      not_or] at phase productive
    grind

theorem interrupted_redirected {slot after : Slot}
    (redirected : Redirected slot reason after) (interrupted : Interrupted slot.turn)
    (settled : slot.turn.phase ≠ .waitingCloseInterrupt)
    (sound : slot.turn.phase ≠ .finalizeControlFailed) : Interrupted after.turn := by
  cases redirected with
  | redirected stoppable started running copied turn progress =>
    have phase := interrupted.ended.resolve_left (by simp [running])
    simp only [Slot.isContainmentRedirected, copied, Bool.and_eq_true, Bool.not_eq_true',
      Turn.progress] at stoppable
    have outside := stoppable.2
    simp only [interruptedPhases, mem_cons, not_mem_nil, or_false] at phase
    rcases phase with phase | phase | phase | phase | phase
    · simp [containedPhases, phase] at outside
    · exact absurd phase settled
    · simp [containedPhases, phase] at outside
    · simp [containedPhases, phase] at outside
    · exact absurd phase sound
  | left turn progress => rwa [turn]

theorem Once.faulted (once : Once coord) (request : FaultRequest) : Once { coord with
      core := coord.core.enterFault setup request
      history := .faulted coord.core request :: coord.history } := by
  refine ⟨once.cached.faulted setup request _, fun spared childId => ?_⟩
  refine (once.once spared.of_cons childId).imp id fun ⟨single, interrupted⟩ => ⟨single, ?_⟩
  exact interrupted_stopped ((once.cached childId).stopped request childId) (once.cached childId)
    interrupted

theorem Once.contained (once : Once coord)
    {projection : Recovery.RecoveryProjection}
    (containable : Containable setup coord.core childId projection) :
    Once { coord with
      core := coord.core.recordContainedFault childId reason projection
      history := .contained coord.core childId reason :: coord.history } := by
  refine ⟨once.cached.contained reason projection, fun spared other => ?_⟩
  refine (once.once spared.of_cons other).imp id fun ⟨single, interrupted⟩ => ⟨single, ?_⟩
  rcases Cached.recordContainedFault childId reason projection once.cached other with
    ⟨rfl, redirected⟩ | same
  · refine interrupted_redirected redirected interrupted containable.notWaiting fun failing => ?_
    -- an interrupt before this containment contradicts the condition on the run
    have silent := (pairwise_cons.mp spared).1
    have never : interruptCount other coord.history = 0 := by
      rw [interruptCount, countP_eq_zero]
      intro event member
      rw [silent event member coord.core other reason rfl failing]
      nofun
    omega
  · simp only [same]
    exact interrupted

/-- Serving a child invokes its interrupt once more only if it was never invoked before. -/
theorem Once.served {escaped : Option PyError} {events : List Event} {callback : Option Callback}
    (once : OnceFor coord) (served : Served setup childId poll coord turn escaped events callback)
    (other : Name) :
    interruptCount other (events ++ coord.history) = 0 ∨
      interruptCount other (events ++ coord.history) = 1 ∧
        (escaped = none → if other = childId then Interrupted turn
          else Interrupted (coord.core.slots other).turn) := by
  obtain ⟨reply, same⟩ := served.serving.result
  set asked := entry setup childId poll (coord.core.slots childId) with asking
  have turnSame : turn = (asked.result reply).1 := congrArg Prod.fst same
  have escapedSame : escaped = (asked.result reply).2 := congrArg Prod.snd same
  have kept : interruptCount other coord.history = 0 ∨ interruptCount other coord.history = 1 ∧
        (escaped = none → if other = childId then Interrupted turn
          else Interrupted (coord.core.slots other).turn) := by
    refine (once other).imp id fun ⟨single, interrupted⟩ => ⟨single, fun _ => ?_⟩
    split
    · rename_i this
      subst this
      rw [turnSame]
      exact interrupted_result (interrupted_entry interrupted) reply
    · exact interrupted
  rcases served.serving.events with rfl | ⟨call, shown, pending, rfl, _⟩
  · exact kept
  · by_cases interrupt : interrupts other (.called childId call shown) = true
    · right
      obtain ⟨this, invoked⟩ : childId = other ∧ call.action.callback = .interrupt := by
        simpa [interrupts] using interrupt
      subst this
      obtain ⟨fresh, becomes⟩ := interrupted_of_interrupt pending invoked
      have never : interruptCount childId coord.history = 0 := by
        refine (once childId).resolve_right fun before => fresh ?_
        exact interrupted_entry before.2
      refine ⟨?_, fun returned => ?_⟩
      · simpa [interruptCount, interrupt] using never
      · rw [if_pos rfl, turnSame]
        exact becomes reply (escapedSame ▸ returned)
    · simp only [cons_append, nil_append, interruptCount_silent (Bool.eq_false_iff.mpr interrupt)]
      exact kept

theorem spared_of_served {escaped : Option PyError} {events : List Event}
    {callback : Option Callback} {history : List Event}
    (served : Served setup childId poll coord turn escaped events callback)
    (spared : (events ++ history).Pairwise Spares) : history.Pairwise Spares := by
  rcases served.serving.events with rfl | ⟨call, shown, _, rfl, _⟩
  · exact spared
  · exact spared.of_cons

theorem once_controls : Controls setup world Once AtMostOnce where
  weaker _ once spared := (once.once spared).atMost
  quiet := once_quiet
  failQuiet := atMostOnce_quiet
  faulted _ request once := once.faulted request
  contained _ _ _ _ once containable := once.contained containable
  halves coord childId poll turn escaped events callback once served spared other := by
    rcases Once.served (once.once (spared_of_served served spared)) served other with
      never | ⟨single, _⟩
    · exact never.le.trans (Nat.zero_le 1)
    · exact single.le
  serves coord childId poll turn events callback once served := by
    refine ⟨once.cached.serves served, fun spared other => ?_⟩
    refine (Once.served (once.once (spared_of_served served spared)) served other).imp id
      fun ⟨single, interrupted⟩ => ⟨single, ?_⟩
    have interrupted := interrupted rfl
    split at interrupted
    · rename_i this
      subst this
      simpa using interrupted
    · rename_i apart
      simpa only [followed_slots_of_ne apart] using interrupted

theorem once_start {registry : List Lease} (constructed : start setup world registry = .ok coord) :
    Once coord := by
  obtain ⟨startedNs, evidence, _, _, _, rfl⟩ := start_eq constructed
  exact ⟨cached_initial, fun _ childId => .inl rfl⟩

/--
In a run in which no fault is contained while its child, interrupted before,
finalizes as control-failed, the interrupt callback of every child is invoked at
most once.
-/
theorem interrupted_at_most_once {coord : Coord} (left : Left setup world coord)
    (spared : coord.history.Pairwise Spares) (childId : Name) :
    interruptCount childId coord.history ≤ 1 :=
  once_controls.carried.left (fun _ _ => once_start) left spared childId

/-- An adapter whose interrupt callback raises, for a child whose checks decide to interrupt. -/
def failingInterrupt (call : Turn.Call) : Reply :=
  match call.action.callback with
  | .interrupt => .raised (valueError "interrupt")
  | _ => obliging "interrupt" call

/-- The child stalls after its interrupt has failed. -/
def stalledWorld : World :=
  loneWorld failingInterrupt fun tick =>
    if 40 < tick then loneEvidence true ["stalled"] else loneEvidence false []

/-- The contained fault of a child whose interrupt has failed has it interrupted again. -/
theorem interrupted_twice : ∃ coord, Reached loneSetup stalledWorld coord ∧
      interruptCount sampleChild coord.history = 2 := by
  have counted : (playFrom loneSetup stalledWorld loneLeases (List.replicate 7 .step)).any
      (fun coord => interruptCount sampleChild coord.history == 2) = true := by decide +kernel
  obtain ⟨coord, played, counted⟩ := (Option.any_eq_true _ _).mp counted
  exact ⟨coord, reached_playFrom played, beq_iff_eq.mp counted⟩

def isContainment : Event → Bool
  | .contained .. => true
  | _ => false

/-- A containment finds the control turn of its child in another phase. -/
def finds : Event → Bool
  | .contained before childId _ => (before.slots childId).turn.phase != .finalizeControlFailed
  | _ => true

def containedWorld : World := loneWorld (obliging "interrupt") fun _ => loneEvidence true ["stalled"]

/-- A child whose fault is contained is interrupted, and once only. -/
theorem interrupted_at_most_once_lone : ∃ coord, Reached loneSetup containedWorld coord ∧
      coord.history.any isContainment = true ∧ interruptCount sampleChild coord.history ≠ 0 ∧
      interruptCount sampleChild coord.history ≤ 1 := by
  have found : (playFrom loneSetup containedWorld loneLeases (List.replicate 6 .step)).any
      (fun coord => coord.history.any isContainment && (interruptCount sampleChild coord.history != 0 &&
        coord.history.all finds)) = true := by decide +kernel
  obtain ⟨coord, played, found⟩ := (Option.any_eq_true _ _).mp found
  obtain ⟨contained, found⟩ := Bool.and_eq_true_iff.mp found
  obtain ⟨interrupted, others⟩ := Bool.and_eq_true_iff.mp found
  have spared : coord.history.Pairwise Spares := by
    refine pairwise_of_forall_mem_list fun newer member older _ => ?_
    rintro before childId reason rfl failed
    exact absurd failed (bne_iff_ne.mp (all_eq_true.mp others _ member))
  exact ⟨coord, reached_playFrom played, contained, bne_iff_ne.mp interrupted,
    interrupted_at_most_once (.reached (reached_playFrom played)) spared sampleChild⟩

end WorkOrchestration.Native.InterruptOnce
