import Mathlib.Logic.Relation
import WorkOrchestration.Native.CoordinatorCrash
import WorkOrchestration.Native.PoolSteps

/-!
# Exclusive timing

The buckets of a coordinator against the clock.  At any time, what is attributed to callbacks, to
invocations outside of them and to waits lies before every later reading; so a seal finds the
rest to be the coordinator's own, and no subtraction is cut off at zero.
-/

namespace WorkOrchestration.Native.Coordinator

open Lib.Programs Lib.Text Artifacts Authority PoolContracts PoolStates
open PoolLeases (Lease)
open PoolReceipts Control Pool
open Keeps (get_bind)
open Triple (forM get_bind of_state)

/-! ## Clocks and buckets -/

/-- A clock that never goes back, in the readings it gives. -/
def Nondecreasing (clock : Nat → Except PyError Nat) : Prop :=
  ∀ first second firstNs secondNs, first ≤ second → clock first = .ok firstNs →
    clock second = .ok secondNs → firstNs ≤ secondNs

def buckets (timing : Timing) : Nat × Nat × Nat × Nat × Nat :=
  (timing.poolWallNs, timing.callbackNs, timing.noncallbackInvokeNs, timing.coordinatorNs,
    timing.waitNs)

/-- The wall time lies between the first reading and a later one, and the buckets exhaust it without
being cut off. -/
structure Reconciled (world : World) (timing : Timing) : Prop where
  started : world.clock 0 = .ok timing.startedNs
  wall : ∃ tick nowNs, world.clock tick = .ok nowNs ∧
    (timing.poolWallNs : Int) = nowNs - timing.startedNs
  coordinator : (timing.coordinatorNs : Int) =
    timing.poolWallNs - (timing.callbackNs + timing.noncallbackInvokeNs + timing.waitNs)
  total : timing.callbackNs + timing.noncallbackInvokeNs + timing.coordinatorNs + timing.waitNs =
    timing.poolWallNs

/-- No reading from here on lies before the given time. -/
def Ahead (world : World) (coord : Coord) (ns : Nat) : Prop :=
  ∀ tick nowNs, coord.tick ≤ tick → world.clock tick = .ok nowNs → ns ≤ nowNs

/-- A state has been sealed with reconciled buckets, which are final once the timing is frozen. -/
structure SealedWith (world : World) (coord : Coord) (timing : Timing) (state : PoolState) : Prop where
  reconciled : Reconciled world timing
  wall : state.poolWallNs = timing.poolWallNs
  final : timing.frozen = true → coord.timing.frozen = true ∧ buckets timing = buckets coord.timing

structure Accounted (world : World) (coord : Coord) : Prop where
  started : world.clock 0 = .ok coord.timing.startedNs
  spent : coord.timing.frozen = false →
    Ahead world coord (coord.timing.startedNs + coord.timing.attributedNs)
  waiting : ∀ waitStartedNs, coord.timing.waitStartedNs = some waitStartedNs →
    Ahead world coord waitStartedNs ∧ (coord.timing.frozen = false →
      coord.timing.startedNs + coord.timing.attributedNs ≤ waitStartedNs)
  settled : coord.timing.frozen = true → Reconciled world coord.timing
  shown : ∀ timing state, Event.sealed timing state ∈ coord.history →
    SealedWith world coord timing state

variable {setup : Setup} {world : World} {coord : Coord} {α : Type}

variable {after : Coord}

theorem Ahead.later {ns : Nat} (ahead : Ahead world coord ns) (later : coord.tick ≤ after.tick) :
    Ahead world after ns :=
  fun tick nowNs asked read => ahead tick nowNs (later.trans asked) read

theorem Ahead.reaches {early late : Nat} (ahead : Ahead world coord late)
    (later : coord.tick ≤ after.tick) (ordered : early ≤ late) : Ahead world after early :=
  fun tick nowNs asked read => ordered.trans (ahead tick nowNs (later.trans asked) read)

variable (steady : Nondecreasing world.clock)

include steady in
theorem ahead_of_reading {nowNs : Nat}
    (read : world.clock coord.tick = .ok nowNs) : Ahead world coord nowNs :=
  fun tick laterNs asked later => steady coord.tick tick nowNs laterNs asked read later

/-! ## Updates beside the clock -/

/-- An update that touches neither the buckets nor the sealed states, and asks no earlier question. -/
structure Untimed (before after : Coord) : Prop where
  books : after.timing.books = before.timing.books
  later : before.tick ≤ after.tick
  shown : ∀ timing state, Event.sealed timing state ∈ after.history →
    Event.sealed timing state ∈ before.history

theorem accounts_of_books {left right : Timing} (same : left.books = right.books) :
    left.frozen = right.frozen ∧ left.startedNs = right.startedNs ∧
      left.waitStartedNs = right.waitStartedNs ∧ left.attributedNs = right.attributedNs ∧
      buckets left = buckets right := by
  simp only [Timing.books, Timing.mk.injEq] at same
  obtain ⟨started, wall, callback, invoke, coordinator, wait, waits, _, _, _, frozen⟩ := same
  refine ⟨frozen, started, waits, ?_, ?_⟩
  · rw [Timing.attributedNs, Timing.attributedNs, callback, invoke, wait]
  · rw [buckets, buckets, wall, callback, invoke, coordinator, wait]

theorem Reconciled.congr {left right : Timing} (reconciled : Reconciled world right)
    (started : left.startedNs = right.startedNs) (same : buckets left = buckets right) :
    Reconciled world left := by
  simp only [buckets, Prod.mk.injEq] at same
  obtain ⟨wall, callback, invoke, coordinator, wait⟩ := same
  refine ⟨started ▸ reconciled.started, ?_, ?_, ?_⟩
  · rw [wall, started]
    exact reconciled.wall
  · rw [wall, callback, invoke, coordinator, wait]
    exact reconciled.coordinator
  · rw [wall, callback, invoke, coordinator, wait]
    exact reconciled.total

variable {before : Coord}

theorem Accounted.untimed (accounted : Accounted world before) (untimed : Untimed before after) :
    Accounted world after := by
  obtain ⟨frozen, started, waits, attributed, same⟩ := accounts_of_books untimed.books
  refine ⟨started ▸ accounted.started, ?_, ?_, ?_, ?_⟩
  · intro running
    rw [started, attributed]
    exact (accounted.spent (frozen ▸ running)).later untimed.later
  · intro waitStartedNs waiting
    obtain ⟨ahead, spent⟩ := accounted.waiting waitStartedNs (waits ▸ waiting)
    refine ⟨ahead.later untimed.later, fun running => ?_⟩
    rw [started, attributed]
    exact spent (frozen ▸ running)
  · intro ended
    exact (accounted.settled (frozen ▸ ended)).congr started same
  · intro timing state shown
    obtain ⟨reconciled, wall, final⟩ := accounted.shown timing state (untimed.shown timing state shown)
    refine ⟨reconciled, wall, fun ended => ?_⟩
    rw [frozen, same]
    exact final ended

theorem Move.untimed (moves : Move setup world before after) :
    Untimed before after := by
  cases moves with
  | aside timing tick registry books later => exact ⟨books, later, fun _ _ => id⟩
  | faulted | compared => exact ⟨rfl, le_rfl, fun _ _ shown => by simpa using shown⟩
  | contained | absorbed | judged =>
    exact ⟨rfl, le_rfl, fun _ _ shown => by simpa using shown⟩
  | _ => exact ⟨rfl, le_rfl, fun _ _ => id⟩

theorem Asks.untimed (asks : Asks before after) : Untimed before after :=
  ⟨by rw [asks.timing], asks.later, fun _ _ shown => by rwa [asks.history] at shown⟩

variable {program : Program α}

theorem untimed_of_moves (keeps : Keeps (Move setup world) program) :
    Keeps Untimed program :=
  keeps.mono fun _ _ moves => moves.untimed

theorem untimed_of_asks (keeps : Keeps Asks program) : Keeps Untimed program :=
  keeps.mono fun _ _ asks => asks.untimed

theorem untimed_modifyCore (update : Core → Core) : Keeps Untimed (modifyCore update) :=
  Keeps.modify fun _ => ⟨rfl, le_rfl, fun _ _ => id⟩

theorem untimed_enterFault (request : FaultRequest) : Keeps Untimed (enterFault setup request) :=
  Keeps.modify fun _ => ⟨rfl, le_rfl, fun _ _ shown => by simpa using shown⟩

theorem untimed_when {condition : Prop} [Decidable condition] {program : Program Unit}
    (keeps : condition → Keeps Untimed program) : Keeps Untimed (when condition program) :=
  ⟨fun closed => triple_when (fun met => (keeps met).triple closed) fun _ _ holds => holds⟩

theorem untimed_ask (answers : Nat → α) : Keeps Untimed (ask answers) :=
  untimed_of_asks (asks_ask answers)

/-! ## Following a control turn -/

section

variable {childId : Name}

theorem untimed_recordContainedFault (reason : Name) (projection : Recovery.RecoveryProjection) :
    Keeps Untimed (recordContainedFault setup childId reason projection) := by
  refine get_bind fun coord => ?_
  refine Keeps.bind (Keeps.modify fun current => ?_) fun _ =>
    untimed_when fun _ => untimed_enterFault _
  exact ⟨rfl, le_rfl, fun _ _ shown => by simpa using shown⟩

theorem untimed_consumeRecovery (reason : Name) (sha256 : Option Digest) :
    Keeps Untimed (consumeRecovery setup world childId reason sha256) := by
  unfold consumeRecovery
  split
  · refine Keeps.bind (untimed_ask _) fun answer => ?_
    cases answer <;> exact Keeps.pure
  · exact Keeps.pure

theorem untimed_tryContainChildFault (reason : Name) (failureClass : Option Recovery.FailureClass)
    (sha256 : Option Digest) :
    Keeps Untimed (tryContainChildFault setup world childId reason failureClass sha256) := by
  refine get_bind fun coord => ?_
  simp only
  split
  · exact Keeps.pure
  · split
    · exact Keeps.pure
    · split
      · exact Keeps.pure
      · refine Keeps.bind (untimed_consumeRecovery reason sha256) fun consumed => ?_
        cases consumed with
        | error error => exact Keeps.bind (untimed_enterFault _) fun _ => Keeps.pure
        | ok projection =>
          exact Keeps.bind (untimed_recordContainedFault reason projection) fun _ => Keeps.pure

theorem untimed_judgeEvidence (evidence : ChildEvidence) (exhausted : Bool) :
    Keeps Untimed (judgeEvidence setup world childId evidence exhausted) := by
  refine Keeps.bind (untimed_when fun _ => untimed_enterFault _) fun _ => ?_
  unfold judgeFault
  split
  · exact untimed_enterFault _
  · split
    · exact Keeps.bind (untimed_tryContainChildFault _ _ _) fun _ =>
        untimed_when fun _ => untimed_enterFault _
    · exact Keeps.pure

theorem untimed_readEvidence : Keeps Untimed (readEvidence setup world childId) := by
  refine Keeps.bind (untimed_ask _) fun reply => ?_
  refine get_bind fun coord => ?_
  split
  · split
    · exact untimed_enterFault _
    · exact Keeps.throw
  · refine Keeps.bind (Keeps.modify fun _ =>
      ⟨rfl, le_rfl, fun _ _ shown => by simpa using shown⟩) fun _ => ?_
    refine Keeps.bind (untimed_judgeEvidence _ _) fun _ => ?_
    refine get_bind fun after => Keeps.modify fun _ => ?_
    exact ⟨rfl, le_rfl, fun _ _ shown => by simpa using shown⟩

theorem untimed_afterCallback (endedNs : Nat) (phase : Phase) (report : CallbackReport) :
    Keeps Untimed (afterCallback setup world childId endedNs phase report) := by
  refine Keeps.bind (untimed_when fun _ => untimed_modifyCore _) fun _ => ?_
  refine Keeps.bind (untimed_of_moves (@keeps_noteSlack setup world report)) fun _ => ?_
  refine Keeps.bind (untimed_when fun _ => untimed_modifyCore _) fun _ => ?_
  refine Keeps.bind (untimed_when fun _ => untimed_readEvidence) fun _ => ?_
  refine Keeps.bind (untimed_when fun _ => untimed_of_moves (keeps_settleCheck endedNs phase))
    fun _ => ?_
  refine Keeps.bind (untimed_of_moves (@keeps_enterCallbackFault setup world report)) fun _ => ?_
  exact untimed_of_moves (keeps_compareOrDefer report.callback)

theorem untimed_followTurn (endedNs : Nat) (report : Option CallbackReport) :
    Keeps Untimed (followTurn setup world childId endedNs report) := by
  refine get_bind fun coord => ?_
  refine Keeps.bind (untimed_modifyCore _) fun _ => ?_
  refine Keeps.bind (untimed_when fun _ => untimed_enterFault _) fun _ => ?_
  cases report with
  | none => exact Keeps.pure
  | some report => exact untimed_afterCallback endedNs _ report

end

/-! ## Reading the clock -/

/-- The coordinator after one question. -/
def asked (coord : Coord) : Coord := { coord with tick := coord.tick + 1 }

theorem untimed_asked (coord : Coord) : Untimed coord (asked coord) :=
  ⟨rfl, Nat.le_succ _, fun _ _ => id⟩

theorem triple_monotonicNs : Triple (fun current => current = coord) (monotonicNs world)
      (fun nowNs after => after = asked coord ∧ world.clock coord.tick = .ok nowNs)
      (fun after => after = asked coord) := by
  refine Triple.bind (m := fun reading after =>
      after = asked coord ∧ world.clock coord.tick = reading) (triple_ask ?_) fun reading => ?_
  · rintro _ rfl
    exact ⟨rfl, rfl⟩
  · refine triple_liftExcept ?_ fun _ read => read.1
    rintro nowNs rfl after ⟨same, read⟩
    exact ⟨same, read⟩

theorem Accounted.retimed (accounted : Accounted world coord)
    (history : after.history = coord.history) (frozen : after.timing.frozen = coord.timing.frozen)
    (started : after.timing.startedNs = coord.timing.startedNs)
    (kept : coord.timing.frozen = true → buckets after.timing = buckets coord.timing)
    (spent : coord.timing.frozen = false →
      Ahead world after (after.timing.startedNs + after.timing.attributedNs))
    (waiting : ∀ waitStartedNs, after.timing.waitStartedNs = some waitStartedNs →
      Ahead world after waitStartedNs ∧ (coord.timing.frozen = false →
        after.timing.startedNs + after.timing.attributedNs ≤ waitStartedNs)) :
    Accounted world after := by
  refine ⟨started ▸ accounted.started, fun running => spent (frozen ▸ running), fun waitStartedNs waits => ?_, fun ended => ?_, ?_⟩
  · exact ⟨(waiting waitStartedNs waits).1, fun running => (waiting waitStartedNs waits).2 (frozen ▸ running)⟩
  · rw [frozen] at ended
    exact (accounted.settled ended).congr started (kept ended)
  · intro timing state shown
    rw [history] at shown
    obtain ⟨reconciled, wall, final⟩ := accounted.shown timing state shown
    refine ⟨reconciled, wall, fun ended => ?_⟩
    obtain ⟨already, same⟩ := final ended
    exact ⟨frozen.trans already, same.trans (kept already).symm⟩

/-- In a run the accounts are in order, with something known of the wait. -/
def InOrder (world : World) (wait : Option Nat → Prop) (coord : Coord) : Prop :=
  Accounted world coord ∧ wait coord.timing.waitStartedNs

theorem closed_untimed (wait : Option Nat → Prop) : Closed Untimed (InOrder world wait) := by
  intro before after holds untimed
  obtain ⟨_, _, waits, _, _⟩ := accounts_of_books untimed.books
  exact ⟨holds.1.untimed untimed, waits ▸ holds.2⟩

include steady in
theorem triple_completeWait :
    Triple (Accounted world) (completeWait world) (fun _ => InOrder world (· = none))
      (Accounted world) := by
  refine get_bind fun coord accounted => ?_
  split
  · rename_i none
    refine Triple.pure ?_
    rintro _ rfl
    exact ⟨accounted, none⟩
  · rename_i waitStartedNs waits
    have bumped := accounted.untimed (untimed_asked coord)
    refine Triple.bind (triple_monotonicNs.consequence (fun _ => id) (fun _ _ => id)
      fun _ same => same ▸ bumped) fun endedNs => Triple.modify ?_
    rintro _ ⟨rfl, read⟩
    obtain ⟨ahead, before⟩ := accounted.waiting waitStartedNs waits
    have ordered := ahead coord.tick endedNs le_rfl read
    have reached : Ahead world (asked coord) endedNs :=
      (ahead_of_reading steady read).later (Nat.le_succ _)
    refine ⟨bumped.retimed rfl rfl rfl ?_ ?_ (fun _ impossible => by cases impossible), rfl⟩
    · intro frozen
      simp [buckets, frozen]
    · intro running
      have spent := before running
      refine reached.reaches le_rfl ?_
      simp only [Timing.attributedNs, running] at spent ⊢
      simp only [asked, Bool.false_eq_true, if_false]
      omega

include steady in
theorem triple_startWait :
    Triple (InOrder world (· = none)) (monotonicNs world)
      (fun nowNs coord => Accounted world { coord with
        timing := { coord.timing with waitStartedNs := some nowNs } }) (Accounted world) := by
  refine of_state fun coord holds => ?_
  have bumped := holds.1.untimed (untimed_asked coord)
  refine triple_monotonicNs.consequence (fun _ => id) ?_ fun _ same => same ▸ bumped
  rintro nowNs _ ⟨rfl, read⟩
  have reached : Ahead world (asked coord) nowNs :=
    (ahead_of_reading steady read).later (Nat.le_succ _)
  refine bumped.retimed rfl rfl rfl (fun _ => rfl) (fun running => bumped.spent running) ?_
  intro waitStartedNs waits
  cases waits
  exact ⟨reached, fun running => holds.1.spent running coord.tick nowNs le_rfl read⟩

/-! ## Serving a control turn -/

/-- Time that is attributed to a callback, unless the buckets are frozen. -/
def Timing.called (gain : Nat) (timing : Timing) : Timing :=
  { timing with
    callbackNs := if timing.frozen then timing.callbackNs else timing.callbackNs + gain }

/-- A control turn has been served: its callback took what the clock shows between two readings. -/
structure TimedService (world : World) (before after : Coord) (gain : Nat) : Prop where
  books : after.timing.books = (Timing.called gain before.timing).books
  later : before.tick ≤ after.tick
  shown : ∀ timing state, Event.sealed timing state ∈ after.history →
    Event.sealed timing state ∈ before.history
  paced : ∀ ns, Ahead world before ns → Ahead world after (ns + gain)

theorem served_of_untimed (untimed : Untimed coord after) :
    TimedService world coord after 0 := by
  refine ⟨?_, untimed.later, untimed.shown, fun ns ahead => ahead.later untimed.later⟩
  rw [untimed.books]
  simp [Timing.called]

variable {middle : Coord}

theorem Untimed.trans (first : Untimed coord middle) (second : Untimed middle after) :
    Untimed coord after where
  books := second.books.trans first.books
  later := first.later.trans second.later
  shown timing state held := first.shown timing state (second.shown timing state held)

theorem TimedService.untimed {gain : Nat} (served : TimedService world coord middle gain)
    (untimed : Untimed middle after) : TimedService world coord after gain where
  books := untimed.books.trans served.books
  later := served.later.trans untimed.later
  shown timing state held := served.shown timing state (untimed.shown timing state held)
  paced ns ahead := (served.paced ns ahead).later untimed.later

/-- A latency is what the clock shows between two readings, and running buckets take it up. -/
structure Clocked (world : World) (before after : Coord) (latencyNs : Nat) : Prop where
  readings : ∃ first last startedNs endedNs, before.tick ≤ first ∧ last < after.tick ∧
    world.clock first = .ok startedNs ∧ world.clock last = .ok endedNs ∧
      (latencyNs : Int) = endedNs - startedNs
  added : before.timing.frozen = false →
    after.timing.callbackNs = before.timing.callbackNs + latencyNs

include steady in
/-- The readings around a callback, in their order. -/
theorem triple_timedCallback_served {fail : Coord → Prop}
    (childId : Name) (call : Turn.Call) :
    Triple (fun current => current = coord) (timedCallback setup world childId call)
      (fun answer after => (∃ gain, TimedService world coord after gain) ∧
        ∀ report ∈ answer.2, ∀ latencyNs ∈ report.latencyNs,
          Clocked world coord after latencyNs) fail := by
  refine Triple.bind (m := fun started after =>
      after = asked coord ∧ world.clock coord.tick = started) (triple_ask ?_) fun started => ?_
  · rintro _ rfl
    exact ⟨rfl, rfl⟩
  refine of_state fun middle ⟨same, read⟩ => ?_
  subst same
  cases started with
  | error error =>
    refine Triple.pure ?_
    rintro _ rfl
    exact ⟨⟨0, served_of_untimed (untimed_asked coord)⟩, by simp⟩
  | ok startedNs =>
    have seen : ∀ {event : Event}, (∀ timing state, event ≠ .sealed timing state) →
        ∀ after, Untimed coord after →
          Untimed coord { after with history := event :: after.history } := by
      intro event other after untimed
      refine ⟨untimed.books, untimed.later, fun timing state shown => ?_⟩
      obtain same | shown := List.mem_cons.mp shown
      · exact (other timing state same.symm).elim
      · exact untimed.shown timing state shown
    refine Triple.bind (m := fun _ => Untimed coord) (triple_ask ?_) fun reply => ?_
    · rintro _ rfl
      exact (untimed_asked coord).trans (untimed_asked _)
    refine Triple.bind (m := fun _ => Untimed coord)
      (Triple.modify (seen fun _ _ => by simp)) fun _ => ?_
    refine Triple.bind (m := fun ended after => Untimed coord after ∧
        ∃ tick, coord.tick ≤ tick ∧ tick < after.tick ∧ world.clock tick = ended)
      (triple_ask ?_) fun ended => ?_
    · intro after untimed
      exact ⟨untimed.trans (untimed_asked after), after.tick, untimed.later, Nat.lt_succ_self _, rfl⟩
    cases ended with
    | error error =>
      exact Triple.pure fun after held => ⟨⟨0, served_of_untimed held.1⟩, by simp⟩
    | ok endedNs =>
      refine Triple.bind (m := fun _ after =>
          TimedService world coord after (endedNs - startedNs) ∧
            Clocked world coord after (endedNs - startedNs)) (Triple.modify ?_) fun _ =>
        Triple.pure fun _ held => ⟨⟨_, held.1⟩, by simpa using held.2⟩
      rintro after ⟨untimed, tick, asked, passed, ended⟩
      have same := untimed.books
      simp only [Timing.books, Timing.mk.injEq] at same
      refine ⟨⟨?_, untimed.later, untimed.shown, ?_⟩, ?_, ?_⟩
      · simp only [Timing.books, Timing.called, same]
      · intro ns ahead later nowNs asking reading
        have begun := ahead coord.tick startedNs le_rfl read
        have between := steady coord.tick tick startedNs endedNs asked read ended
        have since := steady tick later endedNs nowNs (passed.le.trans asking) ended reading
        omega
      · have between := steady coord.tick tick startedNs endedNs asked read ended
        exact ⟨coord.tick, tick, startedNs, endedNs, le_rfl, passed, read, ended, by omega⟩
      · intro running
        simp [same, running]

include steady in
theorem triple_serveTurn_served {fail : Coord → Prop}
    (childId : Name) (poll : Bool) :
    Triple (fun current => current = coord) (serveTurn setup world childId poll)
      (fun _ after => ∃ gain, TimedService world coord after gain) fail := by
  refine get_bind fun before same => ?_
  subst same
  simp only
  split
  · refine Triple.bind (m := fun _ after => ∃ gain, TimedService world before after gain)
      (Triple.modify ?_) fun _ => Triple.pure fun _ => id
    rintro _ rfl
    exact ⟨0, served_of_untimed ⟨rfl, le_rfl, fun _ _ => id⟩⟩
  · rename_i call _
    refine Triple.bind (triple_timedCallback_served steady childId call) fun answer => ?_
    refine Triple.bind (m := fun _ after => ∃ gain, TimedService world before after gain)
      (Triple.modify ?_) fun _ => Triple.pure fun _ => id
    rintro after ⟨⟨gain, served⟩, _⟩
    exact ⟨gain, served.untimed ⟨rfl, le_rfl, fun _ _ => id⟩⟩

/-! ## Invoking a child -/

/-- The accounts once the callback of an invocation has been served, before its last reading. -/
theorem TimedService.accounted {gain : Nat} (served : TimedService world coord middle gain)
    (accounted : InOrder world (· = none) coord) : InOrder world (· = none) middle := by
  obtain ⟨frozen, started, waits, attributed, same⟩ := accounts_of_books served.books
  have idle : middle.timing.waitStartedNs = none := waits.trans accounted.2
  refine ⟨?_, idle⟩
  have since : Accounted world { middle with timing := coord.timing } :=
    accounted.1.untimed ⟨rfl, served.later, served.shown⟩
  refine since.retimed rfl frozen started ?_ ?_ ?_
  · intro ended
    rw [same]
    simp [buckets, Timing.called, show coord.timing.frozen = true from ended]
  · intro running
    have paced := served.paced _ (accounted.1.spent running)
    rw [attributed, started]
    refine paced.reaches le_rfl ?_
    simp only [Timing.attributedNs, Timing.called, show coord.timing.frozen = false from running]
    simp only [Bool.false_eq_true, if_false]
    omega
  · intro waitStartedNs waiting
    rw [idle] at waiting
    cases waiting

/-- The last reading of an invocation, and what it leaves for the time outside of callbacks. -/
theorem TimedService.invoked {gain startedNs endedNs : Nat}
    (served : TimedService world coord middle gain) (holds : InOrder world (· = none) coord)
    (begun : coord.timing.frozen = false →
      coord.timing.startedNs + coord.timing.attributedNs ≤ startedNs)
    (paced : startedNs + gain ≤ endedNs) (read : Ahead world (asked middle) endedNs) :
    InOrder world (· = none) { asked middle with
        timing :=
          { middle.timing with
            noncallbackInvokeNs :=
              if middle.timing.frozen then middle.timing.noncallbackInvokeNs
              else middle.timing.noncallbackInvokeNs +
                ((endedNs - startedNs) - (middle.timing.callbackNs - coord.timing.callbackNs)) } } := by
  have between := served.accounted holds
  obtain ⟨frozen, started, waits, attributed, same⟩ := accounts_of_books served.books
  have idle : middle.timing.waitStartedNs = none := waits.trans holds.2
  refine ⟨(between.1.untimed (untimed_asked middle)).retimed rfl rfl rfl ?_ ?_ ?_, idle⟩
  · intro ended
    have ended : middle.timing.frozen = true := ended
    simp [asked, buckets, ended]
  · intro running
    have running : middle.timing.frozen = false := running
    have before := begun (frozen.symm.trans running)
    simp only [buckets, Timing.called, show coord.timing.frozen = false from frozen.symm.trans running,
      Prod.mk.injEq] at same
    obtain ⟨_, callback, invoke, _, wait⟩ := same
    refine read.reaches le_rfl ?_
    simp only [Timing.attributedNs, running, started, callback, wait, Timing.called] at before ⊢
    simp only [Bool.false_eq_true, if_false] at before ⊢
    omega
  · intro waitStartedNs waiting
    rw [show middle.timing.waitStartedNs = some waitStartedNs from waiting] at idle
    cases idle

include steady in
/-- The time of an invocation goes to its callback and to the rest, and to nothing else. -/
theorem invokes_inOrder :
    Invokes setup world (InOrder world (· = none)) (Accounted world) := by
  intro childId poll
  refine Triple.bind (m := fun _ => InOrder world (· = none)) (Triple.modify fun coord holds => ?_)
    fun _ => ?_
  · exact closed_untimed _ coord _ holds.1 ⟨rfl, le_rfl, fun _ _ => id⟩
  refine Triple.bind (m := fun startedNs coord => InOrder world (· = none) coord ∧
      Ahead world coord startedNs ∧ (coord.timing.frozen = false →
        coord.timing.startedNs + coord.timing.attributedNs ≤ startedNs)) ?_ fun startedNs => ?_
  · refine of_state fun coord holds => ?_
    have bumped := closed_untimed _ coord _ holds (untimed_asked coord)
    refine triple_monotonicNs.consequence (fun _ => id) ?_ fun _ same => same ▸ bumped.1
    rintro startedNs _ ⟨rfl, read⟩
    exact ⟨bumped, (ahead_of_reading steady read).later (Nat.le_succ _),
      fun running => holds.1.spent running coord.tick startedNs le_rfl read⟩
  refine get_bind fun coord ⟨holds, read, begun⟩ => ?_
  refine Triple.bind (triple_serveTurn_served steady childId poll) fun served => ?_
  refine of_state fun middle ⟨gain, serving⟩ => ?_
  have between := serving.accounted holds
  have bumped := closed_untimed _ middle _ between (untimed_asked middle)
  refine Triple.bind (triple_monotonicNs.consequence (fun _ => id) (fun _ _ => id)
    fun _ same => same ▸ bumped.1) fun endedNs => ?_
  refine Triple.bind (m := fun _ => InOrder world (· = none)) (Triple.modify ?_) fun _ => ?_
  · rintro _ ⟨rfl, ended⟩
    have paced := serving.paced startedNs read middle.tick endedNs le_rfl ended
    exact serving.invoked holds begun paced ((ahead_of_reading steady ended).later (Nat.le_succ _))
  refine Triple.bind (((untimed_of_asks (asks_raiseIf served.2)).triple
    (closed_untimed _)).consequence (fun _ => id) (fun _ _ => id) fun _ => And.left) fun _ => ?_
  exact ((untimed_followTurn endedNs served.1).triple (closed_untimed _)).consequence (fun _ => id)
    (fun _ _ => id) fun _ => And.left

/-! ## Capturing and sealing -/

variable {timing : Timing}

theorem capture_of_frozen (frozen : timing.frozen = true) (nowNs : Nat)
    (freeze : Bool) : timing.capture nowNs freeze = timing := by
  rw [Timing.capture, if_pos frozen]

theorem capture_of_running (running : timing.frozen = false) (nowNs : Nat)
    (freeze : Bool) :
    timing.capture nowNs freeze = { timing with
        poolWallNs := nowNs - timing.startedNs
        coordinatorNs := (nowNs - timing.startedNs) - timing.attributedNs
        frozen := freeze } := by
  rw [Timing.capture, if_neg (by simp [running])]

/-- What has been captured is reconciled, and the coordinator is in order as before. -/
def Captured (world : World) (wait : Option Nat → Prop) (coord : Coord) : Prop :=
  InOrder world wait coord ∧ Reconciled world coord.timing

theorem Reconciled.captured {tick nowNs : Nat}
    (started : world.clock 0 = .ok timing.startedNs) (running : timing.frozen = false)
    (read : world.clock tick = .ok nowNs) (spent : timing.startedNs + timing.attributedNs ≤ nowNs)
    (freeze : Bool) : Reconciled world (timing.capture nowNs freeze) := by
  rw [capture_of_running running]
  rw [Timing.attributedNs] at spent
  refine ⟨started, ⟨tick, nowNs, read, ?_⟩, ?_, ?_⟩ <;> simp only [Timing.attributedNs] <;> omega

theorem triple_capture (wait : Option Nat → Prop) (freeze : Bool) :
    Triple (InOrder world wait) (monotonicNs world) (fun nowNs coord => Captured world wait
        { coord with timing := coord.timing.capture nowNs freeze }) (Accounted world) := by
  refine of_state fun coord holds => ?_
  have bumped := closed_untimed _ coord _ holds (untimed_asked coord)
  refine triple_monotonicNs.consequence (fun _ => id) ?_ fun _ same => same ▸ bumped.1
  rintro nowNs _ ⟨rfl, read⟩
  cases frozen : coord.timing.frozen with
  | true =>
    rw [capture_of_frozen (show (asked coord).timing.frozen = true from frozen)]
    exact ⟨bumped, holds.1.settled frozen⟩
  | false =>
    have unfrozen : (asked coord).timing.frozen = false := frozen
    have spent := holds.1.spent frozen coord.tick nowNs le_rfl read
    have reconciled := Reconciled.captured holds.1.started frozen read spent freeze
    refine ⟨⟨⟨reconciled.started, ?_, ?_, fun _ => reconciled, ?_⟩, ?_⟩, reconciled⟩
    · intro _
      rw [capture_of_running unfrozen]
      exact bumped.1.spent frozen
    · intro waitStartedNs waits
      rw [capture_of_running unfrozen] at waits ⊢
      obtain ⟨ahead, before⟩ := bumped.1.waiting waitStartedNs waits
      exact ⟨ahead, fun _ => before frozen⟩
    · intro timing state shown
      obtain ⟨reconciled, wall, final⟩ := bumped.1.shown timing state shown
      refine ⟨reconciled, wall, fun ended => ?_⟩
      have impossible := (final ended).1
      rw [unfrozen] at impossible
      cases impossible
    · rw [capture_of_running unfrozen]
      exact bumped.2

/-- A state that shows the wall time of what has been captured. -/
theorem Captured.shown {wait : Option Nat → Prop} (captured : Captured world wait coord)
    {state : PoolState} (wall : state.poolWallNs = coord.timing.poolWallNs)
    (timing : after.timing = coord.timing) (tick : coord.tick ≤ after.tick)
    (history : after.history = .sealed coord.timing state :: coord.history) :
    InOrder world wait after := by
  have since : ∀ timing state, Event.sealed timing state ∈ coord.history →
      SealedWith world after timing state := by
    intro sealedTiming sealedState held
    obtain ⟨reconciled, wall, final⟩ := captured.1.1.shown sealedTiming sealedState held
    exact ⟨reconciled, wall, by rwa [timing]⟩
  refine ⟨⟨timing ▸ captured.1.1.started, ?_, ?_, ?_, ?_⟩, timing ▸ captured.1.2⟩
  · rw [timing]
    exact fun running => (captured.1.1.spent running).later tick
  · rw [timing]
    intro waitStartedNs waits
    obtain ⟨ahead, before⟩ := captured.1.1.waiting waitStartedNs waits
    exact ⟨ahead.later tick, before⟩
  · rw [timing]
    exact captured.1.1.settled
  · intro sealedTiming sealedState held
    rw [history] at held
    obtain same | held := List.mem_cons.mp held
    · cases same
      exact ⟨captured.2, wall, fun ended => by rw [timing]; exact ⟨ended, rfl⟩⟩
    · exact since sealedTiming sealedState held

theorem Captured.sealed {wait : Option Nat → Prop} (captured : Captured world wait coord)
    {status : PoolStatus} {records : List ReasonRecord} :
    InOrder world wait (sealedCoord setup coord.timing status records coord) := by
  have wall : (coord.core.refreshed setup coord.timing status records).poolWallNs =
      coord.timing.poolWallNs := by
    simp only [Core.refreshed, PoolState.sealed]
  exact captured.shown wall rfl le_rfl rfl

theorem untimed_assembled (core : Core) (receipt : PoolReceipt) : Untimed coord { coord with
      core := core
      history := .assembled coord.core coord.timing receipt :: coord.history } :=
  ⟨rfl, le_rfl, fun _ _ shown => by simpa using shown⟩

theorem rules_inOrder (wait : Option Nat → Prop) :
    Rules setup world (InOrder world wait) (InOrder world wait) (Accounted world) where
  wakes _ := id
  fails _ := And.left
  asks := (closed_untimed wait).mono fun _ _ asks => asks.untimed
  moves := (closed_untimed wait).mono fun _ _ moves => moves.untimed
  cursor coord _ _ _ holds _ := closed_untimed wait coord _ holds ⟨rfl, le_rfl, fun _ _ => id⟩
  seals status freeze := by
    refine triple_refreshState (fun _ => Captured world wait)
      (fun _ _ captured => captured.1.1) (fun _ => And.left)
      ((closed_untimed wait).mono fun _ _ asks => asks.untimed) ?_ ?_ ?_
    · refine of_state fun coord ⟨holds, sealing⟩ => ?_
      refine (((triple_capture wait freeze).consequence (fun _ same => same ▸ holds) (fun _ _ => id)
        fun _ => id).and (@triple_monotonicNs world coord)).consequence
          (fun _ same => ⟨same, same⟩) ?_ fun _ => And.left
      rintro nowNs _ ⟨captured, rfl, _⟩
      exact ⟨captured, sealing⟩
    · exact fun _ coord records captured _ _ => captured.sealed.1
    · exact fun _ coord records captured _ _ _ => captured.sealed
  assembles coord records holds _ _ := (closed_untimed wait coord _ holds (untimed_assembled _ _)).1
  receives coord records holds _ _ := closed_untimed wait coord _ holds (untimed_assembled _ _)

/-! ## The cleanup after a crash -/

section

variable {kept : Coord → Prop}

variable {program : Program Unit}

theorem kept_attempt (untimed : Closed Untimed kept) {stage : String} {childId : Option Name}
    (keeps : Triple kept program (fun _ => kept) kept) :
    Triple kept (attempt stage childId program) (fun _ => kept) kept :=
  Triple.tryCatch keeps fun _ => (untimed_modifyCore _).triple untimed

theorem kept_succeeds (untimed : Closed Untimed kept) {stage : String}
    (keeps : Triple kept program (fun _ => kept) kept) :
    Triple kept (succeeds stage program) (fun _ => kept) kept := by
  refine Triple.tryCatch (Triple.bind keeps fun _ => Triple.pure fun _ => id) fun error => ?_
  exact Triple.bind ((untimed_modifyCore _).triple untimed) fun _ => Triple.pure fun _ => id

theorem kept_when {condition : Prop} [Decidable condition]
    (keeps : Triple kept program (fun _ => kept) kept) :
    Triple kept (when condition program) (fun _ => kept) kept :=
  triple_when (fun _ => keeps) fun _ _ => id

theorem asks_persistState : Keeps Asks (persistState setup world) := by
  refine get_bind fun coord => ?_
  refine Keeps.bind (asks_when fun _ => Keeps.throw) fun _ => ?_
  exact asks_when fun _ => Keeps.bind (asks_ask _) fun _ => asks_raiseIf _

theorem kept_persistCrashState (untimed : Closed Untimed kept)
    (seals : ∀ increment, Triple kept (sealCrashState setup world increment) (fun _ => kept) kept) :
    Triple kept (persistCrashState setup world) (fun _ => kept) kept := by
  have sealing : Triple kept (do
        sealCrashState setup world false
        persistState setup world) (fun _ => kept) kept :=
    Triple.bind (seals false) fun _ => (untimed_of_asks asks_persistState).triple untimed
  exact Triple.bind (kept_succeeds untimed sealing) fun _ =>
    kept_when (kept_attempt untimed sealing)

theorem kept_releaseCrashLock (untimed : Closed Untimed kept)
    (seals : ∀ increment, Triple kept (sealCrashState setup world increment) (fun _ => kept) kept) :
    Triple kept (releaseCrashLock setup world) (fun _ => kept) kept := by
  have releasing := (untimed_of_asks (@asks_releaseStateLock setup world)).triple untimed
  have persisting := kept_persistCrashState untimed seals
  refine Triple.bind persisting fun _ => ?_
  refine Triple.bind (kept_succeeds untimed releasing) fun _ => kept_when ?_
  refine Triple.bind persisting fun _ => ?_
  exact Triple.bind (kept_succeeds untimed releasing) fun _ => kept_when persisting

theorem untimed_registryCall (childId : Name) (call : PoolLeases.Call)
    (operation : LeaseOperation) :
    Keeps Untimed (do
        let result ← registryCall world call
        settleLease setup childId operation result) :=
  untimed_of_moves (Keeps.bind (@keeps_registryCall setup world call)
    fun result => keeps_settleLease childId operation result)

theorem untimed_markCrashed (terminalSha256 : Digest) (childId : Name) :
    Keeps Untimed (markCrashed setup world terminalSha256 childId) := by
  refine get_bind fun coord => ?_
  split
  · exact Keeps.pure
  · split
    · exact Keeps.pure
    · exact untimed_registryCall childId _ _

theorem untimed_releaseCrashed (childId : Name) :
    Keeps Untimed (releaseCrashed setup world childId) := by
  refine get_bind fun coord => ?_
  split
  · exact Keeps.pure
  · split
    · exact Keeps.pure
    · exact untimed_registryCall childId _ _

/-- Whatever fails in the cleanup, it keeps what its seals keep. -/
theorem kept_cleanupOnCrash (untimed : Closed Untimed kept)
    (seals : ∀ increment, Triple kept (sealCrashState setup world increment) (fun _ => kept) kept)
    (begun : Bool) (error : PyError) :
    Triple kept (cleanupOnCrash setup world begun error) (fun _ => kept) kept := by
  refine get_bind fun coord holds => ?_
  refine Triple.bind ((kept_attempt untimed (Triple.bind ((untimed_modifyCore _).triple untimed)
    fun _ => seals _)).consequence (fun _ same => same ▸ holds) (fun _ _ => id) fun _ => id)
      fun _ => ?_
  refine get_bind fun coord holds => ?_
  refine Triple.bind ((forM fun childId _ => kept_attempt untimed
    ((untimed_markCrashed _ childId).triple untimed)).consequence (fun _ same => same ▸ holds)
      (fun _ _ => id) fun _ => id) fun _ => ?_
  refine Triple.bind (forM fun childId _ => kept_attempt untimed
    ((untimed_releaseCrashed childId).triple untimed)) fun _ => ?_
  exact kept_releaseCrashLock untimed seals

end

theorem closed_accounted : Closed Untimed (Accounted world) :=
  fun _ _ accounted untimed => accounted.untimed untimed

theorem accounted_sealCrashState (increment : Bool) :
    Triple (Accounted world) (sealCrashState setup world increment) (fun _ => Accounted world)
      (Accounted world) := by
  refine Triple.bind ((triple_capture (fun _ => True) true).consequence
    (fun _ accounted => ⟨accounted, trivial⟩) (fun _ _ => id) fun _ => id) fun nowNs => ?_
  refine Triple.bind (m := fun _ => Captured world fun _ => True) (Triple.modify fun _ => id)
    fun _ => ?_
  refine get_bind fun coord captured => ?_
  refine Triple.bind (m := fun _ after => after = coord)
    (triple_liftExcept (fun _ _ _ => id) fun _ same => same ▸ captured.1.1) fun records => ?_
  refine Triple.modify fun after same => ?_
  subst same
  have wall : (Core.crashState setup after.timing increment records after.core).poolWallNs =
      after.timing.poolWallNs := by
    simp only [Core.crashState, PoolState.sealed]
  refine And.left (b := True) (captured.shown wall ?_ ?_ ?_)
  · rfl
  · exact le_rfl
  · rfl

/-! ## Runs -/

section

variable (steady : Nondecreasing world.clock)

include steady

theorem accounted_operate (operation : Operation) :
    Triple (Accounted world) (operate setup world operation) (fun _ => Accounted world)
      (Accounted world) := by
  have anyway : ∀ {program : Program PoolProgress},
      Triple (InOrder world fun _ => True) program (fun _ => InOrder world fun _ => True)
        (Accounted world) →
      Triple (Accounted world) program (fun _ => Accounted world) (Accounted world) :=
    fun keeps => keeps.consequence (fun _ accounted => ⟨accounted, trivial⟩) (fun _ _ => And.left)
      fun _ => id
  cases operation with
  | step =>
    exact (@rules_inOrder setup world (· = none)).triple_step
      (invokes_inOrder steady) (triple_completeWait steady) (fun _ => And.left)
      (triple_startWait steady)
  | requestInterrupt request => exact anyway ((rules_inOrder _).triple_requestInterrupt request)
  | conclude => exact anyway (rules_inOrder _).triple_conclude

theorem accounted_start {registry : List Lease}
    (constructed : start setup world registry = .ok coord) : Accounted world coord := by
  obtain ⟨startedNs, evidence, read, _, _, rfl⟩ := start_eq constructed
  refine ⟨read, ?_, ?_, ?_, ?_⟩
  · intro _ tick nowNs _ later
    exact steady 0 tick startedNs nowNs (Nat.zero_le tick) read later
  · intro waitStartedNs waits
    cases waits
  · intro frozen
    cases frozen
  · intro timing state shown
    simp at shown

theorem Lived.accounted (lived : Lived setup world coord) :
    Accounted world coord := by
  induction lived with
  | started constructed => exact accounted_start steady constructed
  | @led before after lived leads ih =>
    cases leads with
    | operated operation => exact (accounted_operate steady operation).final ih
    | crashed begun error =>
      exact (kept_cleanupOnCrash closed_accounted accounted_sealCrashState begun error).final ih

end

/-! ## After the freeze -/

/-- Once the buckets are frozen, nothing changes them. -/
def Still (before after : Coord) : Prop :=
  before.timing.frozen = true →
    after.timing.frozen = true ∧ buckets after.timing = buckets before.timing

def Frozen (final : Nat × Nat × Nat × Nat × Nat) (coord : Coord) : Prop :=
  coord.timing.frozen = true ∧ buckets coord.timing = final

theorem still_of_untimed (keeps : Keeps Untimed program) :
    Keeps Still program :=
  keeps.mono fun before after untimed frozen => by
    obtain ⟨same, _, _, _, kept⟩ := accounts_of_books untimed.books
    exact ⟨same.trans frozen, kept⟩

theorem still_modifyTiming {update : Timing → Timing} (still : ∀ timing, timing.frozen = true →
      (update timing).frozen = true ∧ buckets (update timing) = buckets timing) :
    Keeps Still (modifyTiming update) :=
  Keeps.modify fun coord => still coord.timing

theorem still_monotonicNs : Keeps Still (monotonicNs world) :=
  still_of_untimed (untimed_of_asks asks_monotonicNs)

theorem still_completeWait : Keeps Still (completeWait world) := by
  refine get_bind fun coord => ?_
  split
  · exact Keeps.pure
  · refine Keeps.bind still_monotonicNs fun endedNs => still_modifyTiming fun timing frozen => ?_
    simp [buckets, frozen]

theorem still_timedCallback (childId : Name) (call : Turn.Call) :
    Keeps Still (timedCallback setup world childId call) := by
  refine Keeps.bind (still_of_untimed (untimed_ask _)) fun started => ?_
  cases started with
  | error error => exact Keeps.pure
  | ok startedNs =>
    refine Keeps.bind (still_of_untimed (untimed_ask _)) fun reply => ?_
    refine Keeps.bind (Keeps.modify fun _ frozen => ⟨frozen, rfl⟩) fun _ => ?_
    refine Keeps.bind (still_of_untimed (untimed_ask _)) fun ended => ?_
    cases ended with
    | error error => exact Keeps.pure
    | ok endedNs =>
      refine Keeps.bind (still_modifyTiming fun timing frozen => ?_) fun _ => Keeps.pure
      simp [buckets, frozen]

theorem still_serveTurn (childId : Name) (poll : Bool) :
    Keeps Still (serveTurn setup world childId poll) := by
  refine get_bind fun coord => ?_
  simp only
  split
  · exact Keeps.bind (still_of_untimed (untimed_modifyCore _)) fun _ => Keeps.pure
  · refine Keeps.bind (still_timedCallback childId _) fun answer => ?_
    exact Keeps.bind (still_of_untimed (untimed_modifyCore _)) fun _ => Keeps.pure

theorem still_invokeChild (childId : Name) (poll : Bool) :
    Keeps Still (invokeChild setup world childId poll) := by
  refine Keeps.bind (still_modifyTiming fun _ frozen => ⟨frozen, rfl⟩) fun _ => ?_
  refine Keeps.bind still_monotonicNs fun startedNs => ?_
  refine get_bind fun before => ?_
  refine Keeps.bind (still_serveTurn childId poll) fun served => ?_
  refine Keeps.bind still_monotonicNs fun endedNs => ?_
  refine Keeps.bind (still_modifyTiming fun timing frozen => ?_) fun _ => ?_
  · simp [buckets, frozen]
  refine Keeps.bind (still_of_untimed (untimed_of_asks (asks_raiseIf served.2))) fun _ => ?_
  exact still_of_untimed (untimed_followTurn endedNs served.1)

section

variable {final : Nat × Nat × Nat × Nat × Nat}

theorem closed_frozen : Closed Still (Frozen final) := by
  intro before after frozen still
  obtain ⟨remains, same⟩ := still frozen.1
  exact ⟨remains, same.trans frozen.2⟩

theorem closed_untimed_frozen : Closed Untimed (Frozen final) := by
  intro before after frozen untimed
  obtain ⟨same, _, _, _, kept⟩ := accounts_of_books untimed.books
  exact ⟨same.trans frozen.1, kept.trans frozen.2⟩

theorem frozen_capture (freeze : Bool) : Triple (Frozen final) (monotonicNs world)
      (fun nowNs coord => Frozen final
        { coord with timing := coord.timing.capture nowNs freeze }) (Frozen final) :=
  (still_monotonicNs.triple closed_frozen).consequence (fun _ => id) (fun nowNs coord frozen => by
      rw [Frozen, capture_of_frozen frozen.1]
      exact frozen)
    fun _ => id

theorem rules_frozen : Rules setup world (Frozen final) (Frozen final) (Frozen final) where
  wakes _ := id
  fails _ := id
  asks := closed_untimed_frozen.mono fun _ _ asks => asks.untimed
  moves := closed_untimed_frozen.mono fun _ _ moves => moves.untimed
  cursor _ _ _ _ frozen _ := frozen
  seals status freeze := by
    refine triple_refreshState (fun _ => Frozen final) (fun _ _ => id) (fun _ => id)
      (closed_untimed_frozen.mono fun _ _ asks => asks.untimed) ?_
      (fun _ _ _ frozen _ _ => frozen) fun _ _ _ frozen _ _ _ => frozen
    refine of_state fun coord ⟨holds, sealing⟩ => ?_
    refine (((frozen_capture freeze).consequence (fun _ same => same ▸ holds) (fun _ _ => id)
      fun _ => id).and (@triple_monotonicNs world coord)).consequence
        (fun _ same => ⟨same, same⟩) ?_ fun _ => And.left
    rintro nowNs _ ⟨frozen, rfl, _⟩
    exact ⟨frozen, sealing⟩
  assembles _ _ frozen _ _ := frozen
  receives _ _ frozen _ _ := frozen

theorem frozen_sealCrashState (increment : Bool) :
    Triple (Frozen final) (sealCrashState setup world increment) (fun _ => Frozen final)
      (Frozen final) := by
  refine Triple.bind (frozen_capture true) fun nowNs => ?_
  refine Triple.bind (m := fun _ => Frozen final) (Triple.modify fun _ => id) fun _ => ?_
  refine get_bind fun coord frozen => ?_
  refine Triple.bind (m := fun _ => Frozen final)
    (triple_liftExcept (fun _ _ _ same => same ▸ frozen) fun _ same => same ▸ frozen) fun records => ?_
  exact Triple.modify fun _ frozen => frozen

theorem frozen_operate (operation : Operation) :
    Triple (Frozen final) (operate setup world operation) (fun _ => Frozen final)
      (Frozen final) := by
  have invokes : Invokes setup world (Frozen final) (Frozen final) := fun childId poll =>
    ((still_invokeChild childId poll).triple closed_frozen).consequence (fun _ => And.left)
      (fun _ _ => id) fun _ => id
  cases operation with
  | step =>
    refine rules_frozen.triple_step invokes (still_completeWait.triple closed_frozen)
      (fun _ => id) ?_
    exact (still_monotonicNs.triple closed_frozen).consequence (fun _ => id) (fun _ _ => id)
      fun _ => id
  | requestInterrupt request => exact rules_frozen.triple_requestInterrupt request
  | conclude => exact (rules_frozen : Rules setup world _ _ _).triple_conclude

end

theorem Leads.still (leads : Leads setup world before after) :
    Still before after := by
  intro frozen
  have holds : Frozen (buckets before.timing) before := ⟨frozen, rfl⟩
  cases leads with
  | operated operation => exact (frozen_operate operation).final holds
  | crashed begun error =>
    exact (kept_cleanupOnCrash closed_untimed_frozen frozen_sealCrashState begun error).final holds

include steady in
/-- The callback of an invocation has taken no more time than the invocation. -/
theorem callback_within_invocation {childId : Name}
    {poll : Bool} {startedNs endedNs : Nat} {begun ended : Coord}
    {served : Option CallbackReport × Option PyError}
    (began : monotonicNs world coord = .ok startedNs begun)
    (serving : serveTurn setup world childId poll begun = .ok served middle)
    (finished : monotonicNs world middle = .ok endedNs ended) :
    begun.timing.callbackNs ≤ middle.timing.callbackNs ∧
      startedNs + (middle.timing.callbackNs - begun.timing.callbackNs) ≤ endedNs := by
  have first := (@triple_monotonicNs world coord).ends coord rfl
  rw [began] at first
  obtain ⟨rfl, read⟩ := first
  have between := (@triple_serveTurn_served setup world (asked coord) steady (fun _ => True) childId
    poll).ends (asked coord) rfl
  rw [serving] at between
  obtain ⟨gain, kept⟩ := between
  have last := (@triple_monotonicNs world middle).ends middle rfl
  rw [finished] at last
  obtain ⟨_, later⟩ := last
  have reached : Ahead world (asked coord) startedNs :=
    (ahead_of_reading steady read).later (Nat.le_succ _)
  have paced := kept.paced startedNs reached middle.tick endedNs le_rfl later
  have same := (accounts_of_books kept.books).2.2.2.2
  simp only [buckets, Timing.called, Prod.mk.injEq] at same
  rw [same.2.1]
  split <;> omega

/-! ## Exclusive timing -/

/-- Under a clock that never goes back, every state that a run seals shows a wall time between two
readings which callbacks, invocations, waits and the coordinator share without rest; no difference
is cut off at zero; and frozen buckets never change again, in whatever way a run goes on. -/
theorem timing_reconciles (setup : Setup) (world : World) (steady : Nondecreasing world.clock) :
    (∀ coord, Lived setup world coord → ∀ timing state, .sealed timing state ∈ coord.history →
      SealedWith world coord timing state) ∧
    (∀ before after, Relation.ReflTransGen (Leads setup world) before after →
      before.timing.frozen = true →
        after.timing.frozen = true ∧ buckets after.timing = buckets before.timing) ∧
    (∀ coord, Lived setup world coord → ∀ waitStartedNs,
      coord.timing.waitStartedNs = some waitStartedNs → Ahead world coord waitStartedNs) ∧
    (∀ coord childId call reply report after,
      timedCallback setup world childId call coord = .ok (reply, some report) after →
        ∀ latencyNs ∈ report.latencyNs, Clocked world coord after latencyNs) ∧
    (∀ coord childId poll startedNs begun served middle endedNs ended,
      monotonicNs world coord = .ok startedNs begun →
      serveTurn setup world childId poll begun = .ok served middle →
      monotonicNs world middle = .ok endedNs ended →
        begun.timing.callbackNs ≤ middle.timing.callbackNs ∧
          startedNs + (middle.timing.callbackNs - begun.timing.callbackNs) ≤ endedNs) := by
  refine ⟨?_, ?_, ?_, ?_, ?_⟩
  · exact fun coord lived => (lived.accounted steady).shown
  · intro before after leads frozen
    induction leads with
    | refl => exact ⟨frozen, rfl⟩
    | tail _ leads ih =>
      obtain ⟨remains, same⟩ := leads.still ih.1
      exact ⟨remains, same.trans ih.2⟩
  · exact fun coord lived waitStartedNs waits =>
      ((lived.accounted steady).waiting waitStartedNs waits).1
  · intro coord childId call reply report after returned
    have ends := (@triple_timedCallback_served setup world coord steady (fun _ => True) childId
      call).ends coord rfl
    rw [returned] at ends
    exact ends.2 report rfl
  · exact fun _ _ _ _ _ _ _ _ _ began serving finished =>
      callback_within_invocation steady began serving finished

theorem Reached.lived (reached : Reached setup world coord) : Lived setup world coord := by
  induction reached with
  | started constructed => exact .started constructed
  | @operated before after operation report reached returned ih =>
    have leads : Leads setup world before (final (operate setup world operation) before) :=
      .operated operation
    rw [final, returned] at leads
    exact .led ih leads

/-- A sealed state to which callbacks and waits have contributed. -/
def Event.isShared : Event → Bool
  | .sealed timing _ => decide (0 < timing.callbackNs) && decide (0 < timing.waitNs)
  | _ => false

theorem Event.shared {event : Event} (shares : event.isShared = true) :
    ∃ timing state, event = .sealed timing state ∧ 0 < timing.callbackNs ∧ 0 < timing.waitNs := by
  cases event with
  | «sealed» timing state =>
    obtain ⟨called, waited⟩ := Bool.and_eq_true_iff.mp shares
    exact ⟨timing, state, rfl, of_decide_eq_true called, of_decide_eq_true waited⟩
  | _ => cases shares

/-- The only child is armed and checked and waits for its next check; its time is shared. -/
theorem timing_reconciles_lone : ∃ coord timing state,
      Lived loneSetup (loneWorld (obliging "continue") fun _ => loneEvidence false []) coord ∧
      .sealed timing state ∈ coord.history ∧ 0 < timing.callbackNs ∧ 0 < timing.waitNs ∧
      SealedWith (loneWorld (obliging "continue") fun _ => loneEvidence false []) coord timing
        state := by
  have steady : Nondecreasing (loneWorld (obliging "continue") fun _ =>
      loneEvidence false []).clock := by
    intro first second firstNs secondNs ordered read later
    cases read
    cases later
    exact Nat.mul_le_mul_right 100000000 ordered
  have found : (playFrom loneSetup
      (loneWorld (obliging "continue") fun _ => loneEvidence false []) loneLeases
      (List.replicate 6 .step)).any (fun coord => coord.history.any Event.isShared) = true := by
    decide +kernel
  obtain ⟨coord, played, found⟩ := (Option.any_eq_true _ _).mp found
  obtain ⟨event, shown, shares⟩ := List.any_eq_true.mp found
  obtain ⟨timing, state, rfl, called, waited⟩ := Event.shared shares
  have lived := (reached_playFrom played).lived
  exact ⟨coord, timing, state, lived, shown, called, waited,
    (timing_reconciles loneSetup _ steady).1 coord lived timing state shown⟩

end WorkOrchestration.Native.Coordinator
