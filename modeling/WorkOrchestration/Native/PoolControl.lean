import WorkOrchestration.Native.PoolSteps

/-!
# Control turns in a pool

What a run does to the control turns of its children, and to the copies of their progress that the
coordinator keeps. Only a fault, a contained fault and a step of the coordinator touch them.
-/

namespace WorkOrchestration.Native.Coordinator

open Lib.Programs Lib.Text Artifacts Authority Recovery PoolContracts
open PoolStates
open PoolLeases (Lease)
open Control Pool

variable {setup : Setup} {world : World} {childId : Name} {poll : Bool}

/-- An event that neither invokes a callback nor stops a child. -/
def Event.isQuiet : Event → Bool
  | .called .. | .faulted .. | .contained .. => false
  | _ => true

/-- An update that leaves all control turns and all copies of their progress alone. -/
structure Quiet (before after : Coord) : Prop where
  turn : ∀ childId, (after.core.slots childId).turn = (before.core.slots childId).turn
  progress : ∀ childId, (after.core.slots childId).progress = (before.core.slots childId).progress
  latched : after.core.protectedFault = before.core.protectedFault
  events : after.history = before.history ∨
    ∃ event, event.isQuiet = true ∧ after.history = event :: before.history

variable {before : Coord} {after : Coord}

theorem quiet_of_slots (slots : after.core.slots = before.core.slots)
    (latched : after.core.protectedFault = before.core.protectedFault)
    (events : after.history = before.history ∨
      ∃ event, event.isQuiet = true ∧ after.history = event :: before.history) :
    Quiet before after :=
  ⟨fun _ => by rw [slots], fun _ => by rw [slots], latched, events⟩

theorem quiet_of_updateSlot {update : Slot → Slot} (turn : ∀ slot, (update slot).turn = slot.turn)
    (progress : ∀ slot, (update slot).progress = slot.progress) :
    Quiet before { before with core := before.core.updateSlot childId update } := by
  refine ⟨fun other => ?_, fun other => ?_, rfl, .inl rfl⟩
  · by_cases same : other = childId
    · subst same
      simp [Core.updateSlot, turn]
    · simp [Core.updateSlot, same]
  · by_cases same : other = childId
    · subst same
      simp [Core.updateSlot, progress]
    · simp [Core.updateSlot, same]

theorem quiet_recordPolled (nowNs : Nat) :
    Quiet before { before with core := before.core.recordPolled setup childId nowNs } := by
  have slot : Quiet before { before with
      core := before.core.updateSlot childId
        (Slot.polled nowNs (setup.contract.pollIntervalMs * 1000000)) } :=
    quiet_of_updateSlot (fun _ => rfl) fun _ => rfl
  exact ⟨slot.turn, slot.progress, rfl, .inl rfl⟩

theorem quiet_absorb {evidence : ChildEvidence} {ledger : Accounting.Ledger} : Quiet before
      { before with
        core := before.core.absorb setup childId evidence ledger
        history := .evidence childId evidence :: before.history } := by
  have slot : Quiet before { before with
      core := before.core.updateSlot childId (Slot.observed evidence (ledger.latest childId)) } :=
    quiet_of_updateSlot (fun _ => rfl) fun _ => rfl
  exact ⟨slot.turn, slot.progress, rfl, .inr ⟨_, rfl, rfl⟩⟩

theorem fastPathRevoked_turn (slot : Slot) : slot.fastPathRevoked.turn = slot.turn := by
  unfold Slot.fastPathRevoked
  split <;> rfl

theorem fastPathRevoked_progress (slot : Slot) : slot.fastPathRevoked.progress = slot.progress := by
  unfold Slot.fastPathRevoked
  split <;> rfl

/-- A move is quiet, or a fault, or the containment of a fault. -/
inductive Kind (setup : Setup) (before : Coord) : Coord → Prop where
  | quiet {after : Coord} (still : Quiet before after) : Kind setup before after
  | faulted (request : FaultRequest) : Kind setup before { before with
          core := before.core.enterFault setup request
          history := .faulted before.core request :: before.history }
  | contained (childId reason : Name) (projection : RecoveryProjection)
      (containable : Containable setup before.core childId projection) :
      Kind setup before { before with
          core := before.core.recordContainedFault childId reason projection
          history := .contained before.core childId reason :: before.history }

theorem Move.kind (moves : Move setup world before after) :
    Kind setup before after := by
  cases moves with
  | aside | mutationRead | readOnlyCheck | comparisonComplete | pollGap | requestSeen =>
    exact .quiet (quiet_of_slots rfl rfl (.inl rfl))
  | faulted request => exact .faulted request
  | contained childId reason projection containable =>
    exact .contained childId reason projection containable
  | absorbed childId evidence ledger booked => exact .quiet quiet_absorb
  | judged tick core childId evidence latched =>
    exact .quiet (quiet_of_slots rfl rfl (.inr ⟨_, rfl, rfl⟩))
  | compared result => exact .quiet (quiet_of_slots rfl rfl (.inr ⟨_, rfl, rfl⟩))
  | fastPathRevoked =>
    exact .quiet ⟨fun _ => fastPathRevoked_turn _, fun _ => fastPathRevoked_progress _, rfl,
      .inl rfl⟩
  | submitted | archiveDeferred | leased =>
    exact .quiet (quiet_of_updateSlot (fun _ => rfl) fun _ => rfl)
  | polled childId nowNs => exact .quiet (quiet_recordPolled nowNs)
  | leasedAll leases => exact .quiet ⟨fun _ => rfl, fun _ => rfl, rfl, .inl rfl⟩

/-- A coordinator in which one control turn has been stepped, with the events this showed. -/
structure Served (setup : Setup) (childId : Name) (poll : Bool) (before : Coord) (turn : Turn)
    (escaped : Option PyError) (events : List Event) (callback : Option Callback) : Prop where
  chosen : Chosen setup before.core childId poll
  serving : Serving childId (entry setup childId poll (before.core.slots childId)) (turn, escaped)
    events callback

/-- An assertion about control turns, and what is left of it when an exception ends the run. -/
structure Controls (setup : Setup) (world : World) (holds fails : Coord → Prop) : Prop where
  weaker : ∀ coord, holds coord → fails coord
  quiet : Closed Quiet holds
  failQuiet : Closed Quiet fails
  faulted : ∀ coord request, holds coord → holds { coord with
      core := coord.core.enterFault setup request
      history := .faulted coord.core request :: coord.history }
  contained : ∀ coord childId reason projection, holds coord →
    Containable setup coord.core childId projection → holds { coord with
        core := coord.core.recordContainedFault childId reason projection
        history := .contained coord.core childId reason :: coord.history }
  halves : ∀ coord childId poll turn escaped events callback, holds coord →
    Served setup childId poll coord turn escaped events callback → fails { coord with
        core := setTurn childId turn coord.core
        history := events ++ coord.history }
  serves : ∀ coord childId poll turn events callback, holds coord →
    Served setup childId poll coord turn none events callback → holds { coord with
        core := followed childId turn coord.core
        history := events ++ coord.history }

variable {holds fails : Coord → Prop}

theorem Controls.moves (controls : Controls setup world holds fails) :
    Closed (Move setup world) holds := by
  intro before after held moves
  cases moves.kind with
  | quiet still => exact controls.quiet before after held still
  | faulted request => exact controls.faulted before request held
  | contained childId reason projection containable =>
    exact controls.contained before childId reason projection held containable

theorem quiet_of_aside (aside : Aside before after) : Quiet before after :=
  quiet_of_slots (by rw [aside.1]) (by rw [aside.1]) (.inl aside.2)

/-- An assertion about control turns is carried through a run. -/
theorem Controls.carried (controls : Controls setup world holds fails) :
    Carried setup world holds holds fails where
  wakes _ held := held
  fails := controls.weaker
  restAside before after held aside := controls.quiet before after held (quiet_of_aside aside)
  busyAside before after held aside := controls.quiet before after held (quiet_of_aside aside)
  moves := controls.moves
  cursor coord _ _ _ held _ := controls.quiet coord _ held (quiet_of_slots rfl rfl (.inl rfl))
  invokes childId poll := by
    refine triple_invokeChild (fun before after held aside =>
      controls.quiet before after held (quiet_of_aside aside)) controls.weaker ?_ controls.moves ?_
    · intro coord turn escaped events callback held chosen serving after sees
      refine controls.failQuiet _ after
        (controls.halves coord childId poll turn escaped events callback held ⟨chosen, serving⟩) ?_
      exact quiet_of_slots (by rw [sees.1]) (by rw [sees.1]) (.inl sees.2)
    · intro coord turn events callback held chosen serving after sees
      refine controls.quiet _ after
        (controls.serves coord childId poll turn events callback held ⟨chosen, serving⟩) ?_
      exact quiet_of_slots (by rw [sees.1]) (by rw [sees.1]) (.inl sees.2)
  sealFails coord timing status records held _ _ := by
    refine controls.weaker _ (controls.quiet coord _ held ?_)
    exact ⟨fun _ => rfl, fun _ => rfl, rfl, .inr ⟨_, rfl, rfl⟩⟩
  sealRests coord timing status records held _ _ _ :=
    controls.quiet coord _ held ⟨fun _ => rfl, fun _ => rfl, rfl, .inr ⟨_, rfl, rfl⟩⟩
  assembles coord records held _ _ := by
    refine controls.weaker _ (controls.quiet coord _ held ?_)
    exact quiet_of_slots rfl rfl (.inr ⟨_, rfl, rfl⟩)
  receives coord records held _ _ :=
    controls.quiet coord _ held (quiet_of_slots rfl rfl (.inr ⟨_, rfl, rfl⟩))

def pendingProgress : Progress := ⟨.pending, .start, false, none⟩

/-- How the copy of a child's progress goes with its control turn. -/
inductive Cached (slot : Slot) : Prop where
  | pending (copied : slot.progress = pendingProgress) (unstarted : slot.turn.started = false)
      (running : slot.turn.terminal = false) : Cached slot
  | followed (copied : slot.progress = slot.turn.progress)
      (begun : slot.turn.started = true ∨ slot.turn.terminal = true) : Cached slot
  | abandoned (errors : List String)
      (copied : slot.progress = ⟨.terminal, .terminal, false, some (.abandoned errors)⟩)
      (unstarted : slot.turn.started = false) : Cached slot

variable {slot : Slot}

theorem Cached.congr {other : Slot} (cached : Cached slot) (turn : other.turn = slot.turn)
    (progress : other.progress = slot.progress) : Cached other := by
  cases cached with
  | pending copied unstarted running =>
    exact .pending (progress.trans copied) (by rw [turn, unstarted]) (by rw [turn, running])
  | followed copied begun =>
    exact .followed (by rw [progress, copied, turn]) (by rw [turn]; exact begun)
  | abandoned errors copied unstarted =>
    exact .abandoned errors (progress.trans copied) (by rw [turn, unstarted])

theorem cached_initial (childId : Name) : Cached (Slot.initial setup childId) :=
  .pending rfl rfl rfl

variable {turn : Turn}

theorem progress_running (running : turn.progress.status ≠ .terminal) : turn.terminal = false := by
  by_contra ended
  apply running
  simp [Turn.progress, Bool.not_eq_false _ ▸ ended]

theorem progress_ne_pending (turn : Turn) : turn.progress.status ≠ .pending := by
  unfold Turn.progress
  split
  · nofun
  · split <;> nofun

theorem Cached.running (cached : Cached slot) (started : slot.progress.status ≠ .pending)
    (unended : slot.progress.status ≠ .terminal) :
    slot.progress = slot.turn.progress ∧ slot.turn.started = true ∧ slot.turn.terminal = false := by
  cases cached with
  | pending copied => exact absurd (by rw [copied]; rfl) started
  | followed copied begun =>
    have running := progress_running (copied ▸ unended)
    refine ⟨copied, begun.resolve_right ?_, running⟩
    simp [running]
  | abandoned errors copied => exact absurd (by rw [copied]) unended

/-- What a fault does to one child. -/
inductive Stopped (slot : Slot) (reason : Name) : Slot → Prop where
  | abandoned {after : Slot} (errors : List String) (pending : slot.progress.status = .pending)
      (turn : after.turn = slot.turn)
      (progress : after.progress = ⟨.terminal, .terminal, false, some (.abandoned errors)⟩) :
      Stopped slot reason after
  | redirected {after : Slot} (stoppable : slot.isRedirected = true)
      (turn : after.turn = slot.turn.redirected reason.text)
      (progress : after.progress = after.turn.progress) : Stopped slot reason after
  | left {after : Slot} (started : slot.progress.status ≠ .pending)
      (unstoppable : slot.isRedirected = false) (turn : after.turn = slot.turn)
      (progress : after.progress = slot.progress) : Stopped slot reason after

theorem interruptRequested_of_running (slot : Slot) (reason : Name)
    (started : slot.turn.started = true) (running : slot.turn.terminal = false) :
    slot.interruptRequested reason.text = { slot with
        turn := slot.turn.redirected reason.text
        progress := (slot.turn.redirected reason.text).progress } := by
  simp only [Slot.interruptRequested,
    Turn.requestInterrupt_of_started running started reason.visible]

theorem isRedirected_started (stoppable : slot.isRedirected = true) :
    slot.progress.status ≠ .pending ∧ slot.progress.status ≠ .terminal ∧
      slot.progress.phase ∉ stoppingPhases := by
  simpa [Slot.isRedirected, and_assoc] using stoppable

theorem Cached.stopped (cached : Cached slot) (request : FaultRequest) (childId : Name) :
    Stopped slot request.reason ((slot.condemned request childId).stopped request.reason.text) := by
  unfold Slot.stopped
  split
  · rename_i pending
    exact .abandoned _ pending rfl rfl
  · rename_i started
    split
    · rename_i stoppable
      obtain ⟨_, unended, _⟩ := isRedirected_started stoppable
      obtain ⟨_, begun, running⟩ := cached.running started unended
      have redirected := interruptRequested_of_running (slot.condemned request childId)
        request.reason begun running
      exact .redirected stoppable (by rw [redirected]; rfl) (by rw [redirected])
    · rename_i unstoppable
      exact .left started (Bool.eq_false_iff.mpr unstoppable) rfl rfl

theorem Stopped.cached {after : Slot} {reason : Name} (stopped : Stopped slot reason after)
    (cached : Cached slot) : Cached after := by
  cases stopped with
  | abandoned errors pending turn progress =>
    refine .abandoned errors progress ?_
    cases cached with
    | pending copied unstarted => rw [turn, unstarted]
    | followed copied => exact absurd (copied ▸ pending) (progress_ne_pending _)
    | abandoned errors copied => simp [copied] at pending
  | redirected stoppable turn progress =>
    obtain ⟨started, unended, _⟩ := isRedirected_started stoppable
    obtain ⟨_, begun, _⟩ := cached.running started unended
    refine .followed progress (.inl ?_)
    rw [turn]
    rcases Turn.recordRequest_cases slot.turn reason.text with same | same <;>
      simp [Turn.redirected, same, begun]
  | left started unstoppable turn progress => exact cached.congr turn progress

/-- What the containment of a fault does to its child. -/
inductive Redirected (slot : Slot) (reason : Name) : Slot → Prop where
  | redirected {after : Slot} (stoppable : slot.isContainmentRedirected = true)
      (started : slot.turn.started = true) (running : slot.turn.terminal = false)
      (copied : slot.progress = slot.turn.progress)
      (turn : after.turn = slot.turn.redirected reason.text)
      (progress : after.progress = after.turn.progress) : Redirected slot reason after
  | left {after : Slot} (turn : after.turn = slot.turn) (progress : after.progress = slot.progress) :
      Redirected slot reason after

theorem Cached.containedWith (cached : Cached slot) (reason : Name)
    (projection : RecoveryProjection) :
    Redirected slot reason (if (slot.containedWith projection).isContainmentRedirected then
        (slot.containedWith projection).interruptRequested reason.text
      else slot.containedWith projection) := by
  split
  · rename_i stoppable
    have unended : slot.progress.status ≠ .terminal := by
      simp only [Slot.isContainmentRedirected, Bool.and_eq_true, bne_iff_ne] at stoppable
      exact stoppable.1
    by_cases started : slot.progress.status = .pending
    · cases cached with
      | pending copied unstarted running =>
        have refused : slot.turn.requestInterrupt reason.text =
            (slot.turn, some (valueError "control turn has not started")) := by
          rw [Turn.requestInterrupt, if_neg (by simp [running]), if_pos unstarted]
        refine .left ?_ ?_ <;> simp [Slot.interruptRequested, Slot.containedWith, refused]
      | followed copied => exact absurd (copied ▸ started) (progress_ne_pending _)
      | abandoned errors copied => simp [copied] at started
    · obtain ⟨copied, begun, running⟩ := cached.running started unended
      have redirected := interruptRequested_of_running (slot.containedWith projection)
        reason begun running
      exact .redirected stoppable begun running copied (by rw [redirected]; rfl)
        (by rw [redirected])
  · exact .left rfl rfl

theorem Redirected.cached {after : Slot} {reason : Name} (redirected : Redirected slot reason after)
    (cached : Cached slot) : Cached after := by
  cases redirected with
  | redirected stoppable started running copied turn progress =>
    refine .followed progress (.inl ?_)
    rw [turn]
    rcases Turn.recordRequest_cases slot.turn reason.text with same | same <;>
      simp [Turn.redirected, same, started]
  | left turn progress => exact cached.congr turn progress

theorem Cached.recordContainedFault {core : Core} (childId reason : Name)
    (projection : RecoveryProjection) (cached : ∀ childId, Cached (core.slots childId))
    (other : Name) :
    (other = childId ∧ Redirected (core.slots other) reason
        ((core.recordContainedFault childId reason projection).slots other)) ∨
      (core.recordContainedFault childId reason projection).slots other = core.slots other := by
  by_cases same : other = childId
  · subst same
    left
    refine ⟨rfl, ?_⟩
    simp only [Core.recordContainedFault, Function.update_self]
    exact (cached other).containedWith reason projection
  · simp [Core.recordContainedFault, same]

variable {callback : Option Callback}

theorem Serving.result {entry : Entry} {result : Turn × Option PyError} {events : List Event}
    (serving : Serving childId entry result events callback) :
    ∃ reply, result = entry.result reply := by
  cases serving with
  | silent | unclocked => exact ⟨_, rfl⟩
  | called call reply effective pending seen => exact ⟨effective, rfl⟩

theorem Serving.events {entry : Entry} {result : Turn × Option PyError} {events : List Event}
    (serving : Serving childId entry result events callback) :
    events = [] ∨ ∃ call reply, entry.nextCall = some call ∧
      events = [.called childId call reply] ∧ callback = some call.action.callback := by
  cases serving with
  | silent | unclocked => exact .inl rfl
  | called call reply effective pending seen => exact .inr ⟨call, reply, pending, rfl, rfl⟩

theorem resumeAfterWait_started (turn : Turn) : turn.resumeAfterWait.1.started = turn.started ∧
      turn.resumeAfterWait.1.terminal = turn.terminal := by
  unfold Turn.resumeAfterWait
  split
  · exact ⟨rfl, rfl⟩
  · split
    · exact ⟨rfl, rfl⟩
    · split <;> exact ⟨rfl, rfl⟩

theorem entry_started (setup : Setup) (childId : Name) (poll : Bool) (slot : Slot) :
    (entry setup childId poll slot).turn.started = slot.turn.started ∧
      (entry setup childId poll slot).turn.terminal = slot.turn.terminal := by
  unfold entry
  split
  · exact ⟨rfl, rfl⟩
  · split
    · exact resumeAfterWait_started slot.turn
    · exact ⟨rfl, rfl⟩

theorem begin_of_started (taskInput : Option String)
    (begun : turn.started = true ∨ turn.terminal = true) : turn.begin taskInput = turn := by
  rw [Turn.begin, if_pos begun.symm]

theorem begin_begun (turn : Turn) (taskInput : Option String) :
    (turn.begin taskInput).started = true ∨ (turn.begin taskInput).terminal = true := by
  unfold Turn.begin
  split
  · rename_i begun
    exact begun.symm
  · unfold Turn.start
    split
    · exact .inr rfl
    · exact .inl rfl

theorem failed_started (turn : Turn) (error : PyError) :
    (turn.failed error).started = turn.started ∧
      (turn.terminal = true → (turn.failed error).terminal = true) := by
  unfold Turn.failed
  split
  · exact ⟨rfl, fun _ => rfl⟩
  · exact ⟨rfl, id⟩

theorem accepted_started {next : Turn} (accepted : turn.Accepted next) :
    next.started = turn.started ∧ (turn.terminal = true → next.terminal = true) := by
  cases accepted <;> exact ⟨rfl, by simp [Turn.finish]⟩

theorem advance_started (turn : Turn) (reply : Reply) :
    (turn.advance reply).1.started = turn.started ∧
      (turn.terminal = true → (turn.advance reply).1.terminal = true) := by
  have advanced := Turn.advance_cases turn reply
  generalize turn.advance reply = result at advanced
  cases advanced with
  | idle | lost => exact ⟨rfl, id⟩
  | called call result pending answer =>
    cases answer with
    | accepted next moves =>
      obtain ⟨started, ended⟩ := accepted_started moves
      exact ⟨started, ended⟩
    | failed error caught => exact failed_started _ error
    | escaped error uncaught => exact ⟨rfl, id⟩

/-- A served turn has been started, or it has ended. -/
theorem Served.begun {escaped : Option PyError} {events : List Event}
    (served : Served setup childId poll before turn escaped events callback)
    (returned : escaped = none) : turn.started = true ∨ turn.terminal = true := by
  obtain ⟨reply, same⟩ := served.serving.result
  set asked := entry setup childId poll (before.core.slots childId)
  have same : asked.result reply = (turn, none) := by rw [← same, returned]
  unfold Entry.result at same
  split at same
  · cases same
  · by_cases begun : asked.turn.started = true ∨ asked.turn.terminal = true
    · rcases Turn.step_cases asked.turn asked.taskInput reply with unchanged | advanced
      · rw [same] at unchanged
        change turn = asked.turn at unchanged
        rwa [unchanged]
      · rw [same, begin_of_started _ begun] at advanced
        obtain ⟨started, ended⟩ := advance_started asked.turn reply
        rw [← advanced] at started ended
        exact begun.imp (fun held => started.trans held) fun held => ended held
    · obtain ⟨unstarted, running⟩ := not_or.mp begun
      have steps : asked.turn.step asked.taskInput reply =
          (asked.turn.begin asked.taskInput).advance reply :=
        Turn.step_eq_advance (by simpa using running) (fun started => absurd started unstarted) reply
      rw [same] at steps
      obtain ⟨started, ended⟩ := advance_started (asked.turn.begin asked.taskInput) reply
      rw [← steps] at started ended
      exact (begin_begun asked.turn asked.taskInput).imp (fun held => started.trans held)
        fun held => ended held

/-- The copies of the progress go with the control turns. -/
def AllCached (coord : Coord) : Prop := ∀ childId, Cached (coord.core.slots childId)

variable {coord : Coord}

theorem AllCached.serves {events : List Event} {history : List Event}
    (kept : AllCached coord) (served : Served setup childId poll coord turn none events callback) :
    AllCached { coord with core := followed childId turn coord.core, history := history } := by
  intro other
  by_cases same : other = childId
  · subst same
    exact .followed (by simp) (by simpa using served.begun rfl)
  · exact (kept other).congr (by simp only [followed_slots_of_ne same])
      (by simp only [followed_slots_of_ne same])

theorem AllCached.faulted (kept : AllCached coord) (setup : Setup)
    (request : FaultRequest) (history : List Event) :
    AllCached { coord with core := coord.core.enterFault setup request, history := history } :=
  fun other => ((kept other).stopped request other).cached (kept other)

theorem AllCached.contained {history : List Event} (kept : AllCached coord)
    (reason : Name) (projection : RecoveryProjection) :
    AllCached { coord with
        core := coord.core.recordContainedFault childId reason projection
        history := history } := by
  intro other
  rcases Cached.recordContainedFault childId reason projection kept other with
    ⟨rfl, redirected⟩ | same
  · exact redirected.cached (kept other)
  · exact (kept other).congr (congrArg Slot.turn same) (congrArg Slot.progress same)

theorem AllCached.quiet : Closed Quiet AllCached := fun _ _ kept still other =>
  (kept other).congr (still.turn other) (still.progress other)

end WorkOrchestration.Native.Coordinator
