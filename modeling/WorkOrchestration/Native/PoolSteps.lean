import WorkOrchestration.Native.LeaseRelease
import WorkOrchestration.Native.PoolRuns

/-!
# Rules for the steps of a pool coordinator

Three assertions carry a property through a run: one between operations, one in the middle of a step, and
one that is all that is left when an exception ends the run. What is proved for single updates is put
together here into steps and runs.
-/

namespace WorkOrchestration.Native.Coordinator

open List
open Lib.Programs Lib.Text Artifacts Authority PoolContracts PoolStates
open PoolLeases (Lease LeaseState RegistryError)
open Accounting Recovery PoolReceipts Control Scheduler
open Pool
open Coordinator.Core (reasonRecords)
open Triple (get_bind of_state)

/-- Nothing changes but the clock, the registry and the number of questions asked. -/
def Aside (before after : Coord) : Prop := Sees before.core before.history after

/-- Nothing changes but the registry and the number of questions asked. -/
structure Asks (before after : Coord) : Prop where
  core : after.core = before.core
  history : after.history = before.history
  timing : after.timing = before.timing
  later : before.tick ≤ after.tick

variable {setup : Setup} {world : World} {assertion fail : Coord → Prop} {α : Type}
  {childId : Name} {poll : Bool}

/-! ## Programs that only ask -/

theorem asks_ask (answers : Nat → α) : Keeps Asks (ask answers) :=
  ⟨fun closed => triple_ask fun coord holds => closed coord _ holds ⟨rfl, rfl, rfl, Nat.le_succ _⟩⟩

theorem asks_liftExcept (result : Except PyError α) : Keeps Asks (liftExcept result) :=
  ⟨fun _ => triple_liftExcept (fun _ _ _ holds => holds) fun _ holds => holds⟩

theorem asks_raiseIf (error : Option PyError) : Keeps Asks (raiseIf error) := by
  cases error with
  | none => exact Keeps.pure
  | some error => exact Keeps.throw

theorem asks_when {condition : Prop} [Decidable condition] {program : Program Unit}
    (keeps : condition → Keeps Asks program) : Keeps Asks (when condition program) :=
  ⟨fun closed => triple_when (fun met => (keeps met).triple closed) fun _ _ holds => holds⟩

theorem asks_monotonicNs : Keeps Asks (monotonicNs world) :=
  Keeps.bind (asks_ask _) fun _ => asks_liftExcept _

theorem asks_decisionFor (decision : DecisionKind) (selected : Option Name)
    (actions : List PoolAction) :
    Keeps Asks (decisionFor setup world decision selected actions) := by
  refine Keeps.get_bind fun coord => ?_
  refine Keeps.bind (asks_liftExcept _) fun records => ?_
  refine Keeps.bind (asks_when fun _ => Keeps.throw) fun _ => ?_
  exact asks_when fun _ => Keeps.bind (asks_ask _) fun _ => asks_raiseIf _

theorem asks_progress : Keeps Asks (progress setup world) := by
  refine Keeps.get_bind fun coord => ?_
  exact Keeps.bind asks_monotonicNs fun _ => Keeps.pure

theorem asks_releaseStateLock : Keeps Asks (releaseStateLock setup world) :=
  asks_when fun _ => Keeps.bind (asks_ask _) fun _ => asks_raiseIf _

/-! ## Programs that read the clock -/

theorem Asks.aside {before after : Coord} (asks : Asks before after) : Aside before after :=
  ⟨asks.core, asks.history⟩

variable {program : Program α}

theorem aside_of_asks (keeps : Keeps Asks program) : Keeps Aside program :=
  keeps.mono fun _ _ asks => asks.aside

theorem aside_modifyTiming (update : Timing → Timing) : Keeps Aside (modifyTiming update) :=
  Keeps.modify fun _ => ⟨rfl, rfl⟩

theorem aside_monotonicNs : Keeps Aside (monotonicNs world) := aside_of_asks asks_monotonicNs

theorem aside_completeWait : Keeps Aside (completeWait world) := by
  refine Keeps.get_bind fun coord => ?_
  split
  · exact Keeps.pure
  · exact Keeps.bind aside_monotonicNs fun _ => aside_modifyTiming _

/-! ## Seals and choices -/

/-- The coordinator after a seal, before the state is persisted. -/
def sealedCoord (setup : Setup) (timing : Timing) (status : PoolStatus)
    (records : List ReasonRecord) (coord : Coord) : Coord :=
  { coord with
    timing := timing
    core := coord.core.refresh setup timing status records
    history := .sealed timing (coord.core.refreshed setup timing status records) :: coord.history }

@[simp]
theorem refreshed_status (core : Core) (timing : Timing) (status : PoolStatus)
    (records : List ReasonRecord) :
    (core.refreshed setup timing status records).status = status := by
  simp only [Core.refreshed, PoolState.sealed]

@[simp]
theorem sealedCoord_state (coord : Coord) (timing : Timing) (status : PoolStatus)
    (records : List ReasonRecord) :
    (sealedCoord setup timing status records coord).core.state =
      coord.core.refreshed setup timing status records :=
  rfl

/-- The statuses under which a state is sealed, with what is known of the coordinator then. -/
inductive Seals (setup : Setup) (core : Core) : PoolStatus → Prop where
  | computed : Seals setup core (core.statusAfterAction setup)
  | interrupted (fault : core.protectedFault = true) : Seals setup core .interruptPending
  | admitted (status : PoolStatus) (created : core.state.status = .created)
      (clean : core.initialMutationFault = false)
      (opened : status = .capabilityValidated ∨ status = .admitting) : Seals setup core status
  | completed (was : core.state.status = .completed) (controlled : core.controlFailed = false) :
      Seals setup core .completed
  | closed (was : core.state.status = .completed) (compared : core.terminalComparisonComplete = true)
      (released : ∀ childId ∈ setup.childIds, ∀ lease ∈ (core.slots childId).lease,
        lease.lifecycleState = .released) : Seals setup core .closed
  | failed (was : core.state.status = .completed) (lost : core.controlFailed = true) :
      Seals setup core .controlFailed
  | finished (was : core.state.status = .controlFailed) : Seals setup core .controlFailed

/-- The child that a step is about: its deadline has come up, or it can be stepped at once. -/
structure Chosen (setup : Setup) (core : Core) (childId : Name) (poll : Bool) : Prop where
  member : childId ∈ setup.childIds
  due : poll = true → (core.slots childId).record.nextDeadlineNs.isSome = true
  ready : poll = false → Slot.isReady (core.slots childId) = true

/-- The assertions between operations, in a step and at an exception, and what they must survive. -/
structure Rules (setup : Setup) (world : World) (rest busy fail : Coord → Prop) : Prop where
  wakes : ∀ coord, rest coord → busy coord
  fails : ∀ coord, busy coord → fail coord
  asks : Closed Asks rest
  moves : Closed (Move setup world) busy
  cursor : ∀ coord nowNs turnout cursor, busy coord →
    nextLifecycleChild setup coord.core nowNs = .ok (turnout, cursor) →
      busy { coord with core := { coord.core with schedulerCursor := cursor } }
  /-- sealing under a status leaves the coordinator at rest with a state of that status -/
  seals : ∀ status freeze, Triple (fun coord => busy coord ∧ Seals setup coord.core status)
    (refreshState setup world status freeze)
    (fun _ coord => rest coord ∧ coord.core.state.status = status) fail
  assembles : ∀ coord records, rest coord →
    coord.core.state.status = .closed ∨ coord.core.state.status = .controlFailed →
      reasonRecords coord.core = .ok records →
        fail { coord with
          history := .assembled coord.core coord.timing
            (coord.core.assemble setup coord.timing records) :: coord.history }
  receives : ∀ coord records, rest coord →
    coord.core.state.status = .closed ∨ coord.core.state.status = .controlFailed →
      reasonRecords coord.core = .ok records →
        rest { coord with
          core :=
            { coord.core with receipt := some (coord.core.assemble setup coord.timing records) }
          history := .assembled coord.core coord.timing
            (coord.core.assemble setup coord.timing records) :: coord.history }

/-- Invoking a child keeps what is carried through a step. -/
def Invokes (setup : Setup) (world : World) (busy fail : Coord → Prop) : Prop :=
  ∀ childId poll,
    Triple (fun coord => busy coord ∧ Chosen setup coord.core childId poll)
      (invokeChild setup world childId poll) (fun _ => busy) fail

/-- Assertions that are not about the clock. -/
structure Carried (setup : Setup) (world : World) (rest busy fail : Coord → Prop) : Prop where
  wakes : ∀ coord, rest coord → busy coord
  fails : ∀ coord, busy coord → fail coord
  restAside : Closed Aside rest
  busyAside : Closed Aside busy
  moves : Closed (Move setup world) busy
  cursor : ∀ coord nowNs turnout cursor, busy coord →
    nextLifecycleChild setup coord.core nowNs = .ok (turnout, cursor) →
      busy { coord with core := { coord.core with schedulerCursor := cursor } }
  invokes : Invokes setup world busy fail
  sealFails : ∀ coord timing status records, busy coord → Seals setup coord.core status →
    reasonRecords coord.core = .ok records → fail (sealedCoord setup timing status records coord)
  sealRests : ∀ coord timing status records, busy coord → Seals setup coord.core status →
    reasonRecords coord.core = .ok records →
      validatePoolState (some setup.contract)
        (coord.core.refreshed setup timing status records) = [] →
        rest (sealedCoord setup timing status records coord)
  assembles : ∀ coord records, rest coord →
    coord.core.state.status = .closed ∨ coord.core.state.status = .controlFailed →
      reasonRecords coord.core = .ok records →
        fail { coord with
          history := .assembled coord.core coord.timing
            (coord.core.assemble setup coord.timing records) :: coord.history }
  receives : ∀ coord records, rest coord →
    coord.core.state.status = .closed ∨ coord.core.state.status = .controlFailed →
      reasonRecords coord.core = .ok records →
        rest { coord with
          core :=
            { coord.core with receipt := some (coord.core.assemble setup coord.timing records) }
          history := .assembled coord.core coord.timing
            (coord.core.assemble setup coord.timing records) :: coord.history }

section

variable {rest busy : Coord → Prop}

theorem Rules.takesAside (rules : Rules setup world rest busy fail)
    (keeps : Keeps Asks program) : Triple rest program (fun _ => rest) fail :=
  (keeps.triple rules.asks).consequence (fun _ => id) (fun _ _ => id) fun coord holds =>
    rules.fails coord (rules.wakes coord holds)

theorem closed_asks_core (fact : Core → Prop) : Closed Asks fun coord => fact coord.core :=
  fun _ _ holds asks => by
    simpa only [asks.core] using holds

theorem Move.state_eq {before after : Coord} (moves : Move setup world before after) :
    after.core.state = before.core.state := by
  cases moves with
  | absorbed => rfl
  | _ => rfl

theorem closed_state (fact : PoolState → Prop) :
    Closed (Move setup world) fun coord => fact coord.core.state :=
  fun _ _ holds moves => by
    simpa only [moves.state_eq] using holds

/-- Sealing under a status, once the clock has been read and the timing captured. -/
theorem triple_refreshState (captured : Nat → Coord → Prop) {status : PoolStatus} {freeze : Bool}
    (fails : ∀ nowNs coord, captured nowNs coord → fail coord) (restFails : ∀ coord, rest coord → fail coord)
    (asks : Closed Asks rest)
    (captures : Triple (fun coord => busy coord ∧ Seals setup coord.core status) (monotonicNs world)
      (fun nowNs coord =>
        captured nowNs { coord with timing := coord.timing.capture nowNs freeze } ∧
          Seals setup coord.core status) fail)
    (sealFails : ∀ nowNs coord records, captured nowNs coord → Seals setup coord.core status →
      reasonRecords coord.core = .ok records →
        fail (sealedCoord setup coord.timing status records coord))
    (sealRests : ∀ nowNs coord records, captured nowNs coord → Seals setup coord.core status →
      reasonRecords coord.core = .ok records →
      validatePoolState (some setup.contract)
        (coord.core.refreshed setup coord.timing status records) = [] →
        rest (sealedCoord setup coord.timing status records coord)) :
    Triple (fun coord => busy coord ∧ Seals setup coord.core status)
      (refreshState setup world status freeze)
      (fun _ coord => rest coord ∧ coord.core.state.status = status) fail := by
  refine Triple.bind captures fun nowNs => ?_
  refine Triple.bind (m := fun _ coord => captured nowNs coord ∧ Seals setup coord.core status)
    (Triple.modify fun _ holds => holds) fun _ => ?_
  refine get_bind fun coord ⟨holds, sealing⟩ => ?_
  refine Triple.bind (m := fun records after =>
      after = coord ∧ reasonRecords coord.core = .ok records)
    (triple_liftExcept (fun records built current same => ⟨same, built⟩)
      fun _ same => same ▸ fails nowNs coord holds) fun records => ?_
  refine Triple.bind (m := fun _ after =>
      after = sealedCoord setup coord.timing status records coord ∧
        reasonRecords coord.core = .ok records) (Triple.modify ?_) fun _ => ?_
  · rintro _ ⟨rfl, built⟩
    exact ⟨rfl, built⟩
  refine get_bind fun after ⟨same, built⟩ => ?_
  subst same
  have failing := sealFails nowNs coord records holds sealing built
  refine Triple.bind (m := fun _ after => (rest after ∧ after.core.state.status = status))
    (triple_when (fun _ => Triple.throw fun _ same => same ▸ failing) ?_) fun _ => ?_
  · rintro valid _ rfl
    have accepted : validatePoolState (some setup.contract)
        (coord.core.refreshed setup coord.timing status records) = [] := Decidable.not_not.mp valid
    refine ⟨sealRests nowNs coord records holds sealing built accepted, ?_⟩
    rw [sealedCoord_state, refreshed_status]
  · refine (Keeps.triple (asks_when fun _ => Keeps.bind (asks_ask _) fun _ => asks_raiseIf _)
      ?_).consequence (fun _ => id) (fun _ _ => id) fun coord holds => restFails coord holds.1
    exact asks.and (closed_asks_core fun core => core.state.status = status)

/-- Assertions that are not about the clock survive the reading of it. -/
theorem Carried.rules (carried : Carried setup world rest busy fail) :
    Rules setup world rest busy fail where
  wakes := carried.wakes
  fails := carried.fails
  asks before after holds asks := carried.restAside before after holds asks.aside
  moves := carried.moves
  cursor := carried.cursor
  seals status freeze := by
    have aside : Closed Aside fun coord => busy coord ∧ Seals setup coord.core status := by
      rintro before after ⟨holds, sealing⟩ same
      exact ⟨carried.busyAside before after holds same, by rw [same.1]; exact sealing⟩
    refine triple_refreshState (fun _ => busy) (fun _ => carried.fails)
      (fun coord holds => carried.fails coord (carried.wakes coord holds))
      (fun before after holds asks => carried.restAside before after holds asks.aside) ?_
      (fun _ coord records holds => carried.sealFails coord coord.timing status records holds)
      fun _ coord records holds => carried.sealRests coord coord.timing status records holds
    refine (aside_monotonicNs.triple aside).consequence (fun _ => id) (fun nowNs coord holds => ?_)
      fun coord holds => carried.fails coord holds.1
    exact ⟨carried.busyAside coord _ holds.1 ⟨rfl, rfl⟩, holds.2⟩
  assembles := carried.assembles
  receives := carried.receives

section

variable (rules : Rules setup world rest busy fail)

include rules

theorem Rules.takes (fact : PoolState → Prop) (keeps : Keeps (Move setup world) program) :
    Triple (fun coord => busy coord ∧ fact coord.core.state) program
      (fun _ coord => busy coord ∧ fact coord.core.state) fail :=
  (keeps.triple (rules.moves.and (closed_state fact))).consequence (fun _ => id) (fun _ _ => id)
    fun coord holds => rules.fails coord holds.1

theorem Rules.triple_buildReceipt :
    Triple (fun coord => rest coord ∧
        (coord.core.state.status = .closed ∨ coord.core.state.status = .controlFailed))
      (buildReceipt setup) (fun _ => rest) fail := by
  refine get_bind fun coord ⟨holds, ended⟩ => ?_
  refine Triple.bind (m := fun records after =>
      after = coord ∧ reasonRecords coord.core = .ok records)
    (triple_liftExcept (fun records built current same => ⟨same, built⟩)
      fun _ same => same ▸ rules.fails coord (rules.wakes coord holds)) fun records => ?_
  refine Triple.bind (m := fun _ after =>
      after = { coord with
        history := .assembled coord.core coord.timing
          (coord.core.assemble setup coord.timing records) :: coord.history } ∧
        reasonRecords coord.core = .ok records) (Triple.modify ?_) fun _ => ?_
  · rintro _ ⟨rfl, built⟩
    exact ⟨rfl, built⟩
  refine Triple.bind (m := fun _ after =>
      after = { coord with
        history := .assembled coord.core coord.timing
          (coord.core.assemble setup coord.timing records) :: coord.history } ∧
        reasonRecords coord.core = .ok records)
    (triple_when (fun _ => Triple.throw ?_) fun _ _ => id) fun _ => Triple.modify ?_
  · rintro _ ⟨rfl, built⟩
    exact rules.assembles coord records holds ended built
  · rintro _ ⟨rfl, built⟩
    exact rules.receives coord records holds ended built

theorem Rules.triple_concludeWith
    (status : PoolStatus) (decision : DecisionKind) (selected : Option Name)
    (actions : List PoolAction) :
    Triple (fun coord => busy coord ∧ Seals setup coord.core status)
      (concludeWith setup world status decision selected actions) (fun _ => rest) fail := by
  refine Triple.bind ((rules.seals status false).consequence (fun _ => id)
    (fun _ _ => And.left) fun _ => id) fun _ => ?_
  exact rules.takesAside (Keeps.bind (asks_decisionFor decision selected actions) fun _ => asks_progress)

theorem Rules.triple_concludeInterrupted :
    Triple busy (concludeInterrupted setup world) (fun _ => rest) fail := by
  refine get_bind fun coord holds => ?_
  refine (rules.triple_concludeWith _ _ _ _).consequence ?_ (fun _ _ => id) fun _ => id
  rintro _ rfl
  exact ⟨holds, .computed⟩

theorem Rules.triple_finishControlFailed :
    Triple (fun coord => busy coord ∧ coord.core.state.status = .controlFailed)
      (finishControlFailed setup world) (fun _ => rest) fail := by
  refine Triple.bind (rules.takes (fun state => state.status = .controlFailed)
    keeps_compareDeferredWorkspace) fun _ => ?_
  refine get_bind fun coord holds => ?_
  refine Triple.bind ((rules.takes (fun state => state.status = .controlFailed)
    (Keeps.forM (keeps_markReleasePending coord.core.state.stateSha256))).consequence
      (fun current (same : current = coord) => same ▸ holds) (fun _ _ => id) fun _ => id) fun _ => ?_
  refine Triple.bind ((rules.seals .controlFailed true).consequence
    (fun coord lost => ⟨lost.1, .finished lost.2⟩) (fun _ _ => id) fun _ => id) fun _ => ?_
  refine Triple.bind (rules.triple_buildReceipt.consequence
    (fun coord sealing => ⟨sealing.1, .inr sealing.2⟩) (fun _ _ => id) fun _ => id) fun _ => ?_
  exact rules.takesAside asks_releaseStateLock

theorem Rules.triple_concludeControlFailed (selected : Option Name) :
    Triple (fun coord => busy coord ∧ coord.core.state.status = .controlFailed)
      (concludeControlFailed setup world selected) (fun _ => rest) fail := by
  refine Triple.bind rules.triple_finishControlFailed fun _ => ?_
  exact rules.takesAside (Keeps.bind (asks_decisionFor _ _ _) fun _ => asks_progress)

theorem Rules.triple_stepCreated :
    Triple (fun coord => busy coord ∧ coord.core.state.status = .created)
      (stepCreated setup world) (fun _ => rest) fail := by
  refine get_bind fun coord ⟨holds, created⟩ => ?_
  split
  · refine Triple.bind ((rules.takes (fun _ => True) (keeps_enterFault _)).consequence
      (fun _ same => same ▸ ⟨holds, trivial⟩) (fun _ _ => And.left) fun _ => id) fun _ => ?_
    exact rules.triple_concludeInterrupted
  · rename_i clean
    refine (rules.triple_concludeWith _ _ _ _).consequence ?_ (fun _ _ => id) fun _ => id
    rintro _ rfl
    refine ⟨holds, .admitted _ created (by simpa using clean) ?_⟩
    split
    · exact .inl rfl
    · exact .inr rfl

theorem Rules.triple_concludeCompleted :
    Triple (fun coord => busy coord ∧ coord.core.state.status = .completed)
      (concludeCompleted setup world) (fun _ => rest) fail := by
  refine get_bind fun coord ⟨holds, completed⟩ => ?_
  split
  · rename_i lost
    refine Triple.bind ((rules.seals .controlFailed false).consequence ?_
      (fun _ _ => id) fun _ => id) fun _ => ?_
    · rintro _ rfl
      exact ⟨holds, .failed completed lost⟩
    · exact (rules.triple_concludeControlFailed none).consequence
        (fun coord sealing => ⟨rules.wakes coord sealing.1, sealing.2⟩) (fun _ _ => id) fun _ => id
  · rename_i controlled
    refine (rules.triple_concludeWith _ _ _ _).consequence ?_ (fun _ _ => id) fun _ => id
    rintro _ rfl
    exact ⟨holds, .completed completed (by simpa using controlled)⟩

omit rules in
/-- Without an attempt no lease was left to release, and nothing has changed. -/
theorem triple_releaseNext_idle (coord : Coord) (childIds : List Name) :
    Triple (fun current => current = coord) (releaseNext setup world childIds false)
      (fun attempted after => attempted = false → after = coord ∧
        ∀ childId ∈ childIds, ∀ lease ∈ (coord.core.slots childId).lease,
          lease.lifecycleState = .released)
      (fun _ => True) := by
  have attempts : ∀ rest : List Name, Triple (fun _ => True) (releaseNext setup world rest true)
      (fun attempted _ => attempted = true) fun _ => True := by
    intro rest
    induction rest with
    | nil => exact Triple.pure fun _ _ => rfl
    | cons childId rest ih =>
      refine get_bind fun current _ => ?_
      have again := ih.consequence (fun (after : Coord) (_ : after = current) => trivial)
        (fun _ _ => id) fun _ => id
      split
      · exact again
      · split
        · exact again
        · refine Triple.bind Triple.trivial fun result => ?_
          refine Triple.bind Triple.trivial fun _ => ?_
          cases result with
          | ok leases => exact Triple.pure fun _ _ => rfl
          | error error => exact ih
  induction childIds with
  | nil =>
    refine Triple.pure ?_
    rintro _ rfl _
    exact ⟨rfl, by simp⟩
  | cons childId rest ih =>
    refine get_bind ?_
    rintro _ rfl
    split
    · rename_i unleased
      refine ih.consequence (fun _ => id) (fun attempted after idle none => ?_) fun _ => id
      obtain ⟨same, released⟩ := idle none
      exact ⟨same, by simpa [unleased] using released⟩
    · rename_i lease leased
      split
      · rename_i released
        refine ih.consequence (fun _ => id) (fun attempted after idle none => ?_) fun _ => id
        obtain ⟨same, others⟩ := idle none
        exact ⟨same, by simpa [leased, released] using others⟩
      · refine Triple.bind Triple.trivial fun result => ?_
        refine Triple.bind Triple.trivial fun _ => ?_
        cases result with
        | ok leases => exact Triple.pure fun _ _ impossible => by cases impossible
        | error error =>
          exact (attempts rest).consequence (fun _ => id)
            (fun attempted after attempt none => by simp [attempt] at none) fun _ => id

theorem Rules.triple_stepCompleted :
    Triple (fun coord => busy coord ∧ coord.core.state.status = .completed)
      (stepCompleted setup world) (fun _ => rest) fail := by
  refine get_bind fun coord ⟨holds, completed⟩ => ?_
  have starts : ∀ current, current = coord → busy current ∧ current.core.state.status = .completed :=
    fun _ same => same ▸ ⟨holds, completed⟩
  split
  · refine Triple.bind ((rules.takes (fun state => state.status = .completed)
      keeps_compareTerminalWorkspaces).consequence starts (fun _ _ => id) fun _ => id) fun _ => ?_
    exact rules.triple_concludeCompleted
  · rename_i compared
    refine Triple.bind (((rules.takes (fun state => state.status = .completed)
      (keeps_releaseNext setup.childIds false)).and
        (triple_releaseNext_idle coord setup.childIds)).consequence
          (fun current same => ⟨starts current same, same⟩) (fun _ _ => id) fun _ => And.left)
      fun attempted => ?_
    split
    · exact rules.triple_concludeCompleted.consequence (fun _ => And.left) (fun _ _ => id)
        fun _ => id
    · rename_i idle
      refine Triple.bind ((rules.seals .closed true).consequence ?_ (fun _ _ => id)
        fun _ => id) fun _ => ?_
      · rintro after ⟨⟨kept, was⟩, unchanged⟩
        obtain ⟨rfl, released⟩ := unchanged (by simpa using idle)
        exact ⟨kept, .closed was (by simpa using compared) released⟩
      refine Triple.bind (rules.triple_buildReceipt.consequence
        (fun coord sealing => ⟨sealing.1, .inl sealing.2⟩) (fun _ _ => id) fun _ => id) fun _ => ?_
      exact rules.takesAside (Keeps.bind (asks_decisionFor _ _ _) fun _ =>
        Keeps.bind asks_releaseStateLock fun _ => asks_progress)

theorem Rules.triple_stepLeases :
    Triple busy (stepLeases setup world) (fun _ => rest) fail := by
  refine Triple.bind ((rules.takes (fun _ => True) keeps_acquireLeases).consequence
    (fun _ holds => ⟨holds, trivial⟩) (fun _ _ => And.left) fun _ => id) fun selected => ?_
  refine get_bind fun coord holds => ?_
  refine (rules.triple_concludeWith _ _ _ _).consequence ?_ (fun _ _ => id) fun _ => id
  rintro _ rfl
  exact ⟨holds, .computed⟩

theorem Rules.triple_stepIdle (waitNs : Nat) :
    Triple busy (stepIdle setup world waitNs) (fun _ => rest) fail := by
  refine get_bind fun coord holds => ?_
  split
  · refine Triple.bind ((rules.seals (coord.core.statusAfterAction setup)
      false).consequence ?_ (fun _ _ => id) fun _ => id) fun _ => ?_
    · rintro _ rfl
      exact ⟨holds, .computed⟩
    · split
      · rename_i lost
        exact (rules.triple_concludeControlFailed none).consequence
          (fun after sealing => ⟨rules.wakes after sealing.1, sealing.2.trans lost⟩) (fun _ _ => id)
          fun _ => id
      · exact (rules.takesAside (Keeps.bind (asks_decisionFor _ _ _) fun _ => asks_progress)).consequence
          (fun _ => And.left) (fun _ _ => id) fun _ => id
  · refine Triple.bind ((rules.triple_concludeWith _ _ _ _).consequence ?_ (fun _ _ => id)
      fun _ => id) fun _ => Triple.pure fun _ kept => kept
    rintro _ rfl
    exact ⟨holds, .computed⟩

theorem Rules.triple_stepChild
    (invokes : Invokes setup world busy fail) (childId : Name) (poll : Bool) :
    Triple (fun coord => busy coord ∧ Chosen setup coord.core childId poll)
      (stepChild setup world childId poll) (fun _ => rest) fail := by
  refine Triple.bind (invokes childId poll) fun _ => ?_
  refine get_bind fun coord holds => ?_
  refine Triple.bind ((rules.seals (coord.core.statusAfterAction setup)
    false).consequence ?_ (fun _ _ => id) fun _ => id) fun _ => ?_
  · rintro _ rfl
    exact ⟨holds, .computed⟩
  · split
    · rename_i lost
      exact (rules.triple_concludeControlFailed _).consequence
        (fun after sealing => ⟨rules.wakes after sealing.1, sealing.2.trans lost⟩) (fun _ _ => id)
        fun _ => id
    · refine (rules.takesAside (Keeps.get_bind fun coord => ?_)).consequence (fun _ => And.left)
        (fun _ _ => id) fun _ => id
      exact Keeps.bind (asks_decisionFor _ _ _) fun _ => asks_progress

omit rules in
/-- The child of a turnout is due, or can be stepped at once. -/
theorem chosen_of_nextLifecycleChild {core : Core} {nowNs cursor : Nat} {turnout : Turnout}
    (next : nextLifecycleChild setup core nowNs = .ok (turnout, cursor))
    (named : turnout.childId = some childId) :
    Chosen setup { core with schedulerCursor := cursor } childId turnout.poll := by
  have listed : ∀ child ∈ core.children setup, ∀ deadlineNs, child.nextDeadlineNs = some deadlineNs →
      Chosen setup { core with schedulerCursor := cursor } child.childId true := by
    intro child member deadlineNs due
    obtain ⟨contracted, admitted, rfl⟩ := mem_map.mp member
    refine ⟨mem_map_of_mem admitted, fun _ => ?_, fun other => by cases other⟩
    exact Option.isSome_iff_exists.mpr ⟨deadlineNs, due⟩
  obtain ⟨due, selected, next⟩ := bind_ok next
  split at next
  · rename_i selection filtered
    cases next
    cases named
    obtain ⟨same, _⟩ := Option.filter_eq_some_iff.mp filtered
    rw [same] at selected
    obtain ⟨child, member, identified, deadline, _⟩ := selectEarliestDeadline_eq_some selected
    exact identified ▸ listed child member _ deadline
  · split at next
    · cases next
      cases named
    · rename_i proposed found
      obtain ⟨guard, guarded, next⟩ := bind_ok next
      split at next
      · cases next
        cases named
        obtain ⟨child, member, identified, deadline, _⟩ := peerDeadlineGuard_eq_some guarded
        exact identified ▸ listed child member _ deadline
      · cases next
        cases named
        exact ⟨mem_of_find?_eq_some found, fun other => (by cases other),
          fun _ => find?_some (p := fun childId => Slot.isReady (core.slots childId)) found⟩

section

variable (invokes : Invokes setup world busy fail)

include invokes

theorem Rules.triple_stepLifecycle :
    Triple busy (stepLifecycle setup world) (fun _ => rest) fail := by
  refine Triple.bind ((rules.takes (fun _ => True) keeps_monotonicNs).consequence
    (fun _ holds => ⟨holds, trivial⟩) (fun _ _ => And.left) fun _ => id) fun nowNs => ?_
  refine get_bind fun coord holds => ?_
  refine Triple.bind (m := fun next after =>
      after = coord ∧ nextLifecycleChild setup coord.core nowNs = .ok next)
    (triple_liftExcept (fun next chosen current same => ⟨same, chosen⟩)
      fun _ same => same ▸ rules.fails coord holds) fun next => ?_
  refine Triple.bind (m := fun _ after => busy after ∧ ∀ childId,
      next.1.childId = some childId → Chosen setup after.core childId next.1.poll)
    (Triple.modify ?_) fun _ => ?_
  · rintro _ ⟨rfl, chosen⟩
    exact ⟨rules.cursor _ nowNs next.1 next.2 holds chosen,
      fun childId named => chosen_of_nextLifecycleChild chosen named⟩
  · split
    · exact (rules.triple_stepIdle _).consequence (fun _ => And.left) (fun _ _ => id) fun _ => id
    · rename_i childId named
      exact (rules.triple_stepChild invokes childId next.1.poll).consequence
        (fun _ held => ⟨held.1, held.2 childId named⟩) (fun _ _ => id) fun _ => id

theorem Rules.triple_stepStatus :
    Triple busy (stepStatus setup world) (fun _ => rest) fail := by
  refine get_bind fun coord holds => ?_
  split
  · rename_i created
    refine rules.triple_stepCreated.consequence ?_ (fun _ _ => id) fun _ => id
    rintro _ rfl
    exact ⟨holds, created⟩
  · split
    · rename_i completed
      refine rules.triple_stepCompleted.consequence ?_ (fun _ _ => id) fun _ => id
      rintro _ rfl
      exact ⟨holds, completed⟩
    · split
      · exact rules.triple_stepLeases.consequence (fun _ same => same ▸ holds) (fun _ _ => id)
          fun _ => id
      · exact (rules.triple_stepLifecycle invokes).consequence (fun _ same => same ▸ holds) (fun _ _ => id)
          fun _ => id

theorem Rules.triple_stepChecked :
    Triple busy (stepChecked setup world) (fun _ => rest) fail := by
  refine Triple.bind ((rules.takes (fun _ => True) keeps_runtimeCapabilityErrors).consequence
    (fun _ holds => ⟨holds, trivial⟩) (fun _ _ => And.left) fun _ => id) fun errors => ?_
  split
  · refine Triple.bind ((rules.takes (fun _ => True) (keeps_enterFault _)).consequence
      (fun _ holds => ⟨holds, trivial⟩) (fun _ _ => And.left) fun _ => id) fun _ => ?_
    exact rules.triple_concludeInterrupted
  · refine Triple.bind ((rules.takes (fun _ => True) keeps_consumeControlRequest).consequence
      (fun _ holds => ⟨holds, trivial⟩) (fun _ _ => And.left) fun _ => id) fun consumed => ?_
    split
    · exact rules.triple_concludeInterrupted
    · exact rules.triple_stepStatus invokes

theorem Rules.triple_stepOnce :
    Triple rest (stepOnce setup world) (fun _ => rest) fail := by
  refine get_bind fun coord holds => ?_
  have idle : Triple (fun current => current = coord) (progress setup world) (fun _ => rest) fail :=
    (rules.takesAside asks_progress).consequence (fun _ same => same ▸ holds) (fun _ _ => id) fun _ => id
  split
  · exact idle
  · split
    · rename_i lost
      split
      · refine (rules.triple_concludeControlFailed none).consequence ?_ (fun _ _ => id) fun _ => id
        rintro _ rfl
        exact ⟨rules.wakes _ holds, lost⟩
      · exact idle
    · refine Triple.bind ((rules.takes (fun _ => True) keeps_verifyStateWatermark).consequence
        (fun current (same : current = coord) => same ▸ ⟨rules.wakes coord holds, trivial⟩)
        (fun _ _ => And.left) fun _ => id) fun complaint => ?_
      split
      · refine Triple.bind ((rules.takes (fun _ => True) (keeps_enterFault _)).consequence
          (fun _ holds => ⟨holds, trivial⟩) (fun _ _ => And.left) fun _ => id) fun _ => ?_
        exact rules.triple_concludeInterrupted
      · exact rules.triple_stepChecked invokes

theorem Rules.triple_step {idle : Coord → Prop}
    (wakes : Triple idle (completeWait world) (fun _ => rest) fail)
    (idles : ∀ coord, rest coord → idle coord)
    (waits : Triple rest (monotonicNs world)
      (fun nowNs coord => idle { coord with
        timing := { coord.timing with waitStartedNs := some nowNs } }) fail) :
    Triple idle (step setup world) (fun _ => idle) fail := by
  refine Triple.bind wakes fun _ => ?_
  refine Triple.bind (rules.triple_stepOnce invokes) fun report => ?_
  refine get_bind fun coord holds => ?_
  refine Triple.bind (m := fun _ => idle) (triple_when (fun _ => ?_) ?_) fun _ =>
    Triple.pure fun _ kept => kept
  · refine Triple.bind (waits.consequence (fun _ same => same ▸ holds) (fun _ _ => id) fun _ => id)
      fun nowNs => ?_
    exact Triple.modify fun _ kept => kept
  · rintro _ _ rfl
    exact idles _ holds

end

theorem Rules.triple_requestInterrupt (request : InterruptRequest) :
    Triple rest (requestInterrupt setup world request) (fun _ => rest) fail := by
  refine get_bind fun coord holds => ?_
  split
  · exact (rules.takesAside asks_progress).consequence (fun _ same => same ▸ holds) (fun _ _ => id)
      fun _ => id
  · split
    · exact Triple.throw fun _ same => same ▸ rules.fails coord (rules.wakes coord holds)
    · refine Triple.bind (m := fun _ after => busy after ∧ after.core.protectedFault = true)
        (Triple.modify ?_) fun _ => ?_
      · rintro _ rfl
        exact ⟨rules.moves _ _ (rules.wakes _ holds) (.faulted _), rfl⟩
      · exact (rules.triple_concludeWith _ _ _ _).consequence
          (fun _ faulted => ⟨faulted.1, .interrupted faulted.2⟩) (fun _ _ => id) fun _ => id

theorem Rules.triple_conclude :
    Triple rest (conclude setup) (fun _ => rest) fail := by
  refine get_bind fun coord holds => ?_
  refine Triple.bind (triple_when (fun ended => ?_) fun _ current same => same ▸ holds) fun _ =>
    Triple.pure fun _ kept => kept
  refine rules.triple_buildReceipt.consequence ?_ (fun _ _ => id) fun _ => id
  rintro _ rfl
  exact ⟨holds, ended.1⟩

end

variable (carried : Carried setup world rest busy fail)

include carried

theorem Carried.triple_operate (operation : Operation) :
    Triple rest (operate setup world operation) (fun _ => rest) fail := by
  have asking : ∀ {β : Type} {program : Program β}, Keeps Aside program →
      Triple rest program (fun _ => rest) fail := fun keeps =>
    (keeps.triple carried.restAside).consequence (fun _ => id) (fun _ _ => id) fun coord holds =>
      carried.fails coord (carried.wakes coord holds)
  cases operation with
  | step =>
    refine carried.rules.triple_step carried.invokes (asking aside_completeWait) (fun _ => id) ?_
    refine (asking aside_monotonicNs).consequence (fun _ => id) (fun nowNs coord holds => ?_)
      fun _ => id
    exact carried.restAside coord _ holds ⟨rfl, rfl⟩
  | requestInterrupt request => exact carried.rules.triple_requestInterrupt request
  | conclude => exact carried.rules.triple_conclude

theorem Carried.reached
    (starts : ∀ registry coord, start setup world registry = .ok coord → rest coord)
    {coord : Coord} (reached : Reached setup world coord) : rest coord := by
  induction reached with
  | started constructed => exact starts _ _ constructed
  | @operated before after operation report reached returned ih =>
    have ends := (carried.triple_operate operation).ends before ih
    rw [returned] at ends
    exact ends

theorem Carried.left
    (starts : ∀ registry coord, start setup world registry = .ok coord → rest coord)
    {coord : Coord} (left : Left setup world coord) : fail coord := by
  cases left with
  | reached reached => exact carried.fails coord (carried.wakes coord (carried.reached starts reached))
  | @raised before after operation error reached raised =>
    have ends := (carried.triple_operate operation).ends before (carried.reached starts reached)
    rw [raised] at ends
    exact ends

end

theorem refuseIf_ok {condition : Prop} [Decidable condition] {error : PyError} {value : Unit}
    (passed : refuseIf condition error = .ok value) : ¬ condition := by
  unfold refuseIf at passed
  split at passed
  · cases passed
  · assumption

/-- A coordinator that has just been constructed shows one comparison and nothing else. -/
theorem start_eq {registry : List Lease} {coord : Coord}
    (constructed : start setup world registry = .ok coord) :
    ∃ startedNs evidence,
      world.clock 0 = .ok startedNs ∧
      validatePoolState (some setup.contract) (newState setup startedNs) = [] ∧
      (∀ childId ∈ setup.childIds, ∀ lease ∈ setup.preacquired childId,
        (registry.find? fun entry => entry.leaseId = lease.leaseId) = some lease) ∧
      coord =
        { core := initialCore setup startedNs evidence
          timing := initialTiming startedNs
          tick := 5
          registry := registry
          history := [.compared (.ok evidence)] } := by
  obtain ⟨_, registered, constructed⟩ := bind_ok constructed
  obtain ⟨startedNs, read, constructed⟩ := bind_ok constructed
  obtain ⟨evidence, _, constructed⟩ := bind_ok constructed
  obtain ⟨_, _, constructed⟩ := bind_ok constructed
  obtain ⟨_, _, constructed⟩ := bind_ok constructed
  obtain ⟨_, valid, constructed⟩ := bind_ok constructed
  obtain ⟨_, _, constructed⟩ := bind_ok constructed
  injection constructed with constructed
  refine ⟨startedNs, evidence, read, Decidable.not_not.mp (refuseIf_ok valid), ?_, constructed.symm⟩
  intro childId member lease held
  by_contra other
  exact refuseIf_ok registered ⟨childId, member, lease, held, other⟩

/-! ## Invoking a child -/

section

variable {busy : Coord → Prop} (aside : Closed Aside busy) (fails : ∀ coord, busy coord → fail coord)
  (halves : ∀ coord turn escaped events callback, busy coord →
    Chosen setup coord.core childId poll →
    Serving childId (entry setup childId poll (coord.core.slots childId)) (turn, escaped) events
      callback →
    ∀ after, Sees (setTurn childId turn coord.core) (events ++ coord.history) after → fail after)

include aside fails halves

/-- A child is invoked: its control turn is stepped, and then the coordinator follows. -/
theorem triple_invokeChild_restores {middle : Phase → Option Callback → Coord → Prop}
    (closedMiddle : ∀ phase callback, Closed (Move setup world) (middle phase callback))
    (serves : ∀ coord turn events callback, busy coord → Chosen setup coord.core childId poll →
      Serving childId (entry setup childId poll (coord.core.slots childId)) (turn, none) events
        callback →
      ∀ after, Sees (followed childId turn coord.core) (events ++ coord.history) after →
        middle turn.phase callback after)
    (quiets : ∀ phase coord, middle phase none coord → busy coord)
    (follows : ∀ endedNs phase report,
      Triple (fun coord => middle phase (some report.callback) coord ∧
          Settled childId report.callback phase coord)
        (afterCallback setup world childId endedNs phase report) (fun _ => busy) fail) :
    Triple (fun coord => busy coord ∧ Chosen setup coord.core childId poll)
      (invokeChild setup world childId poll) (fun _ => busy) fail := by
  refine of_state fun coord ⟨holds, chosen⟩ => ?_
  have unserved : ∀ after, Sees coord.core coord.history after → fail after := by
    intro after sees
    exact fails after (aside coord after holds sees)
  have asking : ∀ {core : Core} {history : List Event} {β : Type} {program : Program β},
      Keeps Aside program → (∀ after, Sees core history after → fail after) →
        Triple (Sees core history) program (fun _ => Sees core history) fail := by
    intro core history β program keeps failing
    refine (keeps.triple ?_).consequence (fun _ => id) (fun _ _ => id) failing
    rintro before after ⟨rfl, rfl⟩ same
    exact same
  refine Triple.bind ((asking (aside_modifyTiming _) unserved).consequence
    (fun _ same => ⟨congrArg _ same, congrArg _ same⟩) (fun _ _ => id) fun _ => id) fun _ => ?_
  refine Triple.bind (asking aside_monotonicNs unserved) fun startedNs => ?_
  refine get_bind fun before sees => ?_
  refine Triple.bind ((triple_serveTurn coord.core coord.history).consequence
    (fun _ same => same ▸ sees) (fun _ _ => id) fun _ => id) fun served => ?_
  refine of_state fun middle ⟨turn, events, serving, seen⟩ => ?_
  have halfway := halves coord turn served.2 events _ holds chosen serving
  refine Triple.bind ((asking aside_monotonicNs halfway).consequence (fun _ same => same ▸ seen)
    (fun _ _ => id) fun _ => id) fun endedNs => ?_
  refine Triple.bind (asking (aside_modifyTiming _) halfway) fun _ => ?_
  cases escaped : served.2 with
  | some error =>
    refine Triple.bind (m := fun _ _ => False) (Triple.throw halfway) fun _ => ?_
    exact of_state fun _ impossible => impossible.elim
  | none =>
    rw [escaped] at serving
    refine triple_followTurn (closedMiddle _ _) serving
      (serves coord turn events _ holds chosen serving) ?_ ?_
    · intro none coord
      rw [none]
      exact quiets turn.phase coord
    · intro report made
      rw [made]
      exact follows endedNs turn.phase report

theorem triple_invokeChild (closed : Closed (Move setup world) busy)
    (serves : ∀ coord turn events callback, busy coord → Chosen setup coord.core childId poll →
      Serving childId (entry setup childId poll (coord.core.slots childId)) (turn, none) events
        callback →
      ∀ after, Sees (followed childId turn coord.core) (events ++ coord.history) after →
        busy after) :
    Triple (fun coord => busy coord ∧ Chosen setup coord.core childId poll)
      (invokeChild setup world childId poll) (fun _ => busy) fail :=
  triple_invokeChild_restores aside fails halves (fun _ _ => closed) serves (fun _ _ => id)
    fun _ _ _ => (triple_afterCallback closed).consequence (fun _ => id) (fun _ _ => id) fails

end

/-! ## A cohort of one -/

/-- The coordinator after operations that all return. -/
def play (setup : Setup) (world : World) (coord : Coord) : List Operation → Option Coord
  | [] => some coord
  | operation :: rest =>
    match operate setup world operation coord with
    | .ok _ after => play setup world after rest
    | .error .. => none

theorem reached_play {coord final : Coord} (reached : Reached setup world coord) :
    ∀ {operations : List Operation}, play setup world coord operations = some final →
      Reached setup world final := by
  intro operations
  induction operations generalizing coord with
  | nil =>
    intro played
    cases played
    exact reached
  | cons operation rest ih =>
    intro played
    unfold play at played
    split at played
    · exact ih (.operated reached ‹_›) played
    · cases played

/-- The run of a new coordinator over the given operations. -/
def playFrom (setup : Setup) (world : World) (registry : List Lease)
    (operations : List Operation) : Option Coord :=
  match start setup world registry with
  | .ok coord => play setup world coord operations
  | .error _ => none

theorem reached_playFrom {registry : List Lease} {operations : List Operation} {final : Coord}
    (played : playFrom setup world registry operations = some final) :
    Reached setup world final := by
  unfold playFrom at played
  split at played
  · exact reached_play (.started ‹_›) played
  · cases played

def loneControl : ControlContract :=
  let contract : ControlContract :=
    { stateFile := "/state"
      agentId := "agent"
      controlTurnId := "turn"
      taskSha256 := textSha256 "task"
      pollIntervalMs := 1000
      allowedActions := allowedActions
      contractSha256 := textSha256 "" }
  { contract with contractSha256 := canonicalSha256 contract.payload }

def loneContract : PoolContract :=
  { sampleContract samplePool with
    children := (sampleContract samplePool).children.map fun child =>
      { child with controlContractSha256 := loneControl.contractSha256 } }

/-- The leases of the child, acquired by the admission before the coordinator exists. -/
def loneLeases : List Lease :=
  (PoolLeases.perform LeaseRelease.sampleEnv [] (.acquireMany loneContract none .repository)).registry

/-- An admitted best-effort pool of one child. -/
def loneSetup : Setup where
  limits := .repository
  contract := loneContract
  controlContracts := fun _ => loneControl
  callbacks := fun _ => requiredCallbacks.map fun name => (name, true)
  taskInputs := fun _ => "task"
  admission := some
    ⟨textSha256 "reservation", textSha256 "dispatch", loneContract.contractSha256, []⟩
  preacquired := fun childId => loneLeases.find? fun lease => lease.childId = childId
  recoveryAuthority := true
  hasStateFile := false
  hasDecisionFile := false
  hasControlFile := false
  valid := by decide +kernel
  released := by decide +kernel
  callable := by
    intro _ entry member
    revert entry
    decide
  controlValid := by decide +kernel
  controlBound := by decide +kernel
  admittedVersion := by decide +kernel
  dispatchBound := by decide +kernel
  preacquiredNone := by intro _ absent; cases absent
  preacquiredLeases := by
    intro _
    have each : ∀ child ∈ loneContract.children,
        ∃ lease ∈ loneLeases.find? (fun lease => lease.childId = child.childId),
          lease.childId = child.childId ∧
            PoolLeases.validateLease (some loneContract) lease = [] ∧
            lease.lifecycleState = .acquired := by decide +kernel
    exact fun child member => each child member

/-- The recovery action that the store consumes for the child. -/
def loneProjection : RecoveryProjection :=
  let projection : RecoveryProjection :=
    { decisionSha256 := textSha256 "decision"
      evidenceSha256 := textSha256 "fault"
      classificationEvidenceSha256 := textSha256 "classification"
      recoveryEvidenceBindingSha256 := textSha256 "binding"
      evidenceKind := FailureClass.individualChildFailure.evidenceKind
      ledgerResultSha256 :=
        if FailureClass.individualChildFailure.evidenceKind =
            "verified-contained-ledger-dispatch" then
          some (textSha256 "ledger")
        else none
      executionBindingSha256 := textSha256 "execution"
      fixedCohortSha256 := textSha256 "cohort"
      recoveryClass := .individualChildFailure
      beadId := sampleBead
      admittedWorkUnitId := sampleUnit
      workUnitId := sampleUnit
      admittedChildSha256 := textSha256 "admitted"
      action := .returnToMainThread
      requiredAuthority := "pm-controller-plus-verified-containment"
      stopScope := "child"
      replacementCount := 0
      constructionAttemptCount := 0
      terminal := true
      consumedRevision := 0
      persistedRevision := 1
      priorStateSha256 := textSha256 "prior"
      persistedStateSha256 := textSha256 "persisted"
      admissionGrade := "provisional-fixed-cohort"
      dispatchAuthorized := false
      auditProjectionSha256 := textSha256 "" }
  { projection with auditProjectionSha256 := projection.auditSha256 }

/-- Evidence that uses up nothing, with or without a protected fault of the child alone. -/
def loneEvidence (fault : Bool) (reasons : List String) : Reply :=
  .returned (.obj
    [("state_sha256", (textSha256 "state").json),
      ("usage", zeroUsage.json),
      ("protected_fault", .bool fault),
      ("control_loss", .bool false),
      ("failure_class",
        if fault then .str FailureClass.individualChildFailure.text else .null),
      ("recovery_evidence_sha256", if fault then (textSha256 "fault").json else .null),
      ("reasons", .strings reasons),
      ("session_disposition", .str "accepted"),
      ("artifact_disposition", .str "accepted")])

/-- The reply of a comparison that finds every workspace clean. -/
def cleanComparison : Reply :=
  let evidence : MutationEvidence := ⟨true, true, true, canonicalSha256 .null⟩
  .returned (.obj
    [("integration_root_clean", .bool true),
      ("shared_read_only_clean", .bool true),
      ("child_worktrees_clean", .bool true),
      ("evidence_sha256", (canonicalSha256 evidence.body).json)])

/-- An adapter that acknowledges everything, with the given answer to a check. -/
def obliging (decision : String) (call : Turn.Call) : Reply :=
  match call.action.callback with
  | .sendInput => .returned (.str "submission")
  | .check => .returned (.str decision)
  | _ => .returned .null

/-- Clean workspaces, a steady clock and an open registry around the only child. -/
def loneWorld (adapter : Turn.Call → Reply) (evidence : Nat → Reply) : World where
  clock tick := .ok (tick * 100000000)
  adapter _ _ call := adapter call
  evidence tick _ := evidence tick
  compare _ _ := cleanComparison
  capability _ := .ok []
  watermark _ := .current
  controlFile _ := .absent
  recovery _ _ _ := .ok loneProjection
  registry _ := LeaseRelease.sampleEnv
  others _ := []
  writeState _ := none
  writeDecision _ := none
  acquireLock _ := none
  releaseLock _ := none

/-- The only child is armed, then the operator interrupts the pool, and the child is interrupted. -/
def loneInterrupt : List Operation :=
  [.step, .step, .requestInterrupt ⟨sampleChild, .child, none⟩, .step]

end WorkOrchestration.Native.Coordinator
