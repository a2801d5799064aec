import Mathlib.Data.List.Pairwise
import WorkOrchestration.Native.PrecommitLeases

/-!
# Exclusive precommit leases

The states that are not closed have sessions and work directories of their own, as long as no call in
a wrong control turn takes a closed state back.
-/

namespace WorkOrchestration.Native.PrecommitLeases

open List Lib.Runs Artifacts PoolContracts Precommit

/-! ## Operations on one state -/

/-- What a state is registered under. -/
structure Place where
  stateFile : String
  sessionFile : String
  workdir : String

def placeOf (state : State) : Place := ⟨state.stateFile, state.sessionFile, state.workdir⟩

section

variable {state after : State} {evidence : Evidence} {controlTurnId : String} {now : Int}

theorem armPrecommit_spec (armed : state.armPrecommit evidence controlTurnId now = .ok after) :
    state.status = .created ∧ placeOf after = placeOf state := by
  obtain ⟨_, _, armed⟩ := bind_ok armed
  by_cases created : state.status = .created
  · rw [if_neg (not_not.mpr created)] at armed
    obtain ⟨_, _, armed⟩ := bind_ok armed
    obtain ⟨_, _, armed⟩ := bind_ok armed
    split at armed
    · cases armed
    obtain ⟨_, _, armed⟩ := bind_ok armed
    obtain ⟨_, _, armed⟩ := bind_ok armed
    split at armed
    · cases armed
    obtain ⟨_, _, armed⟩ := bind_ok armed
    cases armed
    exact ⟨created, rfl⟩
  · rw [if_pos created] at armed
    cases armed

theorem markFitDispatched_spec {submissionId : String}
    (marked : state.markFitDispatched evidence controlTurnId submissionId now = .ok after) :
    state.status = .armed ∧ placeOf after = placeOf state := by
  obtain ⟨armed, ⟨reason, rfl⟩ | ⟨_, rfl⟩⟩ := markFitDispatched_cases marked
  · exact ⟨armed, rfl⟩
  · exact ⟨armed, rfl⟩

theorem placeOf_recordPoll : placeOf (state.recordPoll now) = placeOf state := by
  unfold State.recordPoll
  dsimp only
  split
  · rfl
  split
  · rfl
  · rfl

theorem placeOf_complete (loads : String → Option Json) (records : List Json) :
    placeOf (state.complete loads records) = placeOf state := by
  unfold State.complete
  dsimp only
  split
  · rfl
  · rfl

variable {loads : String → Option Json}

theorem placeOf_read (readable : state.read loads evidence = .ok after) :
    placeOf after = placeOf state := by
  obtain ⟨_, _, readable⟩ := bind_ok readable
  obtain ⟨_, _, readable⟩ := bind_ok readable
  dsimp only at readable
  split at readable
  · cases readable
  obtain ⟨report, _, readable⟩ := bind_ok readable
  cases readable
  unfold State.judge
  dsimp only
  split
  · rfl
  split
  · rfl
  split
  · exact placeOf_complete loads _
  · rfl

/-- The owner is there, and gives another control turn than the recorded one. -/
structure Misdirected (state : State) (evidence : Evidence) (controlTurnId : String) : Prop where
  live : ownerIdentityMatches evidence.host state.ownerIdentity = true
  turn : state.requireControlTurn controlTurnId ≠ .ok ()

theorem requireLiveOwnerIdentity_ok (required : state.requireLiveOwnerIdentity evidence = .ok ()) :
    ownerIdentityMatches evidence.host state.ownerIdentity = true := by
  unfold State.requireLiveOwnerIdentity at required
  split at required
  · assumption
  · cases required

/-- A check keeps what a state is registered under; it changes a closed state only in a wrong control
turn. -/
theorem checkPrecommit_spec
    (checked : state.checkPrecommit loads evidence controlTurnId now = .ok after) :
    placeOf after = placeOf state ∧ (state.status = .closed →
      after = state ∨ Misdirected state evidence controlTurnId) := by
  obtain ⟨_, live, checked⟩ := bind_ok checked
  cases turn : state.requireControlTurn controlTurnId with
  | error error =>
    rw [turn] at checked
    cases checked
    refine ⟨rfl, fun _ => .inr ⟨requireLiveOwnerIdentity_ok live, ?_⟩⟩
    rw [turn]
    intro same
    cases same
  | ok valid =>
    rw [turn] at checked
    dsimp only at checked
    by_cases closed : state.status = .closed
    · rw [if_pos closed] at checked
      cases checked
      exact ⟨rfl, fun _ => .inl rfl⟩
    rw [if_neg closed] at checked
    split at checked
    · cases checked
    obtain ⟨judged, readable, checked⟩ := bind_ok checked
    cases checked
    refine ⟨?_, fun same => absurd same closed⟩
    have polled : placeOf (if state.status = .fitDispatched then state.recordPoll now else state) =
        placeOf state := by
      split
      · exact placeOf_recordPoll
      · rfl
    generalize (if state.status = .fitDispatched then state.recordPoll now else state) = seen
      at readable polled
    have read : placeOf judged = placeOf seen := by
      unfold State.orControlFailed at readable
      cases found : seen.read loads evidence with
      | ok after =>
        rw [found] at readable
        cases readable
        exact placeOf_read found
      | error error =>
        rw [found] at readable
        dsimp only at readable
        split at readable
        · cases readable
          rfl
        · cases readable
    exact read.trans polled

variable {action : ControlAction}

theorem placeOf_received (received : state.received action now = .ok after) :
    placeOf after = placeOf state := by
  cases action with
  | workerCompleted | interruptConfirmed =>
    unfold State.received at received
    dsimp only at received
    split at received
    · cases received
    · cases received
      rfl
  | controlFailed =>
    cases received
    rfl
  | closeConfirmed =>
    obtain ⟨outcome, _, received⟩ := bind_ok received
    cases received
    rfl
  | arm | nativeSendInput | dispatchMarked | deterministicFit => cases received

/-- A finalization keeps what a state is registered under; it changes a closed state only in a wrong
control turn. -/
theorem finalizePrecommit_spec
    (finalized : state.finalizePrecommit evidence controlTurnId action now = .ok after) :
    placeOf after = placeOf state ∧ (state.status = .closed → Misdirected state evidence controlTurnId) := by
  obtain ⟨_, live, finalized⟩ := bind_ok finalized
  cases turn : state.requireControlTurn controlTurnId with
  | error error =>
    rw [turn] at finalized
    cases finalized
    refine ⟨rfl, fun _ => ⟨requireLiveOwnerIdentity_ok live, ?_⟩⟩
    rw [turn]
    intro same
    cases same
  | ok valid =>
    rw [turn] at finalized
    by_cases unknown : action ∉ COMPLETION_ACTIONS
    · rw [if_pos unknown] at finalized
      cases finalized
    rw [if_neg unknown] at finalized
    by_cases closed : state.status = .closed
    · rw [if_pos closed] at finalized
      cases finalized
    rw [if_neg closed] at finalized
    obtain ⟨received, accepted, finalized⟩ := bind_ok finalized
    cases finalized
    have place : placeOf received = placeOf state := placeOf_received accepted
    exact ⟨place, fun same => absurd same closed⟩

theorem checkPrecommit_misdirected (wrong : Misdirected state evidence controlTurnId) :
    state.checkPrecommit loads evidence controlTurnId now =
      .ok (state.setControlFailed "control-turn-mismatch-during-precommit-monitoring" now) := by
  unfold State.checkPrecommit State.requireLiveOwnerIdentity
  rw [if_pos wrong.live]
  cases turn : state.requireControlTurn controlTurnId with
  | error error => rfl
  | ok valid => exact absurd turn wrong.turn

theorem finalizePrecommit_misdirected (wrong : Misdirected state evidence controlTurnId) :
    state.finalizePrecommit evidence controlTurnId action now =
      .ok (state.setControlFailed "control-turn-mismatch-during-precommit-finalization" now) := by
  unfold State.finalizePrecommit State.requireLiveOwnerIdentity
  rw [if_pos wrong.live]
  cases turn : state.requireControlTurn controlTurnId with
  | error error => rfl
  | ok valid => exact absurd turn wrong.turn

end

/-! ## Registration -/

def Lease.place (lease : Lease) : Place := ⟨lease.stateFile, lease.sessionFile, lease.workdir⟩

/-- Neither the session nor any directory is shared. -/
structure Apart (first second : Place) : Prop where
  session : first.sessionFile ≠ second.sessionFile
  workdir : pathsOverlap first.workdir second.workdir = false

theorem Apart.symm {first second : Place} (apart : Apart first second) : Apart second first where
  session := apart.session.symm
  workdir := by
    have disjoint := apart.workdir
    unfold pathsOverlap at disjoint ⊢
    rwa [Bool.or_comm]

namespace Registry

def places (registry : Registry) : List Place := registry.leases.map Lease.place

variable {registry after : Registry} {state : State}

theorem updateLease_ok (updated : registry.updateLease state = .ok after) :
    after.packetIds = registry.packetIds ∧ after.attemptNonces = registry.attemptNonces ∧
      after.places = registry.places := by
  unfold updateLease at updated
  split at updated
  · cases updated
  · cases updated
    refine ⟨rfl, rfl, ?_⟩
    unfold places
    rw [map_map]
    apply map_congr_left
    intro lease _
    dsimp only [Function.comp_apply]
    split
    · rfl
    · rfl

end Registry

section

variable {state : State} {host : Host} {maintained : Bool} {terminal : String → Bool}

/-- An entry that is not terminal is only passed over if it is apart. -/
theorem isRetained_ok {lease : Lease} {closed kept : Bool}
    (retained : lease.isRetained state host maintained closed = .ok kept) :
    closed = true ∨ kept = true ∧ Apart lease.place (placeOf state) := by
  unfold Lease.isRetained at retained
  cases closed with
  | true => exact .inl rfl
  | false =>
    refine .inr ?_
    split at retained
    · rw [if_neg Bool.false_ne_true] at retained
      split at retained
      · cases retained
      · rename_i apart
        cases retained
        obtain ⟨_, apart⟩ := not_or.mp apart
        obtain ⟨session, workdir⟩ := not_or.mp apart
        exact ⟨rfl, session, Bool.eq_false_iff.mpr workdir⟩
    · rw [if_neg Bool.false_ne_true] at retained
      split at retained
      · cases retained
      · rename_i session
        split at retained
        · cases retained
        · rename_i workdir
          cases retained
          exact ⟨rfl, session, Bool.eq_false_iff.mpr workdir⟩

/-- What stays of the leases: all but terminal ones, and what stays is terminal or apart. -/
theorem retainedLeases_ok {leases retained : List Lease}
    (kept : retainedLeases state host maintained terminal leases = .ok retained) :
    retained.Sublist leases ∧ ∀ lease ∈ leases,
      terminal lease.stateFile = true ∨ lease ∈ retained ∧ Apart lease.place (placeOf state) := by
  induction leases generalizing retained with
  | nil =>
    cases kept
    refine ⟨List.Sublist.refl _, ?_⟩
    exact forall_mem_nil _
  | cons first rest ih =>
    obtain ⟨stays, here, kept⟩ := bind_ok kept
    obtain ⟨others, there, kept⟩ := bind_ok kept
    cases kept
    obtain ⟨sublist, each⟩ := ih there
    constructor
    · cases stays with
      | true => exact sublist.cons_cons first
      | false => exact sublist.cons first
    · intro lease member
      rcases mem_cons.mp member with rfl | member
      · rcases isRetained_ok here with closed | ⟨rfl, apart⟩
        · exact .inl closed
        · exact .inr ⟨mem_cons_self, apart⟩
      · rcases each lease member with closed | ⟨stayed, apart⟩
        · exact .inl closed
        · refine .inr ⟨?_, apart⟩
          cases stays with
          | true => exact mem_cons_of_mem _ stayed
          | false => exact stayed

structure Registers (registry : Registry) (state : State) (terminal : String → Bool)
    (after : Registry) : Prop where
  packetId : state.packetId ∉ registry.packetIds
  attemptNonce : state.attemptNonce ∉ registry.attemptNonces
  packetIds : after.packetIds = registry.packetIds ++ [state.packetId]
  attemptNonces : after.attemptNonces = registry.attemptNonces ++ [state.attemptNonce]
  leases : ∃ retained, retained.Sublist registry.leases ∧
    after.leases = retained ++ [Lease.of state] ∧ ∀ lease ∈ registry.leases,
      terminal lease.stateFile = true ∨ lease ∈ retained ∧ Apart lease.place (placeOf state)

theorem register_ok {registry after : Registry} {maintenance : Option Maintenance}
    (registered : registry.register state host maintenance terminal = .ok after) :
    Registers registry state terminal after := by
  obtain ⟨_, _, registered⟩ := bind_ok registered
  by_cases known : state.packetId ∈ registry.packetIds
  · rw [if_pos known] at registered
    cases registered
  rw [if_neg known] at registered
  by_cases used : state.attemptNonce ∈ registry.attemptNonces
  · rw [if_pos used] at registered
    cases registered
  rw [if_neg used] at registered
  obtain ⟨retained, kept, registered⟩ := bind_ok registered
  obtain ⟨_, _, registered⟩ := bind_ok registered
  cases registered
  obtain ⟨sublist, each⟩ := retainedLeases_ok kept
  exact ⟨known, used, rfl, rfl, retained, sublist, rfl, each⟩

end

/-! ## Calls -/

namespace Store

variable {store : Store} {stateFile other : String} {state new : State}

theorem stateFile_of_found (found : store.state? stateFile = some state) :
    state.stateFile = stateFile := by
  have held := find?_some found
  exact of_decide_eq_true held

theorem isClosed_iff : store.isClosed stateFile = true ↔
    ∃ state, store.state? stateFile = some state ∧ state.status = .closed := by
  unfold isClosed
  rw [Option.any_eq_true]
  constructor
  · rintro ⟨state, found, closed⟩
    exact ⟨state, found, of_decide_eq_true closed⟩
  · rintro ⟨state, found, closed⟩
    exact ⟨state, found, decide_eq_true closed⟩

theorem state?_write : (store.write new).state? stateFile =
    if stateFile = new.stateFile then (store.state? stateFile).map fun _ => new
    else store.state? stateFile := by
  unfold state? write
  rw [find?_map]
  have looks : ((fun state : State => decide (state.stateFile = stateFile)) ∘
      fun held => if held.stateFile = new.stateFile then new else held) =
        fun state => decide (state.stateFile = stateFile) := by
    funext held
    dsimp only [Function.comp_apply]
    split
    · rename_i same
      rw [same]
    · rfl
  rw [looks]
  cases found : store.states.find? fun state => decide (state.stateFile = stateFile) with
  | none =>
    split
    · rfl
    · rfl
  | some held =>
    have at' : held.stateFile = stateFile := stateFile_of_found found
    rw [Option.map_some, at']
    split
    · rfl
    · rfl

theorem state?_append : state? { store with states := store.states ++ [new] } stateFile =
    (store.state? stateFile).or (if new.stateFile = stateFile then some new else none) := by
  unfold state?
  rw [find?_append, find?_singleton]
  by_cases same : new.stateFile = stateFile
  · rw [if_pos (decide_eq_true same), if_pos same]
  · rw [if_neg (by rw [decide_eq_false same]; exact Bool.false_ne_true), if_neg same]

theorem update_cases (store : Store) (stateFile : String) (operation : State → Except PyError State) :
    (store.update stateFile operation).1 = store ∨
      ∃ state new, store.state? stateFile = some state ∧ operation state = .ok new ∧
        ∃ registry, (store.update stateFile operation).1 = { store.write new with registry } ∧
          registry.packetIds = store.registry.packetIds ∧
          registry.attemptNonces = store.registry.attemptNonces ∧
          registry.places = store.registry.places := by
  unfold update
  cases found : store.state? stateFile with
  | none => exact .inl rfl
  | some state =>
    dsimp only
    cases computed : operation state with
    | error error => exact .inl rfl
    | ok new =>
      refine .inr ⟨state, new, rfl, computed, ?_⟩
      dsimp only
      cases updated : store.registry.updateLease new with
      | error error => exact ⟨store.registry, rfl, rfl, rfl, rfl⟩
      | ok registry => exact ⟨registry, rfl, Registry.updateLease_ok updated⟩

end Store

namespace Step

/-- A check or a finalization of the state in a file. -/
def Supplies (step : Step) (stateFile : String) (evidence : Evidence) (controlTurnId : String) :
    Prop :=
  (∃ now, step.call = .check stateFile evidence controlTurnId now) ∨
    ∃ action now, step.call = .finalize stateFile evidence controlTurnId action now

/-- A closed state is called in a wrong control turn, while its owner is there. -/
def Reopens (step : Step) : Prop :=
  ∃ stateFile evidence controlTurnId state, step.Supplies stateFile evidence controlTurnId ∧
    step.before.state? stateFile = some state ∧ state.status = .closed ∧
    Misdirected state evidence controlTurnId

def Taken (setting : Setting) (step : Step) : Prop :=
  (step.before.call setting step.call).1 = step.after

structure Writes (step : Step) (state new : State) : Prop where
  found : step.before.state? state.stateFile = some state
  place : placeOf new = placeOf state
  closed : state.status = .closed → new = state ∨ step.Reopens
  after : ∃ registry, step.after = { step.before.write new with registry } ∧
    registry.packetIds = step.before.registry.packetIds ∧
    registry.attemptNonces = step.before.registry.attemptNonces ∧
    registry.places = step.before.registry.places

/-- A step that registers a state, and may write it. -/
structure Enters (step : Step) (state : State) : Prop where
  fresh : step.before.state? state.stateFile = none
  registers : ∃ readable : String → Bool, Registers step.before.registry state
    (fun stateFile => readable stateFile && step.before.isClosed stateFile) step.after.registry
  states : step.after.states = step.before.states ∨
    step.after.states = step.before.states ++ [state]

end Step

open Store (empty isClosed_iff stateFile_of_found)

variable {stateFile : String}

theorem Step.writes_of_update {step : Step}
    {operation : State → Except PyError State}
    (updated : (step.before.update stateFile operation).1 = step.after)
    (spec : ∀ state new, step.before.state? stateFile = some state → operation state = .ok new →
      placeOf new = placeOf state ∧ (state.status = .closed → new = state ∨ step.Reopens)) :
    step.after = step.before ∨ ∃ state new, step.Writes state new := by
  rcases step.before.update_cases stateFile operation with same | ⟨state, new, found, computed,
    after⟩
  · exact .inl (updated.symm.trans same)
  · obtain ⟨place, closed⟩ := spec state new found computed
    rw [updated] at after
    refine .inr ⟨state, new, ?_, place, closed, after⟩
    rw [stateFile_of_found found]
    exact found

variable {setting : Setting}

/-- A step changes nothing, writes a state, or registers one. -/
theorem Step.cases {step : Step} (taken : step.Taken setting) :
    step.after = step.before ∨ (∃ state new, step.Writes state new) ∨
      ∃ state, step.Enters state := by
  unfold Taken at taken
  cases called : step.call with
  | create request evidence maintenance readable written now =>
    rw [called] at taken
    unfold Store.call Store.create at taken
    dsimp only at taken
    split at taken
    · exact .inl taken.symm
    rename_i state created
    split at taken
    · exact .inl taken.symm
    rename_i fresh
    split at taken
    · exact .inl taken.symm
    rename_i registry registered
    refine .inr (.inr ⟨state, fresh, ?_, ?_⟩)
    · refine ⟨readable, ?_⟩
      split at taken
      · rw [← taken]
        exact register_ok registered
      · rw [← taken]
        exact register_ok registered
    · split at taken
      · rw [← taken]
        exact .inl rfl
      · rw [← taken]
        exact .inr rfl
  | arm stateFile evidence controlTurnId now =>
    rw [called] at taken
    refine (writes_of_update taken ?_).imp_right .inl
    intro state new _ armed
    obtain ⟨created, place⟩ := armPrecommit_spec armed
    refine ⟨place, fun closed => ?_⟩
    rw [created] at closed
    cases closed
  | markFitDispatched stateFile evidence controlTurnId submissionId now =>
    rw [called] at taken
    refine (writes_of_update taken ?_).imp_right .inl
    intro state new _ marked
    obtain ⟨armed, place⟩ := markFitDispatched_spec marked
    refine ⟨place, fun closed => ?_⟩
    rw [armed] at closed
    cases closed
  | check stateFile evidence controlTurnId now =>
    rw [called] at taken
    unfold Store.call at taken
    dsimp only at taken
    split at taken
    · exact .inl taken.symm
    refine (writes_of_update taken ?_).imp_right .inl
    intro state new found checked
    obtain ⟨place, closed⟩ := checkPrecommit_spec checked
    refine ⟨place, fun finished => (closed finished).imp_right fun wrong => ?_⟩
    exact ⟨stateFile, evidence, controlTurnId, state, .inl ⟨now, called⟩, found, finished, wrong⟩
  | finalize stateFile evidence controlTurnId action now =>
    rw [called] at taken
    refine (writes_of_update taken ?_).imp_right .inl
    intro state new found finalized
    obtain ⟨place, closed⟩ := finalizePrecommit_spec finalized
    refine ⟨place, fun finished => .inr ?_⟩
    exact ⟨stateFile, evidence, controlTurnId, state, .inr ⟨action, now, called⟩, found, finished,
      closed finished⟩
  | issue stateFile evidence =>
    rw [called] at taken
    exact .inl taken.symm

/-! ## What a call keeps -/

/-- Closed states stay where they are, with their outcome. -/
def KeepsClosed (before after : Store) : Prop :=
  ∀ stateFile state, before.state? stateFile = some state → state.status = .closed →
    ∃ kept, after.state? stateFile = some kept ∧ kept.status = .closed ∧
      kept.closureOutcome = state.closureOutcome

theorem KeepsClosed.isClosed {before after : Store} (keeps : KeepsClosed before after) (closed : before.isClosed stateFile = true) :
    after.isClosed stateFile = true := by
  obtain ⟨state, found, finished⟩ := isClosed_iff.mp closed
  obtain ⟨kept, still, closed, _⟩ := keeps stateFile state found finished
  exact isClosed_iff.mpr ⟨kept, still, closed⟩

/-- Two places are apart unless the state of one is closed. -/
def Settled (store : Store) (first second : Place) : Prop :=
  store.isClosed first.stateFile = true ∨ store.isClosed second.stateFile = true ∨
    Apart first second

instance (store : Store) : Std.Symm (Settled store) where
  symm := by
    rintro first second (closed | closed | apart)
    · exact .inr (.inl closed)
    · exact .inl closed
    · exact .inr (.inr apart.symm)

/-- The leases are apart, and every state that is not closed has one. -/
structure Orderly (store : Store) : Prop where
  apart : store.registry.places.Pairwise (Settled store)
  covered : ∀ stateFile state, store.state? stateFile = some state → state.status ≠ .closed →
    placeOf state ∈ store.registry.places

section

variable {setting : Setting} {step : Step} {state new : State}

theorem Settled.later {before after : Store} (keeps : KeepsClosed before after)
    {first second : Place} (settled : Settled before first second) : Settled after first second := by
  rcases settled with closed | closed | apart
  · exact .inl (keeps.isClosed closed)
  · exact .inr (.inl (keeps.isClosed closed))
  · exact .inr (.inr apart)

theorem Step.Writes.state? (writes : step.Writes state new) (stateFile : String) :
    step.after.state? stateFile = if stateFile = state.stateFile then some new
      else step.before.state? stateFile := by
  obtain ⟨registry, after, _⟩ := writes.after
  have same : new.stateFile = state.stateFile := congrArg Place.stateFile writes.place
  have looked : step.after.state? stateFile = (step.before.write new).state? stateFile := by
    rw [after]
    rfl
  rw [looked, Store.state?_write, same]
  split
  · rename_i here
    rw [here, writes.found]
    rfl
  · rfl

theorem Step.Enters.state? (enters : step.Enters state) {held : State}
    (found : step.after.state? stateFile = some held) :
    step.before.state? stateFile = some held ∨ held = state ∧
      step.before.state? stateFile = none := by
  rcases enters.states with same | added
  · refine .inl ?_
    unfold Store.state? at found ⊢
    rwa [same] at found
  · have looked : step.after.state? stateFile =
        Store.state? { step.before with states := step.before.states ++ [state] } stateFile := by
      unfold Store.state?
      rw [added]
    rw [looked, Store.state?_append] at found
    cases before : step.before.state? stateFile with
    | some earlier =>
      rw [before] at found
      exact .inl found
    | none =>
      rw [before] at found
      split at found
      · cases found
        exact .inr ⟨rfl, rfl⟩
      · cases found

theorem Step.Enters.keeps (enters : step.Enters state) {held : State}
    (found : step.before.state? stateFile = some held) :
    step.after.state? stateFile = some held := by
  rcases enters.states with same | added
  · unfold Store.state? at found ⊢
    rwa [same]
  · have looked : step.after.state? stateFile =
        Store.state? { step.before with states := step.before.states ++ [state] } stateFile := by
      unfold Store.state?
      rw [added]
    rw [looked, Store.state?_append, found, Option.some_or]

theorem Step.keepsClosed (taken : step.Taken setting) (kept : ¬ step.Reopens) :
    KeepsClosed step.before step.after := by
  intro stateFile held found closed
  rcases Step.cases taken with same | ⟨state, new, writes⟩ | ⟨state, enters⟩
  · rw [same]
    exact ⟨held, found, closed, rfl⟩
  · by_cases here : stateFile = state.stateFile
    · have same : held = state := by
        rw [here, writes.found] at found
        exact (Option.some.inj found).symm
      rcases writes.closed (same ▸ closed) with unchanged | reopens
      · refine ⟨held, ?_, closed, rfl⟩
        rw [writes.state?, if_pos here, unchanged, same]
      · exact absurd reopens kept
    · refine ⟨held, ?_, closed, rfl⟩
      rw [writes.state?, if_neg here, found]
  · exact ⟨held, enters.keeps found, closed, rfl⟩

/-- A call that reopens takes a closed state back. -/
theorem Step.not_keepsClosed (taken : step.Taken setting) (reopens : step.Reopens) :
    ¬ KeepsClosed step.before step.after := by
  obtain ⟨stateFile, evidence, controlTurnId, state, supplies, found, closed, wrong⟩ := reopens
  intro keeps
  have failed : ∃ (operation : State → Except PyError State) (reason : String) (now : Int),
      (step.before.update stateFile operation).1 = step.after ∧
        operation state = .ok (state.setControlFailed reason now) := by
    unfold Taken at taken
    rcases supplies with ⟨now, called⟩ | ⟨action, now, called⟩
    · rw [called] at taken
      unfold Store.call at taken
      dsimp only at taken
      rw [found, Option.any_some, decide_eq_false fun rests => wrong.turn rests.2,
        if_neg Bool.false_ne_true] at taken
      exact ⟨_, _, now, taken, checkPrecommit_misdirected wrong⟩
    · rw [called] at taken
      exact ⟨_, _, now, taken, finalizePrecommit_misdirected wrong⟩
  obtain ⟨operation, reason, now, updated, computed⟩ := failed
  have written : step.after.state? stateFile = some (state.setControlFailed reason now) := by
    have at' : (state.setControlFailed reason now).stateFile = stateFile := by
      have same := stateFile_of_found found
      exact same
    have looked : step.after.state? stateFile =
        (step.before.write (state.setControlFailed reason now)).state? stateFile := by
      rw [← updated]
      unfold Store.update
      rw [found]
      dsimp only
      rw [computed]
      dsimp only
      split
      · rfl
      · rfl
    rw [looked, Store.state?_write, if_pos at'.symm, found]
    rfl
  obtain ⟨kept, still, finished, _⟩ := keeps stateFile state found closed
  rw [written] at still
  cases still
  cases finished

/-- A call that keeps closed states closed keeps the leases in order. -/
theorem Orderly.after (taken : step.Taken setting) (keeps : KeepsClosed step.before step.after)
    (orderly : Orderly step.before) : Orderly step.after := by
  rcases Step.cases taken with same | ⟨state, new, writes⟩ | ⟨state, enters⟩
  · rw [same]
    exact orderly
  · obtain ⟨registry, after, _, _, places⟩ := writes.after
    have same : step.after.registry.places = step.before.registry.places := by
      rw [after]
      exact places
    constructor
    case apart =>
      rw [same]
      exact orderly.apart.imp (Settled.later keeps)
    case covered =>
      intro stateFile held found going
      rw [same]
      rw [writes.state?] at found
      split at found
      · cases found
        rw [writes.place]
        apply orderly.covered state.stateFile state writes.found
        intro closed
        obtain ⟨kept, still, finished, _⟩ := keeps state.stateFile state writes.found closed
        rw [writes.state?, if_pos rfl] at still
        cases still
        exact going finished
      · exact orderly.covered stateFile held found going
  · obtain ⟨readable, registers⟩ := enters.registers
    obtain ⟨retained, sublist, leases, each⟩ := registers.leases
    have places : step.after.registry.places = retained.map Lease.place ++ [placeOf state] := by
      unfold Registry.places
      rw [leases, map_append]
      rfl
    constructor
    case apart =>
      rw [places, pairwise_append]
      refine ⟨(orderly.apart.sublist (sublist.map _)).imp (Settled.later keeps),
        pairwise_singleton _ _, ?_⟩
      intro place member other last
      rw [mem_singleton.mp last]
      obtain ⟨lease, stays, rfl⟩ := mem_map.mp member
      rcases each lease (sublist.subset stays) with closed | ⟨_, apart⟩
      · exact .inl (keeps.isClosed (Bool.and_eq_true_iff.mp closed).2)
      · exact .inr (.inr apart)
    case covered =>
      intro stateFile held found going
      rw [places]
      rcases enters.state? found with earlier | ⟨rfl, _⟩
      · refine mem_append_left _ ?_
        obtain ⟨lease, listed, place⟩ := mem_map.mp (orderly.covered stateFile held earlier going)
        rcases each lease listed with closed | ⟨stays, _⟩
        · obtain ⟨other, recorded, finished⟩ :=
            isClosed_iff.mp (Bool.and_eq_true_iff.mp closed).2
          have at' : lease.stateFile = stateFile :=
            (congrArg Place.stateFile place).trans (stateFile_of_found earlier)
          rw [at', earlier] at recorded
          cases recorded
          exact absurd finished going
        · rw [← place]
          exact mem_map_of_mem stays
      · exact mem_append_right _ mem_cons_self

def Step.Identifies (step : Step) (packetId attemptNonce : String) : Prop :=
  step.after.registry.packetIds = step.before.registry.packetIds ++ [packetId] ∧
    step.after.registry.attemptNonces = step.before.registry.attemptNonces ++ [attemptNonce]

/-- No identity is taken out of the registry. -/
def Remembers (before after : Store) : Prop :=
  before.registry.packetIds ⊆ after.registry.packetIds ∧
    before.registry.attemptNonces ⊆ after.registry.attemptNonces

theorem Step.remembers (taken : step.Taken setting) : Remembers step.before step.after := by
  rcases Step.cases taken with same | ⟨state, new, writes⟩ | ⟨state, enters⟩
  · rw [same]
    exact ⟨List.Subset.refl _, List.Subset.refl _⟩
  · obtain ⟨registry, after, packetIds, attemptNonces, _⟩ := writes.after
    rw [after]
    exact ⟨packetIds ▸ List.Subset.refl _, attemptNonces ▸ List.Subset.refl _⟩
  · obtain ⟨readable, registers⟩ := enters.registers
    unfold Remembers
    rw [registers.packetIds, registers.attemptNonces]
    exact ⟨subset_append_left _ _, subset_append_left _ _⟩

/-- An identity that is entered was not there before. -/
theorem Step.Identifies.fresh (taken : step.Taken setting) {packetId attemptNonce : String}
    (identifies : step.Identifies packetId attemptNonce) :
    packetId ∉ step.before.registry.packetIds ∧
      attemptNonce ∉ step.before.registry.attemptNonces := by
  have longer {values : List String} {value : String} (same : values = values ++ [value]) : False :=
    cons_ne_nil _ _ (self_eq_append_right.mp same)
  rcases Step.cases taken with same | ⟨state, new, writes⟩ | ⟨state, enters⟩
  · have entered := identifies.1
    rw [same] at entered
    exact (longer entered).elim
  · obtain ⟨registry, after, packetIds, _⟩ := writes.after
    have entered := identifies.1
    rw [after] at entered
    exact (longer (packetIds.symm.trans entered)).elim
  · obtain ⟨readable, registers⟩ := enters.registers
    have packet := append_cancel_left (registers.packetIds.symm.trans identifies.1)
    have nonce := append_cancel_left (registers.attemptNonces.symm.trans identifies.2)
    cases packet
    cases nonce
    exact ⟨registers.packetId, registers.attemptNonce⟩

end

/-! ## Runs -/

/-- The states that are not closed are apart, and so are the leases of states that are not closed. -/
structure Exclusive (store : Store) : Prop where
  states : ∀ stateFile other first second, stateFile ≠ other →
    store.state? stateFile = some first → store.state? other = some second →
      first.status ≠ .closed → second.status ≠ .closed → Apart (placeOf first) (placeOf second)
  leases : store.registry.leases.Pairwise fun first second =>
    store.isClosed first.stateFile = false → store.isClosed second.stateFile = false →
      Apart first.place second.place

variable {store : Store}

theorem Orderly.exclusive (orderly : Orderly store) : Exclusive store := by
  constructor
  case states =>
    intro stateFile other first second different foundFirst foundSecond goingFirst goingSecond
    have distinct : placeOf first ≠ placeOf second := by
      intro same
      apply different
      rw [← stateFile_of_found foundFirst, ← stateFile_of_found foundSecond]
      exact congrArg Place.stateFile same
    have going {file : String} {state : State} (found : store.state? file = some state)
        (open' : state.status ≠ .closed) : store.isClosed state.stateFile ≠ true := by
      intro closed
      obtain ⟨held, recorded, finished⟩ := isClosed_iff.mp closed
      rw [stateFile_of_found found, found] at recorded
      cases recorded
      exact open' finished
    rcases orderly.apart.forall (orderly.covered stateFile first foundFirst goingFirst)
      (orderly.covered other second foundSecond goingSecond) distinct with closed | closed | apart
    · exact absurd closed (going foundFirst goingFirst)
    · exact absurd closed (going foundSecond goingSecond)
    · exact apart
  case leases =>
    apply (pairwise_map.mp orderly.apart).imp
    intro first second settled openFirst openSecond
    rcases settled with closed | closed | apart
    · exact absurd (openFirst.symm.trans closed) Bool.false_ne_true
    · exact absurd (openSecond.symm.trans closed) Bool.false_ne_true
    · exact apart

theorem run_taken {calls : List Call} :
    ∀ step ∈ run setting store calls, step.Taken setting := by
  induction calls generalizing store with
  | nil =>
    exact forall_mem_nil _
  | cons call rest ih =>
    exact forall_mem_cons.mpr ⟨rfl, ih⟩

theorem run_linked {calls : List Call} :
    Linked Step.before Step.after store (run setting store calls) := by
  induction calls generalizing store with
  | nil => exact True.intro
  | cons call rest ih => exact ⟨rfl, ih⟩

theorem orderly_empty : Orderly empty where
  apart := List.Pairwise.nil
  covered := by
    intro stateFile state absent
    cases absent

theorem run_identifies_once (setting : Setting) (calls : List Call) :
    (run setting empty calls).Pairwise fun earlier later =>
      ∀ packetId attemptNonce laterPacketId laterAttemptNonce,
        earlier.Identifies packetId attemptNonce →
          later.Identifies laterPacketId laterAttemptNonce →
            packetId ≠ laterPacketId ∧ attemptNonce ≠ laterAttemptNonce := by
  have linked : Linked Step.before Step.after empty (run setting empty calls) :=
    run_linked
  have kept := @Linked.pairwise Store Step _ _ _ _ Remembers linked
    (fun _ => ⟨List.Subset.refl _, List.Subset.refl _⟩)
    (fun first second => ⟨List.Subset.trans first.1 second.1, List.Subset.trans first.2 second.2⟩)
    (fun step member => Step.remembers (run_taken step member))
  refine kept.imp_of_mem ?_
  intro earlier later _ member remembers packetId attemptNonce laterPacketId laterAttemptNonce
    first second
  obtain ⟨freshPacket, freshNonce⟩ := second.fresh (run_taken later member)
  constructor
  · rintro rfl
    apply freshPacket
    apply remembers.1
    rw [first.1]
    exact mem_append_right _ mem_cons_self
  · rintro rfl
    apply freshNonce
    apply remembers.2
    rw [first.2]
    exact mem_append_right _ mem_cons_self

/-- Closed states stay closed, no identity is entered twice, and what is not closed is exclusive. -/
structure LeaseSafe (steps : List Step) : Prop where
  closed : ∀ step ∈ steps, KeepsClosed step.before step.after
  once : steps.Pairwise fun earlier later =>
    ∀ packetId attemptNonce laterPacketId laterAttemptNonce,
      earlier.Identifies packetId attemptNonce → later.Identifies laterPacketId laterAttemptNonce →
          packetId ≠ laterPacketId ∧ attemptNonce ≠ laterAttemptNonce
  exclusive : ∀ step ∈ steps, Exclusive step.before ∧ Exclusive step.after

/-- Runs are safe exactly when no live owner calls a closed state in a wrong control turn. -/
theorem lease_safe_iff (setting : Setting) (calls : List Call) :
    LeaseSafe (run setting empty calls) ↔
      ∀ step ∈ run setting empty calls, ¬ step.Reopens := by
  constructor
  · intro safe step member reopens
    exact Step.not_keepsClosed (run_taken step member) reopens (safe.closed step member)
  · intro kept
    have keeps (step : Step) (member : step ∈ run setting empty calls) :
        KeepsClosed step.before step.after :=
      Step.keepsClosed (run_taken step member) (kept step member)
    have linked : Linked Step.before Step.after empty (run setting empty calls) :=
      run_linked
    have orderly := linked.invariant
      (fun step member => Orderly.after (run_taken step member) (keeps step member)) orderly_empty
    refine ⟨keeps, run_identifies_once setting calls, ?_⟩
    intro step member
    obtain ⟨before, after⟩ := orderly step member
    exact ⟨before.exclusive, after.exclusive⟩

/-! ## A closed state that is taken back -/

def sampleEvidence : Evidence where
  host := ⟨fun _ => .ok ⟨1, 1, 1⟩, .ok "boot"⟩
  session := .ok [.obj [("type", .str "session_meta"), ("payload", .obj [("id", .str "session")])],
      .obj [("type", .str "turn_context"), ("payload", .obj [("model", .str "gpt-5.3-codex-spark"),
        ("attestation_source", .str TRUSTED_ATTESTATION_SOURCE)])]]
  workspace := .ok ⟨["."], [], [], true, [], [], false⟩

/-- The dispatch fails, the interrupt is confirmed and the state is closed; then it is checked with
another control turn. -/
def sampleCalls : List Call :=
  [.create
      { stateId := "state", stateFile := "/state", packetId := "packet", attemptNonce := "nonce"
        sessionId := "session", sessionFile := "/session", workdir := "/work"
        requestedModel := "gpt-5.3-codex-spark", ownerPid := 1, executionHandle := "handle"
        admission := .ok () } sampleEvidence none (fun _ => true) (.ok ()) 0,
    .arm "/state" sampleEvidence "turn" 0,
    .markFitDispatched "/state" sampleEvidence "other" "fit" 0,
    .finalize "/state" sampleEvidence "turn" .interruptConfirmed 0,
    .finalize "/state" sampleEvidence "turn" .closeConfirmed 0,
    .check "/state" sampleEvidence "other" 0]

theorem closed_state_taken_back :
    ¬ ∀ (setting : Setting) (calls : List Call), LeaseSafe (run setting empty calls) := by
  intro claimed
  have safe := claimed ⟨⟨["gpt-5.3-codex-spark"], 1000, 500, 5000⟩, fun _ => none⟩ sampleCalls
  have reopened : (run ⟨⟨["gpt-5.3-codex-spark"], 1000, 500, 5000⟩, fun _ => none⟩ empty
      sampleCalls).any (fun step => step.before.isClosed "/state" &&
        !step.after.isClosed "/state") = true := by decide
  obtain ⟨step, member, taken⟩ := any_eq_true.mp reopened
  obtain ⟨closed, gone⟩ := Bool.and_eq_true_iff.mp taken
  rw [(safe.closed step member).isClosed closed] at gone
  cases gone

end WorkOrchestration.Native.PrecommitLeases
