import WorkOrchestration.Native.LeaseRelease

/-!
# Uncommitted leases

`acquire_many` and `release_uncommitted_many` replace the stored list as a whole or leave it alone. Taking
an acquisition back drops its leases and nothing else, and is refused once one of them is no longer stored
as acquired.
-/

namespace WorkOrchestration.Native.UncommittedLeases

open List Lib.Checks Lib.Text Lib.Exclusion Artifacts PoolContracts PoolStates
open PoolLeases LeaseExclusivity LeaseRelease

/-- The write raises a `PoolLeaseError`, `OSError` or `ValueError` if at all, and so does undoing it. -/
def Caught : WriteOutcome → Prop
  | .written => True
  | .failed error _ .restored =>
    error.isLeaseError = true ∨ error.error.kind = .os ∨ error.error.kind = .value
  | .failed error _ (.failed failure _) =>
    (error.isLeaseError = true ∨ error.error.kind = .os ∨ error.error.kind = .value) ∧
      (failure.kind = .os ∨ failure.kind = .value)

/-- The write had replaced the file, and the previous file could not be put back. -/
def Stuck : WriteOutcome → Prop
  | .failed _ true (.failed _ false) => True
  | _ => False

/-- What a call that raises may leave: the list it found, unless undoing the write failed as well. -/
def Undone (write : WriteOutcome) (before after : List Lease) (error : RegistryError) : Prop :=
  after = before ∨ Stuck write ∧ error = leaseError "lease-registry-rollback-failed"

variable {error : RegistryError} {α : Type}

theorem undone_writeOrRestore {write : WriteOutcome} (caught : Caught write)
    {previous next : List Lease} {result : α}
    (raised : (writeOrRestore write previous next result).result = .error error) :
    Undone write previous (writeOrRestore write previous next result).registry error := by
  cases write with
  | written => cases raised
  | failed first replaced rollback =>
    cases rollback with
    | restored =>
      have handled : first.isLeaseError = true ∨ first.error.kind = .os ∨
          first.error.kind = .value := caught
      rw [writeOrRestore, if_pos handled]
      exact .inl rfl
    | failed failure restoredAnyway =>
      obtain ⟨firstCaught, second⟩ := caught
      rw [writeOrRestore, if_pos firstCaught] at raised ⊢
      cases restoredAnyway with
      | true => exact .inl rfl
      | false =>
        cases replaced with
        | false => exact .inl rfl
        | true =>
          rw [if_pos second] at raised
          cases raised
          exact .inr ⟨trivial, rfl⟩

variable {env : RegistryEnv} {registry : List Lease}

theorem undone_locked {act : Outcome α}
    (raised : (locked env registry act).result = .error error)
    (undone : act.result = .error error → Undone env.write registry act.registry error) :
    Undone env.write registry (locked env registry act).registry error := by
  unfold locked at raised ⊢
  split at raised
  · exact .inl rfl
  · exact undone raised

variable {contract : PoolContract} {limits : CapacityLimits}

theorem undone_acquireMany (caught : Caught env.write) {childIds : Option (List String)}
    (raised : (acquireMany env registry contract childIds limits).result = .error error) :
    Undone env.write registry (acquireMany env registry contract childIds limits).registry error := by
  revert raised
  unfold acquireMany
  extract_lets contractErrors requested
  by_cases invalid : contractErrors ≠ []
  · rw [if_pos invalid]
    exact fun _ => .inl rfl
  rw [if_neg invalid]
  by_cases unfit : requested = [] ∨ "" ∈ requested ∨ ¬ requested.Nodup
  · rw [if_pos unfit]
    exact fun _ => .inl rfl
  rw [if_neg unfit]
  cases env.now with
  | error failure => exact fun _ => .inl rfl
  | ok now =>
    simp only
    cases requestedLeases contract now requested with
    | error failure => exact fun _ => .inl rfl
    | ok leases =>
      refine fun raised => undone_locked raised ?_
      cases reclassify env.ownerAlive now 0 registry with
      | error failure => exact fun _ => .inl rfl
      | ok current =>
        simp only
        cases stage current leases with
        | error failure => exact fun _ => .inl rfl
        | ok staged => exact undone_writeOrRestore caught

variable {acquired : List Lease}

theorem undone_releaseUncommittedMany (caught : Caught env.write)
    (raised : (releaseUncommittedMany env registry contract acquired limits).result = .error error) :
    Undone env.write registry
      (releaseUncommittedMany env registry contract acquired limits).registry error := by
  revert raised
  unfold releaseUncommittedMany
  extract_lets contractErrors suppliedIds current retained
  by_cases invalid : contractErrors ≠ []
  · rw [if_pos invalid]
    exact fun _ => .inl rfl
  rw [if_neg invalid]
  by_cases mismatch : acquired.map Lease.childId ≠ contract.childIds
  · rw [if_pos mismatch]
    exact fun _ => .inl rfl
  rw [if_neg mismatch]
  by_cases unsuitable : ∃ lease ∈ acquired,
      validateLease (some contract) lease ≠ [] ∨ lease.lifecycleState ≠ .acquired
  · rw [if_pos unsuitable]
    exact fun _ => .inl rfl
  rw [if_neg unsuitable]
  by_cases duplicate : ¬ suppliedIds.Nodup
  · rw [if_pos duplicate]
    exact fun _ => .inl rfl
  rw [if_neg duplicate]
  refine fun raised => undone_locked raised ?_
  by_cases drift : ¬ (current ⊆ acquired ∧ acquired ⊆ current)
  · rw [if_pos drift]
    exact fun _ => .inl rfl
  rw [if_neg drift]
  exact undone_writeOrRestore caught

/-! ## What an acquisition stores -/

/-- `ids` unique and every lease valid: what `_load_unlocked` accepts. -/
structure Loadable (registry : List Lease) : Prop where
  valid : ∀ lease ∈ registry, validateLease none lease = []
  distinct : (registry.map Lease.leaseId).Nodup

theorem loadErrors_eq_none : loadErrors registry = none ↔ Loadable registry := by
  unfold loadErrors
  constructor
  · intro loads
    split at loads
    · cases loads
    · rename_i allValid
      have valid : ∀ lease ∈ registry, validateLease none lease = [] := by
        simpa using find?_eq_none.mp allValid
      split_ifs at loads with distinct
      exact ⟨valid, distinct⟩
  · intro loadable
    have allValid : registry.find? (fun lease => validateLease none lease ≠ []) = none := by
      simpa using loadable.valid
    rw [allValid]
    exact if_pos loadable.distinct

/-- The stored lease after the first loop of `acquire_many`. -/
def orphanOf (now : Int) (alive : Bool) (lease : Lease) : Lease :=
  if alive = false ∧ (lease.lifecycleState = .acquired ∨ lease.lifecycleState = .held) then
    Lease.sealed { lease with
        lifecycleState := .orphanedActive
        updatedAt := now
        terminalEvidenceSha256 := none
        releaseReason := none }
  else lease

variable {lifecycleState : LeaseState}

theorem reclassifiable_iff :
    (lifecycleState.isActive = true ∧ lifecycleState.isReclassifiable = true) ↔
      lifecycleState = .acquired ∨ lifecycleState = .held := by
  cases lifecycleState <;> decide

variable {current updated : Lease} {evidence : Option Digest} {reason : Option String}

variable {code : String}

theorem prepared_eq {orphan : Bool} {updatedAt : Except RegistryError Int}
    (prepared : prepareTransition current lifecycleState evidence reason orphan updatedAt code =
      .ok (some updated)) :
    validateLease none updated = [] ∧ ∃ time, updatedAt = .ok time ∧ updated = Lease.sealed
          { current with
            lifecycleState := lifecycleState
            updatedAt := time
            terminalEvidenceSha256 := evidence
            releaseReason := reason } := by
  unfold prepareTransition at prepared
  split_ifs at prepared
  · cases prepared
  · split at prepared
    · cases prepared
    · rename_i time
      simp only at prepared
      split_ifs at prepared with invalid
      cases prepared
      exact ⟨Decidable.not_not.mp invalid, time, rfl, rfl⟩

theorem prepared_orphan {result : Option Lease} {time : Int}
    (prepared : prepareTransition current .orphanedActive none none true (.ok time) code =
      .ok result) : ∃ updated, result = some updated := by
  cases result with
  | some updated => exact ⟨updated, rfl⟩
  | none =>
    unfold prepareTransition at prepared
    split_ifs at prepared with idempotent
    · rw [idempotent.1] at idempotent
      exact absurd idempotent.2 (by decide)
    · simp only at prepared
      split_ifs at prepared
      cases prepared

variable {result : List Lease} {now : Int} {index : Nat}

theorem reclassify_eq {ownerAlive : Nat → Bool}
    (done : reclassify ownerAlive now index registry = .ok result) :
    result = registry.mapIdx fun offset => orphanOf now (ownerAlive (index + offset)) := by
  induction registry generalizing index result with
  | nil =>
    cases done
    rfl
  | cons lease rest ih =>
    simp only [reclassify] at done
    split at done
    · cases done
    · rename_i updated reclassified
      split at done
      · cases done
      · rename_i leases later
        cases done
        have shifted : ∀ offset, index + 1 + offset = index + (offset + 1) := by
          omega
        rw [mapIdx_cons, ih later]
        simp only [shifted, List.cons.injEq, and_true]
        split_ifs at reclassified with dead
        · obtain ⟨stored, rfl⟩ := prepared_orphan reclassified
          obtain ⟨_, time, sameTime, rfl⟩ := prepared_eq reclassified
          cases sameTime
          exact (if_pos ⟨dead.2.1, reclassifiable_iff.mp ⟨dead.1, dead.2.2⟩⟩).symm
        · cases reclassified
          refine (if_neg fun orphaned => dead ?_).symm
          have both := reclassifiable_iff.mpr orphaned.2
          exact ⟨both.1, orphaned.1, both.2⟩

/-- The leases asked for are those of the named children, in the order of the names. -/
def Requested (contract : PoolContract) (now : Int) (requested : List String)
    (leases : List Lease) : Prop :=
  List.Forall₂ (fun childId lease =>
      ∃ child ∈ contract.children, child.childId.text = childId ∧
        lease = requestedLease contract child now)
    requested leases

variable {leases : List Lease}

theorem requested_of_requestedLeases {requested : List String}
    (built : requestedLeases contract now requested = .ok leases) :
    Requested contract now requested leases ∧
      ∀ lease ∈ leases, validateLease (some contract) lease = [] := by
  induction requested generalizing leases with
  | nil =>
    cases built
    exact ⟨.nil, fun _ member => absurd member not_mem_nil⟩
  | cons childId rest ih =>
    unfold requestedLeases at built
    split at built
    · cases built
    · rename_i child found
      simp only at built
      split_ifs at built with invalid
      split at built
      · cases built
      · rename_i later others
        cases built
        obtain ⟨inOrder, valid⟩ := ih others
        have named : child.childId.text = childId := by simpa using find?_some found
        refine ⟨.cons ⟨child, mem_of_find?_eq_some found, named, rfl⟩ inOrder, ?_⟩
        exact forall_mem_cons.mpr ⟨Decidable.not_not.mp invalid, valid⟩

theorem Requested.childIds {requested : List String}
    (inOrder : Requested contract now requested leases) :
    leases.map (fun lease => lease.childId.text) = requested := by
  induction inOrder with
  | nil => rfl
  | cons first _ ih =>
    obtain ⟨child, _, named, rfl⟩ := first
    rw [map_cons, ih, ← named]
    rfl

theorem valid_of_contract {lease : Lease} (valid : validateLease (some contract) lease = []) :
    validateLease none lease = [] := by
  simp only [validateLease, append_eq_nil_iff] at valid ⊢
  obtain ⟨⟨⟨⟨⟨paths, owner⟩, times⟩, lifecycle⟩, _⟩, digest⟩ := valid
  exact ⟨⟨⟨⟨⟨paths, owner⟩, times⟩, lifecycle⟩, trivial⟩, digest⟩

theorem loadable_stage {requested staged : List Lease} (loadable : Loadable staged)
    (valid : ∀ lease ∈ requested, validateLease none lease = [])
    (accepted : stage staged requested = .ok result) : Loadable result := by
  induction requested generalizing staged with
  | nil =>
    cases accepted
    exact loadable
  | cons lease rest ih =>
    unfold stage at accepted
    split at accepted
    · cases accepted
    · rename_i free
      refine ih ⟨fun other member => ?_, ?_⟩ (forall_mem_cons.mp valid).2 accepted
      · rcases mem_append.mp member with earlier | new
        · exact loadable.valid other earlier
        · rw [mem_singleton.mp new]
          exact valid lease mem_cons_self
      · rw [map_append, map_singleton, ← concat_eq_append, nodup_concat]
        refine ⟨fun taken => ?_, loadable.distinct⟩
        obtain ⟨existing, member, same⟩ := mem_map.mp taken
        exact (collision_eq_none (findSome?_eq_none_iff.mp free existing member)).1 same

/-- Everything that a successful acquisition has gone through. -/
structure Acquires (env : RegistryEnv) (registry : List Lease) (contract : PoolContract)
    (childIds : Option (List String)) (limits : CapacityLimits) (leases : List Lease) : Prop where
  contractValid : validatePoolContract limits contract = []
  loadable : Loadable registry
  stored : ∃ now current, env.now = .ok now ∧
    requestedLeases contract now (childIds.getD (contract.childIds.map Name.text)) = .ok leases ∧
    reclassify env.ownerAlive now 0 registry = .ok current ∧
    stage current leases = .ok (current ++ leases) ∧
    (acquireMany env registry contract childIds limits).registry = current ++ leases

theorem locked_ok {act : Outcome α} {result : α}
    (returned : (locked env registry act).result = .ok result) :
    env.accessError = none ∧ Loadable registry ∧ locked env registry act = act := by
  unfold locked at returned ⊢
  split at returned
  · cases returned
  · rename_i accessible
    obtain ⟨access, loads⟩ := Option.or_eq_none_iff.mp accessible
    exact ⟨access, loadErrors_eq_none.mp loads, rfl⟩

theorem writeOrRestore_ok {write : WriteOutcome} {previous next : List Lease}
    {result returned : α} (written : (writeOrRestore write previous next result).result = .ok returned) :
    returned = result ∧ (writeOrRestore write previous next result).registry = next := by
  cases write with
  | written =>
    cases written
    exact ⟨rfl, rfl⟩
  | failed error replaced rollback =>
    simp only [writeOrRestore] at written
    split at written
    · cases rollback <;> cases written
    · cases written

theorem acquires_of_ok {childIds : Option (List String)}
    (accepted : (acquireMany env registry contract childIds limits).result = .ok leases) :
    Acquires env registry contract childIds limits leases := by
  revert accepted
  suffices inverted : ∀ after, acquireMany env registry contract childIds limits = after →
      after.result = .ok leases → validatePoolContract limits contract = [] ∧ Loadable registry ∧
        ∃ now current, env.now = .ok now ∧
          requestedLeases contract now (childIds.getD (contract.childIds.map Name.text)) =
            .ok leases ∧
          reclassify env.ownerAlive now 0 registry = .ok current ∧
          stage current leases = .ok (current ++ leases) ∧ after.registry = current ++ leases by
    intro accepted
    obtain ⟨valid, loadable, stored⟩ := inverted _ rfl accepted
    exact ⟨valid, loadable, stored⟩
  unfold acquireMany
  extract_lets contractErrors requested
  by_cases invalid : contractErrors ≠ []
  · rw [if_pos invalid]
    rintro after rfl accepted
    cases accepted
  rw [if_neg invalid]
  by_cases unfit : requested = [] ∨ "" ∈ requested ∨ ¬ requested.Nodup
  · rw [if_pos unfit]
    rintro after rfl accepted
    cases accepted
  rw [if_neg unfit]
  rintro after entered accepted
  split at entered
  · subst entered
    cases accepted
  rename_i now clock
  split at entered
  · subst entered
    cases accepted
  rename_i built asked
  subst entered
  obtain ⟨_, loadable, entered⟩ := locked_ok accepted
  rw [entered] at accepted ⊢
  split at accepted
  · cases accepted
  rename_i current reclassified
  split at accepted
  · cases accepted
  rename_i staged accepting
  obtain ⟨rfl, after⟩ := writeOrRestore_ok accepted
  obtain rfl := stage_eq_append accepting
  exact ⟨Decidable.not_not.mp invalid, loadable, now, current, clock, asked, reclassified, accepting,
    after⟩

/-! ## What other clients can do in between -/

/-- A replaced lease keeps its id, is valid, and is acquired only if it was before. -/
structure Succeeds (before after : Lease) : Prop where
  sameId : after.leaseId = before.leaseId
  valid : validateLease none before = [] → validateLease none after = []
  acquired : after.lifecycleState = .acquired → before.lifecycleState = .acquired

theorem Succeeds.refl (lease : Lease) : Succeeds lease lease := ⟨rfl, id, id⟩

theorem succeeds_prepareTransition {orphan : Bool} {updatedAt : Except RegistryError Int}
    (prepared : prepareTransition current lifecycleState evidence reason orphan updatedAt code =
      .ok (some updated)) (left : lifecycleState ≠ .acquired) : Succeeds current updated := by
  obtain ⟨valid, time, _, rfl⟩ := prepared_eq prepared
  exact ⟨rfl, fun _ => valid, fun acquired => absurd acquired left⟩

theorem succeeds_cleanLease {states : Name → Option PoolState} {lease : Lease}
    (cleaned : cleanLease env states index lease = .ok (some updated)) :
    Succeeds lease updated := by
  unfold cleanLease at cleaned
  split at cleaned
  · cases cleaned
  · split at cleaned
    · exact succeeds_prepareTransition cleaned LeaseState.noConfusion
    · exact succeeds_prepareTransition cleaned LeaseState.noConfusion
    · split at cleaned
      · exact succeeds_prepareTransition cleaned LeaseState.noConfusion
      · cases cleaned

theorem loadable_succeeds {before after : List Lease} (loadable : Loadable before)
    (succeeds : List.Forall₂ Succeeds before after) : Loadable after := by
  have sameIds : after.map Lease.leaseId = before.map Lease.leaseId := by
    clear loadable
    induction succeeds with
    | nil => rfl
    | cons first _ ih => rw [map_cons, map_cons, first.sameId, ih]
  refine ⟨?_, sameIds ▸ loadable.distinct⟩
  have valid := loadable.valid
  clear loadable sameIds
  induction succeeds with
  | nil => exact valid
  | cons first _ ih =>
    rw [forall_mem_cons] at valid ⊢
    exact ⟨first.valid valid.1, ih valid.2⟩

/-- The lease is stored, and it is past `acquired`. -/
def Spent (leaseId : Name) (registry : List Lease) : Prop :=
  ∃ lease ∈ registry, lease.leaseId = leaseId ∧ lease.lifecycleState ≠ .acquired

instance (leaseId : Name) (registry : List Lease) : Decidable (Spent leaseId registry) :=
  inferInstanceAs (Decidable (∃ lease ∈ registry, _))

theorem spent_succeeds {leaseId : Name} {before after : List Lease} (spent : Spent leaseId before)
    (succeeds : List.Forall₂ Succeeds before after) : Spent leaseId after := by
  obtain ⟨lease, member, named, past⟩ := spent
  induction succeeds with
  | nil => exact absurd member not_mem_nil
  | @cons old new olds news first _ ih =>
    rcases mem_cons.mp member with rfl | later
    · exact ⟨new, mem_cons_self, first.sameId.trans named, fun acquired =>
        past (first.acquired acquired)⟩
    · obtain ⟨other, inNews, rest⟩ := ih later
      exact ⟨other, mem_cons_of_mem _ inNews, rest⟩

theorem succeeds_moved {call : Call} {leaseId : Name}
    (asks : Asks call leaseId lifecycleState evidence reason)
    (distinct : (registry.map Lease.leaseId).Nodup)
    (found : registry.find? (fun lease => lease.leaseId = leaseId) = some current)
    (prepared : prepareTransition current lifecycleState evidence reason false env.now
      "lease-transition-invalid" = .ok (some updated)) :
    List.Forall₂ Succeeds registry
      (registry.map fun lease => if lease.leaseId = leaseId then updated else lease) := by
  have left : lifecycleState ≠ .acquired := by
    cases asks <;> exact LeaseState.noConfusion
  exact forall₂_replace Succeeds.refl distinct found (succeeds_prepareTransition prepared left)

/-- The step lemma: a call keeps a registry loadable and brings no spent lease back. -/
theorem kept_perform (loadable : Loadable registry) (call : Call) :
    Loadable (perform env registry call).registry ∧
      ∀ leaseId, Spent leaseId registry → Spent leaseId (perform env registry call).registry := by
  have leaves := leaves_perform env registry call
  generalize (perform env registry call).registry = result at leaves
  cases leaves with
  | unchanged => exact ⟨loadable, fun _ => id⟩
  | acquired built reclassified accepted =>
    have succeeds := forall₂_reclassify Succeeds.refl
      (fun prepared => succeeds_prepareTransition prepared LeaseState.noConfusion) reclassified
    have valid := (requested_of_requestedLeases built).2
    refine ⟨loadable_stage (loadable_succeeds loadable succeeds)
      (fun lease member => valid_of_contract (valid lease member)) accepted, fun leaseId spent => ?_⟩
    obtain ⟨lease, member, rest⟩ := spent_succeeds spent succeeds
    rw [stage_eq_append accepted]
    exact ⟨lease, mem_append_left _ member, rest⟩
  | uncommitted unused supplied =>
    refine ⟨⟨fun lease member => loadable.valid lease (mem_of_mem_filter member),
      loadable.distinct.sublist (filter_sublist.map _)⟩, ?_⟩
    rintro leaseId ⟨lease, member, named, past⟩
    refine ⟨lease, mem_filter.mpr ⟨member, decide_eq_true fun inSupplied => ?_⟩, named, past⟩
    exact past (unused lease (supplied lease member inSupplied))
  | moved asks distinct found prepared =>
    have succeeds := succeeds_moved asks distinct found prepared
    exact ⟨loadable_succeeds loadable succeeds, fun _ spent => spent_succeeds spent succeeds⟩
  | cleaned collected =>
    have succeeds := forall₂_cleanLeases Succeeds.refl succeeds_cleanLease collected
    exact ⟨loadable_succeeds loadable succeeds, fun _ spent => spent_succeeds spent succeeds⟩

theorem kept_performAll (loadable : Loadable registry) (history : History) :
    Loadable (performAll registry history) ∧
      ∀ leaseId, Spent leaseId registry → Spent leaseId (performAll registry history) := by
  induction history generalizing registry with
  | nil => exact ⟨loadable, fun _ => id⟩
  | cons entry rest ih =>
    have first := @kept_perform entry.1 _ loadable entry.2
    have later := ih first.1
    exact ⟨later.1, fun leaseId spent => later.2 leaseId (first.2 leaseId spent)⟩

/-! ## Taking an acquisition back -/

theorem release_refused (drifted : ∃ lease ∈ acquired, lease ∉ registry) :
    ∃ error, releaseUncommittedMany env registry contract acquired limits =
      .refused registry error := by
  unfold releaseUncommittedMany
  extract_lets contractErrors suppliedIds current retained
  split
  · exact ⟨_, rfl⟩
  split
  · exact ⟨_, rfl⟩
  split
  · exact ⟨_, rfl⟩
  split
  · exact ⟨_, rfl⟩
  have drift : ¬ (current ⊆ acquired ∧ acquired ⊆ current) := by
    rintro ⟨_, stored⟩
    obtain ⟨lease, member, missing⟩ := drifted
    exact missing (mem_of_mem_filter (stored member))
  rw [if_pos drift, locked]
  split
  · exact ⟨_, rfl⟩
  · exact ⟨_, rfl⟩

theorem release_mismatch (mismatch : acquired.map Lease.childId ≠ contract.childIds) :
    ∃ error, releaseUncommittedMany env registry contract acquired limits =
      .refused registry error := by
  unfold releaseUncommittedMany
  extract_lets contractErrors suppliedIds current retained
  by_cases invalid : contractErrors ≠ []
  · exact ⟨_, if_pos invalid⟩
  · rw [if_neg invalid, if_pos mismatch]
    exact ⟨_, rfl⟩

/-- The acquired leases of a whole cohort, all of them still stored, are dropped and nothing else. -/
theorem release_drops (contractValid : validatePoolContract limits contract = [])
    (cohort : acquired.map Lease.childId = contract.childIds)
    (valid : ∀ lease ∈ acquired, validateLease (some contract) lease = [])
    (unused : ∀ lease ∈ acquired, lease.lifecycleState = .acquired)
    (distinct : (acquired.map Lease.leaseId).Nodup) (loadable : Loadable registry)
    (stored : ∀ lease ∈ acquired, lease ∈ registry) (accessible : env.accessError = none)
    (written : env.write = .written) :
    releaseUncommittedMany env registry contract acquired limits =
      ⟨registry.filter fun lease => lease ∉ acquired, .ok []⟩ := by
  have named : ∀ lease ∈ registry,
      (lease.leaseId ∈ acquired.map Lease.leaseId ↔ lease ∈ acquired) := by
    intro lease member
    constructor
    · intro inSupplied
      obtain ⟨other, inAcquired, same⟩ := mem_map.mp inSupplied
      have identical : other = lease :=
        inj_on_of_nodup_map loadable.distinct (stored other inAcquired) member same
      exact identical ▸ inAcquired
    · exact mem_map_of_mem
  unfold releaseUncommittedMany
  extract_lets contractErrors suppliedIds current retained
  have suitable : ¬ ∃ lease ∈ acquired,
      validateLease (some contract) lease ≠ [] ∨ lease.lifecycleState ≠ .acquired := by
    rintro ⟨lease, member, invalid | used⟩
    · exact invalid (valid lease member)
    · exact used (unused lease member)
  have matching : current ⊆ acquired ∧ acquired ⊆ current := by
    constructor
    · intro lease member
      obtain ⟨inTable, inSupplied⟩ := mem_filter.mp member
      exact (named lease inTable).mp (of_decide_eq_true inSupplied)
    · intro lease member
      exact mem_filter.mpr ⟨stored lease member, decide_eq_true (mem_map_of_mem member)⟩
  have remaining : retained = registry.filter fun lease => lease ∉ acquired := by
    refine filter_congr fun lease member => ?_
    rw [decide_eq_decide]
    exact not_congr (named lease member)
  rw [if_neg (Decidable.not_not.mpr contractValid), if_neg (Decidable.not_not.mpr cohort),
    if_neg suitable, if_neg (Decidable.not_not.mpr distinct), locked, accessible,
    loadErrors_eq_none.mpr loadable]
  rw [if_neg (Decidable.not_not.mpr matching), written, remaining]
  rfl

theorem childIds_of_requested
    (inOrder : Requested contract now (contract.childIds.map Name.text) leases) :
    leases.map Lease.childId = contract.childIds := by
  have texts := inOrder.childIds
  have injective : Function.Injective Name.text := fun _ _ => Name.text_injective
  apply injective.list_map
  rw [map_map]
  exact texts

/--
Acquisitions are all or none.  A call that raises leaves the stored list as it
was, unless its write had replaced the file and undoing it failed too.  A
successful acquisition appends the leases asked for, in order, behind a list in
which only acquired and held leases of dead owners have changed.  Whatever other
clients do in between, taking it back raises and changes nothing once a lease is
not stored as it was acquired, a lease past `acquired` at any time included; and
the leases of the whole cohort, all of them still stored, are dropped and
nothing else is.  A set that is not the whole cohort in order is never dropped.
-/
theorem uncommitted_all_or_none (contract : PoolContract) (limits : CapacityLimits)
    (registry : List Lease) :
    (∀ env, Caught env.write → (∀ childIds error,
        (acquireMany env registry contract childIds limits).result = .error error →
          Undone env.write registry (acquireMany env registry contract childIds limits).registry
            error) ∧
      ∀ acquired error,
        (releaseUncommittedMany env registry contract acquired limits).result = .error error →
          Undone env.write registry
            (releaseUncommittedMany env registry contract acquired limits).registry error) ∧
    ∀ env childIds leases, (acquireMany env registry contract childIds limits).result = .ok leases →
        let requested := childIds.getD (contract.childIds.map Name.text)
        let stored := (acquireMany env registry contract childIds limits).registry
        (∃ now, env.now = .ok now ∧ Requested contract now requested leases ∧
          stored = (registry.mapIdx fun index => orphanOf now (env.ownerAlive index)) ++ leases) ∧
        (∀ between later,
          let current := performAll stored between
          (requested = contract.childIds.map Name.text → (∀ lease ∈ leases, lease ∈ current) →
            later.accessError = none → later.write = .written →
              releaseUncommittedMany later current contract leases limits =
                ⟨current.filter fun lease => lease ∉ leases, .ok []⟩) ∧
          ((requested ≠ contract.childIds.map Name.text ∨ ∃ lease ∈ leases, lease ∉ current) →
            ∃ error, releaseUncommittedMany later current contract leases limits =
              .refused current error)) ∧
        ∀ earlier between later, (∃ lease ∈ leases, Spent lease.leaseId (performAll stored earlier)) →
          ∃ error, releaseUncommittedMany later (performAll stored (earlier ++ between)) contract
            leases limits = .refused (performAll stored (earlier ++ between)) error := by
  refine ⟨fun env caught =>
    ⟨fun _ _ => undone_acquireMany caught, fun _ _ => undone_releaseUncommittedMany caught⟩, ?_⟩
  intro env childIds leases accepted requested stored
  obtain ⟨contractValid, loadable, now, current, clock, built, reclassified, accepting, after⟩ :=
    acquires_of_ok accepted
  obtain ⟨inOrder, valid⟩ := requested_of_requestedLeases built
  have unused := requestedLeases_acquired built
  have storedLoadable : Loadable stored := by
    rw [show stored = current ++ leases from after]
    exact loadable_stage (loadable_succeeds loadable (forall₂_reclassify Succeeds.refl
      (fun prepared => succeeds_prepareTransition prepared LeaseState.noConfusion) reclassified))
      (fun lease member => valid_of_contract (valid lease member)) accepting
  have distinct : (leases.map Lease.leaseId).Nodup := by
    have whole := storedLoadable.distinct
    rw [show stored = current ++ leases from after, map_append] at whole
    exact (nodup_append.mp whole).2.1
  have remapped := reclassify_eq reclassified
  simp only [Nat.zero_add] at remapped
  refine ⟨⟨now, clock, inOrder, remapped ▸ after⟩, fun between later => ⟨?_, ?_⟩, ?_⟩
  · intro whole kept accessible written
    have inCohort : Requested contract now (contract.childIds.map Name.text) leases := by
      rw [← whole]
      exact inOrder
    exact release_drops contractValid (childIds_of_requested inCohort) valid unused distinct
      (kept_performAll storedLoadable between).1 kept accessible written
  · rintro (subset | drifted)
    · refine release_mismatch fun same => subset ?_
      rw [← same, map_map]
      exact inOrder.childIds.symm
    · exact release_refused drifted
  · rintro earlier between later ⟨lease, member, spent⟩
    refine release_refused ⟨lease, member, fun still => ?_⟩
    rw [performAll, foldl_append] at still
    have here := kept_performAll storedLoadable earlier
    have final := kept_performAll here.1 between
    obtain ⟨other, inTable, named, past⟩ := final.2 _ spent
    have identical : other = lease := inj_on_of_nodup_map final.1.distinct inTable still named
    exact past (identical ▸ unused lease member)

/-! ## A cohort of two -/

def otherChild : ChildContract :=
  { ordinal := 1
    childId := ⟨"second", by decide⟩
    agentId := ⟨"other-agent", by decide⟩
    controlTurnId := ⟨"other-turn", by decide⟩
    packetSha256 := textSha256 "packet"
    controlContractSha256 := textSha256 "control"
    stateFile := "/state"
    worktreeIdentity := sampleIdentity 2
    isolationClass := .readOnlyShared
    expectedMutationMode := .readOnly
    declaredWritePaths := []
    integrationTargetPaths := []
    leaseId := ⟨"other-lease", by decide⟩
    admission := some ⟨⟨"other-bead", by decide⟩, ⟨"other-unit", by decide⟩, textSha256 "other"⟩ }

/-- The sample pool with a second read-only child. -/
def pairContract : PoolContract :=
  let single := sampleContract samplePool
  { single with
    children := single.children ++ [otherChild]
    maxActiveWorkers := 2
    certifiedMaxCheckMs := some certifiedCheckMs
    certifiedMaxSchedulerOverheadMs := some certifiedOverheadMs
    capabilityReceiptSha256 := some (textSha256 "receipt") }

def diskFull : PyError := ⟨.os, "OSError", "No space left on device"⟩

def pairLeases : List Lease :=
  pairContract.children.map fun child => requestedLease pairContract child 0

def pairAcquire : Outcome (List Lease) := acquireMany sampleEnv [] pairContract none .repository

theorem pairAcquire_ok : pairAcquire.result = .ok pairLeases := by
  have returned : pairAcquire.result.toOption = some pairLeases := by decide +kernel
  cases whole : pairAcquire.result with
  | error => simp [whole, Except.toOption] at returned
  | ok leases => simpa [whole, Except.toOption] using returned

/-- A write that fails and is undone. -/
def undoneEnv : RegistryEnv :=
  { sampleEnv with write := .failed ⟨diskFull, false, none⟩ true .restored }

def heldBetween : History := [(sampleEnv, .hold sampleLease)]

/-- Both leases are dropped again, unless one was held; a write that fails is undone. -/
theorem uncommitted_all_or_none_pair :
    releaseUncommittedMany sampleEnv pairAcquire.registry pairContract pairLeases .repository =
        ⟨[], .ok []⟩ ∧
      (∃ error, releaseUncommittedMany sampleEnv (performAll pairAcquire.registry heldBetween)
        pairContract pairLeases .repository =
          .refused (performAll pairAcquire.registry heldBetween) error) ∧
      ∃ error, (acquireMany undoneEnv [] pairContract none .repository).result = .error error ∧
        Undone undoneEnv.write [] (acquireMany undoneEnv [] pairContract none .repository).registry
          error := by
  have laws := uncommitted_all_or_none pairContract .repository []
  obtain ⟨_, released, spent⟩ := laws.2 sampleEnv none pairLeases pairAcquire_ok
  refine ⟨?_, ?_, ?_⟩
  · have nothingLeft : pairAcquire.registry.filter (fun lease => lease ∉ pairLeases) = [] := by
      decide +kernel
    have dropped : releaseUncommittedMany sampleEnv pairAcquire.registry pairContract pairLeases
        .repository = ⟨pairAcquire.registry.filter fun lease => lease ∉ pairLeases, .ok []⟩ :=
      (released [] sampleEnv).1 rfl (by decide +kernel) rfl rfl
    rw [dropped, nothingLeft]
  · exact spent heldBetween [] sampleEnv (by decide +kernel)
  · have failed : (acquireMany undoneEnv [] pairContract none .repository).result.isOk = false := by
      decide +kernel
    cases whole : (acquireMany undoneEnv [] pairContract none .repository).result with
    | ok leases => simp [whole, Except.isOk, Except.toBool] at failed
    | error error => exact ⟨error, rfl, (laws.1 undoneEnv (.inr (.inl rfl))).1 none error whole⟩

/-- The write fails behind the replacement, and so does the rollback. -/
def fullEnv : RegistryEnv :=
  { sampleEnv with write := .failed ⟨diskFull, false, none⟩ true (.failed diskFull false) }

def firstLease : List Lease := (sampleContract samplePool).children.map fun child =>
  requestedLease pairContract child 0

/--
The lease of one child of two is not dropped again, and a call whose write and
rollback both fail leaves the new list behind.
-/
theorem not_all_or_none :
    ((acquireMany sampleEnv [] pairContract (some ["child"]) .repository).result = .ok firstLease ∧
      (acquireMany sampleEnv [] pairContract (some ["child"]) .repository).registry = firstLease ∧
      ∃ error, releaseUncommittedMany sampleEnv firstLease pairContract firstLease .repository =
        .refused firstLease error) ∧
    Caught fullEnv.write ∧
      (acquireMany fullEnv [] (sampleContract samplePool) none .repository).result.isOk = false ∧
      (acquireMany fullEnv [] (sampleContract samplePool) none .repository).registry ≠ [] := by
  refine ⟨⟨?_, by decide +kernel, release_mismatch (by decide +kernel)⟩, ?_, by decide +kernel,
    by decide +kernel⟩
  · have returned : (acquireMany sampleEnv [] pairContract (some ["child"]) .repository).result.toOption =
        some firstLease := by
      decide +kernel
    cases whole : (acquireMany sampleEnv [] pairContract (some ["child"]) .repository).result with
    | error => simp [whole, Except.toOption] at returned
    | ok leases => simpa [whole, Except.toOption] using returned
  · exact ⟨.inr (.inl rfl), .inl rfl⟩

/-- Every registry that a history leaves can be loaded, and a lease that has been held or given back is
never taken for a new one again. -/
theorem registry_loads (earlier later : History) :
    Loadable (performAll [] (earlier ++ later)) ∧
      ∀ leaseId, Spent leaseId (performAll [] earlier) →
        Spent leaseId (performAll [] (earlier ++ later)) := by
  have empty : Loadable [] := ⟨forall_mem_nil _, nodup_nil⟩
  rw [performAll, foldl_append]
  exact kept_performAll (kept_performAll empty earlier).1 later

end WorkOrchestration.Native.UncommittedLeases
