import WorkOrchestration.Native.LeaseExclusivity

/-!
# Releases and their evidence

A lease that is released stays in the registry unchanged. A call that releases a lease records the digest
of a completed or closed pool state. `cleanup_stale` compares that state with the lease by epoch only and
`release` not at all; the rest is left to its callers.
-/

namespace WorkOrchestration.Native.LeaseRelease

open List Lib.Checks Lib.Text Lib.Exclusion Artifacts Authority Accounting
open PoolContracts PoolStates PoolLeases LeaseExclusivity

def Call.Supplies (lease : Lease) (state : PoolState) : Call → Prop
  | .release leaseId supplied _ => leaseId = lease.leaseId ∧ supplied = state
  | .cleanupStale states => states lease.poolId = some state
  | _ => False

/-- The call released the lease on evidence of the lease's own pool and epoch. -/
def OwnEvidence (call : Call) (lease : Lease) : Prop :=
  ∃ state, Call.Supplies lease state call ∧
    lease.terminalEvidenceSha256 = some state.stateSha256 ∧
    state.poolId = lease.poolId ∧ state.poolEpoch = lease.poolEpoch ∧
    (state.status = .completed ∨ state.status = .closed)

/--
What callers have to see to: a finished state handed to `release` for a lease
that is not yet released names the lease's pool and epoch, and a finished state
of the right epoch that `cleanup_stale` finds under the pool id of such a lease
with a dead owner names that pool.
-/
def EvidenceBound (env : RegistryEnv) (registry : List Lease) : Call → Prop
  | .release leaseId state _ =>
    Finished state → ∀ lease ∈ registry, lease.leaseId = leaseId →
      lease.lifecycleState ≠ .released →
        state.poolId = lease.poolId ∧ state.poolEpoch = lease.poolEpoch
  | .cleanupStale states =>
    ∀ (index : Nat) (lease : Lease), registry[index]? = some lease →
      lease.lifecycleState ≠ .released → env.ownerAlive index = false →
        ∀ state, states lease.poolId = some state → Finished state →
          state.poolEpoch = lease.poolEpoch → state.poolId = lease.poolId
  | _ => True

/-- The lease was released on its own evidence, if the call was bound. -/
def OwnIfBound (env : RegistryEnv) (registry : List Lease) (call : Call) (lease : Lease) : Prop :=
  EvidenceBound env registry call → OwnEvidence call lease

/-- Every call of a history is bound in the registry it meets. -/
def EvidenceBoundAll (registry : List Lease) : History → Prop
  | [] => True
  | (env, call) :: rest =>
    EvidenceBound env registry call ∧ EvidenceBoundAll (perform env registry call).registry rest

/-- What a call may do to a registry: keep its released leases, and release on own evidence. -/
structure Releases (own : Lease → Prop) (before after : List Lease) : Prop where
  kept : ∀ lease ∈ before, lease.lifecycleState = .released → lease ∈ after
  released : ∀ lease ∈ after, lease.lifecycleState = .released → lease ∈ before ∨ own lease

variable {own : Lease → Prop}

theorem Releases.refl (registry : List Lease) :
    Releases own registry registry :=
  ⟨fun _ member _ => member, fun _ member _ => .inl member⟩

theorem Releases.of_forall₂ {before after : List Lease}
    (replaced : List.Forall₂ (fun current updated =>
      updated = current ∨ current.lifecycleState ≠ .released ∧
        (updated.lifecycleState = .released → own updated)) before after) :
    Releases own before after := by
  induction replaced with
  | nil => exact Releases.refl []
  | cons first _ ih =>
    constructor
    · intro lease member isReleased
      rcases mem_cons.mp member with rfl | later
      · rcases first with rfl | ⟨notReleased, _⟩
        · exact mem_cons_self
        · exact absurd isReleased notReleased
      · exact mem_cons_of_mem _ (ih.kept lease later isReleased)
    · intro lease member isReleased
      rcases mem_cons.mp member with rfl | later
      · rcases first with rfl | ⟨_, owned⟩
        · exact .inl mem_cons_self
        · exact .inr (owned isReleased)
      · exact (ih.released lease later isReleased).imp (mem_cons_of_mem _) id

theorem prepared_fields {current updated : Lease} {lifecycleState : LeaseState}
    {evidence : Option Digest} {reason : Option String} {orphan : Bool}
    {updatedAt : Except RegistryError Int} {code : String}
    (prepared : prepareTransition current lifecycleState evidence reason orphan updatedAt code =
      .ok (some updated)) :
    current.lifecycleState ≠ .released ∧ updated.lifecycleState = lifecycleState ∧
      updated.terminalEvidenceSha256 = evidence ∧ updated.leaseId = current.leaseId ∧
      updated.poolId = current.poolId ∧ updated.poolEpoch = current.poolEpoch := by
  unfold prepareTransition at prepared
  split_ifs at prepared with unchanged refused
  · cases prepared
  · split at prepared
    · cases prepared
    · simp only at prepared
      split_ifs at prepared
      cases prepared
      refine ⟨fun isReleased => refused ?_, rfl, rfl, rfl, rfl, rfl⟩
      simp [isReleased, LeaseState.transitions, LeaseState.isReclassifiable]

theorem requestedLeases_acquired {contract : PoolContract} {now : Int} {requested : List String}
    {leases : List Lease} (built : requestedLeases contract now requested = .ok leases) :
    ∀ lease ∈ leases, lease.lifecycleState = .acquired := by
  induction requested generalizing leases with
  | nil =>
    cases built
    exact fun _ member => absurd member not_mem_nil
  | cons childId rest ih =>
    unfold requestedLeases at built
    split at built
    · cases built
    · simp only at built
      split_ifs at built
      split at built
      · cases built
      · rename_i later found
        cases built
        exact forall_mem_cons.mpr ⟨rfl, ih found⟩

theorem stage_eq_append {requested staged result : List Lease}
    (accepted : stage staged requested = .ok result) : result = staged ++ requested := by
  induction requested generalizing staged with
  | nil =>
    cases accepted
    exact (append_nil _).symm
  | cons lease rest ih =>
    unfold stage at accepted
    split at accepted
    · cases accepted
    · rw [ih accepted, append_assoc, singleton_append]

variable {registry : List Lease}

/-- Reclassification replaces some leases that are not released by orphaned ones. -/
theorem releases_reclassify {ownerAlive : Nat → Bool} {now : Int} {index : Nat}
    {result : List Lease} (done : reclassify ownerAlive now index registry = .ok result) :
    Releases own registry result := by
  refine Releases.of_forall₂ (forall₂_reclassify (fun _ => .inl rfl) (fun reclassified => ?_) done)
  obtain ⟨active, orphaned, _⟩ := prepared_fields reclassified
  refine .inr ⟨active, fun isReleased => ?_⟩
  rw [orphaned] at isReleased
  cases isReleased

theorem Releases.append {before after added : List Lease} (releases : Releases own before after)
    (fresh : ∀ lease ∈ added, lease.lifecycleState ≠ .released) :
    Releases own before (after ++ added) := by
  constructor
  · intro lease member isReleased
    exact mem_append_left added (releases.kept lease member isReleased)
  · intro lease member isReleased
    rcases mem_append.mp member with earlier | new
    · exact releases.released lease earlier isReleased
    · exact absurd isReleased (fresh lease new)

theorem releases_uncommitted {acquired : List Lease}
    (unused : ∀ lease ∈ acquired, lease.lifecycleState = .acquired)
    (supplied : ∀ lease ∈ registry, lease.leaseId ∈ acquired.map Lease.leaseId → lease ∈ acquired) :
    Releases own registry
      (registry.filter fun lease => lease.leaseId ∉ acquired.map Lease.leaseId) := by
  refine ⟨fun lease member isReleased => ?_, fun lease member _ => .inl (mem_of_mem_filter member)⟩
  refine mem_filter.mpr ⟨member, decide_eq_true fun inSupplied => ?_⟩
  rw [unused lease (supplied lease member inSupplied)] at isReleased
  cases isReleased

variable {env : RegistryEnv}

/-- A transition releases a lease only on a call of `release`, and only on the state it passes. -/
theorem releases_moved {call : Call} {leaseId : Name} {lifecycleState : LeaseState}
    {evidence : Option Digest} {reason : Option String} {current updated : Lease}
    (asks : Asks call leaseId lifecycleState evidence reason)
    (distinct : (registry.map Lease.leaseId).Nodup)
    (found : registry.find? (fun lease => lease.leaseId = leaseId) = some current)
    (prepared : prepareTransition current lifecycleState evidence reason false env.now
      "lease-transition-invalid" = .ok (some updated)) :
    Releases (OwnIfBound env registry call) registry
      (registry.map fun lease => if lease.leaseId = leaseId then updated else lease) := by
  have member := mem_of_find?_eq_some found
  have matched : current.leaseId = leaseId := by simpa using find?_some found
  obtain ⟨active, state, stored, sameId, samePool, sameEpoch⟩ := prepared_fields prepared
  refine Releases.of_forall₂ (forall₂_replace (fun _ => .inl rfl) distinct found
    (.inr ⟨active, fun isReleased bound => ?_⟩))
  cases asks with
  | hold | markReleasePending =>
    rw [state] at isReleased
    cases isReleased
  | release _ terminal _ finished =>
    have names := bound finished current member matched active
    exact ⟨terminal, ⟨matched.symm.trans sameId.symm, rfl⟩, stored, names.1.trans samePool.symm,
      names.2.trans sameEpoch.symm, finished.2⟩

variable {states : Name → Option PoolState}

theorem staleVerdict_eq_release {lease : Lease} {state : PoolState}
    (verdict : staleVerdict states lease = .release state) :
    states lease.poolId = some state ∧ Finished state ∧ state.poolEpoch = lease.poolEpoch := by
  unfold staleVerdict at verdict
  split at verdict
  · cases verdict
  · rename_i supplied found
    split_ifs at verdict with unfit finished
    cases verdict
    obtain ⟨valid, epoch⟩ := not_or.mp unfit
    exact ⟨found, ⟨Decidable.not_not.mp valid, finished⟩, Decidable.not_not.mp epoch⟩

theorem owned_cleanLease {index : Nat} {lease updated : Lease}
    (found : registry[index]? = some lease)
    (cleaned : cleanLease env states index lease = .ok (some updated)) :
    lease.lifecycleState ≠ .released ∧
      (updated.lifecycleState = .released →
        OwnIfBound env registry (.cleanupStale states) updated) := by
  unfold cleanLease at cleaned
  split at cleaned
  · cases cleaned
  · rename_i stale
    obtain ⟨active, notAlive⟩ := not_or.mp stale
    refine ⟨active, fun isReleased bound => ?_⟩
    split at cleaned
    · rename_i state verdict
      obtain ⟨_, _, stored, _, samePool, sameEpoch⟩ := prepared_fields cleaned
      obtain ⟨supplied, finished, epoch⟩ := staleVerdict_eq_release verdict
      have pool := bound index lease found active (Bool.eq_false_of_not_eq_true notAlive) state
        supplied finished epoch
      exact ⟨state, show states updated.poolId = some state from samePool ▸ supplied, stored, pool.trans samePool.symm,
        epoch.trans sameEpoch.symm, finished.2⟩
    · rw [(prepared_fields cleaned).2.1] at isReleased
      cases isReleased
    · split at cleaned
      · rw [(prepared_fields cleaned).2.1] at isReleased
        cases isReleased
      · cases cleaned

theorem releases_cleaned {updates : List (Option Lease)}
    (collected : cleanLeases env states 0 registry = .ok updates) :
    Releases (OwnIfBound env registry (.cleanupStale states)) registry
      (applyUpdates updates registry) := by
  apply Releases.of_forall₂
  -- the leases still to visit are the registry from the current position on
  suffices visits : ∀ (index : Nat) (rest : List Lease) (updates : List (Option Lease)),
      (∀ offset, registry[index + offset]? = rest[offset]?) →
        cleanLeases env states index rest = .ok updates →
          List.Forall₂ (fun current updated => updated = current ∨
            current.lifecycleState ≠ .released ∧ (updated.lifecycleState = .released →
              OwnIfBound env registry (.cleanupStale states) updated)) rest (applyUpdates updates rest) from
    visits 0 registry updates (fun offset => by rw [Nat.zero_add]) collected
  intro index rest
  induction rest generalizing index with
  | nil =>
    intro updates _ done
    cases done
    exact .nil
  | cons lease rest ih =>
    intro updates suffix done
    unfold cleanLeases at done
    split at done
    · cases done
    · rename_i updated first
      split at done
      · cases done
      · rename_i later others
        cases done
        have next : ∀ offset, registry[index + 1 + offset]? = rest[offset]? := by
          intro offset
          have shifted := suffix (offset + 1)
          rwa [getElem?_cons_succ, show index + (offset + 1) = index + 1 + offset by omega]
            at shifted
        refine .cons ?_ (ih (index + 1) later next others)
        cases updated with
        | none => exact .inl rfl
        | some updated => exact .inr (owned_cleanLease (suffix 0) first)

theorem releases_perform (env : RegistryEnv) (registry : List Lease) (call : Call) :
    Releases (OwnIfBound env registry call) registry (perform env registry call).registry := by
  have leaves := leaves_perform env registry call
  generalize (perform env registry call).registry = result at leaves
  cases leaves with
  | unchanged => exact Releases.refl registry
  | acquired built reclassified accepted =>
    rw [stage_eq_append accepted]
    refine (releases_reclassify reclassified).append fun lease member isReleased => ?_
    rw [requestedLeases_acquired built lease member] at isReleased
    cases isReleased
  | uncommitted unused supplied => exact releases_uncommitted unused supplied
  | moved asks distinct found prepared => exact releases_moved asks distinct found prepared
  | cleaned collected => exact releases_cleaned collected

theorem released_stays (history : History) {lease : Lease} (member : lease ∈ registry)
    (isReleased : lease.lifecycleState = .released) :
    lease ∈ performAll registry history := by
  induction history generalizing registry with
  | nil => exact member
  | cons entry rest ih =>
    exact ih ((releases_perform entry.1 registry entry.2).kept lease member isReleased)

theorem evidenceBoundAll_append {earlier later : History}
    (bound : EvidenceBoundAll registry (earlier ++ later)) :
    EvidenceBoundAll (performAll registry earlier) later := by
  induction earlier generalizing registry with
  | nil => exact bound
  | cons entry rest ih => exact ih bound.2

/--
Release on own evidence: in a history whose calls are bound, a call that leaves a
released lease behind found it released or released it on evidence of its own
pool; and whatever the calls, a released lease is never changed again.
-/
theorem released_on_own_evidence (history : History) :
    (EvidenceBoundAll [] history → ∀ (earlier later : History) (env : RegistryEnv) (call : Call),
      history = earlier ++ (env, call) :: later →
        ∀ lease ∈ performAll [] (earlier ++ [(env, call)]), lease.lifecycleState = .released →
          lease ∈ performAll [] earlier ∨ OwnEvidence call lease) ∧
    ∀ earlier later : History, history = earlier ++ later →
      ∀ lease ∈ performAll [] earlier, lease.lifecycleState = .released →
        lease ∈ performAll [] history ∧
          ∀ other ∈ performAll [] history, other.leaseId = lease.leaseId → other = lease := by
  constructor
  · intro bound earlier later env call split lease member isReleased
    have here : EvidenceBoundAll (performAll [] earlier) ((env, call) :: later) :=
      evidenceBoundAll_append (split ▸ bound)
    rw [performAll, foldl_append] at member
    exact ((releases_perform env _ call).released lease member isReleased).imp id fun own => own here.1
  · intro earlier later split lease member isReleased
    have stays : lease ∈ performAll [] history := by
      rw [split, performAll, foldl_append]
      exact released_stays later member isReleased
    refine ⟨stays, fun other inTable same => ?_⟩
    have exclusive : ExclusiveRegistry (performAll [] history) :=
      exclusive_performAll exclusive_nil history
    exact inj_on_of_nodup_map exclusive.distinct inTable stays same

def otherPool : Name := ⟨"other", by decide⟩

def sampleClosedState (poolId : Name) : PoolState :=
  PoolState.sealed
    { poolId := poolId
      poolEpoch := sampleEpoch
      contractSha256 := textSha256 "contract"
      stateSequence := 1
      status := .closed
      owner := ⟨1, 1, textSha256 "boot"⟩
      coordinatorEpoch := 1
      schedulerCursor := 0
      activeChildren := []
      terminalChildren := [sampleChild]
      children :=
        [{  ordinal := 0
            childId := sampleChild
            status := .closed
            runtimeDisposition := .completed
            recoveryProjection := none
            lastDeadlineNs := none
            nextDeadlineNs := none
            childStateSha256 := none
            childReceiptSha256 := none
            lastCumulativeUsage := zeroUsage
            leaseId := sampleLease }]
      aggregateUsage := zeroUsage
      poolStartedMonotonicNs := 0
      poolWallNs := 0
      workerSeconds := 0
      pollOverheadNs := 0
      leaseBindings := []
      reasons := []
      reasonRecords := []
      firstProtectedFault := none
      controlLossScope := none
      stop := ⟨.child, [], policyProvenance sampleEpoch .child none⟩
      stateSha256 := textSha256 "" }

/-- An environment in which every owner is alive and every write goes through. -/
def sampleEnv : RegistryEnv :=
  { accessError := none
    now := .ok 0
    ownerAlive := fun _ => true
    write := .written }

def sampleAcquire : Call := .acquireMany (sampleContract samplePool) none .repository

/-- Release the sample lease on the closed state of a pool. -/
def releaseOn (poolId : Name) : Call :=
  .release sampleLease (sampleClosedState poolId) "pool-closed"

def releasedOn (poolId : Name) : History := [(sampleEnv, sampleAcquire), (sampleEnv, releaseOn poolId)]

/-- A lease of one pool is released on the closed state of another. -/
theorem not_ownEvidence_releasedOn :
    ∃ lease ∈ performAll [] (releasedOn otherPool),
      lease.lifecycleState = .released ∧ lease ∉ performAll [] [(sampleEnv, sampleAcquire)] ∧
        ¬ OwnEvidence (releaseOn otherPool) lease := by
  have released : ∃ lease ∈ performAll [] (releasedOn otherPool),
      lease.lifecycleState = .released ∧ lease ∉ performAll [] [(sampleEnv, sampleAcquire)] ∧
        lease.poolId = samplePool := by decide +kernel
  obtain ⟨lease, member, isReleased, new, pool⟩ := released
  refine ⟨lease, member, isReleased, new, ?_⟩
  rintro ⟨state, ⟨_, supplied⟩, _, samePool, _⟩
  rw [← supplied, pool] at samePool
  exact absurd samePool (by decide)

/-- On the closed state of its own pool the same lease is released as it should be. -/
theorem released_on_own_evidence_releasedOn :
    ∃ lease ∈ performAll [] (releasedOn samplePool),
      lease.lifecycleState = .released ∧ OwnEvidence (releaseOn samplePool) lease := by
  have released : ∃ lease ∈ performAll [] (releasedOn samplePool),
      lease.lifecycleState = .released ∧
        lease ∉ performAll [] [(sampleEnv, sampleAcquire)] := by decide +kernel
  have acquired : ∀ lease ∈ (perform sampleEnv [] sampleAcquire).registry,
      samplePool = lease.poolId ∧ (sampleClosedState samplePool).poolEpoch = lease.poolEpoch := by
    decide +kernel
  have bound : EvidenceBoundAll [] (releasedOn samplePool) :=
    ⟨trivial, fun _ lease member _ _ => acquired lease member, trivial⟩
  obtain ⟨lease, member, isReleased, new⟩ := released
  refine ⟨lease, member, isReleased, ?_⟩
  have cases := (released_on_own_evidence (releasedOn samplePool)).1 bound
    [(sampleEnv, sampleAcquire)] [] sampleEnv (releaseOn samplePool) rfl lease member isReleased
  exact cases.resolve_left new

end WorkOrchestration.Native.LeaseRelease
