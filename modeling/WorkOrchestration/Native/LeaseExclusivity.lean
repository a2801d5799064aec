import WorkOrchestration.Lib.Exclusion
import WorkOrchestration.Native.PoolLeases

/-!
# Lease exclusivity

The registry is an exclusive table: leases are claims on a worktree and on target paths below an
integration root. Every call either leaves the claims alone, drops some, narrows some, or adds claims that
were checked against all active ones.
-/

namespace WorkOrchestration.Native.LeaseExclusivity

open List Lib.Text Lib.Exclusion Artifacts PoolContracts PoolStates
open PoolLeases

/-- `lifecycle_state in ACTIVE_LEASE_STATES`. -/
def Active (lease : Lease) : Prop := lease.lifecycleState.isActive = true

/-- Leases of one pool and epoch without target paths may share a worktree. -/
def ReadOnlySiblings (left right : Lease) : Prop :=
  left.poolId = right.poolId ∧ left.poolEpoch = right.poolEpoch ∧ left.targetPaths = [] ∧
    right.targetPaths = []

/-- Two leases that must not be active at once. -/
def Conflict (left right : Lease) : Prop :=
  left.worktreeIdentity.key = right.worktreeIdentity.key ∧ ¬ ReadOnlySiblings left right ∨
    left.integrationRootIdentity.key = right.integrationRootIdentity.key ∧
      PathsOverlap left.targetPaths right.targetPaths

theorem ReadOnlySiblings.symm {left right : Lease} (siblings : ReadOnlySiblings left right) :
    ReadOnlySiblings right left := by
  obtain ⟨pool, epoch, leftEmpty, rightEmpty⟩ := siblings
  exact ⟨pool.symm, epoch.symm, rightEmpty, leftEmpty⟩

theorem Conflict.symm {left right : Lease} (conflict : Conflict left right) :
    Conflict right left := by
  rcases conflict with ⟨worktree, apart⟩ | ⟨root, overlap⟩
  · exact .inl ⟨worktree.symm, fun siblings => apart siblings.symm⟩
  · exact .inr ⟨root.symm, overlap.symm⟩

abbrev ExclusiveRegistry (registry : List Lease) : Prop :=
  Exclusive Lease.leaseId Active Conflict registry

abbrev NarrowsLease (before after : Lease) : Prop :=
  Narrows Lease.leaseId Active Conflict before after

theorem collision_eq_none {existing lease : Lease} (free : collision existing lease = none) :
    existing.leaseId ≠ lease.leaseId ∧ (Active existing → ¬ Conflict existing lease) := by
  simp only [collision] at free
  split_ifs at free with sameId inactive worktree target
  · exact ⟨sameId, fun active => absurd active (by simp [Active, inactive])⟩
  · refine ⟨sameId, fun _ conflict => ?_⟩
    rcases conflict with ⟨sameWorktree, apart⟩ | both
    · refine worktree ⟨sameWorktree, fun siblings => apart ?_⟩
      exact ⟨siblings.1.1, siblings.1.2, siblings.2⟩
    · exact target both

theorem exclusive_stage {requested staged result : List Lease} (exclusive : ExclusiveRegistry staged)
    (accepted : stage staged requested = .ok result) : ExclusiveRegistry result := by
  induction requested generalizing staged with
  | nil =>
    cases accepted
    exact exclusive
  | cons lease rest ih =>
    unfold stage at accepted
    split at accepted
    · cases accepted
    · rename_i free
      have clear : ∀ existing ∈ staged, existing.leaseId ≠ lease.leaseId ∧
          (Active existing → ¬ Conflict existing lease) := fun existing member =>
        collision_eq_none (findSome?_eq_none_iff.mp free existing member)
      exact ih (exclusive.concat (fun existing member => (clear existing member).1)
        fun existing member => (clear existing member).2) accepted

theorem narrows_prepareTransition {current updated : Lease} {lifecycleState : LeaseState}
    {evidence : Option Digest} {reason : Option String} {orphan : Bool}
    {updatedAt : Except RegistryError Int} {code : String}
    (prepared : prepareTransition current lifecycleState evidence reason orphan updatedAt code =
      .ok (some updated)) : NarrowsLease current updated := by
  unfold prepareTransition at prepared
  split_ifs at prepared with unchanged refused
  · cases prepared
  · split at prepared
    · cases prepared
    · simp only at prepared
      split_ifs at prepared
      cases prepared
      refine ⟨rfl, fun _ => ?_, fun _ => ⟨id, id⟩⟩
      -- a released lease has no transition, and an orphan was acquired or held
      show current.lifecycleState.isActive = true
      cases state : current.lifecycleState with
      | released => simp [state, LeaseState.transitions, LeaseState.isReclassifiable] at refused
      | acquired | held | releasePending | orphanedActive => rfl

variable {registry : List Lease} {env : RegistryEnv}

/-! ## Leases one by one -/

section

variable {related : Lease → Lease → Prop} (refl : ∀ lease, related lease lease)

include refl

theorem forall₂_reclassify {ownerAlive : Nat → Bool} {now : Int} {index : Nat} {result : List Lease}
    (orphaned : ∀ {lease updated : Lease}, prepareTransition lease .orphanedActive none none true
      (.ok now) "lease-transition-invalid" = .ok (some updated) → related lease updated)
    (done : reclassify ownerAlive now index registry = .ok result) :
    List.Forall₂ related registry result := by
  induction registry generalizing index result with
  | nil =>
    cases done
    exact .nil
  | cons lease rest ih =>
    simp only [reclassify] at done
    split at done
    · cases done
    · rename_i updated reclassified
      split at done
      · cases done
      · rename_i leases later
        cases done
        refine .cons ?_ (ih later)
        cases updated with
        | none => exact refl lease
        | some updated =>
          split_ifs at reclassified
          · exact orphaned reclassified
          · cases reclassified

theorem forall₂_cleanLeases {states : Name → Option PoolState} {index : Nat}
    {updates : List (Option Lease)}
    (each : ∀ {index lease updated}, cleanLease env states index lease = .ok (some updated) →
      related lease updated)
    (cleaned : cleanLeases env states index registry = .ok updates) :
    List.Forall₂ related registry (applyUpdates updates registry) := by
  induction registry generalizing index updates with
  | nil =>
    cases cleaned
    exact .nil
  | cons lease rest ih =>
    unfold cleanLeases at cleaned
    split at cleaned
    · cases cleaned
    · rename_i updated first
      split at cleaned
      · cases cleaned
      · rename_i later found
        cases cleaned
        refine .cons ?_ (ih found)
        cases updated with
        | none => exact refl lease
        | some updated => exact each first

theorem forall₂_replace {leaseId : Name} {current updated : Lease}
    (distinct : (registry.map Lease.leaseId).Nodup)
    (found : registry.find? (fun lease => lease.leaseId = leaseId) = some current)
    (replaced : related current updated) :
    List.Forall₂ related registry
      (registry.map fun lease => if lease.leaseId = leaseId then updated else lease) := by
  have member := mem_of_find?_eq_some found
  have matched : current.leaseId = leaseId := by simpa using find?_some found
  rw [List.forall₂_map_right_iff, List.forall₂_same]
  intro lease inTable
  split
  · rename_i same
    have identical : lease = current :=
      inj_on_of_nodup_map distinct inTable member (same.trans matched.symm)
    exact identical ▸ replaced
  · exact refl lease

end

theorem narrows_cleanLease {states : Name → Option PoolState} {index : Nat} {lease updated : Lease}
    (cleaned : cleanLease env states index lease = .ok (some updated)) :
    NarrowsLease lease updated := by
  unfold cleanLease at cleaned
  split at cleaned
  · cases cleaned
  · split at cleaned
    · exact narrows_prepareTransition cleaned
    · exact narrows_prepareTransition cleaned
    · split at cleaned
      · exact narrows_prepareTransition cleaned
      · cases cleaned

theorem exclusive_perform (exclusive : ExclusiveRegistry registry) (call : Call) :
    ExclusiveRegistry (perform env registry call).registry := by
  have leaves := leaves_perform env registry call
  generalize (perform env registry call).registry = result at leaves
  cases leaves with
  | unchanged => exact exclusive
  | acquired _ reclassified accepted =>
    exact exclusive_stage (exclusive.narrow (forall₂_reclassify Narrows.refl narrows_prepareTransition reclassified)) accepted
  | uncommitted => exact exclusive.sublist filter_sublist
  | moved _ distinct found prepared =>
    exact exclusive.narrow
      (forall₂_replace Narrows.refl distinct found (narrows_prepareTransition prepared))
  | cleaned collected => exact exclusive.narrow (forall₂_cleanLeases Narrows.refl narrows_cleanLease collected)

theorem exclusive_performAll (exclusive : ExclusiveRegistry registry) (history : History) :
    ExclusiveRegistry (performAll registry history) := by
  induction history generalizing registry with
  | nil => exact exclusive
  | cons entry rest ih => exact ih (exclusive_perform exclusive entry.2)

/--
Lease exclusivity: after every history of registry calls lease ids are distinct,
and two different active leases are on different worktrees, unless they are
read-only siblings, and have no target in common below the same integration root.
-/
theorem leases_exclusive (history : History) : ((performAll [] history).map Lease.leaseId).Nodup ∧
      ∀ left ∈ performAll [] history, ∀ right ∈ performAll [] history,
        left ≠ right → left.lifecycleState.isActive = true → right.lifecycleState.isActive = true →
          (left.worktreeIdentity.key ≠ right.worktreeIdentity.key ∨
            left.poolId = right.poolId ∧ left.poolEpoch = right.poolEpoch ∧
              left.targetPaths = [] ∧ right.targetPaths = []) ∧
          (left.integrationRootIdentity.key = right.integrationRootIdentity.key →
            ∀ target ∈ left.targetPaths, ∀ other ∈ right.targetPaths,
              ¬ posixParts target <+: posixParts other ∧
                ¬ posixParts other <+: posixParts target) := by
  have exclusive : ExclusiveRegistry (performAll [] history) :=
    exclusive_performAll exclusive_nil history
  refine ⟨exclusive.distinct, ?_⟩
  intro left inLeft right inRight different leftActive rightActive
  have free := exclusive.not_conflict (fun _ _ => Conflict.symm) inLeft inRight different
    leftActive rightActive
  constructor
  · by_contra shared
    push Not at shared
    exact free (.inl ⟨shared.1, fun siblings =>
      shared.2 siblings.1 siblings.2.1 siblings.2.2.1 siblings.2.2.2⟩)
  · intro root target inLeftPaths other inRightPaths
    constructor
    · intro covers
      exact free (.inr ⟨root, target, inLeftPaths, other, inRightPaths, .inl covers⟩)
    · intro covers
      exact free (.inr ⟨root, target, inLeftPaths, other, inRightPaths, .inr covers⟩)

end WorkOrchestration.Native.LeaseExclusivity
