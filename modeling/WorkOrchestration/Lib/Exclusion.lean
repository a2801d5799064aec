import Mathlib.Data.List.Basic
import Mathlib.Data.List.Forall2
import Mathlib.Data.List.Nodup
import Mathlib.Data.List.Pairwise
import Mathlib.Tactic.Common

/-!
# Exclusive tables

A table of claims, each with a key, in which some claims are active and some
pairs of claims conflict.  The table is exclusive when keys are distinct and no
two active claims conflict.  Tables stay exclusive when claims are dropped, when
claims are replaced by ones that claim the same and are active only if the old
ones were, and when a claim is added that conflicts with no active one.
-/

namespace WorkOrchestration.Lib.Exclusion

open List

variable {α κ : Type} (key : α → κ) (active : α → Prop) (conflict : α → α → Prop)

/-- Distinct keys, and no conflict between active claims. -/
structure Exclusive (table : List α) : Prop where
  distinct : (table.map key).Nodup
  apart : table.Pairwise fun left right => active left → active right → ¬ conflict left right

/-- The replacement claims no more than the claim it replaces. -/
structure Narrows (before after : α) : Prop where
  sameKey : key after = key before
  activeBefore : active after → active before
  sameConflicts : ∀ other, (conflict after other → conflict before other) ∧
    (conflict other after → conflict other before)

variable {key active conflict}

theorem Narrows.refl (claim : α) : Narrows key active conflict claim claim :=
  ⟨rfl, id, fun _ => ⟨id, id⟩⟩

theorem exclusive_nil : Exclusive key active conflict [] := ⟨nodup_nil, List.Pairwise.nil⟩

theorem Exclusive.sublist {table kept : List α} (exclusive : Exclusive key active conflict table)
    (fewer : kept.Sublist table) : Exclusive key active conflict kept :=
  ⟨exclusive.distinct.sublist (fewer.map key), exclusive.apart.sublist fewer⟩

variable {before after : List α}

theorem map_key_of_narrows (narrows : List.Forall₂ (Narrows key active conflict) before after) :
    after.map key = before.map key := by
  induction narrows with
  | nil => rfl
  | cons first _ ih => rw [map_cons, map_cons, first.sameKey, ih]

theorem apart_of_narrows {claim replaced : α}
    (claims : Narrows key active conflict claim replaced)
    (narrows : List.Forall₂ (Narrows key active conflict) before after)
    (apart : ∀ other ∈ before, active claim → active other → ¬ conflict claim other) :
    ∀ other ∈ after, active replaced → active other → ¬ conflict replaced other := by
  induction narrows with
  | nil => exact fun _ member => absurd member not_mem_nil
  | @cons old new olds news first _ ih =>
    intro other member replacedActive otherActive clash
    rcases mem_cons.mp member with rfl | later
    · have oldClash := (first.sameConflicts claim).2 ((claims.sameConflicts other).1 clash)
      exact apart old mem_cons_self (claims.activeBefore replacedActive)
        (first.activeBefore otherActive) oldClash
    · exact ih (forall_mem_cons.mp apart).2 other later replacedActive otherActive clash

theorem Exclusive.narrow (exclusive : Exclusive key active conflict before)
    (narrows : List.Forall₂ (Narrows key active conflict) before after) :
    Exclusive key active conflict after := by
  refine ⟨map_key_of_narrows narrows ▸ exclusive.distinct, ?_⟩
  have apart := exclusive.apart
  clear exclusive
  induction narrows with
  | nil => exact List.Pairwise.nil
  | cons first rest ih =>
    rw [pairwise_cons] at apart ⊢
    exact ⟨apart_of_narrows first rest apart.1, ih apart.2⟩

theorem Exclusive.concat {table : List α} {claim : α}
    (exclusive : Exclusive key active conflict table) (fresh : ∀ other ∈ table, key other ≠ key claim)
    (compatible : ∀ other ∈ table, active other → ¬ conflict other claim) :
    Exclusive key active conflict (table ++ [claim]) := by
  constructor
  · rw [map_append, nodup_append]
    refine ⟨exclusive.distinct, nodup_singleton _, ?_⟩
    intro left inTable right inClaim same
    obtain ⟨other, member, rfl⟩ := mem_map.mp inTable
    rw [map_singleton, mem_singleton] at inClaim
    exact fresh other member (same.trans inClaim)
  · rw [pairwise_append]
    refine ⟨exclusive.apart, pairwise_singleton _ _, ?_⟩
    intro other member added inClaim otherActive _
    rw [mem_singleton] at inClaim
    rw [inClaim]
    exact compatible other member otherActive

theorem Exclusive.not_conflict {table : List α} (exclusive : Exclusive key active conflict table)
    (symmetric : ∀ left right, conflict left right → conflict right left) {left right : α}
    (inLeft : left ∈ table) (inRight : right ∈ table) (different : left ≠ right)
    (leftActive : active left) (rightActive : active right) : ¬ conflict left right := by
  have apartSymmetric : Std.Symm fun left right => active left → active right → ¬ conflict left right :=
    ⟨fun left right apart rightActive leftActive clash =>
      apart leftActive rightActive (symmetric right left clash)⟩
  exact exclusive.apart.forall inLeft inRight different leftActive rightActive

end WorkOrchestration.Lib.Exclusion
