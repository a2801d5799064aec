import Mathlib.Data.List.Basic
import Mathlib.Data.List.Forall2
import Mathlib.Data.Prod.Lex
import Mathlib.Order.Bounds.Basic
import Mathlib.Order.Bounds.Image
import Mathlib.Tactic.Common

/-!
# Merging as joining

A function that merges any number of values joins them when the values have a
meaning in a partial order, a merged value means the least upper bound of what
went in, and a valid value is known by its meaning.  How often, in which order
and in which groups the values are merged then makes no difference.
-/

namespace WorkOrchestration.Lib.Joins

open List
open Prod.Lex (le_iff)

/--
Among things ranked first by one order, the least upper bound is that of the
things with the highest rank.
-/
theorem isLUB_toLex {ρ β : Type} [PartialOrder ρ] [PartialOrder β] {things : Set (ρ ×ₗ β)}
    {top : ρ} {best : β} (attained : ∃ thing, toLex (top, thing) ∈ things)
    (highest : ∀ thing ∈ things, (ofLex thing).1 ≤ top)
    (least : IsLUB {thing | toLex (top, thing) ∈ things} best) :
    IsLUB things (toLex (top, best)) := by
  constructor
  · intro thing member
    rcases (highest thing member).lt_or_eq with lower | level
    · exact le_iff.mpr (.inl lower)
    · refine le_iff.mpr (.inr ⟨level, least.1 ?_⟩)
      rw [← level]
      exact member
  · intro bound above
    obtain ⟨first, member⟩ := attained
    rcases le_iff.mp (above member) with lower | ⟨level, _⟩
    · exact le_iff.mpr (.inl lower)
    · refine le_iff.mpr (.inr ⟨level, least.2 ?_⟩)
      intro thing inside
      rcases le_iff.mp (above inside) with lower | ⟨_, within⟩
      · exact absurd level lower.ne
      · exact within

variable {α β ε : Type} [PartialOrder β]

/-- Merging valid values yields a valid value that means their least upper bound. -/
structure Joining (valid : α → Prop) (meaning : α → β) (merge : List α → Except ε α) : Prop where
  merges : ∀ values, values ≠ [] → (∀ value ∈ values, valid value) →
    ∃ merged, merge values = .ok merged ∧ valid merged ∧
      IsLUB (meaning '' {value | value ∈ values}) (meaning merged)
  faithful : ∀ left right, valid left → valid right → meaning left = meaning right → left = right

namespace Joining

variable {valid : α → Prop} {meaning : α → β} {merge : List α → Except ε α}

section

variable (joining : Joining valid meaning merge)

include joining

theorem merge_eq {values : List α} (given : values ≠ [])
    (accepted : ∀ value ∈ values, valid value) {join : α} (good : valid join)
    (least : IsLUB (meaning '' {value | value ∈ values}) (meaning join)) :
    merge values = .ok join := by
  obtain ⟨merged, done, fine, bound⟩ := joining.merges values given accepted
  rw [done, joining.faithful merged join fine good (bound.unique least)]

theorem merge_congr {values others : List α}
    (given : values ≠ []) (accepted : ∀ value ∈ values, valid value)
    (same : ∀ value, value ∈ values ↔ value ∈ others) : merge values = merge others := by
  have present : others ≠ [] := by
    obtain ⟨value, member⟩ := exists_mem_of_ne_nil values given
    exact ne_nil_of_mem ((same value).mp member)
  obtain ⟨merged, done, fine, bound⟩ := joining.merges values given accepted
  rw [done]
  refine (joining.merge_eq present (fun value member => accepted value ((same value).mpr member))
    fine ?_).symm
  simpa only [same] using bound

theorem merge_perm {values others : List α}
    (given : values ≠ []) (accepted : ∀ value ∈ values, valid value)
    (reordered : values.Perm others) : merge values = merge others :=
  joining.merge_congr given accepted fun _ => reordered.mem_iff

theorem merge_copies {values : List α} {value : α}
    (given : values ≠ []) (good : valid value) (copies : ∀ other ∈ values, other = value) :
    merge values = .ok value := by
  have single : {other | other ∈ values} = {value} := by
    obtain ⟨other, member⟩ := exists_mem_of_ne_nil values given
    ext candidate
    refine ⟨copies candidate, ?_⟩
    rintro rfl
    rwa [← copies other member]
  refine joining.merge_eq given (fun other member => copies other member ▸ good) good ?_
  rw [single, Set.image_singleton]
  exact isLUB_singleton

theorem mapM_merge {groups : List (List α)} (given : ∀ group ∈ groups, group ≠ [])
    (accepted : ∀ group ∈ groups, ∀ value ∈ group, valid value) :
    ∃ joins, groups.mapM merge = .ok joins ∧ (∀ join ∈ joins, valid join) ∧
      List.Forall₂ (fun group join => IsLUB (meaning '' {value | value ∈ group}) (meaning join))
        groups joins := by
  induction groups with
  | nil => exact ⟨[], rfl, fun _ member => absurd member not_mem_nil, List.Forall₂.nil⟩
  | cons group rest ih =>
    obtain ⟨join, done, good, bound⟩ :=
      joining.merges group (given group mem_cons_self) (accepted group mem_cons_self)
    obtain ⟨joins, later, fine, bounds⟩ :=
      ih (forall_mem_cons.mp given).2 (forall_mem_cons.mp accepted).2
    refine ⟨join :: joins, ?_, forall_mem_cons.mpr ⟨good, fine⟩, List.Forall₂.cons bound bounds⟩
    rw [mapM_cons, done, later]
    rfl

end

theorem isLUB_flatten {groups : List (List α)} {joins : List α} {join : α}
    (bounds : List.Forall₂ (fun group join =>
      IsLUB (meaning '' {value | value ∈ group}) (meaning join)) groups joins)
    (least : IsLUB (meaning '' {value | value ∈ joins}) (meaning join)) :
    IsLUB (meaning '' {value | value ∈ groups.flatten}) (meaning join) := by
  have above : ∀ bound, bound ∈ upperBounds (meaning '' {value | value ∈ groups.flatten}) ↔
      bound ∈ upperBounds (meaning '' {value | value ∈ joins}) := by
    intro bound
    simp only [mem_upperBounds, Set.forall_mem_image, Set.mem_ofPred_eq]
    clear least
    induction bounds with
    | nil => simp
    | cons first _ ih =>
      have here := isLUB_le_iff first (b := bound)
      simp only [mem_upperBounds, Set.forall_mem_image, Set.mem_ofPred_eq] at here
      simp only [flatten_cons, mem_append, mem_cons, or_imp, forall_and, forall_eq, here, ih]
  constructor
  · exact (above _).mpr least.1
  · intro bound member
    exact least.2 ((above bound).mp member)

variable (joining : Joining valid meaning merge)

include joining

/-- Merging in groups and then merging the groups is merging everything. -/
theorem merge_flatten {groups : List (List α)}
    (some : groups ≠ []) (given : ∀ group ∈ groups, group ≠ [])
    (accepted : ∀ group ∈ groups, ∀ value ∈ group, valid value) :
    (groups.mapM merge >>= merge) = merge groups.flatten := by
  obtain ⟨joins, done, fine, bounds⟩ := joining.mapM_merge given accepted
  have present : joins ≠ [] := by
    intro empty
    have level := bounds.length_eq
    rw [empty] at level
    exact some (length_eq_zero_iff.mp level)
  obtain ⟨join, merged, good, least⟩ := joining.merges joins present fine
  have whole : merge groups.flatten = .ok join := by
    refine joining.merge_eq ?_ ?_ good (isLUB_flatten bounds least)
    · obtain ⟨group, member⟩ := exists_mem_of_ne_nil groups some
      obtain ⟨value, inside⟩ := exists_mem_of_ne_nil group (given group member)
      exact ne_nil_of_mem (mem_flatten.mpr ⟨group, member, inside⟩)
    · intro value member
      obtain ⟨group, inside, within⟩ := mem_flatten.mp member
      exact accepted group inside value within
  rw [done, whole]
  exact merged

theorem merge_single {value : α} (good : valid value) : merge [value] = .ok value :=
  joining.merge_copies (cons_ne_nil _ _) good fun _ => mem_singleton.mp

theorem merge_assoc {first second third : α}
    (firstGood : valid first) (secondGood : valid second) (thirdGood : valid third) :
    (merge [first, second] >>= fun join => merge [join, third]) =
      (merge [second, third] >>= fun join => merge [first, join]) := by
  have left : ([[first, second], [third]].mapM merge >>= merge) = merge [first, second, third] :=
    joining.merge_flatten (cons_ne_nil _ _) (by simp) (by simp [firstGood, secondGood, thirdGood])
  have right : ([[first], [second, third]].mapM merge >>= merge) = merge [first, second, third] :=
    joining.merge_flatten (cons_ne_nil _ _) (by simp) (by simp [firstGood, secondGood, thirdGood])
  simp only [mapM_cons, mapM_nil, joining.merge_single firstGood,
    joining.merge_single thirdGood] at left right
  cases early : merge [first, second] <;> cases late : merge [second, third] <;>
    simp only [early, late, bind, Except.bind] at left right ⊢ <;>
    exact left.trans right.symm

end Joining

end WorkOrchestration.Lib.Joins
