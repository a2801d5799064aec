import Mathlib.Data.Finset.Dedup
import Mathlib.Data.List.Sublists
import WorkOrchestration.Lib.Sorting

/-!
# Combinations

The selections of a given number of elements from a list, in the order in which
a program walks through them, and the selections up to a given size as the
subsets of what the list holds.
-/

namespace WorkOrchestration.Lib.Combinations

open List Sorting

variable {α : Type}

/-- The selections of `size` elements, those with earlier elements first. -/
def combinations : Nat → List α → List (List α)
  | 0, _ => [[]]
  | _ + 1, [] => []
  | size + 1, first :: rest =>
    (combinations size rest).map (first :: ·) ++ combinations (size + 1) rest

theorem combinations_perm (size : Nat) (items : List α) :
    (combinations size items).Perm (items.sublistsLen size) := by
  induction items generalizing size with
  | nil =>
    cases size with
    | zero | succ => exact List.Perm.refl _
  | cons first rest ih =>
    cases size with
    | zero => rw [combinations, sublistsLen_zero]
    | succ size =>
      rw [sublistsLen_succ_cons]
      exact (((ih size).map _).append (ih (size + 1))).trans perm_append_comm

theorem mem_combinations {size : Nat} {items selection : List α} :
    selection ∈ combinations size items ↔ selection.Sublist items ∧ selection.length = size := by
  rw [(combinations_perm size items).mem_iff, mem_sublistsLen]

variable {items : List α}

theorem nodup_combinations (distinct : items.Nodup) (size : Nat) :
    (combinations size items).Nodup :=
  (combinations_perm size items).nodup_iff.mpr (nodup_sublistsLen size distinct)

/-- The selections of two elements. -/
def pairs : List α → List (α × α)
  | [] => []
  | first :: rest => rest.map (fun other => (first, other)) ++ pairs rest

theorem forall_mem_pairs {related : α → α → Prop} :
    (∀ pair ∈ pairs items, related pair.1 pair.2) ↔ items.Pairwise related := by
  induction items with
  | nil => simp [pairs]
  | cons first rest ih =>
    rw [pairs, forall_mem_append, ih, pairwise_cons, forall_mem_map]

theorem mem_pairs {pair : α × α} (member : pair ∈ pairs items) :
    pair.1 ∈ items ∧ pair.2 ∈ items := by
  induction items with
  | nil => cases member
  | cons first rest ih =>
    rw [pairs, mem_append, mem_map] at member
    rcases member with ⟨other, found, rfl⟩ | later
    · exact ⟨mem_cons_self, mem_cons_of_mem _ found⟩
    · exact ⟨mem_cons_of_mem _ (ih later).1, mem_cons_of_mem _ (ih later).2⟩

theorem pair_mem_pairs {left right : α} (inLeft : left ∈ items)
    (inRight : right ∈ items) (apart : left ≠ right) :
    (left, right) ∈ pairs items ∨ (right, left) ∈ pairs items := by
  induction items with
  | nil => cases inLeft
  | cons first rest ih =>
    rw [pairs]
    simp only [mem_append, mem_map]
    rcases mem_cons.mp inLeft with isFirst | leftLater
    · subst isFirst
      have later := (mem_cons.mp inRight).resolve_left (Ne.symm apart)
      exact .inl (.inl ⟨right, later, rfl⟩)
    · rcases mem_cons.mp inRight with isFirst | rightLater
      · subst isFirst
        exact .inr (.inl ⟨left, leftLater, rfl⟩)
      · exact (ih leftLater rightLater).imp .inr .inr

/-- The selections of one up to `limit` elements, the smaller ones first. -/
def selections (limit : Nat) (items : List α) : List (List α) :=
  (List.range' 1 limit).flatMap fun size => combinations size items

theorem mem_selections {limit : Nat} {items selection : List α} :
    selection ∈ selections limit items ↔
      selection.Sublist items ∧ selection ≠ [] ∧ selection.length ≤ limit := by
  unfold selections
  simp only [mem_flatMap, mem_range'_1, mem_combinations]
  constructor
  · rintro ⟨size, ⟨positive, bounded⟩, part, rfl⟩
    exact ⟨part, length_pos_iff.mp positive, by omega⟩
  · rintro ⟨part, nonempty, bounded⟩
    have positive := length_pos_iff.mpr nonempty
    exact ⟨selection.length, ⟨positive, by omega⟩, part, rfl⟩

theorem nodup_selections (distinct : items.Nodup) (limit : Nat) :
    (selections limit items).Nodup := by
  unfold selections
  rw [nodup_flatMap]
  refine ⟨fun size _ => nodup_combinations distinct size, ?_⟩
  have sizes : (List.range' 1 limit).Pairwise (· ≠ ·) := nodup_range' 1
  refine sizes.imp ?_
  intro first second apart selection inFirst inSecond
  exact apart ((mem_combinations.mp inFirst).2.symm.trans (mem_combinations.mp inSecond).2)

variable [DecidableEq α]

theorem sublist_eq_of_toFinset {items first second : List α} (distinct : items.Nodup)
    (inFirst : first.Sublist items) (inSecond : second.Sublist items)
    (same : first.toFinset = second.toFinset) : first = second := by
  have whole := perm_of_nodup_nodup_toFinset_eq (distinct.sublist inFirst)
    (distinct.sublist inSecond) same
  exact (distinct.perm_iff_eq_of_sublist inFirst inSecond).mp whole

theorem exists_sublist {subset : Finset α} (within : subset ⊆ items.toFinset) :
    ∃ selection : List α, selection.Sublist items ∧ selection.toFinset = subset := by
  refine ⟨items.filter (· ∈ subset), filter_sublist, ?_⟩
  ext item
  rw [mem_toFinset, mem_filter, decide_eq_true_eq, and_iff_right_iff_imp]
  intro member
  exact mem_toFinset.mp (within member)

end WorkOrchestration.Lib.Combinations
