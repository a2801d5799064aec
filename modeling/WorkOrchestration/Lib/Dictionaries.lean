import Mathlib.Data.List.Basic
import Mathlib.Data.List.Nodup
import Mathlib.Data.List.Sort
import Mathlib.Data.Set.Function
import Mathlib.Order.Basic
import Mathlib.Tactic.Common

/-!
# Dictionaries

A dictionary as the list of its entries in the order in which their keys were
first assigned.  Values filed under a key of their own and read back in the
order of the keys are the same values, each once, whatever order they came in.
-/

namespace WorkOrchestration.Lib.Dictionaries

open List

variable {α κ : Type}

section

variable [DecidableEq κ]

/-- `table[key] = value`. -/
def assign (key : κ) (value : α) : List (κ × α) → List (κ × α)
  | [] => [(key, value)]
  | entry :: rest =>
    if entry.1 = key then (key, value) :: rest else entry :: assign key value rest

/-- `{key(value): value for value in values}`. -/
def filed (key : α → κ) (values : List α) : List (κ × α) :=
  values.foldl (fun table value => assign (key value) value table) []

variable {key : κ} {value : α} {table : List (κ × α)}

theorem mem_keys_assign {other : κ} :
    other ∈ (assign key value table).map Prod.fst ↔ other = key ∨ other ∈ table.map Prod.fst := by
  induction table with
  | nil => simp [assign]
  | cons entry rest ih =>
    unfold assign
    split
    · rename_i same
      simp [same]
    · simp only [map_cons, mem_cons]
      tauto

theorem nodup_keys_assign (distinct : (table.map Prod.fst).Nodup) :
    ((assign key value table).map Prod.fst).Nodup := by
  induction table with
  | nil => simp [assign]
  | cons entry rest ih =>
    rw [map_cons, nodup_cons] at distinct
    unfold assign
    split
    · rename_i same
      rw [map_cons, nodup_cons, ← same]
      exact distinct
    · rename_i other
      rw [map_cons, nodup_cons, mem_keys_assign]
      exact ⟨not_or.mpr ⟨other, distinct.1⟩, ih distinct.2⟩

theorem mem_of_mem_assign {entry : κ × α} (member : entry ∈ assign key value table) :
    entry = (key, value) ∨ entry ∈ table := by
  induction table with
  | nil => exact .inl (mem_singleton.mp member)
  | cons first rest ih =>
    unfold assign at member
    split at member
    · rcases mem_cons.mp member with rfl | later
      · exact .inl rfl
      · exact .inr (mem_cons_of_mem _ later)
    · rcases mem_cons.mp member with rfl | later
      · exact .inr mem_cons_self
      · exact (ih later).imp_right (mem_cons_of_mem _)

/-- What holds of a dictionary whose entries stand under the key of their value. -/
structure Filed (key : α → κ) (values : List α) (table : List (κ × α)) : Prop where
  distinct : (table.map Prod.fst).Nodup
  entries : ∀ entry ∈ table, entry.1 = key entry.2 ∧ entry.2 ∈ values
  complete : ∀ value ∈ values, key value ∈ table.map Prod.fst

theorem Filed.assign {key : α → κ} {values : List α}
    (kept : Filed key values table) (value : α) :
    Filed key (values ++ [value]) (assign (key value) value table) where
  distinct := nodup_keys_assign kept.distinct
  entries := by
    intro entry member
    rcases mem_of_mem_assign member with rfl | old
    · exact ⟨rfl, by simp⟩
    · exact ⟨(kept.entries entry old).1, mem_append_left _ (kept.entries entry old).2⟩
  complete := by
    intro other member
    rw [mem_keys_assign]
    rcases mem_append.mp member with old | new
    · exact .inr (kept.complete other old)
    · exact .inl (congrArg key (mem_singleton.mp new))

theorem Filed.foldl {key : α → κ} {values : List α}
    (kept : Filed key values table) (more : List α) :
    Filed key (values ++ more)
      (more.foldl (fun table value => Dictionaries.assign (key value) value table) table) := by
  induction more generalizing values table with
  | nil => simpa using kept
  | cons value rest ih => simpa using ih (kept.assign value)

theorem filed_filed (key : α → κ) (values : List α) : Filed key values (filed key values) := by
  have empty : Filed key [] ([] : List (κ × α)) :=
    ⟨nodup_nil, fun _ member => absurd member not_mem_nil,
      fun _ member => absurd member not_mem_nil⟩
  exact empty.foldl values

end

variable [LinearOrder κ]

/-- `[table[key] for key in sorted(table)]`. -/
def inKeyOrder (table : List (κ × α)) : List α :=
  ((table.map Prod.fst).insertionSort (· ≤ ·)).filterMap (table.lookup ·)

theorem lookup_of_mem_keys {key : κ} {table : List (κ × α)} (member : key ∈ table.map Prod.fst) :
    ∃ value, table.lookup key = some value ∧ (key, value) ∈ table := by
  induction table with
  | nil => cases member
  | cons entry rest ih =>
    obtain ⟨name, value⟩ := entry
    by_cases same : key = name
    · subst same
      exact ⟨value, lookup_cons_self, mem_cons_self⟩
    · have later : key ∈ rest.map Prod.fst := (mem_cons.mp member).resolve_left same
      obtain ⟨found, looked, inside⟩ := ih later
      refine ⟨found, ?_, mem_cons_of_mem _ inside⟩
      rw [lookup_cons, beq_eq_false_iff_ne.mpr same]
      exact looked

variable {key : α → κ} {values : List α} {table : List (κ × α)}

variable (kept : Filed key values table)

include kept

theorem Filed.map_key_filterMap {names : List κ}
    (known : ∀ name ∈ names, name ∈ table.map Prod.fst) :
    (names.filterMap (table.lookup ·)).map key = names := by
  induction names with
  | nil => rfl
  | cons name rest ih =>
    obtain ⟨value, found, member⟩ := lookup_of_mem_keys (known name mem_cons_self)
    rw [filterMap_cons, found, map_cons, (kept.entries _ member).1.symm,
      ih (forall_mem_cons.mp known).2]

theorem Filed.map_key_inKeyOrder :
    (inKeyOrder table).map key = (table.map Prod.fst).insertionSort (· ≤ ·) :=
  kept.map_key_filterMap fun _ member => (mem_insertionSort _).mp member

theorem Filed.pairwise_inKeyOrder : (inKeyOrder table).Pairwise (key · < key ·) := by
  have ordered : ((inKeyOrder table).map key).Pairwise (· < ·) := by
    rw [kept.map_key_inKeyOrder]
    have sorted := pairwise_insertionSort (· ≤ ·) (table.map Prod.fst)
    have distinct : ((table.map Prod.fst).insertionSort (· ≤ ·)).Nodup :=
      (perm_insertionSort _ _).nodup_iff.mpr kept.distinct
    exact (sorted.and distinct).imp fun both => lt_of_le_of_ne both.1 both.2
  exact pairwise_map.mp ordered

theorem Filed.mem_inKeyOrder (own : Set.InjOn key {value | value ∈ values}) {value : α} :
    value ∈ inKeyOrder table ↔ value ∈ values := by
  have known : ∀ other ∈ inKeyOrder table, other ∈ values := by
    intro other member
    obtain ⟨name, sorted, found⟩ := mem_filterMap.mp member
    obtain ⟨filed, looked, inside⟩ := lookup_of_mem_keys ((mem_insertionSort _).mp sorted)
    rw [looked] at found
    cases found
    exact (kept.entries _ inside).2
  refine ⟨known value, ?_⟩
  intro member
  have listed : key value ∈ (inKeyOrder table).map key := by
    rw [kept.map_key_inKeyOrder]
    exact (mem_insertionSort _).mpr (kept.complete value member)
  obtain ⟨other, inside, same⟩ := mem_map.mp listed
  rwa [← own (known other inside) member same]

end WorkOrchestration.Lib.Dictionaries
