import Mathlib.Data.List.Perm.Basic
import Mathlib.Data.List.Sort
import Mathlib.Tactic.Common

/-!
# Deadlines and turns

Jobs that are served one after another, each before its deadline, and positions that take turns
from a cursor on.
-/

namespace WorkOrchestration.Lib.Deadlines

open List

section

variable {Job : Type} (deadline service : Job → Nat)

/-- Served one after another from a time on, every job ends before its deadline. -/
def InTime : Nat → List Job → Prop
  | _, [] => True
  | now, job :: rest => now + service job < deadline job ∧ InTime (now + service job) rest

variable {deadline service}

theorem InTime.first {now : Nat} {front back : List Job} {job : Job}
    (due : ∀ other ∈ front, deadline job ≤ deadline other)
    (inTime : InTime deadline service now (front ++ job :: back)) :
    InTime deadline service now (job :: (front ++ back)) := by
  induction front generalizing now with
  | nil => exact inTime
  | cons other rest ih =>
    obtain ⟨_, later⟩ := inTime
    obtain ⟨ends, others⟩ := ih (forall_mem_cons.mp due).2 later
    have swapped : now + service job + service other = now + service other + service job :=
      Nat.add_right_comm _ _ _
    refine ⟨Nat.lt_of_le_of_lt (Nat.add_le_add_right (Nat.le_add_right _ _) _) ends, ?_, ?_⟩
    · rw [swapped]
      exact Nat.lt_of_lt_of_le ends (due other mem_cons_self)
    · rw [swapped]
      exact others

theorem InTime.earliest_first {jobs others : List Job} {now : Nat}
    (sorted : jobs.Pairwise fun first second => deadline first ≤ deadline second)
    (same : others.Perm jobs) (inTime : InTime deadline service now others) :
    InTime deadline service now jobs := by
  induction jobs generalizing others now with
  | nil => exact True.intro
  | cons job rest ih =>
    obtain ⟨due, sorted⟩ := pairwise_cons.mp sorted
    obtain ⟨front, back, rfl⟩ := append_of_mem (same.symm.subset mem_cons_self)
    have remaining : (front ++ back).Perm rest := (perm_middle.symm.trans same).cons_inv
    have front_due (other : Job) (member : other ∈ front) : deadline job ≤ deadline other :=
      due other (remaining.subset (mem_append_left back member))
    obtain ⟨ends, later⟩ := inTime.first front_due
    exact ⟨ends, ih sorted remaining later⟩

/-- Where every job takes as long, only its place counts. -/
theorem inTime_iff_places {length : Nat} {jobs : List Job} {now : Nat} :
    InTime deadline (fun _ => length) now jobs ↔
      ∀ place job, jobs[place]? = some job → now + (place + 1) * length < deadline job := by
  induction jobs generalizing now with
  | nil =>
    refine ⟨fun _ place job found => ?_, fun _ => True.intro⟩
    cases found
  | cons first rest ih =>
    have later (place : Nat) : now + length + (place + 1) * length = now + (place + 1 + 1) * length := by
      rw [Nat.add_assoc, Nat.add_comm length, ← Nat.succ_mul]
    constructor
    · rintro ⟨ends, others⟩ place job found
      cases place with
      | zero =>
        cases found
        rw [Nat.one_mul]
        exact ends
      | succ place =>
        rw [← later]
        exact ih.mp others place job found
    · intro each
      refine ⟨?_, ih.mpr fun place job found => ?_⟩
      · simpa using each 0 first rfl
      · rw [later]
        exact each (place + 1) job found

end

/-- How many positions come before this one when the cursor's position goes first. -/
def turn (cursor count position : Nat) : Nat := (position + count - cursor) % count

variable {cursor count position other : Nat}

theorem turn_lt (within : position < count) : turn cursor count position < count :=
  Nat.mod_lt _ (Nat.zero_lt_of_lt within)

theorem turn_of_le (behind : cursor ≤ position) (within : position < count) :
    turn cursor count position = position - cursor := by
  unfold turn
  rw [show position + count - cursor = position - cursor + count by omega, Nat.add_mod_right,
    Nat.mod_eq_of_lt (by omega)]

theorem turn_of_lt (ahead : position < cursor) (within : cursor ≤ count) :
    turn cursor count position = position + count - cursor :=
  Nat.mod_eq_of_lt (by omega)

theorem turn_injective (within : cursor ≤ count) (first : position < count) (second : other < count)
    (same : turn cursor count position = turn cursor count other) : position = other := by
  rcases Nat.lt_or_ge position cursor with ahead | behind
  · rcases Nat.lt_or_ge other cursor with ahead' | behind'
    · rw [turn_of_lt ahead within, turn_of_lt ahead' within] at same
      omega
    · rw [turn_of_lt ahead within, turn_of_le behind' second] at same
      omega
  · rcases Nat.lt_or_ge other cursor with ahead' | behind'
    · rw [turn_of_le behind first, turn_of_lt ahead' within] at same
      omega
    · rw [turn_of_le behind first, turn_of_le behind' second] at same
      omega

/-- Behind a position that had its turn, a later one is that much closer. -/
theorem turn_advance (within : cursor < count) (first : position < count) (second : other < count)
    (later : turn cursor count position < turn cursor count other) :
    turn ((position + 1) % count) count other < turn cursor count other := by
  have wraps : (position + 1) % count = if position + 1 = count then 0 else position + 1 := by
    by_cases last : position + 1 = count
    · rw [if_pos last, last, Nat.mod_self]
    · rw [if_neg last, Nat.mod_eq_of_lt (by omega)]
  rw [wraps]
  by_cases last : position + 1 = count
  · rw [if_pos last, turn_of_le (Nat.zero_le _) second]
    rcases Nat.lt_or_ge other cursor with ahead | behind
    · rw [turn_of_lt ahead within.le]
      omega
    · rw [turn_of_le behind second] at later
      rcases Nat.lt_or_ge position cursor with ahead' | behind'
      · omega
      · rw [turn_of_le behind' first] at later
        omega
  · rw [if_neg last]
    rcases Nat.lt_or_ge other (position + 1) with ahead | behind
    · rw [turn_of_lt ahead (by omega)]
      rcases Nat.lt_or_ge other cursor with ahead' | behind'
      · rw [turn_of_lt ahead' within.le] at later ⊢
        rcases Nat.lt_or_ge position cursor with before | after
        · rw [turn_of_lt before within.le] at later
          omega
        · omega
      · rw [turn_of_le behind' second, turn_of_le (by omega) first] at later
        omega
    · rw [turn_of_le behind second]
      rcases Nat.lt_or_ge other cursor with ahead' | behind'
      · rw [turn_of_lt ahead' within.le]
        omega
      · rw [turn_of_le behind' second] at later ⊢
        rcases Nat.lt_or_ge position cursor with before | after
        · rw [turn_of_lt before within.le] at later
          omega
        · omega

/-- The first member of an ascending list that has a property is the least one. -/
theorem find?_eq_some_iff_least {α : Type} {items : List α} {holds : α → Bool} {rank : α → Nat} {item : α}
    (ascending : items.Pairwise fun first second => rank first < rank second) :
    items.find? holds = some item ↔
      item ∈ items ∧ holds item = true ∧ ∀ other ∈ items, holds other = true → rank item ≤ rank other := by
  induction items with
  | nil => simp
  | cons first rest ih =>
    obtain ⟨above, ascending⟩ := pairwise_cons.mp ascending
    cases held : holds first with
    | true =>
      rw [find?_cons_of_pos held]
      constructor
      · rintro ⟨⟩
        refine ⟨mem_cons_self, held, fun other member _ => ?_⟩
        rcases mem_cons.mp member with rfl | later
        · exact le_refl _
        · exact (above other later).le
      · rintro ⟨member, _, least⟩
        rcases mem_cons.mp member with rfl | later
        · rfl
        · exact absurd (least first mem_cons_self held) (Nat.not_le.mpr (above item later))
    | false =>
      rw [find?_cons_of_neg (by simp [held]), ih ascending]
      constructor
      · rintro ⟨member, here, least⟩
        refine ⟨mem_cons_of_mem _ member, here, fun other among holds' => ?_⟩
        rcases mem_cons.mp among with rfl | later
        · rw [held] at holds'
          cases holds'
        · exact least other later holds'
      · rintro ⟨member, here, least⟩
        rcases mem_cons.mp member with rfl | later
        · rw [held] at here
          cases here
        · exact ⟨later, here, (forall_mem_cons.mp least).2⟩

end WorkOrchestration.Lib.Deadlines
