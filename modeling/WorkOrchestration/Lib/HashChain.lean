import Mathlib.Data.List.Induction
import Mathlib.Tactic.Common

/-!
# Hash chains

A chain of records in which every record names the digest of the one before it.
Where a digest determines the record it was taken of, the last record of a chain
determines all the others, so a record can be neither dropped nor exchanged nor
rewritten in front of one that stays.
-/

namespace WorkOrchestration.Lib.HashChain

open List

variable {Record Digest : Type} {digest : Record → Digest} {link : Record → Option Digest}

/-- Every record names the digest of the record before it, and the first names `previous`. -/
def Linked (digest : Record → Digest) (link : Record → Option Digest) :
    Option Digest → List Record → Prop
  | _, [] => True
  | previous, record :: rest => link record = previous ∧ Linked digest link (some (digest record)) rest

/-- The digest that the next record of a chain has to name. -/
def head (digest : Record → Digest) (previous : Option Digest) (records : List Record) :
    Option Digest :=
  match records.getLast? with
  | none => previous
  | some record => some (digest record)

@[simp]
theorem head_nil (previous : Option Digest) : head digest previous [] = previous := rfl

@[simp]
theorem head_concat (previous : Option Digest) (records : List Record) (record : Record) :
    head digest previous (records ++ [record]) = some (digest record) := by
  simp [head]

theorem head_cons (previous : Option Digest) (record : Record) (rest : List Record) :
    head digest previous (record :: rest) = head digest (some (digest record)) rest := by
  unfold head
  cases rest with
  | nil => rfl
  | cons next rest => rw [getLast?_cons_cons]; simp [getLast?_cons]

variable {front back : List Record}

theorem linked_append {previous : Option Digest} : Linked digest link previous (front ++ back) ↔
      Linked digest link previous front ∧ Linked digest link (head digest previous front) back := by
  induction front generalizing previous with
  | nil => simp [Linked]
  | cons record rest ih =>
    rw [cons_append, Linked, Linked, ih, head_cons, and_assoc]

theorem linked_concat {previous : Option Digest} {records : List Record} {record : Record} :
    Linked digest link previous (records ++ [record]) ↔
      Linked digest link previous records ∧ link record = head digest previous records := by
  rw [linked_append]
  simp [Linked]

/-- A digest determines the link of the record it was taken of. -/
def Binding (digest : Record → Digest) (link : Record → Option Digest) : Prop :=
  ∀ left right, digest left = digest right → link left = link right

section

variable (binding : Binding digest link)

include binding

/-- Two chains from the beginning with the same head have the same digests. -/
theorem digests_eq_of_head_eq {left right : List Record}
    (linkedLeft : Linked digest link none left) (linkedRight : Linked digest link none right)
    (same : head digest none left = head digest none right) :
    left.map digest = right.map digest := by
  induction left using List.reverseRecOn generalizing right with
  | nil =>
    cases right using List.reverseRecOn with
    | nil => rfl
    | append_singleton records record =>
      rw [head_concat] at same
      cases same
  | append_singleton records record ih =>
    cases right using List.reverseRecOn with
    | nil =>
      rw [head_concat] at same
      cases same
    | append_singleton others other =>
      rw [head_concat, head_concat] at same
      have sameDigest : digest record = digest other := Option.some.inj same
      obtain ⟨chained, linkLeft⟩ := linked_concat.mp linkedLeft
      obtain ⟨chainedRight, linkRight⟩ := linked_concat.mp linkedRight
      have sameLink := binding record other sameDigest
      rw [linkLeft, linkRight] at sameLink
      have front := ih chained chainedRight sameLink
      rw [map_append, map_append, front, map_singleton, map_singleton, sameDigest]

theorem length_eq_of_head_eq {left right : List Record}
    (linkedLeft : Linked digest link none left) (linkedRight : Linked digest link none right)
    (same : head digest none left = head digest none right) : left.length = right.length := by
  have digests := digests_eq_of_head_eq binding linkedLeft linkedRight same
  simpa using congrArg List.length digests

/-- No digest comes up twice in a chain. -/
theorem nodup_of_linked {records : List Record}
    (linked : Linked digest link none records) : (records.map digest).Nodup := by
  induction records using List.reverseRecOn with
  | nil => exact nodup_nil
  | append_singleton records record ih =>
    rw [map_append, nodup_append]
    refine ⟨ih (linked_concat.mp linked).1, by simp, ?_⟩
    intro earlier member last found same
    obtain ⟨other, inside, rfl⟩ := mem_map.mp member
    obtain ⟨front, back, rfl⟩ := append_of_mem inside
    have part : Linked digest link none (front ++ [other]) := by
      rw [append_assoc, cons_append, ← singleton_append, ← append_assoc] at linked
      exact (linked_append.mp linked).1
    have lengths := length_eq_of_head_eq binding part linked (by
      rw [head_concat, head_concat, same, mem_singleton.mp found])
    simp only [length_append, length_cons] at lengths
    omega

theorem not_linked_of_dropped {dropped next : Record}
    (linked : Linked digest link none (front ++ dropped :: next :: back)) :
    ¬ Linked digest link none (front ++ next :: back) := by
  intro shorter
  have whole : Linked digest link none ((front ++ [dropped]) ++ [next]) := by
    rw [show front ++ dropped :: next :: back = ((front ++ [dropped]) ++ [next]) ++ back by simp]
      at linked
    exact (linked_append.mp linked).1
  have part : Linked digest link none (front ++ [next]) := by
    rw [show front ++ next :: back = (front ++ [next]) ++ back by simp] at shorter
    exact (linked_append.mp shorter).1
  have lengths := length_eq_of_head_eq binding whole part (by rw [head_concat, head_concat])
  simp at lengths

theorem not_linked_of_swapped {middle : List Record} {first second : Record}
    (linked : Linked digest link none (front ++ first :: (middle ++ second :: back))) :
    ¬ Linked digest link none (front ++ second :: (middle ++ first :: back)) := by
  intro swapped
  have whole : Linked digest link none ((front ++ first :: middle) ++ [second]) := by
    rw [show front ++ first :: (middle ++ second :: back) =
      ((front ++ first :: middle) ++ [second]) ++ back by simp] at linked
    exact (linked_append.mp linked).1
  have part : Linked digest link none (front ++ [second]) := by
    rw [show front ++ second :: (middle ++ first :: back) =
      (front ++ [second]) ++ (middle ++ first :: back) by simp] at swapped
    exact (linked_append.mp swapped).1
  have lengths := length_eq_of_head_eq binding whole part (by rw [head_concat, head_concat])
  simp at lengths

end

theorem digest_eq_of_rewritten {record rewritten next : Record}
    (linked : Linked digest link none (front ++ record :: next :: back))
    (still : Linked digest link none (front ++ rewritten :: next :: back)) :
    digest rewritten = digest record := by
  have named := (linked_append.mp linked).2.2.1
  have renamed := (linked_append.mp still).2.2.1
  rw [named] at renamed
  exact (Option.some.inj renamed).symm

end WorkOrchestration.Lib.HashChain
