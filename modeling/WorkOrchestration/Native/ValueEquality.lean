import WorkOrchestration.Native.JsonDifferences

/-!
# Equality of decoded values

`==` of decoded values: numbers of any type are compared by what they denote, dictionaries
without regard to the order of their fields.
-/

namespace WorkOrchestration.Native.ValueEquality

open List Artifacts Artifacts.Json
open ProtectedChanges (Decoded)

/-- The quotient that a number denotes; a flag counts as zero or one. -/
def numeral? : Json → Option (Int × Nat)
  | .bool value => some (value.toNat, 1)
  | .int value => some (value, 1)
  | .ratio numerator denominator => some (numerator, denominator)
  | _ => none

/-- Two numbers are equal; of the values that are not finite only the infinities are. -/
def sameNumber (left right : Int × Nat) : Bool :=
  if left.2 = 0 ∨ right.2 = 0 then
    left.2 == 0 && right.2 == 0 && left.1.sign == right.1.sign && left.1 != 0
  else left.1 * right.2 == right.1 * left.2

/-- Every part of the left value is equal to its counterpart. -/
def agrees : Json → Json → Bool
  | .field key value rest, other =>
    (match other.get? key with
      | some found => agrees value found && found.keys.all (value.keys.contains ·)
      | none => false) && agrees rest other
  | .objEnd, other => other.isObject
  | .item head tail, .item other others =>
    agrees head other && other.keys.all (head.keys.contains ·) && agrees tail others
  | .arrEnd, other => other == .arrEnd
  | .null, other => other == .null
  | .str text, other => other == .str text
  | .sha256 preimage, other => other == .sha256 preimage
  | left, other =>
    match numeral? left, numeral? other with
    | some number, some found => sameNumber number found
    | _, _ => false

/-- `left == right`. -/
def equal (left right : Json) : Bool := agrees left right && right.keys.all (left.keys.contains ·)

/-- Both fields are missing, or both are there and equal. -/
def SameField : Option Json → Option Json → Prop
  | none, none => True
  | some left, some right => equal left right = true
  | _, _ => False

instance (left right : Option Json) : Decidable (SameField left right) := by
  unfold SameField
  split <;> infer_instance

variable {left right : Json}

theorem agrees_object (dictionary : left.isDict = true) (distinct : left.keys.Nodup) :
    agrees left right = true ↔ right.isObject = true ∧ ∀ key value, left.get? key = some value →
        ∃ found, right.get? key = some found ∧ equal value found = true := by
  induction left with
  | objEnd =>
    exact ⟨fun object => ⟨object, fun _ _ absent => (by cases absent)⟩, fun both => both.1⟩
  | field name held rest _ ih =>
    obtain ⟨absent, distinct⟩ := nodup_cons.mp distinct
    rw [agrees, Bool.and_eq_true, ih dictionary distinct]
    cases found : right.get? name with
    | none =>
      constructor
      · rintro ⟨missing, -⟩
        cases missing
      · rintro ⟨-, all⟩
        obtain ⟨other, present, -⟩ := all name held (by rw [get?, if_pos rfl])
        rw [found] at present
        cases present
    | some other =>
      constructor
      · rintro ⟨same, object, others⟩
        refine ⟨object, fun key value inner => ?_⟩
        rw [get?] at inner
        by_cases named : name = key
        · rw [if_pos named] at inner
          rw [← Option.some.inj inner, ← named]
          exact ⟨other, found, same⟩
        · rw [if_neg named] at inner
          exact others key value inner
      · rintro ⟨object, all⟩
        obtain ⟨first, present, same⟩ := all name held (by rw [get?, if_pos rfl])
        rw [found] at present
        rw [← Option.some.inj present] at same
        refine ⟨same, object, fun key value inner => all key value ?_⟩
        rw [get?, if_neg, inner]
        rintro rfl
        exact absent (mem_keys_iff.mpr (by rw [inner]; exact Option.some_ne_none _))
  | _ => cases dictionary

theorem equal_object (decoded : Decoded left) (object : left.isObject = true)
    (otherObject : right.isObject = true) :
    equal left right = true ↔ ∀ key, SameField (left.get? key) (right.get? key) := by
  unfold equal
  rw [Bool.and_eq_true, agrees_object (decoded.isDict object) decoded.nodup, all_eq_true]
  simp only [contains_iff_mem]
  constructor
  · rintro ⟨⟨_, fields⟩, covered⟩ key
    cases held : left.get? key with
    | none =>
      cases found : right.get? key with
      | none => trivial
      | some value =>
        have present := covered key (mem_keys_iff.mpr (by rw [found]; exact Option.some_ne_none _))
        exact absurd held (mem_keys_iff.mp present)
    | some value =>
      obtain ⟨found, present, same⟩ := fields key value held
      rw [present]
      exact same
  · intro same
    refine ⟨⟨otherObject, fun key value held => ?_⟩, fun key present => ?_⟩
    · have here := same key
      rw [held] at here
      cases found : right.get? key with
      | none =>
        rw [found] at here
        cases here
      | some other =>
        rw [found] at here
        exact ⟨other, rfl, here⟩
    · have here := same key
      rw [mem_keys_iff]
      intro missing
      rw [missing] at here
      cases found : right.get? key with
      | none => exact mem_keys_iff.mp present found
      | some other =>
        rw [found] at here
        cases here

/-- `{key: value for key, value in document.items() if key not in dropped}`. -/
def without (dropped : List String) : Json → Json
  | .field key value rest =>
    if dropped.contains key then without dropped rest else .field key value (without dropped rest)
  | value => value

theorem get?_without (dropped : List String) (key : String) (document : Json) :
    (without dropped document).get? key = if key ∈ dropped then none else document.get? key := by
  induction document with
  | field name value rest _ ih =>
    unfold without
    by_cases listed : name ∈ dropped
    · rw [if_pos (contains_iff_mem.mpr listed), ih, get?]
      by_cases outside : key ∈ dropped
      · rw [if_pos outside, if_pos outside]
      · rw [if_neg outside, if_neg outside, if_neg]
        rintro rfl
        exact outside listed
    · rw [if_neg (mt contains_iff_mem.mp listed), get?, get?]
      by_cases named : name = key
      · rw [if_pos named, if_pos named, if_neg (named ▸ listed)]
      · rw [if_neg named, if_neg named, ih]
  | _ => exact (ite_self none).symm

variable {dropped : List String} {document : Json}

theorem keys_without {key : String} (member : key ∈ (without dropped document).keys) :
    key ∈ document.keys := by
  rw [mem_keys_iff, get?_without] at member
  rw [mem_keys_iff]
  intro missing
  rw [missing, ite_self] at member
  exact member rfl

theorem isDict_without (dictionary : document.isDict = true) :
    (without dropped document).isDict = true := by
  induction document with
  | field name value rest _ ih =>
    unfold without
    split
    · exact ih dictionary
    · exact ih dictionary
  | objEnd => rfl
  | _ => cases dictionary

theorem decoded_without (decoded : Decoded document) :
    Decoded (without dropped document) := by
  induction document with
  | field name value rest _ ih =>
    obtain ⟨inner, later, dictionary, apart⟩ := decoded
    unfold without
    split
    · exact ih later
    · exact ⟨inner, ih later, isDict_without dictionary, fun member => apart (keys_without member)⟩
  | _ => exact decoded

theorem isObject_without (decoded : Decoded document) (object : document.isObject = true) :
    (without dropped document).isObject = true := by
  have dictionary : (without dropped document).isDict = true := isDict_without (decoded.isDict object)
  cases shape : without dropped document <;> first | rfl | (rw [shape] at dictionary; cases dictionary)

theorem equal_without (decoded : Decoded left) (otherDecoded : Decoded right)
    (object : left.isObject = true) (otherObject : right.isObject = true) :
    equal (without dropped left) (without dropped right) = true ↔
      ∀ key ∉ dropped, SameField (left.get? key) (right.get? key) := by
  rw [equal_object (decoded_without decoded) (isObject_without decoded object)
    (isObject_without otherDecoded otherObject)]
  refine forall_congr' fun key => ?_
  rw [get?_without, get?_without]
  by_cases listed : key ∈ dropped
  · rw [if_pos listed, if_pos listed]
    exact ⟨fun _ outside => absurd listed outside, fun _ => trivial⟩
  · rw [if_neg listed, if_neg listed]
    exact ⟨fun same _ => same, fun same => same listed⟩

end WorkOrchestration.Native.ValueEquality
