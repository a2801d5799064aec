import Mathlib.Data.List.Dedup
import WorkOrchestration.Native.ProtectedDetection

/-!
# Replaying differences

Two documents of one value have no differences, and putting what the later one holds in
the places that the comparison names makes the earlier one into the later one.
-/

namespace WorkOrchestration.Native.ProtectedChanges

open List Lib.Results Artifacts Artifacts.Json

/--
The earlier value with the later one's, or nothing, in every place whose pointer is listed.  The empty key
of the root has the pointer of the root, which is replaced with it.
-/
def replayed (pointers : List String) (path : String) (before after : Json) : Json :=
  if pathOrRoot path ∈ pointers then after
  else if before.isObject then
    .obj ((before.keys ++ after.keys).dedup.filterMap fun key =>
      (match _ : before.get? key, after.get? key with
        | some value, some other => some (replayed pointers (fieldPath path key) value other)
        | value, other => if fieldPath path key ∈ pointers then other else value).map (key, ·))
  else match _ : before.elements? with
    | none => before
    | some items =>
      let others := after.elements?.getD []
      .arr ((List.range (max items.length others.length)).filterMap fun position =>
        match _ : items[position]?, others[position]? with
        | some value, some other => some (replayed pointers (itemPath path position) value other)
        | value, other => if itemPath path position ∈ pointers then other else value)
termination_by sizeOf before
decreasing_by
  · exact sizeOf_get? ‹_›
  · exact sizeOf_element ‹_› (mem_of_getElem? ‹_›)

def optionalReplayed (pointers : List String) (path : String) : Option Json → Option Json → Option Json
  | some value, some other => some (replayed pointers path value other)
  | value, other => if path ∈ pointers then other else value

variable {pointers : List String} {path : String} {before after : Json}

theorem replayed_object (unlisted : pathOrRoot path ∉ pointers) (object : before.isObject = true) :
    replayed pointers path before after =
      .obj ((before.keys ++ after.keys).dedup.filterMap fun key =>
        (optionalReplayed pointers (fieldPath path key) (before.get? key) (after.get? key)).map
          (key, ·)) := by
  rw [replayed, if_neg unlisted, if_pos object]
  congr 2
  funext key
  cases before.get? key <;> cases after.get? key <;> rfl

theorem replayed_array {items others : List Json} (unlisted : pathOrRoot path ∉ pointers)
    (found : before.elements? = some items) (otherFound : after.elements? = some others) :
    replayed pointers path before after =
      .arr ((range (max items.length others.length)).filterMap fun position =>
        optionalReplayed pointers (itemPath path position) items[position]? others[position]?) := by
  rw [replayed, if_neg unlisted, if_neg (by rw [isObject_of_elements found]; decide)]
  split
  · rename_i none
    rw [found] at none
    cases none
  · rename_i listed same
    rw [found] at same
    cases same
    rw [otherFound]
    dsimp only [Option.getD]
    congr 2
    funext position
    cases items[position]? <;> cases others[position]? <;> rfl

/-! ## Places -/

theorem obj_fields {keys : List String} (distinct : keys.Nodup) (held : String → Option Json) :
    let built := Json.obj (keys.filterMap fun key => (held key).map (key, ·))
    built.isDict = true ∧ built.keys.Nodup ∧ (∀ key ∈ built.keys, key ∈ keys) ∧
      ∀ key, built.get? key = if key ∈ keys then held key else none := by
  induction keys with
  | nil => exact ⟨rfl, nodup_nil, fun _ member => member, fun _ => rfl⟩
  | cons first rest ih =>
    obtain ⟨apart, later⟩ := nodup_cons.mp distinct
    obtain ⟨dictionary, nodup, within, got⟩ := ih later
    cases found : held first with
    | none =>
      rw [filterMap_cons, found]
      refine ⟨dictionary, nodup, fun key member => mem_cons_of_mem _ (within key member), fun key => ?_⟩
      refine (got key).trans ?_
      by_cases same : key = first <;> simp_all
    | some value =>
      rw [filterMap_cons, found]
      refine ⟨dictionary, nodup_cons.mpr ⟨fun member => apart (within first member), nodup⟩, ?_, ?_⟩
      · intro key member
        rcases mem_cons.mp member with rfl | deeper
        · exact mem_cons_self
        · exact mem_cons_of_mem _ (within key deeper)
      · intro key
        refine (congrArg (fun other => if first = key then some value else other) (got key)).trans ?_
        by_cases same : first = key
        · rw [if_pos same, if_pos (mem_cons.mpr (.inl same.symm)), ← same, found]
        · simp [same, Ne.symm same]

theorem filterMap_positions {α : Type} (items : List α) {count : Nat} (enough : items.length ≤ count) :
    (range count).filterMap (items[·]?) = items := by
  induction items generalizing count with
  | nil => simp
  | cons first rest ih =>
    obtain ⟨less, rfl⟩ := Nat.exists_eq_add_of_le' (Nat.le_trans (Nat.succ_le_succ (Nat.zero_le _)) enough)
    rw [range_succ_eq_map, filterMap_cons, filterMap_map]
    exact congrArg (first :: ·) (ih (Nat.le_of_succ_le_succ enough))

/-- The pointers under one part are not those under another. -/
theorem part_unique {pointer left right : String} (clean : '/' ∉ left.toList)
    (otherClean : '/' ∉ right.toList) (under : Under (path ++ "/" ++ left) pointer)
    (other : Under (path ++ "/" ++ right) pointer) : left = right := by
  obtain ⟨rest, spelled, ends⟩ := under_toList append_ne_empty under
  obtain ⟨others, otherSpelled, otherEnds⟩ := under_toList append_ne_empty other
  rw [spelled] at otherSpelled
  simp only [String.toList_append, append_assoc, append_cancel_left_eq] at otherSpelled
  have none : ∀ {rest : List Char}, rest = [] ∨ rest.head? = some '/' → rest.takeWhile (· ≠ '/') = [] := by
    rintro (_ | ⟨character, rest⟩) (ends | ends) <;> simp_all
  have parts := congrArg (takeWhile (· ≠ '/')) otherSpelled
  rw [takeWhile_of_clean clean, takeWhile_of_clean otherClean, none ends, none otherEnds,
    append_nil, append_nil] at parts
  exact String.toList_injective parts

theorem jsonPointerPart_injective : Function.Injective jsonPointerPart := by
  intro key name same
  rw [← pointerName_part key, same, pointerName_part]

theorem slash_not_mem_toString (position : Nat) : '/' ∉ (toString position).toList := by
  intro member
  rw [Nat.toString_eq_repr, Nat.toList_repr] at member
  exact absurd (Nat.isDigit_of_mem_toDigits (by decide) (by decide) member) (by decide)

theorem toString_injective : Function.Injective (toString : Nat → String) := by
  intro left right same
  have digits := congrArg (Nat.ofDigitChars 10 ·.toList 0) same
  simpa only [Nat.toString_eq_repr, Nat.toList_repr, Nat.ofDigitChars_ten_toDigits] using digits

/-! ## Replaying -/

variable {listed : List String}

/-- What is put in one place, once the pointers below it are those of its comparison. -/
theorem optionalReplayed_canonical {ι : Type} {place : ι → String} {before after : ι → Option Json}
    (clean : ∀ index, '/' ∉ (place index).toList) (distinct : Function.Injective place)
    (decoded : ∀ index value, before index = some value → Decoded value)
    (otherDecoded : ∀ index value, after index = some value → Decoded value)
    (each : ∀ index, ∃ here,
      optionalDifference (path ++ "/" ++ place index) (before index) (after index) = .ok here)
    (members : ∀ pointer, pointer ∈ listed ↔ ∃ index here,
      optionalDifference (path ++ "/" ++ place index) (before index) (after index) = .ok here ∧
        pointer ∈ here)
    (agree : ∀ pointer, Under path pointer → (pointer ∈ pointers ↔ pointer ∈ listed))
    (inner : ∀ index value other here, before index = some value → after index = some other →
      difference (path ++ "/" ++ place index) value other = .ok here →
      (∀ pointer, Under (path ++ "/" ++ place index) pointer → (pointer ∈ pointers ↔ pointer ∈ here)) →
      (replayed pointers (path ++ "/" ++ place index) value other).canonical = other.canonical)
    (index : ι) :
    (optionalReplayed pointers (path ++ "/" ++ place index) (before index) (after index)).map canonical =
      (after index).map canonical := by
  obtain ⟨here, compared⟩ := each index
  have below : ∀ pointer, Under (path ++ "/" ++ place index) pointer →
      (pointer ∈ pointers ↔ pointer ∈ here) := by
    intro pointer under
    rw [agree pointer (under_of_part under), members]
    constructor
    · rintro ⟨other, found, otherCompared, inFound⟩
      have otherUnder := optionalDifference_under (fun value next held nextHeld _ ran =>
        difference_under (decoded other value held) (otherDecoded other next nextHeld) ran) otherCompared inFound
      cases distinct (part_unique (clean index) (clean other) under otherUnder)
      cases compared.symm.trans otherCompared
      exact inFound
    · exact fun inHere => ⟨index, here, compared, inHere⟩
  have placed : here = [path ++ "/" ++ place index] → path ++ "/" ++ place index ∈ pointers := by
    rintro rfl
    exact (below _ (.inl (pathOrRoot_of_ne append_ne_empty).symm)).mpr (mem_singleton.mpr rfl)
  cases held : before index with
  | none =>
    cases otherHeld : after index with
    | none => simp [optionalReplayed]
    | some other =>
      rw [held, otherHeld] at compared
      exact congrArg _ (if_pos (placed (Except.ok.inj compared).symm))
  | some value =>
    cases otherHeld : after index with
    | none =>
      rw [held, otherHeld] at compared
      exact congrArg _ (if_pos (placed (Except.ok.inj compared).symm))
    | some other =>
      rw [held, otherHeld] at compared
      exact congrArg some (inner index value other here held otherHeld compared below)

theorem replayed_canonical (decoded : Decoded before) (otherDecoded : Decoded after)
    (compared : difference path before after = .ok listed)
    (agree : ∀ pointer, Under path pointer → (pointer ∈ pointers ↔ pointer ∈ listed)) :
    (replayed pointers path before after).canonical = after.canonical := by
  induction size : sizeOf before using Nat.strong_induction_on generalizing path before after listed with
  | _ bound ih =>
  subst size
  by_cases placed : pathOrRoot path ∈ pointers
  · rw [replayed, if_pos placed]
  have missing : pathOrRoot path ∉ listed := mt (agree _ (.inl rfl)).mpr placed
  by_cases alike : typeName before = typeName after
  · rcases decoded.kinds with object | ⟨items, found⟩ | single
    · have otherObject := (isObject_iff_of_alike decoded otherDecoded alike).mp object
      obtain ⟨each, members⟩ := difference_object decoded object otherObject compared
      have fields := optionalReplayed_canonical (fun key => slash_not_mem_part key)
        jsonPointerPart_injective (fun _ _ held => decoded.get? held)
        (fun _ _ held => otherDecoded.get? held) each members agree
        fun key value other here held otherHeld ran below =>
          ih _ (sizeOf_get? held) (decoded.get? held) (otherDecoded.get? otherHeld) ran below rfl
      obtain ⟨dictionary, nodup, _, got⟩ := obj_fields (nodup_dedup (before.keys ++ after.keys)) fun key =>
        optionalReplayed pointers (fieldPath path key) (before.get? key) (after.get? key)
      rw [replayed_object placed object]
      refine canonical_eq_of_fields dictionary (otherDecoded.isDict otherObject) nodup otherDecoded.nodup
        fun key => ?_
      rw [got]
      split
      · exact fields key
      · rename_i absent
        rw [mem_dedup, mem_append, not_or] at absent
        rw [not_not.mp (mt mem_keys_iff.mpr absent.2)]
    · obtain ⟨others, otherFound⟩ := otherDecoded.array_iff.mp
        (alike ▸ decoded.array_iff.mpr ⟨items, found⟩)
      obtain ⟨each, members⟩ := difference_array alike found otherFound compared
      have elements := optionalReplayed_canonical slash_not_mem_toString toString_injective
        (fun _ _ held => decoded.element found (mem_of_getElem? held))
        (fun _ _ held => otherDecoded.element otherFound (mem_of_getElem? held)) each members agree
        fun position value other here held otherHeld ran below =>
          have member := mem_of_getElem? held
          ih _ (sizeOf_element found member) (decoded.element found member)
            (otherDecoded.element otherFound (mem_of_getElem? otherHeld)) ran below rfl
      rw [replayed_array placed found otherFound]
      refine elements_injective (canonical_elements (elements?_arr _)) ?_
      rw [canonical_elements otherFound, map_filterMap, Option.some.injEq]
      refine Eq.symm ((filterMap_congr fun position _ => ?_).trans
        (filterMap_positions (others.map canonical) ?_))
      · rw [getElem?_map]
        exact elements position
      · rw [length_map]
        exact le_max_right items.length others.length
    · rw [difference_single single alike compared] at missing
      have kept : replayed pointers path before after = before := by
        rw [replayed, if_neg placed]
        cases before <;> first | rfl | cases single
      rw [kept]
      by_contra differ
      rw [if_neg differ] at missing
      exact missing (mem_singleton.mpr rfl)
  · rw [difference, if_pos alike, Except.ok.injEq] at compared
    rw [← compared] at missing
    exact absurd (mem_singleton.mpr rfl) missing

/-! ## Every two documents are compared -/

theorem encodable_get? {key : String} {value : Json} (encodable : before.encodable = true)
    (found : before.get? key = some value) : value.encodable = true := by
  induction before with
  | field name old rest _ ih =>
    obtain ⟨first, later⟩ := Bool.and_eq_true_iff.mp encodable
    unfold Json.get? at found
    split at found
    · exact Option.some.inj found ▸ first
    · exact ih later found
  | _ => cases found

theorem changes_returns {index : Nat} (encodable : before.encodable = true)
    (otherEncodable : after.encodable = true) : ∃ groups, changes path index before after = .ok groups := by
  induction before generalizing path index after with
  | field key value rest ihValue ihRest =>
    obtain ⟨first, others⟩ := Bool.and_eq_true_iff.mp encodable
    obtain ⟨later, ran⟩ := ihRest others otherEncodable
    rw [changes]
    cases held : after.get? key with
    | none => exact ⟨_, bind_eq_ok.mpr ⟨_, rfl, bind_eq_ok.mpr ⟨later, ran, rfl⟩⟩⟩
    | some other =>
      obtain ⟨groups, inner⟩ := ihValue first (encodable_get? otherEncodable held)
      dsimp only
      split
      · exact ⟨_, bind_eq_ok.mpr ⟨_, rfl, bind_eq_ok.mpr ⟨later, ran, rfl⟩⟩⟩
      · rw [inner]
        exact ⟨_, bind_eq_ok.mpr ⟨_, rfl, bind_eq_ok.mpr ⟨later, ran, rfl⟩⟩⟩
  | item head tail ihHead ihTail =>
    obtain ⟨first, others⟩ := Bool.and_eq_true_iff.mp encodable
    cases after with
    | item other more =>
      obtain ⟨front, back⟩ := Bool.and_eq_true_iff.mp otherEncodable
      obtain ⟨groups, inner⟩ := ihHead first front
      obtain ⟨later, ran⟩ := ihTail others back
      rw [changes]
      split
      · exact ⟨_, bind_eq_ok.mpr ⟨_, rfl, bind_eq_ok.mpr ⟨later, ran, rfl⟩⟩⟩
      · rw [inner]
        exact ⟨_, bind_eq_ok.mpr ⟨_, rfl, bind_eq_ok.mpr ⟨later, ran, rfl⟩⟩⟩
    | _ =>
      obtain ⟨later, ran⟩ := ihTail others (show Json.arrEnd.encodable = true from rfl)
      exact ⟨_, bind_eq_ok.mpr ⟨later, ran, rfl⟩⟩
  | arrEnd | objEnd => exact ⟨_, rfl⟩
  | bytes | foreign => cases encodable
  | _ =>
    rw [changes_single rfl, dumpsOrdinary, dumpsOrdinary, if_pos encodable, if_pos otherEncodable]
    exact ⟨_, rfl⟩

theorem fieldPath_injective (path : String) : Function.Injective (fieldPath path) := by
  intro key name same
  have under : Under (fieldPath path name) (pathOrRoot (fieldPath path key)) := .inl (congrArg _ same)
  exact jsonPointerPart_injective
    (part_unique (slash_not_mem_part key) (slash_not_mem_part name) (.inl rfl) under)

/-- Two objects are compared without an error; they have no differences exactly when they are
written alike, and what is put in the places named makes the earlier one into the later one. -/
theorem jsonChangedPointers_exact (decoded : Decoded before) (otherDecoded : Decoded after)
    (encodable : before.encodable = true) (otherEncodable : after.encodable = true)
    (object : before.isObject = true) (otherObject : after.isObject = true) :
    ∃ pointers, jsonChangedPointers before after = .ok pointers ∧
      (pointers = [] ↔ before.canonical = after.canonical) ∧
      (replayed pointers "" before after).canonical = after.canonical ∧
      ∀ path, Function.Injective (fieldPath path) := by
  have alike := (typeName_of_isObject object).trans (typeName_of_isObject otherObject).symm
  obtain ⟨groups, ran⟩ := changes_returns encodable otherEncodable
  have compared : difference "" before after = .ok (assemble "" before after groups) := by
    rw [difference, if_neg (not_not.mpr alike), ran]
    rfl
  exact ⟨_, (jsonChangedPointers_eq before after).trans compared,
    difference_eq_nil decoded otherDecoded compared,
    replayed_canonical decoded otherDecoded compared fun _ _ => Iff.rfl, fieldPath_injective⟩

/-- `{"a": true, "b": [1]}` and `{"a": 1, "b": []}`. -/
theorem jsonChangedPointers_exact_sample :
    ∃ pointers, jsonChangedPointers (.obj [("a", .bool true), ("b", .arr [.int 1])])
        (.obj [("a", .int 1), ("b", .arr [])]) = .ok pointers ∧
      (pointers = [] ↔ (Json.obj [("a", .bool true), ("b", .arr [.int 1])]).canonical =
        (Json.obj [("a", .int 1), ("b", .arr [])]).canonical) ∧
      (replayed pointers "" (.obj [("a", .bool true), ("b", .arr [.int 1])])
        (.obj [("a", .int 1), ("b", .arr [])])).canonical =
        (Json.obj [("a", .int 1), ("b", .arr [])]).canonical ∧
      ∀ path, Function.Injective (fieldPath path) :=
  jsonChangedPointers_exact (by simp [Decoded, Json.obj, Json.arr, Json.keys, Json.isDict, elements?])
    (by simp [Decoded, Json.obj, Json.arr, Json.keys, Json.isDict]) (by decide) (by decide) rfl rfl

end WorkOrchestration.Native.ProtectedChanges
