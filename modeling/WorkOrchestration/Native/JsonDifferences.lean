import WorkOrchestration.Lib.Results
import WorkOrchestration.Native.ProtectedChanges

/-!
# Differences of documents

Which pointers the comparison of two decoded documents names: those of the fields and
items that differ, each under the pointer of what holds it, and none exactly when the
two are written alike.
-/

namespace WorkOrchestration.Native.ProtectedChanges

open List Lib.Results Artifacts Artifacts.Json

/-! ## Decoded values -/

/-- A value as a decoder makes it: chains end as they have to, no key stands twice, and there is
nothing that a document cannot hold. -/
def Decoded : Json → Prop
  | .item head tail => Decoded head ∧ Decoded tail ∧ tail.elements?.isSome = true
  | .field key value rest => Decoded value ∧ Decoded rest ∧ rest.isDict = true ∧ key ∉ rest.keys
  | .bytes _ => False
  | .foreign _ => False
  | _ => True

variable {document value : Json} {key : String}

theorem Decoded.get? (decoded : Decoded document)
    (found : document.get? key = some value) : Decoded value := by
  induction document with
  | field name old rest _ ih =>
    unfold Json.get? at found
    split at found
    · exact Option.some.inj found ▸ decoded.1
    · exact ih decoded.2.1 found
  | _ => cases found

theorem Decoded.isDict (decoded : Decoded document) (object : document.isObject = true) :
    document.isDict = true := by
  cases document with
  | field key value rest => exact decoded.2.2.1
  | objEnd => rfl
  | _ => cases object

theorem Decoded.nodup (decoded : Decoded document) : document.keys.Nodup := by
  induction document with
  | field key value rest _ ih => exact nodup_cons.mpr ⟨decoded.2.2.2, ih decoded.2.1⟩
  | _ => exact nodup_nil

theorem Decoded.object_iff (decoded : Decoded value) :
    typeName value = "dict" ↔ value.isObject = true := by
  cases value with
  | foreign name => cases decoded
  | _ => simp [typeName, isObject]

theorem Decoded.array_iff (decoded : Decoded value) :
    typeName value = "list" ↔ ∃ items, value.elements? = some items := by
  cases value with
  | foreign name => cases decoded
  | arrEnd => exact ⟨fun _ => ⟨[], rfl⟩, fun _ => rfl⟩
  | item head tail =>
    obtain ⟨items, found⟩ := Option.isSome_iff_exists.mp decoded.2.2
    exact ⟨fun _ => ⟨head :: items, by rw [elements?, found]; rfl⟩, fun _ => rfl⟩
  | _ => simp [typeName, elements?]

theorem sizeOf_get? {document value : Json} (found : document.get? key = some value) :
    sizeOf value < sizeOf document := by
  induction document with
  | field name old rest _ ih =>
    unfold Json.get? at found
    split at found
    · rw [← Option.some.inj found, field.sizeOf_spec]
      omega
    · have smaller := ih found
      rw [field.sizeOf_spec]
      omega
  | _ => cases found

variable {items : List Json}

theorem sizeOf_element {value element : Json} (found : value.elements? = some items)
    (member : element ∈ items) :
    sizeOf element < sizeOf value := by
  induction value generalizing items with
  | arrEnd =>
    cases found
    cases member
  | item head tail _ ih =>
    rw [elements?, Option.map_eq_some_iff] at found
    obtain ⟨others, rest, rfl⟩ := found
    rw [item.sizeOf_spec]
    rcases mem_cons.mp member with rfl | later
    · omega
    · have smaller := ih rest later
      omega
  | _ => cases found

theorem Decoded.element {value item : Json} (decoded : Decoded value)
    (found : value.elements? = some items) (member : item ∈ items) : Decoded item := by
  induction value generalizing items with
  | arrEnd =>
    cases found
    cases member
  | item head tail _ ih =>
    rw [elements?, Option.map_eq_some_iff] at found
    obtain ⟨others, rest, rfl⟩ := found
    rcases mem_cons.mp member with rfl | later
    · exact decoded.1
    · exact ih decoded.2.1 rest later
  | _ => cases found

/-! ## Canonical documents -/

theorem isDict_insertField {value document : Json} (dictionary : document.isDict = true) :
    (insertField key value document).isDict = true := by
  induction document with
  | field name old rest _ ih =>
    unfold insertField
    split
    · exact dictionary
    · exact ih dictionary
  | objEnd => rfl
  | _ => cases dictionary

theorem nodup_insertField {value document : Json} (new : key ∉ document.keys)
    (distinct : document.keys.Nodup) : (insertField key value document).keys.Nodup := by
  induction document with
  | field name old rest _ ih =>
    obtain ⟨apart, later⟩ := nodup_cons.mp distinct
    rw [Json.keys, mem_cons, not_or] at new
    unfold insertField
    split
    · refine nodup_cons.mpr ⟨fun member => ?_, distinct⟩
      rcases mem_cons.mp member with same | deeper
      · exact new.1 same
      · exact new.2 deeper
    · refine nodup_cons.mpr ⟨fun member => ?_, ih new.2 later⟩
      rcases mem_keys_insertField.mp member with same | deeper
      · exact new.1 same.symm
      · exact apart deeper
  | _ => exact nodup_cons.mpr ⟨not_mem_nil, nodup_nil⟩

theorem isDict_canonical (dictionary : document.isDict = true) :
    document.canonical.isDict = true := by
  induction document with
  | field key value rest _ ih => exact isDict_insertField (ih dictionary)
  | objEnd => rfl
  | _ => cases dictionary

theorem mem_keys_canonical : key ∈ document.canonical.keys ↔ key ∈ document.keys := by
  rw [mem_keys_iff, mem_keys_iff, get?_canonical]
  cases document.get? key <;> simp

theorem nodup_canonical (distinct : document.keys.Nodup) : document.canonical.keys.Nodup := by
  induction document with
  | field key value rest _ ih =>
    obtain ⟨apart, later⟩ := nodup_cons.mp distinct
    exact nodup_insertField (mt mem_keys_canonical.mp apart) (ih later)
  | _ => exact nodup_nil

variable {left right : Json}

/-- Dictionaries in order are told apart by what they hold. -/
theorem eq_of_get?_eq (leftOrdered : Canonical left)
    (rightOrdered : Canonical right) (leftDict : left.isDict = true) (rightDict : right.isDict = true)
    (leftDistinct : left.keys.Nodup) (rightDistinct : right.keys.Nodup)
    (same : ∀ key, left.get? key = right.get? key) : left = right := by
  induction left generalizing right with
  | field key value rest _ ih =>
    cases right with
    | field name other others =>
      obtain ⟨_, least, ordered⟩ := leftOrdered
      obtain ⟨_, leastOther, orderedOther⟩ := rightOrdered
      obtain ⟨apart, distinct⟩ := nodup_cons.mp leftDistinct
      obtain ⟨apartOther, distinctOther⟩ := nodup_cons.mp rightDistinct
      have inRight : key ∈ (field name other others).keys := by
        rw [mem_keys_iff, ← same key]
        simp [get?]
      have inLeft : name ∈ (field key value rest).keys := by
        rw [mem_keys_iff, same name]
        simp [get?]
      have named : key = name := by
        rcases mem_cons.mp inRight with equal | deeper
        · exact equal
        · rcases mem_cons.mp inLeft with equal | deeperName
          · exact equal.symm
          · exact le_antisymm (least name deeperName) (leastOther key deeper)
      subst named
      have held : value = other := by simpa [get?] using same key
      have below : ∀ deeper, rest.get? deeper = others.get? deeper := by
        intro deeper
        by_cases equal : key = deeper
        · subst equal
          rw [not_not.mp (mt mem_keys_iff.mpr apart), not_not.mp (mt mem_keys_iff.mpr apartOther)]
        · have whole := same deeper
          simpa only [get?, if_neg equal] using whole
      rw [held, ih ordered orderedOther leftDict rightDict distinct distinctOther below]
    | objEnd =>
      have absent := same key
      simp [get?] at absent
    | _ => cases rightDict
  | objEnd =>
    cases right with
    | field name other others =>
      have absent := same name
      simp [get?] at absent
    | objEnd => rfl
    | _ => cases rightDict
  | _ => cases leftDict

theorem canonical_eq_of_fields (leftDict : left.isDict = true)
    (rightDict : right.isDict = true) (leftDistinct : left.keys.Nodup)
    (rightDistinct : right.keys.Nodup) (same : SameFields left right) :
    left.canonical = right.canonical := by
  refine eq_of_get?_eq (canonical_canonical left) (canonical_canonical right)
    (isDict_canonical leftDict) (isDict_canonical rightDict) (nodup_canonical leftDistinct)
    (nodup_canonical rightDistinct) ?_
  intro key
  rw [get?_canonical, get?_canonical]
  exact same key

theorem canonical_eq_iff (leftDecoded : Decoded left)
    (rightDecoded : Decoded right) (leftObject : left.isObject = true)
    (rightObject : right.isObject = true) :
    left.canonical = right.canonical ↔ SameFields left right := by
  constructor
  · intro same key
    rw [← get?_canonical, ← get?_canonical, same]
  · exact canonical_eq_of_fields (leftDecoded.isDict leftObject) (rightDecoded.isDict rightObject)
      leftDecoded.nodup rightDecoded.nodup

theorem canonical_elements (found : value.elements? = some items) :
    value.canonical.elements? = some (items.map canonical) := by
  induction value generalizing items with
  | arrEnd =>
    cases found
    rfl
  | item head tail _ ih =>
    rw [elements?, Option.map_eq_some_iff] at found
    obtain ⟨others, rest, rfl⟩ := found
    rw [canonical, elements?, ih rest]
    rfl
  | _ => cases found

theorem elements_injective (inLeft : left.elements? = some items)
    (inRight : right.elements? = some items) :
    left = right := by
  induction items generalizing left right with
  | nil =>
    cases left <;> cases right <;> simp_all [elements?]
  | cons first rest ih =>
    cases left with
    | item head tail =>
      cases right with
      | item other others =>
        rw [elements?, Option.map_eq_some_iff] at inLeft inRight
        obtain ⟨left, foundLeft, sameLeft⟩ := inLeft
        obtain ⟨right, foundRight, sameRight⟩ := inRight
        obtain ⟨rfl, rfl⟩ := List.cons.inj sameLeft
        obtain ⟨rfl, rfl⟩ := List.cons.inj sameRight
        rw [ih foundLeft foundRight]
      | _ => cases inRight
    | _ => cases inLeft

/-! ## The comparison -/

/-- `_json_changed_pointers` below a path. -/
def difference (path : String) (before after : Json) : Except PyError (List String) :=
  if typeName before ≠ typeName after then .ok [pathOrRoot path]
  else (changes path 0 before after).map (assemble path before after)

/-- The comparison of two values that may be missing. -/
def optionalDifference (path : String) : Option Json → Option Json → Except PyError (List String)
  | none, none => .ok []
  | some before, some after => difference path before after
  | _, _ => .ok [path]

def fieldPath (path key : String) : String := path ++ "/" ++ jsonPointerPart key

def itemPath (path : String) (index : Nat) : String := path ++ "/" ++ toString index

theorem jsonChangedPointers_eq (before after : Json) :
    jsonChangedPointers before after = difference "" before after := by
  rfl

theorem append_ne_empty {front back : String} : front ++ "/" ++ back ≠ "" := by
  intro empty
  have characters := congrArg String.toList empty
  simp at characters

variable {path : String}

theorem pathOrRoot_of_ne (nonempty : path ≠ "") : pathOrRoot path = path := if_neg nonempty

variable {index : Nat} {groups : List (String × List String)}

theorem changes_field {value rest after : Json} :
    changes path index (.field key value rest) after = .ok groups ↔
      ∃ here later, optionalDifference (fieldPath path key) (some value) (after.get? key) = .ok here ∧
        changes path 0 rest after = .ok later ∧ groups = (key, here) :: later := by
  have named : pathOrRoot (fieldPath path key) = fieldPath path key :=
    pathOrRoot_of_ne append_ne_empty
  have shown : changes path index (.field key value rest) after =
      optionalDifference (fieldPath path key) (some value) (after.get? key) >>= fun here =>
        changes path 0 rest after >>= fun later => pure ((key, here) :: later) := by
    rw [changes]
    cases after.get? key with
    | none => rfl
    | some other =>
      rw [optionalDifference, difference, named]
      dsimp only
      split <;> rfl
  rw [shown, bind_eq_ok]
  constructor
  · rintro ⟨here, found, more⟩
    obtain ⟨later, rested, same⟩ := bind_eq_ok.mp more
    exact ⟨here, later, found, rested, (pure_eq_ok.mp same).symm⟩
  · rintro ⟨here, later, found, rested, rfl⟩
    exact ⟨here, found, bind_eq_ok.mpr ⟨later, rested, rfl⟩⟩

variable {after : Json}

theorem changes_item {head tail : Json} (found : after.elements? = some items) :
    changes path index (.item head tail) after = .ok groups ↔
      ∃ here later rest, optionalDifference (itemPath path index) (some head) items.head? = .ok here ∧
        rest.elements? = some items.tail ∧ changes path (index + 1) tail rest = .ok later ∧
        groups = ("", here) :: later := by
  have named : pathOrRoot (itemPath path index) = itemPath path index :=
    pathOrRoot_of_ne append_ne_empty
  have shown : ∃ rest, rest.elements? = some items.tail ∧
      changes path index (.item head tail) after =
        optionalDifference (itemPath path index) (some head) items.head? >>= fun here =>
          changes path (index + 1) tail rest >>= fun later => pure (("", here) :: later) := by
    cases after with
    | arrEnd =>
      cases found
      refine ⟨.arrEnd, rfl, ?_⟩
      rw [changes]
      · rfl
      · intro other others impossible
        cases impossible
    | item other others =>
      rw [elements?, Option.map_eq_some_iff] at found
      obtain ⟨left, rested, rfl⟩ := found
      refine ⟨others, rested, ?_⟩
      rw [changes, head?_cons, optionalDifference, difference, named]
      split <;> rfl
    | _ => cases found
  obtain ⟨rest, rested, shown⟩ := shown
  rw [shown, bind_eq_ok]
  constructor
  · rintro ⟨here, compared, more⟩
    obtain ⟨later, below, same⟩ := bind_eq_ok.mp more
    exact ⟨here, later, rest, compared, rested, below, (pure_eq_ok.mp same).symm⟩
  · rintro ⟨here, later, other, compared, otherRest, below, rfl⟩
    rw [elements_injective otherRest rested] at below
    exact ⟨here, compared, bind_eq_ok.mpr ⟨later, below, rfl⟩⟩

/-! ## Fields -/

variable {before : Json}

theorem changes_object (dictionary : before.isDict = true) (distinct : before.keys.Nodup)
    (ran : changes path index before after = .ok groups) :
    groups.map Prod.fst = before.keys ∧ ∀ key here, (key, here) ∈ groups →
      optionalDifference (fieldPath path key) (before.get? key) (after.get? key) = .ok here := by
  induction before generalizing index groups with
  | field key value rest _ ih =>
    obtain ⟨here, later, found, below, rfl⟩ := changes_field.mp ran
    obtain ⟨apart, others⟩ := nodup_cons.mp distinct
    obtain ⟨names, each⟩ := ih dictionary others below
    refine ⟨congrArg (key :: ·) names, ?_⟩
    intro other listed member
    rcases mem_cons.mp member with first | deeper
    · obtain ⟨rfl, rfl⟩ := Prod.mk.inj first
      rw [get?, if_pos rfl]
      exact found
    · have inRest : other ∈ rest.keys := by
        rw [← names]
        exact mem_map.mpr ⟨(other, listed), deeper, rfl⟩
      have differ : key ≠ other := fun same => apart (same ▸ inRest)
      rw [get?, if_neg differ]
      exact each other listed deeper
  | objEnd =>
    cases ran
    exact ⟨rfl, fun _ _ member => absurd member not_mem_nil⟩
  | _ => cases dictionary

theorem typeName_of_isObject (object : value.isObject = true) :
    typeName value = "dict" := by
  cases value <;> first | rfl | cases object

variable {pointer : String}

theorem mem_assemble (object : before.isObject = true) :
    pointer ∈ assemble path before after groups ↔ (∃ entry ∈ groups, pointer ∈ entry.2) ∨
        ∃ key ∈ after.keys, key ∉ before.keys ∧ pointer = fieldPath path key := by
  unfold assemble
  rw [if_pos object]
  rw [mem_flatMap]
  constructor
  · rintro ⟨entry, member, listed⟩
    rw [mem_mergeSort, mem_append, mem_map] at member
    rcases member with old | ⟨key, fresh, rfl⟩
    · exact .inl ⟨entry, old, listed⟩
    · obtain ⟨inAfter, absent⟩ := mem_filter.mp fresh
      exact .inr ⟨key, inAfter, by simpa using absent, mem_singleton.mp listed⟩
  · rintro (⟨entry, old, listed⟩ | ⟨key, inAfter, absent, rfl⟩)
    · exact ⟨entry, mem_mergeSort.mpr (mem_append_left _ old), listed⟩
    · have fresh : key ∈ after.keys.filter fun key => !before.keys.contains key :=
        mem_filter.mpr ⟨inAfter, by simpa using absent⟩
      exact ⟨(key, [fieldPath path key]), mem_mergeSort.mpr (mem_append_right _
        (mem_map.mpr ⟨key, fresh, rfl⟩)), mem_singleton.mpr rfl⟩

variable {pointers : List String}

theorem difference_object (decoded : Decoded before) (object : before.isObject = true)
    (otherObject : after.isObject = true) (compared : difference path before after = .ok pointers) :
    (∀ key, ∃ here,
      optionalDifference (fieldPath path key) (before.get? key) (after.get? key) = .ok here) ∧
    ∀ pointer, pointer ∈ pointers ↔ ∃ key here,
      optionalDifference (fieldPath path key) (before.get? key) (after.get? key) = .ok here ∧
        pointer ∈ here := by
  have alike : ¬ typeName before ≠ typeName after := by
    rw [typeName_of_isObject object, typeName_of_isObject otherObject]
    exact not_not.mpr rfl
  rw [difference, if_neg alike, map_eq_ok] at compared
  obtain ⟨groups, ran, rfl⟩ := compared
  obtain ⟨names, each⟩ := changes_object (decoded.isDict object) decoded.nodup ran
  -- Every key belongs to a group, is new, or is in neither object.
  have grouped : ∀ key ∈ before.keys, ∃ here, (key, here) ∈ groups := by
    intro key member
    rw [← names, mem_map] at member
    obtain ⟨entry, found, rfl⟩ := member
    exact ⟨entry.2, found⟩
  have added : ∀ key, key ∉ before.keys → key ∈ after.keys →
      optionalDifference (fieldPath path key) (before.get? key) (after.get? key) =
        .ok [fieldPath path key] := by
    intro key absent present
    rw [not_not.mp (mt mem_keys_iff.mpr absent)]
    cases found : after.get? key with
    | none => exact absurd found (mem_keys_iff.mp present)
    | some value => rfl
  have neither : ∀ key, key ∉ before.keys → key ∉ after.keys →
      optionalDifference (fieldPath path key) (before.get? key) (after.get? key) = .ok [] := by
    intro key absent missing
    rw [not_not.mp (mt mem_keys_iff.mpr absent), not_not.mp (mt mem_keys_iff.mpr missing)]
    rfl
  constructor
  · intro key
    by_cases present : key ∈ before.keys
    · obtain ⟨here, member⟩ := grouped key present
      exact ⟨here, each key here member⟩
    · by_cases later : key ∈ after.keys
      · exact ⟨_, added key present later⟩
      · exact ⟨_, neither key present later⟩
  · intro pointer
    rw [mem_assemble object]
    constructor
    · rintro (⟨entry, member, listed⟩ | ⟨key, inAfter, absent, rfl⟩)
      · exact ⟨entry.1, entry.2, each entry.1 entry.2 member, listed⟩
      · exact ⟨key, _, added key absent inAfter, mem_singleton.mpr rfl⟩
    · rintro ⟨key, here, compared, listed⟩
      by_cases present : key ∈ before.keys
      · obtain ⟨other, member⟩ := grouped key present
        have same := (each key other member).symm.trans compared
        exact .inl ⟨(key, other), member, by rw [Except.ok.inj same]; exact listed⟩
      · by_cases later : key ∈ after.keys
        · rw [added key present later, Except.ok.injEq] at compared
          rw [← compared] at listed
          exact .inr ⟨key, later, present, mem_singleton.mp listed⟩
        · rw [neither key present later, Except.ok.injEq] at compared
          rw [← compared] at listed
          exact absurd listed not_mem_nil

/-! ## Items -/

theorem changes_array {others : List Json} (found : before.elements? = some items)
    (otherFound : after.elements? = some others)
    (ran : changes path index before after = .ok groups) :
    (∀ position, ∃ here,
      optionalDifference (itemPath path (index + position)) items[position]? others[position]? =
        .ok here) ∧
    ∀ pointer, (∃ entry ∈ groups, pointer ∈ entry.2) ↔ ∃ position here,
      optionalDifference (itemPath path (index + position)) items[position]? others[position]? =
        .ok here ∧ pointer ∈ here := by
  induction before generalizing after items others index groups with
  | arrEnd =>
    cases found
    have count : itemCount after = others.length := by
      unfold itemCount
      rw [otherFound]
      rfl
    rw [changes, count, Except.ok.injEq] at ran
    have beyond : ∀ position, others.length ≤ position →
        optionalDifference (itemPath path (index + position)) ([] : List Json)[position]?
          others[position]? = .ok [] := by
      intro position late
      rw [getElem?_eq_none late]
      rfl
    have within : ∀ position, position < others.length →
        optionalDifference (itemPath path (index + position)) ([] : List Json)[position]?
          others[position]? = .ok [itemPath path (index + position)] := by
      intro position early
      rw [getElem?_eq_getElem early]
      rfl
    constructor
    · intro position
      by_cases early : position < others.length
      · exact ⟨_, within position early⟩
      · exact ⟨_, beyond position (not_lt.mp early)⟩
    · intro pointer
      rw [← ran]
      constructor
      · rintro ⟨entry, member, listed⟩
        obtain ⟨position, early, rfl⟩ := mem_map.mp member
        exact ⟨position, _, within position (mem_range.mp early), listed⟩
      · rintro ⟨position, here, compared, listed⟩
        by_cases early : position < others.length
        · rw [within position early, Except.ok.injEq] at compared
          rw [← compared] at listed
          exact ⟨_, mem_map.mpr ⟨position, mem_range.mpr early, rfl⟩, listed⟩
        · rw [beyond position (not_lt.mp early), Except.ok.injEq] at compared
          rw [← compared] at listed
          exact absurd listed not_mem_nil
  | item head tail _ ih =>
    rw [elements?, Option.map_eq_some_iff] at found
    obtain ⟨more, foundTail, rfl⟩ := found
    obtain ⟨here, later, rest, first, foundRest, below, rfl⟩ := (changes_item otherFound).mp ran
    obtain ⟨each, members⟩ := ih foundTail foundRest below
    have start : optionalDifference (itemPath path (index + 0)) (head :: more)[0]? others[0]? =
        .ok here := by
      rw [getElem?_cons_zero, ← head?_eq_getElem?]
      exact first
    have shifted : ∀ position,
        optionalDifference (itemPath path (index + (position + 1))) (head :: more)[position + 1]?
          others[position + 1]? =
        optionalDifference (itemPath path (index + 1 + position)) more[position]?
          others.tail[position]? := by
      intro position
      rw [getElem?_cons_succ, getElem?_tail, Nat.add_right_comm, ← Nat.add_assoc]
    constructor
    · intro position
      cases position with
      | zero => exact ⟨here, start⟩
      | succ position =>
        rw [shifted]
        exact each position
    · intro pointer
      constructor
      · rintro ⟨entry, member, listed⟩
        rcases mem_cons.mp member with rfl | deeper
        · exact ⟨0, here, start, listed⟩
        · obtain ⟨position, found, compared, inFound⟩ := (members pointer).mp ⟨entry, deeper, listed⟩
          exact ⟨position + 1, found, (shifted position).trans compared, inFound⟩
      · rintro ⟨position, found, compared, listed⟩
        cases position with
        | zero =>
          rw [start, Except.ok.injEq] at compared
          exact ⟨_, mem_cons_self, by rw [compared]; exact listed⟩
        | succ position =>
          rw [shifted] at compared
          obtain ⟨entry, deeper, inEntry⟩ := (members pointer).mpr ⟨position, found, compared, listed⟩
          exact ⟨entry, mem_cons_of_mem _ deeper, inEntry⟩
  | _ => cases found

theorem isObject_of_elements (found : value.elements? = some items) :
    value.isObject = false := by
  cases value <;> first | rfl | cases found

theorem difference_array {others : List Json} (alike : typeName before = typeName after)
    (found : before.elements? = some items) (otherFound : after.elements? = some others)
    (compared : difference path before after = .ok pointers) :
    (∀ position, ∃ here,
      optionalDifference (itemPath path position) items[position]? others[position]? = .ok here) ∧
    ∀ pointer, pointer ∈ pointers ↔ ∃ position here,
      optionalDifference (itemPath path position) items[position]? others[position]? = .ok here ∧
        pointer ∈ here := by
  rw [difference, if_neg (not_not.mpr alike), map_eq_ok] at compared
  obtain ⟨groups, ran, rfl⟩ := compared
  have whole := changes_array found otherFound ran
  simp only [Nat.zero_add] at whole
  refine ⟨whole.1, fun pointer => ?_⟩
  rw [assemble, if_neg (by rw [isObject_of_elements found]; decide), mem_flatMap]
  exact whole.2 pointer

/-! ## Single values -/

/-- A value that holds no others. -/
def isSingle : Json → Bool
  | .field .. => false
  | .objEnd => false
  | .item .. => false
  | .arrEnd => false
  | _ => true

theorem Decoded.kinds (decoded : Decoded value) :
    value.isObject = true ∨ (∃ items, value.elements? = some items) ∨ isSingle value = true := by
  cases value with
  | field | objEnd => exact .inl rfl
  | item head tail =>
    exact .inr (.inl ((Decoded.array_iff decoded).mp rfl))
  | arrEnd => exact .inr (.inl ⟨[], rfl⟩)
  | _ => exact .inr (.inr rfl)

theorem changes_single (single : isSingle before = true) :
    changes path index before after = dumpsOrdinary before >>= fun beforeText =>
      dumpsOrdinary after >>= fun afterText =>
        pure (if beforeText = afterText then [] else [("", [pathOrRoot path])]) := by
  cases before <;> first | rfl | cases single

theorem dumpsOrdinary_eq_ok {value text : Json} (written : dumpsOrdinary value = .ok text) :
    text = value.canonical := by
  unfold dumpsOrdinary at written
  split at written
  · exact (Except.ok.inj written).symm
  · cases written

theorem difference_single (single : isSingle before = true)
    (alike : typeName before = typeName after)
    (compared : difference path before after = .ok pointers) :
    pointers = if before.canonical = after.canonical then [] else [pathOrRoot path] := by
  rw [difference, if_neg (not_not.mpr alike), map_eq_ok] at compared
  obtain ⟨groups, ran, rfl⟩ := compared
  rw [changes_single single, bind_eq_ok] at ran
  obtain ⟨beforeText, written, ran⟩ := ran
  obtain ⟨afterText, otherWritten, ran⟩ := bind_eq_ok.mp ran
  have groupsEq := pure_eq_ok.mp ran
  rw [dumpsOrdinary_eq_ok written, dumpsOrdinary_eq_ok otherWritten] at groupsEq
  have flat : assemble path before after groups = groups.flatMap Prod.snd := by
    unfold assemble
    rw [if_neg]
    cases before <;> first | exact Bool.false_ne_true | cases single
  rw [flat, ← groupsEq]
  split <;> rfl

/-! ## What is found -/

theorem isObject_iff_of_alike (decoded : Decoded before) (otherDecoded : Decoded after)
    (alike : typeName before = typeName after) :
    before.isObject = true ↔ after.isObject = true := by
  rw [← decoded.object_iff, ← otherDecoded.object_iff, alike]

theorem typeName_canonical (decoded : Decoded value) :
    typeName value.canonical = typeName value := by
  rcases decoded.kinds with object | ⟨items, found⟩ | single
  · rw [typeName_of_isObject object, typeName_of_isObject (isObject_canonical object)]
  · cases value <;> first | rfl | cases found
  · cases value <;> first | rfl | cases single

def Differ (before after : Option Json) : Prop := before.map canonical ≠ after.map canonical

theorem optionalDifference_eq_nil {before after : Option Json}
    (each : ∀ value other, before = some value → after = some other → ∀ pointers,
      difference path value other = .ok pointers → (pointers = [] ↔ value.canonical = other.canonical))
    (compared : optionalDifference path before after = .ok pointers) :
    pointers = [] ↔ ¬ Differ before after := by
  unfold Differ
  cases before with
  | none =>
    cases after with
    | none | some =>
      cases compared
      simp
  | some value =>
    cases after with
    | none =>
      cases compared
      simp
    | some other =>
      rw [each value other rfl rfl pointers compared]
      simp

/-- Nothing is found exactly when the two values are written alike. -/
theorem difference_eq_nil (decoded : Decoded before) (otherDecoded : Decoded after)
    (compared : difference path before after = .ok pointers) :
    pointers = [] ↔ before.canonical = after.canonical := by
  induction size : sizeOf before using Nat.strong_induction_on generalizing path before after pointers with
  | _ bound ih =>
  subst size
  by_cases alike : typeName before = typeName after
  · rcases decoded.kinds with object | ⟨items, found⟩ | single
    · have otherObject := (isObject_iff_of_alike decoded otherDecoded alike).mp object
      obtain ⟨each, members⟩ := difference_object decoded object otherObject compared
      have fields : ∀ key here, optionalDifference (fieldPath path key) (before.get? key)
          (after.get? key) = .ok here → (here = [] ↔ ¬ Differ (before.get? key) (after.get? key)) := by
        intro key here below
        refine optionalDifference_eq_nil ?_ below
        intro value other held otherHeld pointers inner
        exact ih _ (sizeOf_get? held) (decoded.get? held) (otherDecoded.get? otherHeld) inner rfl
      rw [canonical_eq_iff decoded otherDecoded object otherObject, List.eq_nil_iff_forall_not_mem]
      constructor
      · intro none key
        obtain ⟨here, below⟩ := each key
        refine not_not.mp ((fields key here below).mp ?_)
        rw [List.eq_nil_iff_forall_not_mem]
        intro pointer listed
        exact none pointer ((members pointer).mpr ⟨key, here, below, listed⟩)
      · intro same pointer listed
        obtain ⟨key, here, below, inner⟩ := (members pointer).mp listed
        rw [(fields key here below).mpr (not_not.mpr (same key))] at inner
        exact not_mem_nil inner
    · obtain ⟨others, otherFound⟩ := otherDecoded.array_iff.mp
        (alike ▸ decoded.array_iff.mpr ⟨items, found⟩)
      obtain ⟨each, members⟩ := difference_array alike found otherFound compared
      have elements : ∀ position here, optionalDifference (itemPath path position) items[position]?
          others[position]? = .ok here → (here = [] ↔ ¬ Differ items[position]? others[position]?) := by
        intro position here below
        refine optionalDifference_eq_nil ?_ below
        intro value other held otherHeld pointers inner
        have member := mem_of_getElem? held
        exact ih _ (sizeOf_element found member) (decoded.element found member)
          (otherDecoded.element otherFound (mem_of_getElem? otherHeld)) inner rfl
      have written : before.canonical = after.canonical ↔ items.map canonical = others.map canonical := by
        constructor
        · intro same
          have listed := canonical_elements found
          rw [same, canonical_elements otherFound] at listed
          exact (Option.some.inj listed).symm
        · intro same
          exact elements_injective (canonical_elements found) (same ▸ canonical_elements otherFound)
      rw [written, List.eq_nil_iff_forall_not_mem, List.ext_getElem?_iff]
      constructor
      · intro none position
        obtain ⟨here, below⟩ := each position
        rw [getElem?_map, getElem?_map]
        refine not_not.mp ((elements position here below).mp ?_)
        rw [List.eq_nil_iff_forall_not_mem]
        intro pointer listed
        exact none pointer ((members pointer).mpr ⟨position, here, below, listed⟩)
      · intro same pointer listed
        obtain ⟨position, here, below, inner⟩ := (members pointer).mp listed
        have equal := same position
        rw [getElem?_map, getElem?_map] at equal
        rw [(elements position here below).mpr (not_not.mpr equal)] at inner
        exact not_mem_nil inner
    · rw [difference_single single alike compared]
      split <;> simp_all
  · rw [difference, if_pos alike, Except.ok.injEq] at compared
    rw [← compared]
    refine ⟨fun none => (cons_ne_nil _ _ none).elim, fun same => absurd ?_ alike⟩
    rw [← typeName_canonical decoded, ← typeName_canonical otherDecoded, same]

/-! ## Where it is found -/

def Under (path pointer : String) : Prop :=
  pointer = pathOrRoot path ∨ ∃ tail, pointer = path ++ "/" ++ tail

theorem under_of_part {part : String} (under : Under (path ++ "/" ++ part) pointer) :
    Under path pointer := by
  rcases under with same | ⟨tail, same⟩
  · exact .inr ⟨part, same.trans (pathOrRoot_of_ne append_ne_empty)⟩
  · exact .inr ⟨part ++ "/" ++ tail, by rw [same]; simp only [String.append_assoc]⟩

theorem optionalDifference_under {part : String} {before after : Option Json}
    (each : ∀ value other, before = some value → after = some other → ∀ pointers,
      difference (path ++ "/" ++ part) value other = .ok pointers → pointer ∈ pointers →
        Under (path ++ "/" ++ part) pointer)
    (compared : optionalDifference (path ++ "/" ++ part) before after =
      .ok pointers) (listed : pointer ∈ pointers) : Under (path ++ "/" ++ part) pointer := by
  have here : pointers = [path ++ "/" ++ part] → Under (path ++ "/" ++ part) pointer := by
    intro single
    rw [single, mem_singleton] at listed
    exact .inl (listed.trans (pathOrRoot_of_ne append_ne_empty).symm)
  cases before with
  | none =>
    cases after with
    | none =>
      cases compared
      cases listed
    | some other => exact here (Except.ok.inj compared).symm
  | some value =>
    cases after with
    | none => exact here (Except.ok.inj compared).symm
    | some other => exact each value other rfl rfl pointers compared listed

theorem difference_under (decoded : Decoded before) (otherDecoded : Decoded after)
    (compared : difference path before after = .ok pointers) (listed : pointer ∈ pointers) :
    Under path pointer := by
  induction size : sizeOf before using Nat.strong_induction_on generalizing path before after pointers with
  | _ bound ih =>
  subst size
  by_cases alike : typeName before = typeName after
  · rcases decoded.kinds with object | ⟨items, found⟩ | single
    · have otherObject := (isObject_iff_of_alike decoded otherDecoded alike).mp object
      obtain ⟨_, members⟩ := difference_object decoded object otherObject compared
      obtain ⟨key, here, below, inner⟩ := (members pointer).mp listed
      refine under_of_part (optionalDifference_under ?_ below inner)
      intro value other held otherHeld deeper compared listed
      exact ih _ (sizeOf_get? held) (decoded.get? held) (otherDecoded.get? otherHeld) compared listed rfl
    · obtain ⟨others, otherFound⟩ := otherDecoded.array_iff.mp
        (alike ▸ decoded.array_iff.mpr ⟨items, found⟩)
      obtain ⟨_, members⟩ := difference_array alike found otherFound compared
      obtain ⟨position, here, below, inner⟩ := (members pointer).mp listed
      refine under_of_part (optionalDifference_under ?_ below inner)
      intro value other held otherHeld deeper compared listed
      have member := mem_of_getElem? held
      exact ih _ (sizeOf_element found member) (decoded.element found member)
        (otherDecoded.element otherFound (mem_of_getElem? otherHeld)) compared listed rfl
    · rw [difference_single single alike compared] at listed
      split at listed
      · cases listed
      · exact .inl (mem_singleton.mp listed)
  · rw [difference, if_pos alike, Except.ok.injEq] at compared
    rw [← compared] at listed
    exact .inl (mem_singleton.mp listed)

end WorkOrchestration.Native.ProtectedChanges
