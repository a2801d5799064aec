import WorkOrchestration.Native.Artifacts

/-!
# Documents as dictionaries

A JSON object as the dictionary that `json.loads` makes of it, and the order in which `json.dumps(...,
sort_keys=True)` writes it.
-/

namespace WorkOrchestration.Native.Artifacts

open List

namespace Json

/-- `value.get(key)` with `None` for a missing key. -/
def value (key : String) (document : Json) : Json := (document.get? key).getD null

/-- `bool(value)`. -/
def truthy : Json → Bool
  | null => false
  | bool value => value
  | int value => value != 0
  | ratio numerator denominator => numerator != 0 || denominator == 0
  | str text => text != ""
  | arrEnd => false
  | objEnd => false
  | _ => true

/-- The first integer with more digits than `str` and `json.dumps` write. -/
def digitLimit : Nat := (10 ^ 100) ^ 43

/-- `json.dumps(value, allow_nan=False)` writes the value. -/
def encodable : Json → Bool
  | int value => value.natAbs < digitLimit
  | ratio _ denominator => denominator != 0
  | item head tail => encodable head && encodable tail
  | field _ value rest => encodable value && encodable rest
  | bytes _ => false
  | foreign _ => false
  | _ => true

/-- `value in {...}` for a text and a set of texts. -/
def isOneOf (texts : List String) : Json → Bool
  | .str text => texts.contains text
  | _ => false

/-- `value == number` for a value of any type. -/
def equalsNat (number : Nat) : Json → Bool
  | .bool value => value.toNat == number
  | .int value => value == number
  | .ratio numerator denominator => denominator != 0 && numerator == number * denominator
  | _ => false

/-- What looking a list or a dictionary up in a set raises. -/
def unhashable? : Json → Option PyError
  | .arrEnd => some ⟨.type, "TypeError", "unhashable type: 'list'"⟩
  | .item .. => some ⟨.type, "TypeError", "unhashable type: 'list'"⟩
  | .objEnd => some ⟨.type, "TypeError", "unhashable type: 'dict'"⟩
  | .field .. => some ⟨.type, "TypeError", "unhashable type: 'dict'"⟩
  | _ => none

def hashable (value : Json) : Except PyError Unit :=
  match unhashable? value with
  | some error => .error error
  | none => .ok ()

/-- `document[key] = value`. -/
def set (document : Json) (key : String) (value : Json) : Json :=
  match document with
  | field name old rest =>
    if name = key then field name value rest else field name old (set rest key value)
  | _ => field key value objEnd

/-- `document.setdefault(key, value)`. -/
def setDefault (document : Json) (key : String) (value : Json) : Json :=
  match document.get? key with
  | some _ => document
  | none => document.set key value

/-- `document.pop(key, None)`. -/
def erase (key : String) : Json → Json
  | field name value rest => if name = key then erase key rest else field name value (erase key rest)
  | document => document

@[simp]
theorem get?_set (key other : String) (value document : Json) :
    (document.set key value).get? other = if key = other then some value else document.get? other := by
  induction document with
  | field name old rest _ ih =>
    unfold set
    by_cases same : name = key
    · subst same
      by_cases found : name = other <;> simp [get?, found]
    · rw [if_neg same]
      by_cases found : name = other
      · subst found
        simp [get?, Ne.symm same]
      · simp only [get?, if_neg found, ih]
  | _ => simp [set, get?]

theorem value_set (key other : String) (value document : Json) :
    (document.set key value).value other = if key = other then value else document.value other := by
  unfold Json.value
  rw [get?_set]
  split <;> rfl

theorem value_set_same (key : String) (value document : Json) :
    (document.set key value).value key = value := by
  rw [value_set, if_pos rfl]

variable {key : String}

theorem value_set_of_ne {other : String} (apart : key ≠ other) (value document : Json) :
    (document.set key value).value other = document.value other := by
  rw [value_set, if_neg apart]

theorem get?_setDefault (key other : String) (value document : Json) :
    (document.setDefault key value).get? other =
      if key = other ∧ document.get? key = none then some value else document.get? other := by
  unfold setDefault
  cases present : document.get? key with
  | some | none => simp

@[simp]
theorem get?_erase (key other : String) (document : Json) :
    (document.erase key).get? other = if key = other then none else document.get? other := by
  induction document with
  | field name value rest _ ih =>
    unfold erase
    by_cases same : name = key
    · subst same
      rw [if_pos rfl, ih]
      by_cases found : name = other <;> simp [get?, found]
    · rw [if_neg same]
      by_cases found : name = other
      · subst found
        simp [get?, Ne.symm same]
      · simp only [get?, if_neg found, ih]
  | _ => simp [erase, get?]

variable {document : Json}

theorem erase_of_absent (absent : document.get? key = none) : document.erase key = document := by
  induction document with
  | field name value rest _ ih =>
    unfold get? at absent
    split at absent
    · cases absent
    · rename_i other
      rw [erase, if_neg other, ih absent]
  | _ => rfl

/-- A chain of fields that ends as a dictionary does. -/
def isDict : Json → Bool
  | field _ _ rest => isDict rest
  | objEnd => true
  | _ => false

section

variable (dictionary : document.isDict = true)

include dictionary

theorem isDict_erase (key : String) : (document.erase key).isDict = true := by
  induction document with
  | field name value rest _ ih =>
    unfold erase
    split
    · exact ih dictionary
    · exact ih dictionary
  | objEnd => rfl
  | _ => cases dictionary

theorem isDict_set (key : String) (value : Json) : (document.set key value).isDict = true := by
  induction document with
  | field name old rest _ ih =>
    unfold set
    split
    · exact dictionary
    · exact ih dictionary
  | objEnd => rfl
  | _ => cases dictionary

theorem isDict_setDefault (key : String) (value : Json) :
    (document.setDefault key value).isDict = true := by
  unfold setDefault
  split
  · exact dictionary
  · exact isDict_set dictionary key value

omit dictionary in
theorem isObject_set (document : Json) (key : String) (value : Json) :
    (document.set key value).isObject = true := by
  cases document with
  | field name old rest =>
    unfold set
    split <;> rfl
  | _ => rfl

theorem erase_set (key : String) (value : Json) :
    (document.set key value).erase key = document.erase key := by
  induction document with
  | field name old rest _ ih =>
    unfold set
    by_cases same : name = key
    · rw [if_pos same, erase, erase, if_pos same, if_pos same]
    · rw [if_neg same, erase, erase, if_neg same, if_neg same, ih dictionary]
  | objEnd => simp [set, erase]
  | _ => cases dictionary

end

theorem mem_keys_iff : key ∈ document.keys ↔ document.get? key ≠ none := by
  induction document with
  | field name old rest _ ih =>
    unfold keys get?
    by_cases same : name = key
    · simp [same]
    · rw [if_neg same, ← ih]
      simp [Ne.symm same]
  | _ => simp [keys, get?]

theorem keys_set (present : key ∈ document.keys) (value : Json) :
    (document.set key value).keys = document.keys := by
  induction document with
  | field name old rest _ ih =>
    unfold set
    by_cases same : name = key
    · rw [if_pos same]
      rfl
    · rw [if_neg same]
      have later : key ∈ rest.keys := (mem_cons.mp present).resolve_left (Ne.symm same)
      rw [keys, keys, ih later]
  | _ => cases present

theorem erase_set_of_mem (present : key ∈ document.keys) (value : Json) :
    (document.set key value).erase key = document.erase key := by
  induction document with
  | field name old rest _ ih =>
    unfold set
    by_cases same : name = key
    · rw [if_pos same, erase, erase, if_pos same, if_pos same]
    · have later : key ∈ rest.keys := (mem_cons.mp present).resolve_left (Ne.symm same)
      rw [if_neg same, erase, erase, if_neg same, if_neg same, ih later]
  | _ => cases present

theorem mem_keys_of_hasExactly {fields : List String} (exact : document.hasExactly fields = true)
    (named : key ∈ fields) :
    key ∈ document.keys := by
  unfold hasExactly at exact
  simp only [Bool.and_eq_true, all_eq_true, contains_iff_mem] at exact
  exact exact.2 key named

theorem hasExactly_set {fields : List String} (exact : document.hasExactly fields = true)
    (named : key ∈ fields) (value : Json) : (document.set key value).hasExactly fields = true := by
  have present := mem_keys_of_hasExactly exact named
  unfold hasExactly at exact ⊢
  rw [keys_set present, isObject_set]
  simp only [Bool.and_eq_true] at exact ⊢
  exact ⟨⟨trivial, exact.1.2⟩, exact.2⟩

theorem elements?_arr (items : List Json) : (arr items).elements? = some items := by
  induction items with
  | nil => rfl
  | cons item rest ih =>
    change (elements? (arr rest)).map (item :: ·) = _
    rw [ih]
    rfl

variable {name : String}

theorem erase_set_of_ne (apart : name ≠ key) (value document : Json) :
    (document.set name value).erase key = (document.erase key).set name value := by
  induction document with
  | field other old rest _ ih =>
    by_cases same : other = name
    · subst same
      have first : (field other old rest).set other value = field other value rest := if_pos rfl
      have second : (field other old (rest.erase key)).set other value =
          field other value (rest.erase key) := if_pos rfl
      rw [first, erase, if_neg apart, erase, if_neg apart, second]
    · have first : (field other old rest).set name value = field other old (rest.set name value) :=
        if_neg same
      rw [first]
      by_cases erased : other = key
      · rw [erase, if_pos erased, ih, erase, if_pos erased]
      · have second : (field other old (rest.erase key)).set name value =
            field other old ((rest.erase key).set name value) := if_neg same
        rw [erase, if_neg erased, ih, erase, if_neg erased, second]
  | _ => simp [set, erase, apart]

theorem erase_setDefault_of_ne (apart : name ≠ key) (value document : Json) :
    (document.setDefault name value).erase key = (document.erase key).setDefault name value := by
  unfold setDefault
  rw [get?_erase, if_neg (Ne.symm apart)]
  cases document.get? name with
  | none => exact erase_set_of_ne apart value document
  | some old => rfl

/-- Put a field in front of the first field with a key that is not smaller. -/
def insertField (key : String) (value : Json) : Json → Json
  | field name old rest =>
    if key ≤ name then field key value (field name old rest)
    else field name old (insertField key value rest)
  | document => field key value document

/-- `json.dumps(value, sort_keys=True)`, read back. -/
def canonical : Json → Json
  | item head tail => item (canonical head) (canonical tail)
  | field key value rest => insertField key (canonical value) (canonical rest)
  | value => value

/-- Every dictionary in the value has its keys in ascending order. -/
def Canonical : Json → Prop
  | item head tail => Canonical head ∧ Canonical tail
  | field key value rest => Canonical value ∧ (∀ name ∈ rest.keys, key ≤ name) ∧ Canonical rest
  | _ => True

theorem mem_keys_insertField {value document : Json} :
    name ∈ (insertField key value document).keys ↔ name = key ∨ name ∈ document.keys := by
  induction document with
  | field other old rest _ ih =>
    unfold insertField
    split
    · simp [keys]
    · simp only [keys, mem_cons]
      tauto
  | _ => simp [insertField, keys]

theorem insertField_of_le {value document : Json} (least : ∀ name ∈ document.keys, key ≤ name) :
    insertField key value document = field key value document := by
  cases document with
  | field name old rest => rw [insertField, if_pos (least name mem_cons_self)]
  | _ => rfl

theorem canonical_insertField {value document : Json} (written : Canonical value)
    (ordered : Canonical document) : Canonical (insertField key value document) := by
  induction document with
  | field name old rest _ ih =>
    obtain ⟨inner, least, later⟩ := ordered
    unfold insertField
    split
    · rename_i before
      refine ⟨written, ?_, inner, least, later⟩
      intro other member
      rcases mem_cons.mp member with rfl | deeper
      · exact before
      · exact before.trans (least other deeper)
    · rename_i after
      refine ⟨inner, ?_, ih later⟩
      intro other member
      rcases mem_keys_insertField.mp member with rfl | deeper
      · exact (not_le.mp after).le
      · exact least other deeper
  | _ =>
    refine ⟨written, ?_, ordered⟩
    intro other member
    cases member

theorem canonical_canonical (value : Json) : Canonical (canonical value) := by
  induction value with
  | item head tail ihHead ihTail => exact ⟨ihHead, ihTail⟩
  | field key value rest ihValue ihRest => exact canonical_insertField ihValue ihRest
  | _ => trivial

theorem Canonical.canonical_eq {value : Json} (ordered : Canonical value) :
    canonical value = value := by
  induction value with
  | item head tail ihHead ihTail => rw [canonical, ihHead ordered.1, ihTail ordered.2]
  | field key value rest ihValue ihRest =>
    rw [canonical, ihValue ordered.1, ihRest ordered.2.2, insertField_of_le ordered.2.1]
  | _ => rfl

@[simp]
theorem canonical_idem (value : Json) : canonical (canonical value) = canonical value :=
  (canonical_canonical value).canonical_eq

theorem isObject_insertField (key : String) (value document : Json) :
    (insertField key value document).isObject = true := by
  cases document with
  | field name old rest =>
    unfold insertField
    split <;> rfl
  | _ => rfl

theorem isObject_canonical (dictionary : document.isObject = true) :
    (canonical document).isObject = true := by
  cases document with
  | field key value rest => exact isObject_insertField _ _ _
  | objEnd => rfl
  | _ => cases dictionary

@[simp]
theorem get?_insertField (key other : String) (value document : Json) :
    (insertField key value document).get? other =
      if key = other then some value else document.get? other := by
  induction document with
  | field name old rest _ ih =>
    unfold insertField
    by_cases before : key ≤ name
    · rw [if_pos before]
      rfl
    · rw [if_neg before]
      have apart : name ≠ key := fun same => before same.ge
      by_cases found : name = other
      · subst found
        simp [get?, apart.symm]
      · simp only [get?, if_neg found, ih]
  | _ => rfl

/-- Writing a dictionary writes its values. -/
@[simp]
theorem get?_canonical (key : String) (document : Json) :
    (canonical document).get? key = (document.get? key).map canonical := by
  induction document with
  | field name value rest _ ih =>
    rw [canonical, get?_insertField, ih]
    by_cases found : name = key <;> simp [get?, found]
  | _ => rfl

theorem mem_keys_erase (member : name ∈ (document.erase key).keys) : name ∈ document.keys := by
  induction document with
  | field other value rest _ ih =>
    unfold erase at member
    split at member
    · exact mem_cons_of_mem _ (ih member)
    · rcases mem_cons.mp member with rfl | deeper
      · exact mem_cons_self
      · exact mem_cons_of_mem _ (ih deeper)
  | _ => exact member

theorem erase_insertField_same (key : String) (value document : Json) :
    (insertField key value document).erase key = document.erase key := by
  induction document with
  | field name old rest _ ih =>
    unfold insertField
    by_cases before : key ≤ name
    · rw [if_pos before, erase, if_pos rfl]
    · have apart : name ≠ key := fun same => before same.ge
      rw [if_neg before, erase, ih, erase, if_neg apart]
  | _ => simp [insertField, erase]

theorem erase_insertField_of_ne (apart : name ≠ key) {value document : Json}
    (ordered : Canonical document) :
    (insertField name value document).erase key = insertField name value (document.erase key) := by
  induction document with
  | field other old rest _ ih =>
    obtain ⟨inner, least, later⟩ := ordered
    by_cases before : name ≤ other
    · have front : insertField name value (field other old rest) =
          field name value (field other old rest) := if_pos before
      have kept : insertField name value ((field other old rest).erase key) =
          field name value ((field other old rest).erase key) := by
        apply insertField_of_le
        intro deeper member
        rcases mem_cons.mp (mem_keys_erase member) with rfl | inner
        · exact before
        · exact before.trans (least deeper inner)
      rw [front, kept, erase, if_neg apart]
    · have behind : insertField name value (field other old rest) =
          field other old (insertField name value rest) := if_neg before
      rw [behind]
      by_cases same : other = key
      · rw [erase, if_pos same, ih later, erase, if_pos same]
      · have pushed : insertField name value (field other old (rest.erase key)) =
            field other old (insertField name value (rest.erase key)) := if_neg before
        rw [erase, if_neg same, ih later, erase, if_neg same, pushed]
  | _ => simp [insertField, erase, apart]

theorem canonical_erase (key : String) (document : Json) :
    canonical (document.erase key) = (canonical document).erase key := by
  induction document with
  | field name value rest _ ih =>
    have written : canonical (field name value rest) =
        insertField name (canonical value) (canonical rest) := rfl
    by_cases same : name = key
    · subst same
      rw [erase, if_pos rfl, ih, written, erase_insertField_same]
    · have kept := @erase_insertField_of_ne _ _ same (canonical value) _ (canonical_canonical rest)
      rw [erase, if_neg same, canonical, ih, written, kept]
  | _ => rfl

@[simp]
theorem truthy_canonical (value : Json) : (canonical value).truthy = value.truthy := by
  cases value with
  | field key value rest =>
    unfold canonical
    cases canonical rest with
    | field name old rest =>
      unfold insertField
      split <;> rfl
    | _ => rfl
  | _ => rfl

theorem eq_sha256_of_canonical {value preimage : Json} (written : canonical value = sha256 preimage) :
    value = sha256 preimage := by
  cases value with
  | field key value rest =>
    have dictionary := isObject_insertField key (canonical value) (canonical rest)
    rw [canonical] at written
    rw [written] at dictionary
    cases dictionary
  | item head tail => cases written
  | _ => exact written

/-- `left == right` for dictionaries. -/
def SameFields (left right : Json) : Prop :=
  ∀ key, (left.get? key).map canonical = (right.get? key).map canonical

end Json

end WorkOrchestration.Native.Artifacts
