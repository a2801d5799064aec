import WorkOrchestration.Native.ProtectedDetection

/-!
# Refinements without an approval

A refinement that asks for no approval has changed unprotected roots and lowered budgets only. A container
that is added, removed or replaced as a whole escapes the rules of security: its pointer ends before the
text they look for.
-/

namespace WorkOrchestration.Native.ProtectedChanges

open List Lib.Results Artifacts Artifacts.Json

def DecodedOption (value : Option Json) : Prop := ∀ held, value = some held → Decoded held

variable {document : Json}

theorem Decoded.option (decoded : Decoded document) (key : String) :
    DecodedOption (document.get? key) := fun _ found => decoded.get? found

section

variable {path pointer : String} {before after : Option Json} {pointers : List String}

section

variable (decoded : DecodedOption before) (otherDecoded : DecodedOption after) (compared : optionalDifference path before after = .ok pointers)

include decoded otherDecoded compared

theorem optionalDifference_nil_iff : pointers = [] ↔ ¬ Differ before after := by
  refine optionalDifference_eq_nil ?_ compared
  intro value other held otherHeld inner below
  exact difference_eq_nil (decoded value held) (otherDecoded other otherHeld) below

theorem differ_of_listed (listed : pointer ∈ pointers) :
    Differ before after := by
  by_contra same
  rw [(optionalDifference_nil_iff decoded otherDecoded compared).mpr same] at listed
  exact not_mem_nil listed

theorem exists_listed (differ : Differ before after) : ∃ pointer, pointer ∈ pointers :=
  exists_mem_of_ne_nil _ fun empty =>
    (optionalDifference_nil_iff decoded otherDecoded compared).mp empty differ

end

theorem under_of_listed {key : String} (decoded : DecodedOption before)
    (otherDecoded : DecodedOption after)
    (compared : optionalDifference (fieldPath path key) before after = .ok pointers)
    (listed : pointer ∈ pointers) : Under (fieldPath path key) pointer := by
  refine optionalDifference_under ?_ compared listed
  intro value other held otherHeld inner below member
  exact difference_under (decoded value held) (otherDecoded other otherHeld) below member

/-- A pointer is the path itself, that of a field of two objects or below an item of an array. -/
theorem listed_cases (nonempty : path ≠ "") (decoded : DecodedOption before)
    (otherDecoded : DecodedOption after)
    (compared : optionalDifference path before after = .ok pointers) (listed : pointer ∈ pointers) :
    pointer = path ∨
    (∃ old new key inner, before = some old ∧ after = some new ∧ old.isObject = true ∧
      new.isObject = true ∧
      optionalDifference (fieldPath path key) (old.get? key) (new.get? key) = .ok inner ∧
      pointer ∈ inner) ∨
    ((∃ old new items others, before = some old ∧ after = some new ∧ old.elements? = some items ∧
      new.elements? = some others) ∧ ∃ position, Under (itemPath path position) pointer) := by
  cases before with
  | none =>
    cases after with
    | none =>
      cases compared
      cases listed
    | some new =>
      cases compared
      exact .inl (mem_singleton.mp listed)
  | some old =>
    cases after with
    | none =>
      cases compared
      exact .inl (mem_singleton.mp listed)
    | some new =>
      change difference path old new = .ok pointers at compared
      have oldDecoded := decoded old rfl
      have newDecoded := otherDecoded new rfl
      by_cases alike : typeName old = typeName new
      · rcases oldDecoded.kinds with object | ⟨items, found⟩ | single
        · have otherObject := (isObject_iff_of_alike oldDecoded newDecoded alike).mp object
          obtain ⟨key, inner, below, member⟩ :=
            ((difference_object oldDecoded object otherObject compared).2 pointer).mp listed
          exact .inr (.inl ⟨old, new, key, inner, rfl, rfl, object, otherObject, below, member⟩)
        · obtain ⟨others, otherFound⟩ := newDecoded.array_iff.mp
            (alike ▸ oldDecoded.array_iff.mpr ⟨items, found⟩)
          obtain ⟨position, inner, below, member⟩ :=
            ((difference_array alike found otherFound compared).2 pointer).mp listed
          refine .inr (.inr ⟨⟨old, new, items, others, rfl, rfl, found, otherFound⟩, position, ?_⟩)
          refine optionalDifference_under ?_ below member
          intro value other held otherHeld deeper inside mentioned
          exact difference_under (oldDecoded.element found (mem_of_getElem? held))
            (newDecoded.element otherFound (mem_of_getElem? otherHeld)) inside mentioned
        · rw [difference_single single alike compared, pathOrRoot_of_ne nonempty] at listed
          split at listed
          · cases listed
          · exact .inl (mem_singleton.mp listed)
      · rw [difference, if_pos alike, Except.ok.injEq, pathOrRoot_of_ne nonempty] at compared
        rw [← compared] at listed
        exact .inl (mem_singleton.mp listed)

end

section

variable {path pointer name key : String}

theorem not_startsWith_self : ¬ startsWith path (path ++ "/" ++ name) = true := by
  intro starts
  obtain ⟨rest, spelled⟩ := startsWith_iff.mp starts
  have lengths := congrArg List.length spelled
  simp only [String.toList_append, length_append] at lengths
  have slash : "/".toList.length = 1 := rfl
  omega

theorem part_startsWith (clean : '/' ∉ name.toList) (under : Under (fieldPath path key) pointer)
    (starts : startsWith pointer (path ++ "/" ++ name) = true) :
    startsWith (jsonPointerPart key) name = true := by
  obtain ⟨tail, spelled⟩ := startsWith_iff.mp starts
  obtain ⟨rest, below, ends⟩ := under_toList (fieldPath_ne_empty _ _) under
  rw [fieldPath_toList, spelled, String.toList_append] at below
  have tails : name.toList ++ tail = (jsonPointerPart key).toList ++ rest := by
    have slash : "/".toList = ['/'] := rfl
    simpa [slash, append_assoc] using below
  have cut := part_takeWhile key rest ends
  rw [← tails, takeWhile_of_clean clean] at cut
  exact startsWith_iff.mpr ⟨_, cut.symm⟩

/-- A name with a slash behind it is the whole part. -/
theorem part_of_startsWith (clean : '/' ∉ name.toList) (under : Under (fieldPath path key) pointer)
    (starts : startsWith pointer (path ++ "/" ++ name ++ "/") = true) :
    (jsonPointerPart key).toList = name.toList ∧ pointer ≠ fieldPath path key := by
  obtain ⟨tail, spelled⟩ := startsWith_iff.mp starts
  obtain ⟨rest, below, ends⟩ := under_toList (fieldPath_ne_empty _ _) under
  have characters : (path ++ "/" ++ name ++ "/").toList ++ tail =
      path.toList ++ '/' :: (name.toList ++ '/' :: tail) := by
    simp only [String.toList_append, append_assoc]
    rfl
  rw [fieldPath_toList, spelled, characters, append_assoc, append_cancel_left_eq,
    cons_append, List.cons.injEq] at below
  have cut := part_takeWhile key rest ends
  rw [← below.2, takeWhile_of_clean clean, takeWhile_cons_of_neg (by decide), append_nil] at cut
  refine ⟨cut.symm, ?_⟩
  rintro rfl
  have lengths := congrArg List.length spelled
  rw [characters, fieldPath_toList, ← cut] at lengths
  simp only [length_append, length_cons] at lengths
  omega

/-- The path of an item has a digit where a name has a letter. -/
theorem item_not_startsWith {first : Char} {others : List Char} (spelled : name.toList = first :: others)
    (letter : first.isDigit = false) {position : Nat} (under : Under (itemPath path position) pointer) :
    ¬ startsWith pointer (path ++ "/" ++ name) = true := by
  intro starts
  obtain ⟨tail, same⟩ := startsWith_iff.mp starts
  obtain ⟨rest, below, _⟩ := under_toList append_ne_empty under
  have slash : "/".toList = ['/'] := rfl
  rw [same] at below
  simp only [String.toList_append, append_assoc, append_cancel_left_eq, slash,
    cons_append, nil_append, List.cons.injEq, true_and, spelled] at below
  cases digits : (toString position).toList with
  | nil =>
    rw [Nat.toString_eq_repr, Nat.toList_repr] at digits
    exact Nat.toDigits_ne_nil digits
  | cons digit more =>
    have numeral : digit.isDigit = true := by
      refine Nat.isDigit_of_mem_toDigits (b := 10) (n := position) (by decide) (by decide) ?_
      rw [← Nat.toList_repr, ← Nat.toString_eq_repr, digits]
      exact mem_cons_self
    rw [digits, cons_append, List.cons.injEq] at below
    rw [← below.1, letter] at numeral
    cases numeral

theorem startsWith_of_under (under : Under (fieldPath path key) pointer) :
    startsWith pointer (path ++ "/" ++ jsonPointerPart key) = true := by
  obtain ⟨rest, below, _⟩ := under_toList (fieldPath_ne_empty _ _) under
  exact startsWith_iff.mpr ⟨rest, below⟩

theorem startsWith_trans {text front start : String} (whole : startsWith text front = true)
    (part : startsWith front start = true) : startsWith text start = true := by
  obtain ⟨tail, spelled⟩ := startsWith_iff.mp whole
  obtain ⟨rest, same⟩ := startsWith_iff.mp part
  exact startsWith_iff.mpr ⟨rest ++ tail, by rw [spelled, same, append_assoc]⟩

theorem startsWith_append (front back start : String) (part : startsWith back start = true) :
    startsWith (front ++ back) (front ++ start) = true := by
  obtain ⟨rest, same⟩ := startsWith_iff.mp part
  refine startsWith_iff.mpr ⟨rest, ?_⟩
  rw [String.toList_append, same, String.toList_append, append_assoc]

end

def pathBindings (document : Json) : Option Json :=
  (document.get? "fit_evidence").bind (·.get? "protected_path_bindings")

def literalPatch (document : Json) : Option Json :=
  (document.get? "task_profile").bind (·.get? "architect_literal_patch")

def FieldDiffers (before after : Option Json) (key : String) : Prop :=
  ∃ old new, before = some old ∧ after = some new ∧ old.isObject = true ∧ new.isObject = true ∧
    Differ (old.get? key) (new.get? key)

def ProtectedPatchDiffers (before after : Json) : Prop :=
  Differ (literalPatch before) (literalPatch after) ∧
    (literalPatchIsProtected before || literalPatchIsProtected after) = true

/-- The changes that count as one of security or authority. -/
def SecuritySeen (before after : Json) : Prop :=
  (∃ key ∈ "fit_mode" :: securityRoots, Differ (before.get? key) (after.get? key)) ∨
  (∃ field ∈ aggregateAuthorityFields,
    FieldDiffers (before.get? "aggregate_allowance") (after.get? "aggregate_allowance") field) ∨
  (∃ key, startsWith (jsonPointerPart key) "protected_path_bindings" = true ∧
    FieldDiffers (before.get? "fit_evidence") (after.get? "fit_evidence") key) ∨
  (ProtectedPatchDiffers before after ∧ BothObjects (literalPatch before) (literalPatch after))

variable {key : String}

theorem isObject_of_get? {value held : Json} (found : value.get? key = some held) :
    value.isObject = true := by
  cases value <;> first | rfl | cases found

theorem get?_of_elements {value : Json} {items : List Json} (found : value.elements? = some items)
    (key : String) : value.get? key = none := by
  cases value <;> first | rfl | cases found

theorem unprotected_of_elements {patch : Json} {items : List Json}
    (held : literalPatch document = some patch) (found : patch.elements? = some items) :
    literalPatchIsProtected document = false := by
  unfold literalPatch at held
  unfold literalPatchIsProtected
  rw [held, Option.bind_some, get?_of_elements found]

theorem categorize_allowance {pointer : String} {before after : Json}
    (rooted : rootFromPointer pointer = some "aggregate_allowance") :
    categorizeChangedPath pointer before after .workEstimateRefinement =
      .ok (categorizeAllowance pointer before after) := by
  unfold categorizeChangedPath
  simp [rooted, pure, Except.pure]

theorem inner_of_objects {path : String} {old new : Json} {pointers : List String}
    (decoded : Decoded old) (object : old.isObject = true) (otherObject : new.isObject = true)
    (compared : optionalDifference path (some old) (some new) = .ok pointers) (key : String) :
    ∃ inner, optionalDifference (fieldPath path key) (old.get? key) (new.get? key) = .ok inner ∧
      ∀ pointer ∈ inner, pointer ∈ pointers := by
  obtain ⟨each, members⟩ := difference_object decoded object otherObject compared
  obtain ⟨inner, below⟩ := each key
  exact ⟨inner, below, fun pointer listed => (members pointer).mpr ⟨key, inner, below, listed⟩⟩

section

variable {before after : Json}

theorem rooted_of_known {key pointer : String} (under : Under (fieldPath "" key) pointer)
    {category : Category} (ran : categorizeChangedPath pointer before after .workEstimateRefinement =
      .ok category) (known : category ≠ .uncategorized) : rootFromPointer pointer = some key := by
  by_cases empty : key = ""
  · subst empty
    rw [categorize_unrooted (rootFromPointer_empty under), Except.ok.injEq] at ran
    exact absurd ran.symm known
  · exact rootFromPointer_of_under empty under

/-- A pointer that counts as a change of security is about one. -/
theorem seen_of_pointer (decoded : Decoded before) (otherDecoded : Decoded after)
    {key pointer : String} {inner : List String}
    (below : optionalDifference (fieldPath "" key) (before.get? key) (after.get? key) = .ok inner)
    (listed : pointer ∈ inner) (secure : SecurityPointer key pointer before after) :
    SecuritySeen before after := by
  have held := decoded.option key
  have otherHeld := otherDecoded.option key
  rcases secure with root | ⟨rfl, secure⟩ | ⟨rfl, starts⟩ | ⟨rfl, starts, guarded⟩
  · exact .inl ⟨key, root, differ_of_listed held otherHeld below listed⟩
  · have known : categorizeAllowance pointer before after ≠ .uncategorized := by
      rw [secure]
      exact fun wrong => (by cases wrong)
    obtain ⟨old, new, found, otherFound, object, otherObject⟩ := bothObjects_of_allowance known
    rw [found, otherFound] at below
    obtain ⟨_, members⟩ := difference_object (decoded.get? found) object otherObject below
    obtain ⟨field, deeper, compared, member⟩ := (members pointer).mp listed
    have fieldHeld := (decoded.get? found).option field
    have otherFieldHeld := (otherDecoded.get? otherFound).option field
    have authority := (categorizeAllowance_authority found otherFound object otherObject
      (under_of_listed fieldHeld otherFieldHeld compared member) known).mp secure
    exact .inr (.inl ⟨field, authority, old, new, found, otherFound, object, otherObject,
      differ_of_listed fieldHeld otherFieldHeld compared member⟩)
  · have literal : "/fit_evidence/protected_path_bindings" =
        fieldPath "" "fit_evidence" ++ "/" ++ "protected_path_bindings" := by decide +kernel
    rw [literal] at starts
    rcases listed_cases (fieldPath_ne_empty _ _) held otherHeld below listed with
      rfl | ⟨old, new, field, deeper, found, otherFound, object, otherObject, compared, member⟩ |
        ⟨_, position, under⟩
    · exact absurd starts not_startsWith_self
    · have fieldHeld := (decoded.get? found).option field
      have otherFieldHeld := (otherDecoded.get? otherFound).option field
      exact .inr (.inr (.inl ⟨field, part_startsWith (by decide +kernel)
        (under_of_listed fieldHeld otherFieldHeld compared member) starts, old, new, found, otherFound,
        object, otherObject, differ_of_listed fieldHeld otherFieldHeld compared member⟩))
    · exact absurd starts (item_not_startsWith rfl (by decide) under)
  · have literal : "/task_profile/architect_literal_patch/" =
        fieldPath "" "task_profile" ++ "/" ++ "architect_literal_patch" ++ "/" := by decide +kernel
    have name : "/task_profile/architect_literal_patch/" =
        fieldPath "" "task_profile" ++ "/" ++ "architect_literal_patch/" := by decide +kernel
    rcases listed_cases (fieldPath_ne_empty _ _) held otherHeld below listed with
      rfl | ⟨old, new, field, deeper, found, otherFound, object, otherObject, compared, member⟩ |
        ⟨_, position, under⟩
    · rw [name] at starts
      exact absurd starts not_startsWith_self
    · have fieldHeld := (decoded.get? found).option field
      have otherFieldHeld := (otherDecoded.get? otherFound).option field
      rw [literal] at starts
      obtain ⟨part, proper⟩ := part_of_startsWith (by decide +kernel)
        (under_of_listed fieldHeld otherFieldHeld compared member) starts
      have named : field = "architect_literal_patch" := by
        rw [← pointerName_part field, part]
        decide +kernel
      subst named
      have patch : literalPatch before = old.get? "architect_literal_patch" := by
        rw [literalPatch, found, Option.bind_some]
      have otherPatch : literalPatch after = new.get? "architect_literal_patch" := by
        rw [literalPatch, otherFound, Option.bind_some]
      have differ := differ_of_listed fieldHeld otherFieldHeld compared member
      rcases listed_cases (fieldPath_ne_empty _ _) fieldHeld otherFieldHeld compared member with
        same | ⟨was, is, _, _, first, second, isObject, otherIsObject, _⟩ |
          ⟨⟨was, is, items, others, first, second, listing, otherListing⟩, _⟩
      · exact absurd same proper
      · exact .inr (.inr (.inr ⟨⟨patch ▸ otherPatch ▸ differ, guarded⟩, was, is, patch.trans first,
          otherPatch.trans second, isObject, otherIsObject⟩))
      · rw [unprotected_of_elements (patch.trans first) listing,
          unprotected_of_elements (otherPatch.trans second) otherListing] at guarded
        cases guarded
    · rw [name] at starts
      exact absurd starts (item_not_startsWith rfl (by decide) under)

variable {required : List ChangeType} (assessed : Assessed before after required)
  (decoded : Decoded before) (otherDecoded : Decoded after)
  (object : before.isObject = true) (otherObject : after.isObject = true)

include assessed decoded otherDecoded object otherObject in
theorem Assessed.required_of_pointer (key : String)
    (found : ∀ inner, optionalDifference (fieldPath "" key) (before.get? key) (after.get? key) =
      .ok inner → ∃ pointer ∈ inner, ∀ category,
        categorizeChangedPath pointer before after .workEstimateRefinement = .ok category →
          category ≠ .uncategorized → SecurityPointer key pointer before after) :
    .securityOrAuthorityChange ∈ required := by
  obtain ⟨changed, compared, known, each⟩ := assessed.ofChanged
  obtain ⟨fields, members⟩ := difference_object decoded object otherObject compared
  obtain ⟨inner, below⟩ := fields key
  obtain ⟨pointer, listed, secure⟩ := found inner below
  have member := (members pointer).mpr ⟨key, inner, below, listed⟩
  obtain ⟨category, here, recognized⟩ := known pointer member
  have under := under_of_listed (decoded.option key) (otherDecoded.option key) below listed
  have rooted := rooted_of_known under here recognized
  have category_eq := (categorize_refinement rooted here).1.mpr (secure category here recognized)
  subst category_eq
  exact (each _).mpr ⟨pointer, member, here⟩

include assessed decoded otherDecoded object otherObject in
/-- A change of security is required exactly when there is one that the rules see. -/
theorem Assessed.security_iff :
    .securityOrAuthorityChange ∈ required ↔ SecuritySeen before after := by
  constructor
  · intro secure
    obtain ⟨changed, compared, known, each⟩ := assessed.ofChanged
    obtain ⟨pointer, member, here⟩ := (each _).mp secure
    obtain ⟨_, members⟩ := difference_object decoded object otherObject compared
    obtain ⟨key, inner, below, listed⟩ := (members pointer).mp member
    have under := under_of_listed (decoded.option key) (otherDecoded.option key) below listed
    have rooted := rooted_of_known under here fun wrong => (by cases wrong)
    exact seen_of_pointer decoded otherDecoded below listed ((categorize_refinement rooted here).1.mp rfl)
  · rintro (⟨key, root, differ⟩ | ⟨field, authority, old, new, found, otherFound, oldObject, newObject, differ⟩ |
      ⟨field, starts, old, new, found, otherFound, oldObject, newObject, differ⟩ |
      ⟨⟨differ, guarded⟩, was, is, patch, otherPatch, wasObject, isObject⟩)
    · refine assessed.required_of_pointer decoded otherDecoded object otherObject key ?_
      intro inner below
      obtain ⟨pointer, listed⟩ := exists_listed (decoded.option key) (otherDecoded.option key) below differ
      exact ⟨pointer, listed, fun _ _ _ => .inl root⟩
    · refine assessed.required_of_pointer decoded otherDecoded object otherObject
        "aggregate_allowance" ?_
      intro inner below
      rw [found, otherFound] at below
      obtain ⟨deeper, compared, included⟩ :=
        inner_of_objects (decoded.get? found) oldObject newObject below field
      have fieldHeld := (decoded.get? found).option field
      have otherFieldHeld := (otherDecoded.get? otherFound).option field
      obtain ⟨pointer, listed⟩ := exists_listed fieldHeld otherFieldHeld compared differ
      refine ⟨pointer, included pointer listed, fun category here known => ?_⟩
      have under := under_of_listed fieldHeld otherFieldHeld compared listed
      have rooted : rootFromPointer pointer = some "aggregate_allowance" :=
        rootFromPointer_of_under (by decide) (under_of_part under)
      rw [categorize_allowance rooted, Except.ok.injEq] at here
      subst here
      exact .inr (.inl ⟨rfl, (categorizeAllowance_authority found otherFound oldObject newObject under
        known).mpr authority⟩)
    · refine assessed.required_of_pointer decoded otherDecoded object otherObject "fit_evidence" ?_
      intro inner below
      rw [found, otherFound] at below
      obtain ⟨deeper, compared, included⟩ :=
        inner_of_objects (decoded.get? found) oldObject newObject below field
      have fieldHeld := (decoded.get? found).option field
      have otherFieldHeld := (otherDecoded.get? otherFound).option field
      obtain ⟨pointer, listed⟩ := exists_listed fieldHeld otherFieldHeld compared differ
      refine ⟨pointer, included pointer listed, fun _ _ _ => .inr (.inr (.inl ⟨rfl, ?_⟩))⟩
      have literal : "/fit_evidence/protected_path_bindings" =
          fieldPath "" "fit_evidence" ++ "/" ++ "protected_path_bindings" := by decide +kernel
      rw [literal]
      exact startsWith_trans
        (startsWith_of_under (under_of_listed fieldHeld otherFieldHeld compared listed))
        (startsWith_append _ _ _ starts)
    · refine assessed.required_of_pointer decoded otherDecoded object otherObject "task_profile" ?_
      intro inner below
      obtain ⟨old, found, held⟩ := Option.bind_eq_some_iff.mp patch
      obtain ⟨new, otherFound, otherHeld⟩ := Option.bind_eq_some_iff.mp otherPatch
      rw [found, otherFound] at below
      obtain ⟨deeper, compared, included⟩ := inner_of_objects (decoded.get? found)
        (isObject_of_get? held) (isObject_of_get? otherHeld) below "architect_literal_patch"
      rw [held, otherHeld] at compared
      have wasDecoded := (decoded.get? found).get? held
      have isDecoded := (otherDecoded.get? otherFound).get? otherHeld
      obtain ⟨field, fieldDiffers⟩ : ∃ field, Differ (was.get? field) (is.get? field) := by
        by_contra none
        rw [patch, otherPatch] at differ
        refine differ (congrArg some ?_)
        rw [canonical_eq_iff wasDecoded isDecoded wasObject isObject]
        exact fun field => not_not.mp fun apart => none ⟨field, apart⟩
      obtain ⟨deepest, last, covered⟩ := inner_of_objects wasDecoded wasObject isObject compared field
      obtain ⟨pointer, listed⟩ := exists_listed (wasDecoded.option field) (isDecoded.option field) last
        fieldDiffers
      refine ⟨pointer, included pointer (covered pointer listed), fun _ _ _ =>
        .inr (.inr (.inr ⟨rfl, ?_, guarded⟩))⟩
      have under := under_of_listed (wasDecoded.option field) (isDecoded.option field) last listed
      have literal : fieldPath (fieldPath "" "task_profile") "architect_literal_patch" ++ "/" =
          "/task_profile/architect_literal_patch/" := by decide +kernel
      rw [← literal]
      refine startsWith_trans (startsWith_of_under under) (startsWith_iff.mpr ⟨(jsonPointerPart field).toList, ?_⟩)
      exact String.toList_append

/-- What differs although no approval is asked for: an unprotected root, or an allowance whose
numbers have been lowered. -/
def Harmless (before after : Json) (key : String) : Prop :=
  key ∈ refinementUnprotectedRoots ∨
  (key = "aggregate_allowance" ∧ ∃ old new, before.get? key = some old ∧ after.get? key = some new ∧
    ∀ field, Differ (old.get? field) (new.get? field) →
      field ∈ aggregateBudgetIntegerFields ∧ Lowered (old.get? field) (new.get? field))

include assessed decoded otherDecoded object otherObject in
/-- Without a required change type every difference is harmless. -/
theorem Assessed.harmless (none : required = []) (differ : Differ (before.get? key) (after.get? key)) : Harmless before after key := by
  obtain ⟨changed, compared, known, each⟩ := assessed.ofChanged
  obtain ⟨fields, members⟩ := difference_object decoded object otherObject compared
  -- Whatever a changed pointer is about, its category asks for nothing.
  have free : ∀ pointer ∈ changed,
      categorizeChangedPath pointer before after .workEstimateRefinement = .ok .unprotected := by
    intro pointer member
    obtain ⟨category, here, recognized⟩ := known pointer member
    cases category with
    | uncategorized => exact absurd rfl recognized
    | unprotected => exact here
    | required changeType =>
      have asked := (each changeType).mpr ⟨pointer, member, here⟩
      rw [none] at asked
      exact absurd asked not_mem_nil
  obtain ⟨inner, below⟩ := fields key
  have held := decoded.option key
  have otherHeld := otherDecoded.option key
  have settled : ∀ pointer ∈ inner, key ∈ refinementUnprotectedRoots ∨
      key = "aggregate_allowance" ∧ categorizeAllowance pointer before after = .unprotected := by
    intro pointer listed
    have here := free pointer ((members pointer).mpr ⟨key, inner, below, listed⟩)
    have rooted := rooted_of_known (under_of_listed held otherHeld below listed) here
      fun wrong => (by cases wrong)
    exact (categorize_refinement rooted here).2 rfl
  obtain ⟨pointer, listed⟩ := exists_listed held otherHeld below differ
  rcases settled pointer listed with root | ⟨rfl, unprotected⟩
  · exact .inl root
  · have recognized : categorizeAllowance pointer before after ≠ .uncategorized := by
      rw [unprotected]
      exact fun wrong => (by cases wrong)
    obtain ⟨old, new, found, otherFound, oldObject, newObject⟩ := bothObjects_of_allowance recognized
    refine .inr ⟨rfl, old, new, found, otherFound, fun field fieldDiffers => ?_⟩
    rw [found, otherFound] at below
    obtain ⟨deeper, compared, included⟩ :=
      inner_of_objects (decoded.get? found) oldObject newObject below field
    have fieldHeld := (decoded.get? found).option field
    have otherFieldHeld := (otherDecoded.get? otherFound).option field
    obtain ⟨leaf, inLeaf⟩ := exists_listed fieldHeld otherFieldHeld compared fieldDiffers
    rcases settled leaf (included leaf inLeaf) with root | ⟨_, lowered⟩
    · exact absurd root (by decide)
    · exact categorizeAllowance_lowered found otherFound oldObject newObject
        (under_of_listed fieldHeld otherFieldHeld compared inLeaf) lowered

end

theorem get?_strip (kept : key ∉ circularAuditFields)
    (document : Json) : (stripCircularAuditFields document).get? key = document.get? key := by
  simp only [circularAuditFields, mem_cons, not_mem_nil, or_false, not_or] at kept
  unfold stripCircularAuditFields circularAuditFields
  rw [foldl_cons, foldl_cons, foldl_nil, get?_erase, if_neg (Ne.symm kept.2), get?_erase,
    if_neg (Ne.symm kept.1)]

theorem Decoded.strip (decoded : Decoded document) :
    Decoded (stripCircularAuditFields document) := (decoded.erase _).erase _

theorem Decoded.isObject_strip (decoded : Decoded document) (object : document.isObject = true) :
    (stripCircularAuditFields document).isObject = true :=
  (decoded.erase _).isObject_erase (decoded.isObject_erase object _) _

theorem literalPatchIsProtected_strip (document : Json) :
    literalPatchIsProtected (stripCircularAuditFields document) = literalPatchIsProtected document := by
  unfold literalPatchIsProtected protectedBindingPaths
  rw [get?_strip (by decide), get?_strip (by decide)]

theorem securitySeen_strip (before after : Json) :
    SecuritySeen (stripCircularAuditFields before) (stripCircularAuditFields after) ↔
      SecuritySeen before after := by
  have roots : ∀ key ∈ "fit_mode" :: securityRoots, key ∉ circularAuditFields := by decide
  have profile : "task_profile" ∉ circularAuditFields := by decide
  have allowance : "aggregate_allowance" ∉ circularAuditFields := by decide
  have evidence : "fit_evidence" ∉ circularAuditFields := by decide
  unfold SecuritySeen ProtectedPatchDiffers literalPatch
  rw [literalPatchIsProtected_strip, literalPatchIsProtected_strip,
    get?_strip allowance before, get?_strip allowance after,
    get?_strip evidence before, get?_strip evidence after,
    get?_strip profile before, get?_strip profile after]
  refine or_congr (exists_congr fun key => and_congr_right fun root => ?_) Iff.rfl
  rw [get?_strip (roots key root), get?_strip (roots key root)]

/-- What an assessment of a refinement is to catch. -/
structure Caught (before after : Json) (required : List ChangeType) : Prop where
  harmless : required = [] → ∀ key, Differ (before.get? key) (after.get? key) →
    key ∈ circularAuditFields ∨ Harmless before after key
  bindings : Differ (pathBindings before) (pathBindings after) → .securityOrAuthorityChange ∈ required
  patch : ProtectedPatchDiffers before after → .securityOrAuthorityChange ∈ required

/-- Where the bindings or a protected patch differ, the objects that hold the change are there on
both sides, or something else counts as a change of security. -/
def Visible (before after : Json) : Prop :=
  (Differ (pathBindings before) (pathBindings after) →
    BothObjects (before.get? "fit_evidence") (after.get? "fit_evidence") ∨ SecuritySeen before after) ∧
  (ProtectedPatchDiffers before after →
    BothObjects (literalPatch before) (literalPatch after) ∨ SecuritySeen before after)

theorem securitySeen_of_bindings {before after : Json}
    (differ : Differ (pathBindings before) (pathBindings after))
    (both : BothObjects (before.get? "fit_evidence") (after.get? "fit_evidence")) :
    SecuritySeen before after := by
  obtain ⟨old, new, found, otherFound, object, otherObject⟩ := both
  unfold pathBindings at differ
  rw [found, otherFound, Option.bind_some] at differ
  exact .inr (.inr (.inl ⟨"protected_path_bindings", by decide +kernel, old, new, found, otherFound,
    object, otherObject, differ⟩))

/-- An assessment catches what it is to catch exactly when the changes are visible. -/
theorem caught_iff_visible {before after : Json} {identity : Identity} {assessment : Assessment}
    (decoded : Decoded before) (otherDecoded : Decoded after)
    (returned : assessOperatorRequiredChanges before after .workEstimateRefinement identity =
      .ok assessment) :
    Caught before after assessment.requiredChangeTypes ↔ Visible before after := by
  obtain ⟨object, otherObject, assessed⟩ := assessed_of_ok returned
  have strippedObject := decoded.isObject_strip object
  have otherStrippedObject := otherDecoded.isObject_strip otherObject
  have security : .securityOrAuthorityChange ∈ assessment.requiredChangeTypes ↔
      SecuritySeen before after :=
    (assessed.security_iff decoded.strip otherDecoded.strip strippedObject otherStrippedObject).trans
      (securitySeen_strip before after)
  constructor
  · intro caught
    exact ⟨fun differ => .inr (security.mp (caught.bindings differ)),
      fun differ => .inr (security.mp (caught.patch differ))⟩
  · rintro ⟨bindings, patch⟩
    refine ⟨fun none key differ => ?_, fun differ => security.mpr ?_, fun differ => security.mpr ?_⟩
    · by_cases circular : key ∈ circularAuditFields
      · exact .inl circular
      · have kept := get?_strip circular
        have differs : Differ ((stripCircularAuditFields before).get? key)
            ((stripCircularAuditFields after).get? key) := by
          rw [kept, kept]
          exact differ
        have harmless := assessed.harmless decoded.strip otherDecoded.strip strippedObject
          otherStrippedObject none differs
        unfold Harmless at harmless
        rw [kept, kept] at harmless
        exact .inr harmless
    · exact (bindings differ).elim (securitySeen_of_bindings differ) id
    · exact (patch differ).elim (fun both => .inr (.inr (.inr ⟨differ, both⟩))) id

/-- A document with one field of its task profile, and the bindings of one path. -/
def samplePlan (profile : List (String × Json)) : Json :=
  .obj [("fit_evidence", .obj [("protected_path_bindings", .obj [("p", .arr [.str "g"])])]),
    ("task_profile", .obj profile)]

def withPatch : Json := samplePlan [("architect_literal_patch", .obj [("path", .str "p")])]

def withoutPatch : Json := samplePlan []

def planIdentity : Identity := ⟨"work-estimate", "estimate", none, none, none⟩

theorem decoded_withPatch : Decoded withPatch := by
  simp [withPatch, samplePlan, Json.obj, Json.arr, Decoded, Json.isDict, Json.keys, elements?]

theorem decoded_withoutPatch : Decoded withoutPatch := by
  simp [withoutPatch, samplePlan, Json.obj, Json.arr, Decoded, Json.isDict, Json.keys, elements?]

theorem changed_withoutPatch :
    jsonChangedPointers withPatch withoutPatch = .ok ["/task_profile/architect_literal_patch"] := by
  have groups : changes "" 0 withPatch withoutPatch = .ok [("fit_evidence", []),
      ("task_profile", ["/task_profile/architect_literal_patch"])] := by decide +kernel
  rw [jsonChangedPointers, groups]
  refine congrArg Except.ok ?_
  have ordered : List.mergeSort [("fit_evidence", ([] : List String)),
      ("task_profile", ["/task_profile/architect_literal_patch"])]
      (fun left right => left.1 ≤ right.1) = [("fit_evidence", []),
        ("task_profile", ["/task_profile/architect_literal_patch"])] := by
    refine mergeSort_of_pairwise ?_
    decide +kernel
  exact congrArg (·.flatMap Prod.snd) ordered

/-- The assessment of the document from which the patch has been taken. -/
def removedAssessment : Assessment where
  beforeSubject := (subject (some planIdentity) withPatch).canonical
  afterSubject := (subject (some planIdentity) withoutPatch).canonical
  identity := some planIdentity
  changedJsonPointers := ["/task_profile/architect_literal_patch"]
  requiredChangeTypes := []
  uncategorizedPaths := []

theorem returned_withoutPatch :
    assessOperatorRequiredChanges withPatch withoutPatch .workEstimateRefinement planIdentity =
      .ok removedAssessment := by
  have read : canonicalJsonObject "protected-change-before" withPatch = .ok withPatch := by
    decide +kernel
  have otherRead : canonicalJsonObject "protected-change-after" withoutPatch = .ok withoutPatch := by
    decide +kernel
  have found : categories withPatch withoutPatch .workEstimateRefinement
      ["/task_profile/architect_literal_patch"] =
        .ok [("/task_profile/architect_literal_patch", .unprotected)] := by decide +kernel
  have bound : (some planIdentity).mapM protectedChangeIdentity =
      (.ok (some planIdentity) : Except PyError _) := by decide +kernel
  have written : ∀ document, document = withPatch ∨ document = withoutPatch →
      dumpsOrdinary (subject (some planIdentity) document) =
        .ok (subject (some planIdentity) document).canonical := by
    rintro _ (rfl | rfl)
    · exact if_pos (by decide +kernel)
    · exact if_pos (by decide +kernel)
  have kept : stripCircularAuditFields withPatch = withPatch := rfl
  have otherKept : stripCircularAuditFields withoutPatch = withoutPatch := rfl
  unfold assessOperatorRequiredChanges buildProtectedChangeAssessment
  rw [read, ok_bind, otherRead, ok_bind]
  dsimp only
  rw [kept, otherKept, changed_withoutPatch, ok_bind, found, ok_bind, bound, ok_bind, written _ (.inl rfl), ok_bind,
    written _ (.inr rfl), ok_bind]
  rfl

theorem caught_iff_visible_sample :
    Caught withPatch withoutPatch removedAssessment.requiredChangeTypes ↔
      Visible withPatch withoutPatch :=
  caught_iff_visible decoded_withPatch decoded_withoutPatch returned_withoutPatch

/-- A protected patch is taken away, and no change type is required. -/
theorem removed_patch_not_caught : ∃ assessment,
      assessOperatorRequiredChanges withPatch withoutPatch .workEstimateRefinement planIdentity =
        .ok assessment ∧
      ¬ Caught withPatch withoutPatch assessment.requiredChangeTypes := by
  refine ⟨removedAssessment, returned_withoutPatch, fun caught => ?_⟩
  have differs : Differ (literalPatch withPatch) (literalPatch withoutPatch) := by
    intro same
    exact absurd same (by decide +kernel)
  have asked := caught.patch ⟨differs, by decide +kernel⟩
  exact not_mem_nil asked

end WorkOrchestration.Native.ProtectedChanges
