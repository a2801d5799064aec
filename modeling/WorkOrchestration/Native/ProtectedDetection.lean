import WorkOrchestration.Native.JsonDifferences

/-!
# What a refinement may change without an approval

Which pointers of a refined work estimate count as a change of security or authority, and what is left to
a change that needs no approval.
-/

namespace WorkOrchestration.Native.ProtectedChanges

open List Lib.Results Artifacts Artifacts.Json

/-- How a character of a key is spelled in a pointer. -/
def escaped (character : Char) : List Char :=
  if character = '~' then ['~', '0'] else if character = '/' then ['~', '1'] else [character]

variable (key : String)

theorem jsonPointerPart_toList : (jsonPointerPart key).toList = key.toList.flatMap escaped := by
  unfold jsonPointerPart
  rw [String.toList_ofList]
  rfl

theorem slash_not_mem (characters : List Char) : '/' ∉ characters.flatMap escaped := by
  rw [mem_flatMap]
  rintro ⟨character, _, inside⟩
  unfold escaped at inside
  split at inside
  · exact absurd inside (by decide)
  · split at inside
    · exact absurd inside (by decide)
    · rename_i other
      exact other (mem_singleton.mp inside).symm

theorem replacePair_cons {first second result left : Char} (apart : left ≠ first)
    (rest : List Char) :
    replacePair first second result (left :: rest) = left :: replacePair first second result rest := by
  cases rest with
  | nil => rfl
  | cons right rest => rw [replacePair, if_neg fun both => apart both.1]

theorem replacePair_apart {first second result right : Char} (apart : right ≠ second)
    (rest : List Char) :
    replacePair first second result (first :: right :: rest) =
      first :: replacePair first second result (right :: rest) := by
  rw [replacePair, if_neg fun both => apart both.2]

theorem replacePair_pair (first second result : Char) (rest : List Char) :
    replacePair first second result (first :: second :: rest) =
      result :: replacePair first second result rest := by
  rw [replacePair, if_pos ⟨rfl, rfl⟩]

/-- A character whose slash has been read back. -/
def halfEscaped (character : Char) : List Char :=
  if character = '~' then ['~', '0'] else [character]

theorem replacePair_escaped (characters : List Char) :
    replacePair '~' '1' '/' (characters.flatMap escaped) = characters.flatMap halfEscaped := by
  induction characters with
  | nil => rfl
  | cons character rest ih =>
    rw [flatMap_cons, flatMap_cons]
    by_cases tilde : character = '~'
    · subst tilde
      change replacePair '~' '1' '/' ('~' :: '0' :: rest.flatMap escaped) = _
      rw [replacePair_apart (by decide), replacePair_cons (by decide), ih]
      rfl
    · by_cases slash : character = '/'
      · subst slash
        change replacePair '~' '1' '/' ('~' :: '1' :: rest.flatMap escaped) = _
        rw [replacePair_pair, ih]
        rfl
      · rw [escaped, if_neg tilde, if_neg slash, halfEscaped, if_neg tilde, singleton_append,
          replacePair_cons tilde, ih]
        rfl

theorem replacePair_halfEscaped (characters : List Char) :
    replacePair '~' '0' '~' (characters.flatMap halfEscaped) = characters := by
  induction characters with
  | nil => rfl
  | cons character rest ih =>
    rw [flatMap_cons]
    by_cases tilde : character = '~'
    · subst tilde
      change replacePair '~' '0' '~' ('~' :: '0' :: rest.flatMap halfEscaped) = _
      rw [replacePair_pair, ih]
    · rw [halfEscaped, if_neg tilde, singleton_append, replacePair_cons tilde, ih]

theorem pointerName_part : pointerName (jsonPointerPart key).toList = key := by
  rw [pointerName, jsonPointerPart_toList, replacePair_escaped, replacePair_halfEscaped,
    String.ofList_toList]

theorem takeWhile_of_clean {front : List Char} (clean : '/' ∉ front) (rest : List Char) :
    (front ++ rest).takeWhile (· ≠ '/') = front ++ rest.takeWhile (· ≠ '/') := by
  refine takeWhile_append_of_pos ?_
  intro character member
  rw [decide_eq_true_eq]
  rintro rfl
  exact clean member

theorem part_takeWhile (rest : List Char) (ends : rest = [] ∨ rest.head? = some '/') :
    ((jsonPointerPart key).toList ++ rest).takeWhile (· ≠ '/') = (jsonPointerPart key).toList := by
  have clean : '/' ∉ (jsonPointerPart key).toList := by
    rw [jsonPointerPart_toList]
    exact slash_not_mem _
  rw [takeWhile_of_clean clean]
  rcases ends with rfl | slash
  · rw [takeWhile_nil, append_nil]
  · cases rest with
    | nil => cases slash
    | cons first more =>
      cases slash
      rw [takeWhile_cons_of_neg (by decide), append_nil]

theorem fieldPath_toList (path key : String) :
    (fieldPath path key).toList = path.toList ++ '/' :: (jsonPointerPart key).toList := by
  unfold fieldPath
  rw [String.toList_append, String.toList_append, append_assoc]
  rfl

variable {pointer : String}

theorem under_toList {path : String} (nonempty : path ≠ "") (under : Under path pointer) :
    ∃ rest, pointer.toList = path.toList ++ rest ∧ (rest = [] ∨ rest.head? = some '/') := by
  rcases under with rfl | ⟨tail, rfl⟩
  · exact ⟨[], by rw [pathOrRoot_of_ne nonempty, append_nil], .inl rfl⟩
  · refine ⟨'/' :: tail.toList, ?_, .inr rfl⟩
    rw [String.toList_append, String.toList_append, append_assoc]
    rfl

theorem fieldPath_ne_empty (path key : String) : fieldPath path key ≠ "" := append_ne_empty

theorem rootFromPointer_of_under {key : String} (nonempty : key ≠ "")
    (under : Under (fieldPath "" key) pointer) : rootFromPointer pointer = some key := by
  obtain ⟨rest, spelled, ends⟩ := under_toList (fieldPath_ne_empty _ _) under
  rw [fieldPath_toList] at spelled
  have characters : pointer.toList = '/' :: ((jsonPointerPart key).toList ++ rest) := by
    rw [spelled]
    rfl
  have part : (jsonPointerPart key).toList ++ rest ≠ [] := by
    intro empty
    have none := (append_eq_nil_iff.mp empty).1
    have name := pointerName_part key
    rw [none] at name
    exact nonempty name.symm
  unfold rootFromPointer
  rw [characters]
  simp only
  rw [if_neg part, part_takeWhile key rest ends, pointerName_part]

theorem rootFromPointer_empty (under : Under (fieldPath "" "") pointer) :
    rootFromPointer pointer = none ∨ rootFromPointer pointer = some "" := by
  obtain ⟨rest, spelled, ends⟩ := under_toList (fieldPath_ne_empty _ _) under
  unfold rootFromPointer
  rw [spelled]
  rcases ends with rfl | slash
  · exact .inl rfl
  · cases rest with
    | nil => cases slash
    | cons first more =>
      cases slash
      exact .inr rfl

/-- The roots of which a refinement may change what no other rule protects. -/
def refinementUnprotectedRoots : List String :=
  workEstimateUnprotectedRoots ++ ["fit_evidence", "hard_gate_reasons"]

def SecurityPointer (root pointer : String) (before after : Json) : Prop :=
  root ∈ "fit_mode" :: securityRoots ∨
  (root = "aggregate_allowance" ∧
    categorizeAllowance pointer before after = .required .securityOrAuthorityChange) ∨
  (root = "fit_evidence" ∧ startsWith pointer "/fit_evidence/protected_path_bindings" = true) ∨
  (root = "task_profile" ∧ startsWith pointer "/task_profile/architect_literal_patch/" = true ∧
    (literalPatchIsProtected before || literalPatchIsProtected after) = true)

theorem startsWith_iff {text front : String} :
    startsWith text front = true ↔ ∃ rest, text.toList = front.toList ++ rest := by
  rw [startsWith, isPrefixOf_iff_prefix]
  exact ⟨fun ⟨rest, same⟩ => ⟨rest, same.symm⟩, fun ⟨rest, same⟩ => ⟨rest, same.symm⟩⟩

theorem root_of_patch {root : String} (rooted : rootFromPointer pointer = some root)
    (inside : startsWith pointer "/task_profile/architect_literal_patch/" = true) :
    root = "task_profile" := by
  obtain ⟨rest, spelled⟩ := startsWith_iff.mp inside
  have characters : pointer.toList =
      '/' :: ("task_profile".toList ++ '/' :: ("architect_literal_patch/".toList ++ rest)) := by
    rw [spelled]
    rfl
  unfold rootFromPointer at rooted
  rw [characters] at rooted
  simp only at rooted
  have taken : ("task_profile".toList ++ '/' :: ("architect_literal_patch/".toList ++ rest)).takeWhile
      (· ≠ '/') = "task_profile".toList := by
    rw [takeWhile_of_clean (by decide +kernel), takeWhile_cons_of_neg (by decide), append_nil]
  rw [taken] at rooted
  rw [← Option.some.inj rooted]
  decide +kernel

variable {before after : Json}

theorem categorize_evidence {category : Category}
    (ran : (if startsWith pointer "/fit_evidence/protected_path_bindings" = true then
        pure (.required .securityOrAuthorityChange)
      else do
        let changed ← optionalChange (contradictions before) (contradictions after)
        if changed = true then pure (.required .contradictoryValidation) else pure .unprotected) =
      (.ok category : Except PyError Category)) :
    (category = .required .securityOrAuthorityChange ↔
        SecurityPointer "fit_evidence" pointer before after) ∧
      (category = .unprotected → "fit_evidence" ∈ refinementUnprotectedRoots ∨
        "fit_evidence" = "aggregate_allowance" ∧
          categorizeAllowance pointer before after = .unprotected) := by
  have free : "fit_evidence" ∈ refinementUnprotectedRoots := by decide
  refine ⟨?_, fun _ => .inl free⟩
  by_cases bound : startsWith pointer "/fit_evidence/protected_path_bindings" = true
  · rw [if_pos bound, pure_eq_ok] at ran
    subst ran
    exact ⟨fun _ => .inr (.inr (.inl ⟨rfl, bound⟩)), fun _ => rfl⟩
  · rw [if_neg bound, bind_eq_ok] at ran
    obtain ⟨changed, _, ran⟩ := ran
    have none : ¬ SecurityPointer "fit_evidence" pointer before after := by
      simp [SecurityPointer, securityRoots, bound]
    refine ⟨fun secure => ?_, fun secure => absurd secure none⟩
    subst secure
    cases changed <;> cases ran

/-- The rules of a refinement, one after the other. -/
theorem categorize_refinement {root : String} {category : Category}
    (rooted : rootFromPointer pointer = some root)
    (ran : categorizeChangedPath pointer before after .workEstimateRefinement = .ok category) :
    (category = .required .securityOrAuthorityChange ↔ SecurityPointer root pointer before after) ∧
      (category = .unprotected → root ∈ refinementUnprotectedRoots ∨
        root = "aggregate_allowance" ∧ categorizeAllowance pointer before after = .unprotected) := by
  unfold categorizeChangedPath at ran
  simp only [rooted, Option.getD_some, Option.isSome_some, Bool.true_and, reduceCtorEq, or_self,
    if_false, Bool.not_true, Bool.false_eq_true, if_true, true_and] at ran
  by_cases allowance : root = "aggregate_allowance"
  · rw [if_pos allowance, pure_eq_ok] at ran
    subst allowance ran
    refine ⟨?_, fun free => .inr ⟨rfl, free⟩⟩
    simp [SecurityPointer, securityRoots]
  rw [if_neg allowance] at ran
  by_cases model : root = "requested_model"
  · rw [if_pos model, pure_eq_ok] at ran
    subst model ran
    simp [SecurityPointer, securityRoots]
  rw [if_neg model] at ran
  by_cases objective : root = "objective" ∨ root = "primary_outcome"
  · rw [if_pos objective, pure_eq_ok] at ran
    subst ran
    rcases objective with rfl | rfl <;> simp [SecurityPointer, securityRoots]
  rw [if_neg objective] at ran
  by_cases security : root ∈ securityRoots
  · rw [if_pos (contains_iff_mem.mpr security), pure_eq_ok] at ran
    subst ran
    exact ⟨⟨fun _ => .inl (mem_cons_of_mem _ security), fun _ => rfl⟩, fun wrong => (by cases wrong)⟩
  rw [if_neg (mt contains_iff_mem.mp security)] at ran
  by_cases tainted : root = "mutation" ∧
      (pointer = "/mutation/tainted" ∨ startsWith pointer "/mutation/tainted/" = true)
  · rw [if_pos tainted, pure_eq_ok] at ran
    obtain ⟨rfl, _⟩ := tainted
    subst ran
    simp [SecurityPointer, securityRoots]
  rw [if_neg tainted] at ran
  by_cases taintedRoot : root = "tainted_mutation_accepted"
  · rw [if_pos taintedRoot, pure_eq_ok] at ran
    subst taintedRoot ran
    simp [SecurityPointer, securityRoots]
  rw [if_neg taintedRoot] at ran
  by_cases contradicted : root ∈ contradictionRoots
  · rw [if_pos (contains_iff_mem.mpr contradicted), pure_eq_ok] at ran
    subst ran
    simp only [contradictionRoots, mem_cons, not_mem_nil, or_false] at contradicted
    rcases contradicted with rfl | rfl | rfl <;> simp [SecurityPointer, securityRoots]
  rw [if_neg (mt contains_iff_mem.mp contradicted)] at ran
  by_cases evidence : root = "fit_evidence"
  · rw [if_pos evidence] at ran
    subst evidence
    exact categorize_evidence ran
  rw [if_neg evidence] at ran
  by_cases gate : root = "hard_gate_reasons"
  · rw [if_pos gate] at ran
    subst gate
    have none : ¬ SecurityPointer "hard_gate_reasons" pointer before after := by
      simp [SecurityPointer, securityRoots]
    have free : "hard_gate_reasons" ∈ refinementUnprotectedRoots := by decide
    refine ⟨⟨fun secure => ?_, fun secure => absurd secure none⟩, fun _ => .inl free⟩
    subst secure
    cases was : contradictionMarked before with
    | none =>
      rw [was] at ran
      cases ran
    | some first =>
      cases is : contradictionMarked after with
      | none =>
        rw [was, is] at ran
        cases ran
      | some second =>
        rw [was, is] at ran
        cases first <;> cases second <;> cases ran
  rw [if_neg gate] at ran
  by_cases fit : root = "fit_mode"
  · rw [if_pos fit, pure_eq_ok] at ran
    subst fit ran
    simp [SecurityPointer]
  rw [if_neg fit] at ran
  by_cases patch : startsWith pointer "/task_profile/architect_literal_patch/" = true ∧
      (literalPatchIsProtected before || literalPatchIsProtected after) = true
  · rw [if_pos patch, pure_eq_ok] at ran
    subst ran
    exact ⟨⟨fun _ => .inr (.inr (.inr ⟨root_of_patch rooted patch.1, patch.1, patch.2⟩)), fun _ => rfl⟩,
      fun wrong => (by cases wrong)⟩
  rw [if_neg patch, pure_eq_ok] at ran
  have none : ¬ SecurityPointer root pointer before after := by
    rintro (secure | secure | secure | secure)
    · rcases mem_cons.mp secure with named | listed
      · exact fit named
      · exact security listed
    · exact allowance secure.1
    · exact evidence secure.1
    · exact patch secure.2
  subst ran
  by_cases listed : root ∈ workEstimateUnprotectedRoots
  · have free : Profile.workEstimateRefinement.unprotectedRoots.contains root = true :=
      contains_iff_mem.mpr listed
    rw [if_pos free]
    exact ⟨⟨fun wrong => (by cases wrong), fun secure => absurd secure none⟩,
      fun _ => .inl (mem_append_left _ listed)⟩
  · have bound : ¬ Profile.workEstimateRefinement.unprotectedRoots.contains root = true :=
      mt contains_iff_mem.mp listed
    rw [if_neg bound]
    exact ⟨⟨fun wrong => (by cases wrong), fun secure => absurd secure none⟩, fun wrong => (by cases wrong)⟩

theorem categorize_unrooted
    (unrooted : rootFromPointer pointer = none ∨ rootFromPointer pointer = some "") :
    categorizeChangedPath pointer before after .workEstimateRefinement = .ok .uncategorized := by
  rcases unrooted with rooted | rooted
  · unfold categorizeChangedPath
    simp [rooted, pure, Except.pure]
  · have patch : ¬ startsWith pointer "/task_profile/architect_literal_patch/" = true := by
      intro inside
      exact absurd (root_of_patch rooted inside) (by decide)
    unfold categorizeChangedPath
    simp [rooted, patch, securityRoots, contradictionRoots, Profile.unprotectedRoots,
      workEstimateUnprotectedRoots, pure, Except.pure]

theorem slash_not_mem_part : '/' ∉ (jsonPointerPart key).toList := by
  rw [jsonPointerPart_toList]
  exact slash_not_mem _

/-- The parts of a pointer below a field of a field. -/
theorem splitOn_under {root field pointer : String}
    (under : Under (fieldPath (fieldPath "" root) field) pointer) :
    pointer.toList.splitOn '/' =
        [[], (jsonPointerPart root).toList, (jsonPointerPart field).toList] ∨
      ∃ first more, pointer.toList.splitOn '/' =
        [] :: (jsonPointerPart root).toList :: (jsonPointerPart field).toList :: first :: more := by
  obtain ⟨rest, spelled, ends⟩ := under_toList (fieldPath_ne_empty _ _) under
  rw [fieldPath_toList, fieldPath_toList] at spelled
  have characters : pointer.toList =
      [] ++ '/' :: ((jsonPointerPart root).toList ++ '/' :: ((jsonPointerPart field).toList ++ rest)) := by
    rw [spelled]
    simp
  rw [characters, splitOn_append_cons_self_of_not_mem not_mem_nil,
    splitOn_append_cons_self_of_not_mem (slash_not_mem_part root)]
  rcases ends with rfl | slash
  · rw [append_nil, splitOn_eq_singleton (slash_not_mem_part field)]
    exact .inl rfl
  · cases rest with
    | nil => cases slash
    | cons first more =>
      cases slash
      rw [splitOn_append_cons_self_of_not_mem (slash_not_mem_part field)]
      cases parts : more.splitOn '/' with
      | nil => exact absurd parts (splitOn_ne_nil _ _)
      | cons first others => exact .inr ⟨first, others, rfl⟩

def BothObjects (before after : Option Json) : Prop :=
  ∃ old new, before = some old ∧ after = some new ∧ old.isObject = true ∧ new.isObject = true

theorem bothObjects_of_allowance (known : categorizeAllowance pointer before after ≠ .uncategorized) :
    BothObjects (before.get? "aggregate_allowance") (after.get? "aggregate_allowance") := by
  unfold categorizeAllowance at known
  cases found : before.get? "aggregate_allowance" with
  | none =>
    rw [found] at known
    exact absurd rfl known
  | some old =>
    cases otherFound : after.get? "aggregate_allowance" with
    | none =>
      rw [found, otherFound] at known
      exact absurd rfl known
    | some new =>
      rw [found, otherFound] at known
      by_cases flat : (!old.isObject || !new.isObject) = true
      · simp [flat] at known
      · simp only [Bool.or_eq_true, Bool.not_eq_true', not_or, Bool.not_eq_false] at flat
        exact ⟨old, new, rfl, rfl, flat.1, flat.2⟩

def Lowered (before after : Option Json) : Prop :=
  ∃ was is, before = some (.int was) ∧ after = some (.int is) ∧ is < was

section

variable {before after old new : Json} {field pointer : String}

/-- The rule for the fields of two allowances. -/
theorem categorizeAllowance_eq (found : before.get? "aggregate_allowance" = some old)
    (otherFound : after.get? "aggregate_allowance" = some new)
    (object : old.isObject = true) (otherObject : new.isObject = true)
    (under : Under (fieldPath (fieldPath "" "aggregate_allowance") field) pointer) :
    (∀ was is, field ∈ aggregateBudgetIntegerFields → old.get? field = some (.int was) →
        new.get? field = some (.int is) → categorizeAllowance pointer before after = .uncategorized ∨
          was < is ∧ categorizeAllowance pointer before after = .required .aggregateBudgetIncrease ∨
          is < was ∧ categorizeAllowance pointer before after = .unprotected) ∧
      (field ∈ aggregateBudgetIntegerFields → (∀ was is, old.get? field = some (.int was) →
        new.get? field ≠ some (.int is)) → categorizeAllowance pointer before after = .uncategorized) ∧
      (field ∉ aggregateBudgetIntegerFields → categorizeAllowance pointer before after = .uncategorized ∨
        field ∈ aggregateAuthorityFields ∧
          categorizeAllowance pointer before after = .required .securityOrAuthorityChange) := by
  unfold categorizeAllowance
  rw [found, otherFound]
  simp only [object, otherObject, Bool.not_true, Bool.or_self, Bool.false_eq_true, if_false]
  rcases splitOn_under under with parts | ⟨first, more, parts⟩
  · rw [parts]
    simp only [pointerName_part, contains_iff_mem]
    refine ⟨fun was is integer oldValue newValue => ?_, fun integer other => ?_, fun free => ?_⟩
    · rw [if_pos integer, oldValue, newValue]
      simp only
      by_cases raised : was < is
      · exact .inr (.inl ⟨raised, by rw [if_pos raised]⟩)
      · by_cases lowered : is < was
        · exact .inr (.inr ⟨lowered, by rw [if_neg raised, if_pos lowered]⟩)
        · exact .inl (by rw [if_neg raised, if_neg lowered])
    · rw [if_pos integer]
      cases oldValue : old.get? field with
      | none => rfl
      | some was =>
        cases newValue : new.get? field with
        | none => cases was <;> rfl
        | some is =>
          cases was with
          | int amount =>
            cases is with
            | int later => exact absurd newValue (other amount later oldValue)
            | _ => rfl
          | _ => rfl
    · rw [if_neg free]
      by_cases authority : field ∈ aggregateAuthorityFields
      · exact .inr ⟨authority, by rw [if_pos authority]⟩
      · exact .inl (by rw [if_neg authority])
  · rw [parts]
    exact ⟨fun _ _ _ _ _ => .inl rfl, fun _ _ => rfl, fun _ => .inl rfl⟩

theorem authority_not_integer (authority : field ∈ aggregateAuthorityFields) :
    field ∉ aggregateBudgetIntegerFields := by
  simp only [aggregateAuthorityFields, mem_cons, not_mem_nil, or_false] at authority
  rcases authority with rfl | rfl <;> decide

variable (found : before.get? "aggregate_allowance" = some old) (otherFound : after.get? "aggregate_allowance" = some new) (object : old.isObject = true) (otherObject : new.isObject = true) (under : Under (fieldPath (fieldPath "" "aggregate_allowance") field) pointer)

include found otherFound object otherObject under

/-- A known change of a field of authority is one of security. -/
theorem categorizeAllowance_authority
    (known : categorizeAllowance pointer before after ≠ .uncategorized) :
    categorizeAllowance pointer before after = .required .securityOrAuthorityChange ↔
      field ∈ aggregateAuthorityFields := by
  obtain ⟨integers, others, free⟩ := categorizeAllowance_eq found otherFound object otherObject under
  constructor
  · intro secure
    by_cases integer : field ∈ aggregateBudgetIntegerFields
    · by_cases both : ∃ was is, old.get? field = some (.int was) ∧ new.get? field = some (.int is)
      · obtain ⟨was, is, oldValue, newValue⟩ := both
        rcases integers was is integer oldValue newValue with wrong | ⟨_, wrong⟩ | ⟨_, wrong⟩
        all_goals rw [secure] at wrong; cases wrong
      · refine absurd (others integer fun was is oldValue newValue => both ⟨was, is, oldValue, newValue⟩) known
    · exact ((free integer).resolve_left known).1
  · intro authority
    exact ((free (authority_not_integer authority)).resolve_left known).2

/-- A change of the allowance that needs no approval lowers a number. -/
theorem categorizeAllowance_lowered
    (unprotected : categorizeAllowance pointer before after = .unprotected) :
    field ∈ aggregateBudgetIntegerFields ∧ Lowered (old.get? field) (new.get? field) := by
  obtain ⟨integers, others, free⟩ := categorizeAllowance_eq found otherFound object otherObject under
  rw [unprotected] at integers others free
  by_cases integer : field ∈ aggregateBudgetIntegerFields
  · by_cases both : ∃ was is, old.get? field = some (.int was) ∧ new.get? field = some (.int is)
    · obtain ⟨was, is, oldValue, newValue⟩ := both
      rcases integers was is integer oldValue newValue with wrong | ⟨_, wrong⟩ | ⟨lowered, _⟩
      · cases wrong
      · cases wrong
      · exact ⟨integer, was, is, oldValue, newValue, lowered⟩
    · cases others integer fun was is oldValue newValue => both ⟨was, is, oldValue, newValue⟩
  · rcases free integer with wrong | ⟨_, wrong⟩ <;> cases wrong

end

theorem Decoded.erase {document : Json} (decoded : Decoded document) (key : String) :
    Decoded (document.erase key) := by
  induction document with
  | field name value rest _ ih =>
    obtain ⟨inner, later, dictionary, apart⟩ := decoded
    unfold Json.erase
    split
    · exact ih later
    · exact ⟨inner, ih later, isDict_erase dictionary key, fun member => apart (mem_keys_erase member)⟩
  | _ => exact decoded

theorem Decoded.isObject_erase {document : Json} (decoded : Decoded document)
    (object : document.isObject = true) (key : String) : (document.erase key).isObject = true := by
  have dictionary := isDict_erase (decoded.isDict object) key
  cases shape : document.erase key <;> first | rfl | (rw [shape] at dictionary; cases dictionary)

theorem categories_eq_ok {profile : Profile} {pointers : List String}
    {found : List (String × Category)} (ran : categories before after profile pointers = .ok found) :
    (∀ pointer ∈ pointers, ∃ category,
      categorizeChangedPath pointer before after profile = .ok category ∧ (pointer, category) ∈ found) ∧
    ∀ entry ∈ found, entry.1 ∈ pointers ∧
      categorizeChangedPath entry.1 before after profile = .ok entry.2 := by
  induction pointers generalizing found with
  | nil =>
    cases ran
    exact ⟨fun _ absent => absurd absent not_mem_nil, fun _ absent => absurd absent not_mem_nil⟩
  | cons first rest ih =>
    rw [categories, bind_eq_ok] at ran
    obtain ⟨category, here, ran⟩ := ran
    obtain ⟨later, below, same⟩ := bind_eq_ok.mp ran
    rw [pure_eq_ok] at same
    subst same
    obtain ⟨each, back⟩ := ih below
    constructor
    · intro pointer member
      rcases mem_cons.mp member with rfl | deeper
      · exact ⟨category, here, mem_cons_self⟩
      · obtain ⟨other, compared, listed⟩ := each pointer deeper
        exact ⟨other, compared, mem_cons_of_mem _ listed⟩
    · intro entry member
      rcases mem_cons.mp member with rfl | deeper
      · exact ⟨mem_cons_self, here⟩
      · exact ⟨mem_cons_of_mem _ (back entry deeper).1, (back entry deeper).2⟩

structure Assessed (before after : Json) (required : List ChangeType) : Prop where
  ofChanged : ∃ changed, difference "" before after = .ok changed ∧
    (∀ pointer ∈ changed, ∃ category,
      categorizeChangedPath pointer before after .workEstimateRefinement = .ok category ∧
        category ≠ .uncategorized) ∧
    ∀ changeType, changeType ∈ required ↔ ∃ pointer ∈ changed,
      categorizeChangedPath pointer before after .workEstimateRefinement = .ok (.required changeType)

theorem canonicalJsonObject_eq_ok {label : String} {value document : Json}
    (read : canonicalJsonObject label value = .ok document) :
    document = value ∧ value.isObject = true := by
  obtain ⟨_, _, read⟩ := bind_eq_ok.mp read
  split at read
  · rename_i object
    exact ⟨(pure_eq_ok.mp read).symm, object⟩
  · cases read

theorem assessed_of_ok {identity : Identity} {assessment : Assessment}
    (returned : assessOperatorRequiredChanges before after .workEstimateRefinement identity =
      .ok assessment) :
    before.isObject = true ∧ after.isObject = true ∧
      Assessed (stripCircularAuditFields before) (stripCircularAuditFields after)
        assessment.requiredChangeTypes := by
  obtain ⟨first, readBefore, rest⟩ := bind_eq_ok.mp returned
  obtain ⟨second, readAfter, compared⟩ := bind_eq_ok.mp rest
  obtain ⟨changed, compared, categorized⟩ := bind_eq_ok.mp compared
  obtain ⟨found, categorized, bound⟩ := bind_eq_ok.mp categorized
  obtain ⟨bound, _, subjects⟩ := bind_eq_ok.mp bound
  obtain ⟨beforeSubject, _, subjects⟩ := bind_eq_ok.mp subjects
  obtain ⟨afterSubject, _, returned⟩ := bind_eq_ok.mp subjects
  obtain ⟨same, object⟩ := canonicalJsonObject_eq_ok readBefore
  obtain ⟨otherSame, otherObject⟩ := canonicalJsonObject_eq_ok readAfter
  rw [same, otherSame] at compared categorized
  refine ⟨object, otherObject, changed, jsonChangedPointers_eq _ _ ▸ compared, ?_⟩
  obtain ⟨each, back⟩ := categories_eq_ok categorized
  split at returned
  · cases returned
  · rename_i known
    rw [← pure_eq_ok.mp returned]
    constructor
    · intro pointer member
      obtain ⟨category, here, listed⟩ := each pointer member
      refine ⟨category, here, ?_⟩
      rintro rfl
      simp only [Bool.not_eq_true, Bool.not_eq_false', List.isEmpty_iff, List.map_eq_nil_iff,
        List.filter_eq_nil_iff, decide_eq_true_eq, Prod.forall] at known
      exact known pointer .uncategorized listed rfl
    · intro changeType
      simp only [requiredTypes, mem_filter, ChangeType.mem_all, true_and, any_eq_true,
        decide_eq_true_eq]
      constructor
      · rintro ⟨entry, member, named⟩
        obtain ⟨listed, here⟩ := back entry member
        exact ⟨entry.1, listed, named ▸ here⟩
      · rintro ⟨pointer, member, here⟩
        obtain ⟨category, other, listed⟩ := each pointer member
        rw [other, Except.ok.injEq] at here
        exact ⟨(pointer, category), listed, here⟩

end WorkOrchestration.Native.ProtectedChanges
