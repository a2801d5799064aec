import WorkOrchestration.Lib.Results
import WorkOrchestration.Native.TransactionPlans

/-!
# What an accepted transaction plan says

Each check that returns leaves a fact about the value it was given, whatever the
label under which it would have complained.
-/

namespace WorkOrchestration.Native.TransactionPlanFacts

open Lib.Results (bind_eq_ok forM_eq_ok)
open List Lib.Text Artifacts
open OperatorApprovals (Parsed sortedTexts sortedTexts_isEmpty)
open TransactionPlans

variable {done : Unit}

theorem require_iff {condition : Bool} {message : String} :
    require condition message = .ok done ↔ condition = true := by
  unfold require
  cases condition <;> simp

/-- An object with exactly the given fields. -/
structure Exact (fields : List String) (value : Json) : Prop where
  dictionary : isDictionary value = true
  keys : ∀ key, key ∈ value.keys ↔ key ∈ fields

variable {label : String} {value : Json}

theorem strict_iff {fields : List String} :
    strict fields label value = .ok done ↔ Exact fields value := by
  unfold strict strictWithOptional
  cases object : isDictionary value with
  | false =>
    constructor
    · intro accepted
      cases accepted
    · intro exact
      exact absurd (object ▸ exact.dictionary) (by decide)
  | true =>
    simp only [Bool.not_true, Bool.false_eq_true, if_false]
    constructor
    · intro accepted
      split at accepted
      · rename_i both
        rw [Bool.and_eq_true, sortedTexts_isEmpty, sortedTexts_isEmpty] at both
        refine ⟨object, fun key => ⟨fun present => ?_, fun wanted => ?_⟩⟩
        · by_contra absent
          have extra := filter_eq_nil_iff.mp both.2 key present
          simp [absent] at extra
        · by_contra absent
          have missing := filter_eq_nil_iff.mp both.1 key wanted
          simp [absent] at missing
      · cases accepted
    · intro exact
      have missing : fields.filter (fun key => !value.keys.contains key) = [] := by
        rw [filter_eq_nil_iff]
        intro key wanted
        simpa using (exact.keys key).mpr wanted
      have extra : value.keys.filter
          (fun key => !fields.contains key && !([] : List String).contains key) = [] := by
        rw [filter_eq_nil_iff]
        intro key present
        simpa using (exact.keys key).mp present
      rw [if_pos]
      rw [Bool.and_eq_true, sortedTexts_isEmpty, sortedTexts_isEmpty]
      exact ⟨missing, extra⟩

theorem nonempty_iff {text : String} : nonempty value label = .ok text ↔
      ∃ raw, value = .str raw ∧ Nonempty raw ∧ text = strip raw := by
  cases value with
  | str raw =>
    unfold nonempty
    simp only [Json.str.injEq, exists_eq_left']
    by_cases visible : Nonempty raw
    · rw [if_pos visible, Except.ok.injEq]
      constructor
      · intro same
        exact ⟨visible, same.symm⟩
      · intro both
        exact both.2.symm
    · rw [if_neg visible]
      constructor
      · intro raised
        cases raised
      · intro both
        exact absurd both.1 visible
  | _ => simp [nonempty]

theorem requireNonempty_iff :
    requireNonempty value label = .ok done ↔ ∃ raw, value = .str raw ∧ Nonempty raw := by
  unfold requireNonempty
  rw [bind_eq_ok]
  constructor
  · rintro ⟨text, read, _⟩
    obtain ⟨raw, same, visible, _⟩ := nonempty_iff.mp read
    exact ⟨raw, same, visible⟩
  · rintro ⟨raw, same, visible⟩
    exact ⟨strip raw, nonempty_iff.mpr ⟨raw, same, visible, rfl⟩, rfl⟩

/-- A digest, or a text that spells one. -/
def IsHash (value : Json) : Prop := requireHash value "" = .ok ()

theorem requireHash_iff : requireHash value label = .ok done ↔ IsHash value := by
  unfold IsHash requireHash
  cases value with
  | sha256 preimage => simp
  | _ =>
    simp only [bind_eq_ok, require_iff, nonempty_iff]

theorem IsHash.dumps (isHash : IsHash value) : dumpsError? value = none := by
  unfold IsHash requireHash at isHash
  cases value with
  | sha256 | str => rfl
  | _ => simp [nonempty, bind, Except.bind] at isHash

theorem reported_ok {checked : Except PyError Unit} (accepted : reported checked = .ok []) :
    checked = .ok () := by
  cases checked with
  | ok => rfl
  | error error =>
    simp only [reported] at accepted
    split at accepted
    · cases accepted
    · cases accepted

def writesOf (child : Json) : List String := (writePaths? child).getD []

variable {plan : Json} {children : List Json}

theorem readChildren_ok (read : readChildren plan = .ok children) :
    childrenOf plan = children ∧ (plan.value "children").elements? = some children ∧
      children ≠ [] := by
  unfold readChildren at read
  split at read
  · rename_i items found
    split at read
    · rename_i count
      cases read
      refine ⟨by rw [childrenOf, found]; rfl, found, ?_⟩
      rintro rfl
      exact absurd count.1 (by decide)
    · cases read
  · cases read

structure AcceptedPlan (plan : Json) : Prop where
  children : (plan.value "children").elements? = some (childrenOf plan)
  someChild : childrenOf plan ≠ []
  startup : checkStartup (plan.value "startup_bounds_ms") = .ok ()
  planHash : requireHash (plan.value "plan_sha256") "transaction-plan.plan_sha256" = .ok ()
  each : checkChildren plan 0 (childrenOf plan) .empty = .ok ()

theorem checkTexts_ok {fromIsoformat : List Char → Parsed}
    (checked : checkTexts fromIsoformat plan = .ok ()) :
    requireHash (plan.value "plan_sha256") "transaction-plan.plan_sha256" = .ok () := by
  obtain ⟨_, _, checked⟩ := bind_ok checked
  obtain ⟨_, _, checked⟩ := bind_ok checked
  obtain ⟨_, hashes, _⟩ := bind_ok checked
  obtain ⟨_, _, hashes⟩ := bind_ok hashes
  obtain ⟨_, _, hashes⟩ := bind_ok hashes
  obtain ⟨_, _, hashes⟩ := bind_ok hashes
  obtain ⟨_, _, hashes⟩ := bind_ok hashes
  obtain ⟨_, _, hashes⟩ := bind_ok hashes
  obtain ⟨done, last, _⟩ := bind_ok hashes
  exact last

theorem accepted_of_valid {fromIsoformat : List Char → Parsed}
    (valid : validateTransactionPlan fromIsoformat plan = .ok []) : AcceptedPlan plan := by
  have checked := reported_ok valid
  obtain ⟨_, _, checked⟩ := bind_ok checked
  obtain ⟨version, _, checked⟩ := bind_ok checked
  obtain ⟨_, _, checked⟩ := bind_ok checked
  obtain ⟨_, _, checked⟩ := bind_ok checked
  obtain ⟨_, texts, checked⟩ := bind_ok checked
  obtain ⟨preludeCount, _, checked⟩ := bind_ok checked
  obtain ⟨requiredCount, _, checked⟩ := bind_ok checked
  obtain ⟨_, _, checked⟩ := bind_ok checked
  obtain ⟨_, startup, checked⟩ := bind_ok checked
  obtain ⟨children, read, checked⟩ := bind_ok checked
  obtain ⟨_, _, checked⟩ := bind_ok checked
  obtain ⟨_, _, checked⟩ := bind_ok checked
  obtain ⟨_, each, _⟩ := bind_ok checked
  obtain ⟨rfl, found, nonempty⟩ := readChildren_ok read
  exact ⟨found, nonempty, startup, checkTexts_ok texts, each⟩

variable {index : Nat}

/-- What the loop has established about one child and the paths owned before it. -/
theorem checkChild_ok {child : Json} {seen after : Seen}
    (checked : checkChild plan index child seen = .ok after) :
    checkChildFields plan index child = .ok () ∧ (∀ path ∈ writesOf child, path ∉ seen.ownedPaths) ∧
      after.ownedPaths = seen.ownedPaths ++ writesOf child ∧
      child.value "child_id" ∉ seen.childIds ∧
      after.childIds = child.value "child_id" :: seen.childIds := by
  obtain ⟨_, fields, checked⟩ := bind_ok checked
  obtain ⟨paths, read, checked⟩ := bind_ok checked
  obtain ⟨_, _, checked⟩ := bind_ok checked
  obtain ⟨_, apart, checked⟩ := bind_ok checked
  obtain ⟨_, fresh, checked⟩ := bind_ok checked
  obtain ⟨_, _, checked⟩ := bind_ok checked
  obtain ⟨_, _, checked⟩ := bind_ok checked
  obtain ⟨_, _, checked⟩ := bind_ok checked
  cases checked
  have writes : writesOf child = paths := by
    unfold readPaths at read
    unfold writesOf
    split at read
    · rename_i found
      cases read
      rw [found]
      rfl
    · cases read
  refine ⟨fields, ?_, by rw [writes], ?_, rfl⟩
  · intro path member owned
    rw [writes] at member
    have free := all_eq_true.mp (require_iff.mp apart) path member
    simp [owned] at free
  · intro taken
    have free := require_iff.mp fresh
    simp [taken] at free

/-- Accepted children share no write path as a text, and none was owned before. -/
theorem checkChildren_ok {seen : Seen} (checked : checkChildren plan index children seen = .ok ()) :
    (∀ child ∈ children, ∀ path ∈ writesOf child, path ∉ seen.ownedPaths) ∧
      children.Pairwise fun left right => ∀ path ∈ writesOf left, path ∉ writesOf right := by
  induction children generalizing index seen with
  | nil => exact ⟨fun _ member => absurd member not_mem_nil, .nil⟩
  | cons child rest ih =>
    obtain ⟨after, first, later⟩ := bind_ok checked
    obtain ⟨_, apart, owned, _, _⟩ := checkChild_ok first
    obtain ⟨others, pairs⟩ := ih later
    constructor
    · intro other member path written taken
      rcases mem_cons.mp member with rfl | inRest
      · exact apart path written taken
      · refine others other inRest path written ?_
        rw [owned]
        exact mem_append_left _ taken
    · refine .cons (fun other member path written shared => ?_) pairs
      refine others other member path shared ?_
      rw [owned]
      exact mem_append_right _ written

/-- The ids of a child are texts in which something is visible. -/
structure NamedChild (child : Json) : Prop where
  childId : ∃ text, child.value "child_id" = .str text ∧ Nonempty text
  beadId : ∃ text, child.value "bead_id" = .str text ∧ Nonempty text

theorem checkChildFields_ok {child : Json} (checked : checkChildFields plan index child = .ok ()) :
    NamedChild child := by
  obtain ⟨_, _, checked⟩ := bind_ok checked
  obtain ⟨_, names, _⟩ := bind_ok checked
  have named := forM_eq_ok.mp names
  exact ⟨requireNonempty_iff.mp (named "child_id" (by simp)),
    requireNonempty_iff.mp (named "bead_id" (by simp))⟩

theorem namedChild_of_checkChildren {seen : Seen}
    (checked : checkChildren plan index children seen = .ok ()) :
    ∀ child ∈ children, NamedChild child := by
  induction children generalizing index seen with
  | nil => exact fun _ member => absurd member not_mem_nil
  | cons child rest ih =>
    obtain ⟨after, first, later⟩ := bind_ok checked
    rw [forall_mem_cons]
    exact ⟨checkChildFields_ok (checkChild_ok first).1, ih later⟩

theorem startup_bounds {bounds : Json} (checked : checkStartup bounds = .ok ()) :
    ∀ field ∈ startupFields, 0 ≤ intOf (bounds.value field) := by
  obtain ⟨_, _, checked⟩ := bind_ok checked
  obtain ⟨_, each, _⟩ := bind_ok checked
  intro field member
  obtain ⟨number, read, _⟩ := bind_ok (forM_eq_ok.mp each field member)
  unfold integer at read
  split at read
  · rename_i value found
    split at read
    · rename_i nonnegative
      rw [found]
      exact nonnegative
    · cases read
  · cases read

end WorkOrchestration.Native.TransactionPlanFacts
