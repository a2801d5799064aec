import Mathlib.Data.List.DropRight
import Mathlib.Data.List.Infix
import WorkOrchestration.Workspace.Baseline
import WorkOrchestration.Workspace.WriteScopes

/-!
# Paths in a scope

`path_allowed` takes every dot and every slash off the front of a path, where a leading `./` is meant.
What it compares is what stands behind them.
-/

namespace WorkOrchestration.Workspace.PathScopes

open List Lib.Text Baseline WriteScopes

/-- Without a leading `./`. -/
def withoutHere : List Char → List Char
  | '.' :: '/' :: rest => rest
  | path => path

def withoutSlashes (path : List Char) : List Char := path.rdropWhile (· == '/')

variable (path entry : String)

def spelled : List Char := withoutSlashes (withoutHere path.toList)

/-- The path as the leases have it; the directory itself is a dot. -/
def canonical : String :=
  if spelled path = [] then "." else String.ofList (spelled path)

/-- The entry is the path or an ancestor of it. -/
def Within : Prop :=
  canonical entry = "." ∨ canonical entry = canonical path ∨ Below (canonical path) (canonical entry)

instance : Decidable (Within path entry) := inferInstanceAs (Decidable (_ ∨ _))

def InScope (allowedPaths : List String) : Prop := ∃ entry ∈ allowedPaths, Within path entry

instance (allowedPaths : List String) : Decidable (InScope path allowedPaths) :=
  inferInstanceAs (Decidable (∃ entry ∈ allowedPaths, _))

def isDot (character : Char) : Bool := character == '.' || character == '/'

/-- The dots and slashes in front that are no leading `./`. -/
def marks : List Char := (withoutHere path.toList).takeWhile isDot

/-- What stands behind all dots and slashes in front. -/
def rest : List Char := withoutSlashes (path.toList.dropWhile isDot)

/-- The rest of the entry is the rest of the path or an ancestor of it. -/
def Leads : Prop := rest entry ≠ [] ∧ (rest entry = rest path ∨ rest entry ++ ['/'] <+: rest path)

instance : Decidable (Leads path entry) := inferInstanceAs (Decidable (_ ∧ _))

/-- The entry matches behind its dots and slashes, and these are others than those of the path. -/
def Misleads : Prop := Leads path entry ∧ marks entry ≠ marks path

/-- The entry has nothing but dots and slashes, and the path is in it. -/
def Overlooked : Prop := rest entry = [] ∧ Within path entry

/-- An entry that contains the path has its dots, or entries that only seem to contain it come together with
overlooked ones. -/
def Matched (allowedPaths : List String) : Prop :=
  (∃ entry ∈ allowedPaths, Leads path entry ∧ marks entry = marks path) ∨
    ((∃ entry ∈ allowedPaths, Misleads path entry) ↔ ∃ entry ∈ allowedPaths, Overlooked path entry)

theorem withoutSlashes_append {front back : List Char} (some' : withoutSlashes back ≠ []) :
    withoutSlashes (front ++ back) = front ++ withoutSlashes back := by
  have visible : ¬ (back.reverse.dropWhile (· == '/')).isEmpty := by
    simpa [withoutSlashes, List.rdropWhile] using some'
  simp [withoutSlashes, List.rdropWhile, reverse_append, dropWhile_append, visible]

theorem withoutSlashes_concat (path : List Char) :
    withoutSlashes (path ++ ['/']) = withoutSlashes path :=
  rdropWhile_concat_pos _ _ _ rfl

/-- Slashes at the end of a path make no difference to what it lies in. -/
theorem leads_withoutSlashes {upper lower : List Char} (bare : withoutSlashes upper = upper) :
    lower = upper ∨ upper ++ ['/'] <+: lower ↔
      upper = withoutSlashes lower ∨ upper ++ ['/'] <+: withoutSlashes lower := by
  induction lower using List.reverseRecOn with
  | nil => rw [show withoutSlashes [] = [] from rfl, eq_comm]
  | append_singleton front last ih =>
    by_cases slash : last = '/'
    · subst slash
      have ends : front ++ ['/'] ≠ upper := by
        rintro rfl
        rw [withoutSlashes_concat] at bare
        have shorter := ( rdropWhile_prefix (· == '/') front).length_le
        rw [show front.rdropWhile (· == '/') = front ++ ['/'] from bare] at shorter
        simp at shorter
      rw [withoutSlashes_concat, ← ih, prefix_concat_iff]
      simp [ends, eq_comm]
    · rw [show withoutSlashes (front ++ [last]) = front ++ [last] from
        rdropWhile_concat_neg _ _ _ (by simpa using slash)]
      rw [eq_comm]

theorem dropWhile_withoutHere (path : List Char) :
    (withoutHere path).dropWhile isDot = path.dropWhile isDot := by
  unfold withoutHere
  split
  · rfl
  · rfl

theorem withoutHere_eq : withoutHere path.toList = marks path ++ path.toList.dropWhile isDot := by
  rw [← dropWhile_withoutHere, marks, takeWhile_append_dropWhile]

theorem isDot_of_mem_marks {path : String} : ∀ character ∈ marks path, isDot character = true :=
  fun _ member => mem_takeWhile_imp member

theorem exists_rest {path : String} (some' : rest path ≠ []) :
    ∃ first others, rest path = first :: others ∧ isDot first = false := by
  obtain ⟨first, others, same⟩ := exists_cons_of_ne_nil some'
  obtain ⟨slashes, whole⟩ := rdropWhile_prefix (· == '/') (path.toList.dropWhile isDot)
  have begins : path.toList.dropWhile isDot = first :: (others ++ slashes) := by
    rw [← whole]
    exact congrArg (· ++ slashes) same
  have seen := head?_dropWhile_not isDot path.toList
  rw [begins] at seen
  exact ⟨first, others, same, by simpa using seen⟩

theorem spelled_eq {path : String} (some' : rest path ≠ []) : spelled path = marks path ++ rest path := by
  rw [spelled, withoutHere_eq, withoutSlashes_append some', rest]

theorem isDot_of_mem_spelled {path : String} (none' : rest path = []) :
    ∀ character ∈ spelled path, isDot character = true := by
  intro character member
  have inside : character ∈ withoutHere path.toList :=
    ( rdropWhile_prefix (· == '/') _).subset member
  rw [withoutHere_eq] at inside
  rcases mem_append.mp inside with mark | behind
  · exact isDot_of_mem_marks character mark
  · have slash := rdropWhile_eq_nil_iff.mp none' character behind
    simp [isDot, slash]

theorem canonical_split {path : String} (some' : rest path ≠ []) (more : List Char) :
    ((canonical path).toList ++ more).takeWhile isDot = marks path ∧
      ((canonical path).toList ++ more).dropWhile isDot = rest path ++ more := by
  obtain ⟨first, others, begins, apart⟩ := exists_rest some'
  have spelled' := spelled_eq some'
  have visible : spelled path ≠ [] := by simp [spelled', begins]
  rw [canonical, if_neg visible, String.toList_ofList, spelled', append_assoc,
    takeWhile_append_of_pos isDot_of_mem_marks, dropWhile_append_of_pos isDot_of_mem_marks,
    begins]
  simp [apart]

theorem dropWhile_canonical : (canonical path).toList.dropWhile isDot = rest path := by
  by_cases none' : rest path = []
  · rw [none']
    unfold canonical
    split
    · simp [isDot]
    · simpa using isDot_of_mem_spelled none'
  · simpa using (canonical_split none' []).2

/-- An entry with a name in it contains the path if both its dots and its rest do. -/
theorem within_iff {path entry : String} (some' : rest entry ≠ []) :
    Within path entry ↔ Leads path entry ∧ marks entry = marks path := by
  have visible : canonical entry ≠ "." := by
    intro dot
    have behind := dropWhile_canonical entry
    rw [dot] at behind
    exact some' behind.symm
  constructor
  · rintro (dot | same | ⟨more, below⟩)
    · exact absurd dot visible
    · have behind := dropWhile_canonical entry
      rw [same, dropWhile_canonical] at behind
      have front := (canonical_split some' []).1
      rw [same, (canonical_split (behind ▸ some') []).1] at front
      exact ⟨⟨some', .inl behind.symm⟩, front.symm⟩
    · rw [append_assoc] at below
      have behind := dropWhile_canonical path
      rw [← below, (canonical_split some' _).2] at behind
      have front := (canonical_split some' (['/'] ++ more)).1
      have some'' : rest path ≠ [] := by simp [← behind]
      rw [below, ← append_nil (canonical path).toList, (canonical_split some'' []).1] at front
      exact ⟨⟨some', .inr ⟨more, by rw [← behind, append_assoc]⟩⟩, front.symm⟩
  · rintro ⟨⟨_, leads⟩, front⟩
    have some'' : rest path ≠ [] := by
      rcases leads with same | ⟨more, below⟩
      · exact same ▸ some'
      · simp [← below]
    have whole {text : String} (some' : rest text ≠ []) :
        (canonical text).toList = marks text ++ rest text := by
      have split' := canonical_split some' []
      rw [append_nil, append_nil] at split'
      rw [← split'.1, ← split'.2, takeWhile_append_dropWhile]
    rcases leads with same | ⟨more, below⟩
    · refine .inr (.inl (String.toList_injective ?_))
      rw [whole some', whole some'', front, same]
    · refine .inr (.inr ⟨more, ?_⟩)
      rw [whole some', whole some'', front, ← below]
      simp

theorem pathAllowed_iff {path : String} {allowedPaths : List String} :
    pathAllowed path allowedPaths = true ↔
      ∃ entry ∈ allowedPaths.map strip, Leads (strip path) entry := by
  simp only [pathAllowed, any_eq_true, mem_map, exists_exists_and_eq_and]
  refine exists_congr fun entry => and_congr_right fun _ => ?_
  have bare : withoutSlashes (rest (strip entry)) = rest (strip entry) := rdropWhile_idempotent _ _
  have slashes := @leads_withoutSlashes _ (withoutDots path) bare
  rw [Leads, show rest (strip path) = withoutSlashes (withoutDots path) from rfl, ← slashes,
    show rest (strip entry) = withoutSlashes (withoutDots entry) from rfl]
  simp [withoutSlashes, List.rdropWhile]

theorem leads_iff_inScope (path : String) (allowedPaths : List String) :
    ((∃ entry ∈ allowedPaths, Leads path entry) ↔ InScope path allowedPaths) ↔
      Matched path allowedPaths := by
  have scope : InScope path allowedPaths ↔
      (∃ entry ∈ allowedPaths, Leads path entry ∧ marks entry = marks path) ∨
        ∃ entry ∈ allowedPaths, Overlooked path entry := by
    rw [← exists_or]
    refine exists_congr fun entry => ?_
    by_cases some' : rest entry = []
    · simp [Overlooked, Leads, some']
    · simp [Overlooked, some', within_iff some']
  have allowed : (∃ entry ∈ allowedPaths, Leads path entry) ↔
      (∃ entry ∈ allowedPaths, Leads path entry ∧ marks entry = marks path) ∨
        ∃ entry ∈ allowedPaths, Misleads path entry := by
    rw [← exists_or]
    refine exists_congr fun entry => ?_
    rw [← and_or_left, Misleads, ← and_or_left]
    simp [em]
  rw [scope, allowed, Matched]
  by_cases contains : ∃ entry ∈ allowedPaths, Leads path entry ∧ marks entry = marks path
  · simp only [contains, true_or]
  · simp only [contains, false_or]

/-- `path_allowed` decides containment of components exactly where the trimmed texts match in this sense and
trimming does not change what is in scope, or where they do not and it does. -/
theorem path_allowed_componentwise_iff (path : String) (allowedPaths : List String) :
    ((pathAllowed path allowedPaths = true ↔ InScope path allowedPaths) ↔
      (Matched (strip path) (allowedPaths.map strip) ↔
        (InScope (strip path) (allowedPaths.map strip) ↔ InScope path allowedPaths))) ∧
    (InScope path allowedPaths → ScopesOverlap [canonical path] (allowedPaths.map canonical)) := by
  constructor
  · rw [pathAllowed_iff, ← leads_iff_inScope]
    generalize (∃ entry ∈ allowedPaths.map strip, Leads (strip path) entry) = allowed
    generalize InScope (strip path) (allowedPaths.map strip) = trimmed
    by_cases allowed <;> by_cases trimmed <;> simp_all
  · rintro ⟨entry, member, contains⟩
    refine ⟨canonical path, mem_singleton_self _, canonical entry, mem_map_of_mem member, ?_⟩
    rcases contains with dot | same | below
    · exact .inr (.inl dot)
    · exact .inr (.inr (.inl same.symm))
    · exact .inr (.inr (.inr (.inl below)))

/-- Without white space at their ends the texts only have to match. -/
theorem path_allowed_unpadded_iff {path : String} {allowedPaths : List String}
    (unpadded : ∀ text ∈ path :: allowedPaths, strip text = text) :
    (pathAllowed path allowedPaths = true ↔ InScope path allowedPaths) ↔ Matched path allowedPaths := by
  have trimmed : allowedPaths.map strip = allowedPaths :=
    (map_congr_left fun entry member => unpadded entry (mem_cons_of_mem path member)).trans (map_id _)
  rw [pathAllowed_iff, unpadded path mem_cons_self, trimmed]
  exact leads_iff_inScope path allowedPaths

theorem path_allowed_componentwise_sample :
    pathAllowed "src/a.py" ["docs ", "./src/"] = true ↔ InScope "src/a.py" ["docs ", "./src/"] :=
  (path_allowed_componentwise_iff "src/a.py" ["docs ", "./src/"]).1.mpr (iff_of_true
    (.inl ⟨"./src/", by decide +kernel, by decide +kernel⟩)
    (iff_of_true (by decide +kernel) (by decide +kernel)))

/-- A hidden file passes for the file without the dot. -/
theorem hidden_path_in_scope : pathAllowed ".env" ["env"] = true ∧ ¬ InScope ".env" ["env"] := by
  decide +kernel

end WorkOrchestration.Workspace.PathScopes
