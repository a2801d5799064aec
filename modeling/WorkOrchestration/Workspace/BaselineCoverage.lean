import Mathlib.Data.List.Dedup
import WorkOrchestration.Workspace.Baseline

/-!
# What a comparison reveals

A change outside the scope is reported exactly when the evidence of some path outside the scope differs,
so a change is missed when nothing names the changed path.
-/

namespace WorkOrchestration.Workspace.Baseline

open List Lib.Text Native.Artifacts Native.PoolContracts

/-- A repository, and how it is captured. -/
structure Capture where
  snapshot : Snapshot
  resolve : String → Option (List String)
  caps : Caps
  late : Nat → Bool

namespace Capture

variable (capture : Capture)

def baseline (allowedPaths : List String) : WorkspaceBaseline :=
  captureWorkspaceBaseline capture.snapshot capture.resolve allowedPaths capture.caps capture.late

/-- A line of `git status` is read as the path. -/
def Lists (path : String) : Prop :=
  ∃ line ∈ capture.snapshot.status.getD [], strip line ≠ "" ∧ statusPath line = path

/-- A file below an allowed path, or a link to a file or a directory, stands at the path. -/
def Walks (allowedPaths : List String) (path : String) : Prop :=
  ∃ item ∈ capture.snapshot.items, item.path = path ∧
    ((∃ bytes, item.content = .regular bytes) ∨ (∃ target, item.content = .symlink target) ∧
      item.resolves = true) ∧
    ∃ allowed ∈ allowedPaths, ∃ base, capture.resolve allowed = some base ∧ base <+: posixParts path

/-- A status line or the walk over the allowed paths names the path. -/
def Names (allowedPaths : List String) (path : String) : Prop :=
  isExcluded path = false ∧ (capture.Lists path ∨ capture.Walks allowedPaths path)

theorem mem_candidates {allowedPaths : List String} {path : String} :
    path ∈ fingerprintCandidates capture.snapshot capture.resolve allowedPaths ↔
      capture.Names allowedPaths path := by
  have listed : path ∈ (statusLines capture.snapshot).map statusPath ↔ capture.Lists path := by
    simp only [statusLines, mem_map, mem_insertionSort, mem_filter, decide_eq_true_eq, and_assoc]
    rfl
  have walks : path ∈ walked capture.snapshot capture.resolve allowedPaths ↔
      isExcluded path = false ∧ capture.Walks allowedPaths path := by
    unfold walked Walks
    simp only [mem_map, mem_filter, Bool.and_eq_true, any_eq_true, mem_filterMap, isPrefixOf_iff_prefix,
      Bool.not_eq_true']
    constructor
    · rintro ⟨item, ⟨member, ⟨kind, plain⟩, base, ⟨allowed, among, resolved⟩, below⟩, rfl⟩
      refine ⟨plain, item, member, rfl, ?_, allowed, among, base, resolved, below⟩
      cases content : item.content with
      | regular bytes => exact .inl ⟨bytes, rfl⟩
      | symlink target => exact .inr ⟨⟨target, rfl⟩, by simpa [content] using kind⟩
      | special => simp [content] at kind
    · rintro ⟨plain, item, member, rfl, kind, allowed, among, base, resolved, below⟩
      refine ⟨item, ⟨member, ⟨?_, plain⟩, base, ⟨allowed, among, resolved⟩, below⟩, rfl⟩
      rcases kind with ⟨bytes, content⟩ | ⟨⟨target, content⟩, resolves⟩
      · rw [content]
      · rw [content]
        exact resolves
  unfold fingerprintCandidates Names
  rw [mem_insertionSort, mem_dedup, mem_append, mem_filter, listed, walks, Bool.not_eq_true',
    and_comm, ← and_or_left]

instance (allowedPaths : List String) (path : String) :
    Decidable (capture.Names allowedPaths path) := decidable_of_iff _ capture.mem_candidates

/-- The status line of a path, as `status_path` reads it. -/
def line (path : String) : Option String := statusOf (statusLines capture.snapshot) path

/-- A regular file that can be opened, or a symbolic link. -/
def IsReadable (path : String) : Prop :=
  ∃ item, capture.snapshot.item? path = some item ∧
    ((∃ bytes, item.content = .regular bytes) ∧ item.readable = true ∨
      ∃ target, item.content = .symlink target)

def size (path : String) : Nat :=
  match capture.snapshot.content path with
  | some (.regular bytes) => bytes.length
  | some (.symlink target) => target.length
  | _ => 0

/-- There is room and time for every named path, each of them can be read, and `git ls-files` lists the index
once. -/
structure Fits (allowedPaths : List String) : Prop where
  readable : ∀ path, capture.Names allowedPaths path → capture.IsReadable path
  few : (fingerprintCandidates capture.snapshot capture.resolve allowedPaths).length ≤ capture.caps.maxFiles
  small : ((fingerprintCandidates capture.snapshot capture.resolve allowedPaths).map capture.size).sum ≤
    capture.caps.maxBytes
  inTime : ∀ taken < (fingerprintCandidates capture.snapshot capture.resolve allowedPaths).length,
    capture.late taken = false
  listed : ∃ values, capture.snapshot.lsFiles = some values ∧
    ((values.filter (· ≠ "")).filter fun path => !isExcluded path).Nodup

end Capture

/-- Something shows at a path: it has changed and is named at one time at least, it is named at one time
only, or its status line is another. -/
def Shows (before after : Capture) (allowedPaths : List String) (path : String) : Prop :=
  before.snapshot.content path ≠ after.snapshot.content path ∧
      (before.Names allowedPaths path ∨ after.Names allowedPaths path) ∨
    ¬ (before.Names allowedPaths path ↔ after.Names allowedPaths path) ∨
    before.line path ≠ after.line path

/-- A path outside the scope and the excluded directories has another content. -/
def Mutated (ignored : String → Bool) (before after : Capture) (allowedPaths : List String)
    (path : String) : Prop :=
  ignored path = false ∧ pathAllowed path allowedPaths = false ∧ isExcluded path = false ∧
    before.snapshot.content path ≠ after.snapshot.content path

/-- The comparison calls for attention. -/
def Flagged (before after : Capture) (allowedPaths : List String) : Prop :=
  let report := compareWorkspaceBaseline (before.baseline allowedPaths)
    (after.baseline allowedPaths) allowedPaths
  report.unexpectedMutationDetected = true ∨ report.incomplete = true

section

variable {capture : Capture} {allowedPaths : List String} {path : String}

theorem contentFingerprints_eq (snapshot : Snapshot) (caps : Caps) (late : Nat → Bool)
    (taken totalBytes : Nat) (paths : List String) :
    ∃ count, contentFingerprints snapshot caps late taken totalBytes paths =
      (paths.take count).map fun path => (path, (look (snapshot.item? path)).fingerprint) := by
  induction paths generalizing taken totalBytes with
  | nil => exact ⟨0, rfl⟩
  | cons path rest ih =>
    unfold contentFingerprints
    split
    · exact ⟨0, rfl⟩
    dsimp only
    split
    · exact ⟨0, rfl⟩
    · obtain ⟨count, same⟩ := ih (taken + 1) (totalBytes + (look (snapshot.item? path)).counts)
      refine ⟨count + 1, ?_⟩
      rw [same]
      rfl

theorem lookup_map {α : Type} (value : String → α) (paths : List String) (path : String) :
    (paths.map fun path => (path, value path)).lookup path =
      if path ∈ paths then some (value path) else none := by
  induction paths with
  | nil => rfl
  | cons first rest ih =>
    rw [map_cons, lookup_cons]
    by_cases here : path = first
    · rw [here]
      simp only [beq_self_eq_true, mem_cons_self, if_true]
    · rw [beq_false_of_ne here, ih]
      simp only [mem_cons, here, false_or]

section

variable (complete : (capture.baseline allowedPaths).incomplete = false)

include complete

theorem fingerprints_of_complete : (capture.baseline allowedPaths).contentFingerprints =
      (fingerprintCandidates capture.snapshot capture.resolve allowedPaths).map
        fun path => (path, (look (capture.snapshot.item? path)).fingerprint) := by
  obtain ⟨count, same⟩ := contentFingerprints_eq capture.snapshot capture.caps capture.late 0 0
    (fingerprintCandidates capture.snapshot capture.resolve allowedPaths)
  unfold Capture.baseline captureWorkspaceBaseline at complete ⊢
  simp only [Bool.or_eq_false_iff, decide_eq_false_iff_not] at complete ⊢
  obtain ⟨⟨all, _⟩, _⟩ := complete
  rw [same, length_map, length_take] at all
  rw [same, take_of_length_le (by omega)]

theorem fingerprint?_of_complete : (capture.baseline allowedPaths).fingerprint? path =
      if capture.Names allowedPaths path then
        some (look (capture.snapshot.item? path)).fingerprint
      else none := by
  unfold WorkspaceBaseline.fingerprint?
  simp only [fingerprints_of_complete complete, lookup_map, capture.mem_candidates]

theorem readable_of_complete (named : capture.Names allowedPaths path) :
    (look (capture.snapshot.item? path)).fingerprint.error = none := by
  have all := fingerprints_of_complete complete
  unfold Capture.baseline captureWorkspaceBaseline at complete all
  simp only [Bool.or_eq_false_iff] at complete all
  rw [all] at complete
  have error := any_eq_false.mp complete.1.2 _ (mem_map.mpr ⟨path, capture.mem_candidates.mpr named, rfl⟩)
  simpa using error

end

theorem look_eq_iff {left right : Option Item} (leftRead : (look left).fingerprint.error = none)
    (rightRead : (look right).fingerprint.error = none) :
    (look left).fingerprint = (look right).fingerprint ↔
      left.map (·.content) = right.map (·.content) := by
  cases left with
  | none => cases leftRead
  | some left =>
  cases right with
  | none => cases rightRead
  | some right =>
  obtain ⟨_, left, leftReadable, _⟩ := left
  obtain ⟨_, right, rightReadable, _⟩ := right
  unfold look at leftRead rightRead ⊢
  cases left <;> cases right <;> cases leftReadable <;> cases rightReadable <;>
    simp [unreadable, textSha256] at leftRead rightRead ⊢ <;> rintro rfl <;> rfl

end

/-! ## Complete captures -/

section

variable {capture : Capture} {allowedPaths paths : List String} {path : String}

theorem readable_iff : (look (capture.snapshot.item? path)).fingerprint.error = none ↔
    capture.IsReadable path := by
  unfold Capture.IsReadable
  cases capture.snapshot.item? path with
  | none => simp [look, unreadable]
  | some item =>
    obtain ⟨_, content, readable, _⟩ := item
    cases content <;> cases readable <;> simp [look, unreadable]

theorem sizes_of_readable (readable : capture.IsReadable path) :
    (look (capture.snapshot.item? path)).fits = capture.size path ∧
      (look (capture.snapshot.item? path)).counts = capture.size path := by
  obtain ⟨item, found, ⟨⟨bytes, content⟩, opens⟩ | ⟨target, content⟩⟩ := readable
  · simp [Capture.size, Snapshot.content, found, look, content, opens]
  · simp [Capture.size, Snapshot.content, found, look, content]

/-- All of the paths are fingerprinted exactly when there is room and time for them. -/
theorem length_contentFingerprints {taken total : Nat}
    (readable : ∀ path ∈ paths, capture.IsReadable path) :
    paths.length ≤ (contentFingerprints capture.snapshot capture.caps capture.late taken total paths).length ↔
      paths = [] ∨ taken + paths.length ≤ capture.caps.maxFiles ∧
        total + (paths.map capture.size).sum ≤ capture.caps.maxBytes ∧
        ∀ count < paths.length, capture.late (taken + count) = false := by
  induction paths generalizing taken total with
  | nil => simp
  | cons path rest ih =>
    obtain ⟨fits, counts⟩ := sizes_of_readable (readable path mem_cons_self)
    have ih := @ih (taken + 1) (total + capture.size path) fun other member =>
      readable other (mem_cons_of_mem _ member)
    unfold contentFingerprints
    dsimp only
    rw [fits, counts]
    simp only [reduceCtorEq, false_or, length_cons, map_cons, sum_cons]
    have times : (∀ count < rest.length + 1, capture.late (taken + count) = false) ↔
        capture.late taken = false ∧ ∀ count < rest.length, capture.late (taken + 1 + count) = false := by
      rw [Nat.forall_lt_succ_left]
      simp only [Nat.add_zero, Nat.add_assoc, Nat.add_comm 1]
    rw [times]
    split
    · rename_i exceeds
      refine iff_of_false (Nat.not_succ_le_zero _) fun ⟨few, _, first, _⟩ => ?_
      rw [first] at exceeds
      simp only [Bool.false_eq_true, or_false] at exceeds
      omega
    rename_i room
    rw [not_or, Bool.not_eq_true] at room
    split
    · rename_i exceeds
      refine iff_of_false (Nat.not_succ_le_zero _) fun ⟨_, small, _⟩ => ?_
      omega
    rw [length_cons, Nat.add_le_add_iff_right, ih]
    constructor
    · rintro (rfl | ⟨few, small, inTime⟩)
      · simp only [length_nil, map_nil, sum_nil, Nat.not_lt_zero, false_imp_iff, implies_true]
        exact ⟨by omega, by omega, room.2, trivial⟩
      · exact ⟨by omega, by omega, room.2, inTime⟩
    · rintro ⟨few, small, _, inTime⟩
      exact .inr ⟨by omega, by omega, inTime⟩

theorem complete_iff : (capture.baseline allowedPaths).incomplete = false ↔ capture.Fits allowedPaths := by
  have tracked : (trackedFilePaths capture.snapshot).2 = true ↔
      ∃ values, capture.snapshot.lsFiles = some values ∧
        ((values.filter (· ≠ "")).filter fun path => !isExcluded path).Nodup := by
    unfold trackedFilePaths
    cases capture.snapshot.lsFiles with
    | none => simp
    | some values => simp [(perm_insertionSort _ _).nodup_iff]
  have unfolded : (capture.baseline allowedPaths).incomplete = false ↔
      ((fingerprintCandidates capture.snapshot capture.resolve allowedPaths).length ≤
          (capture.baseline allowedPaths).contentFingerprints.length ∧
        ∀ entry ∈ (capture.baseline allowedPaths).contentFingerprints, entry.2.error = none) ∧
        (trackedFilePaths capture.snapshot).2 = true := by
    unfold Capture.baseline captureWorkspaceBaseline
    simp [Option.isSome_eq_false_iff]
  have room (readable : ∀ path, capture.Names allowedPaths path → capture.IsReadable path) :=
    @length_contentFingerprints capture (fingerprintCandidates capture.snapshot capture.resolve allowedPaths)
      0 0 fun path member => readable path (capture.mem_candidates.mp member)
  constructor
  · intro complete
    have readable : ∀ path, capture.Names allowedPaths path → capture.IsReadable path :=
      fun path named => readable_iff.mp (readable_of_complete complete named)
    obtain ⟨⟨long, _⟩, listed⟩ := unfolded.mp complete
    rcases (room readable).mp long with none | ⟨few, small, inTime⟩
    · refine ⟨readable, ?_, ?_, ?_, tracked.mp listed⟩ <;> simp [none]
    · rw [Nat.zero_add] at few small
      simp only [Nat.zero_add] at inTime
      exact ⟨readable, few, small, inTime, tracked.mp listed⟩
  · intro fits
    have long := (room fits.readable).mpr (.inr ⟨by simpa using fits.few, by simpa using fits.small,
      by simpa using fits.inTime⟩)
    refine unfolded.mpr ⟨⟨long, ?_⟩, tracked.mpr fits.listed⟩
    intro entry member
    obtain ⟨count, same⟩ := contentFingerprints_eq capture.snapshot capture.caps capture.late 0 0
      (fingerprintCandidates capture.snapshot capture.resolve allowedPaths)
    unfold Capture.baseline captureWorkspaceBaseline at member
    dsimp only at member
    rw [same] at member
    obtain ⟨path, among, rfl⟩ := mem_map.mp member
    exact readable_iff.mpr (fits.readable path (capture.mem_candidates.mp (mem_of_mem_take among)))

end

/-! ## Comparisons -/

section

variable {before after : WorkspaceBaseline} {allowedPaths : List String} {path : String}

theorem mem_lined_of_status {baseline : WorkspaceBaseline} (found : baseline.status? path ≠ none) :
    path ∈ (baseline.trackedStatus.filter (strip · ≠ "")).map statusPath := by
  obtain ⟨line, found⟩ := Option.ne_none_iff_exists'.mp found
  have member := mem_of_find?_eq_some found
  have fits := find?_some found
  rw [decide_eq_true_eq] at fits
  exact mem_map.mpr ⟨line, mem_filter.mpr ⟨mem_reverse.mp member, decide_eq_true fits.1⟩, fits.2⟩

theorem mem_fingerprinted {baseline : WorkspaceBaseline}
    (found : baseline.fingerprint? path ≠ none) :
    path ∈ baseline.contentFingerprints.map (·.1) := by
  obtain ⟨fingerprint, found⟩ := Option.ne_none_iff_exists'.mp found
  obtain ⟨front, back, split, _⟩ := lookup_eq_some_iff.mp found
  rw [split]
  exact mem_map.mpr ⟨(path, fingerprint), mem_append_right _ mem_cons_self, rfl⟩

theorem mem_comparedPaths (changed : isChanged before after path = true) :
    path ∈ comparedPaths before after := by
  unfold isChanged at changed
  rw [Bool.or_eq_true, bne_iff_ne, bne_iff_ne] at changed
  unfold comparedPaths
  rw [mem_insertionSort, mem_dedup]
  simp only [mem_append]
  rcases changed with lines | contents
  · by_cases found : before.status? path = none
    · rw [found] at lines
      exact .inl (.inl (.inr (mem_lined_of_status (Ne.symm lines))))
    · exact .inl (.inl (.inl (mem_lined_of_status found)))
  · by_cases found : before.fingerprint? path = none
    · rw [found] at contents
      exact .inr (mem_fingerprinted (Ne.symm contents))
    · exact .inl (.inr (mem_fingerprinted found))

def scopeOf (before : WorkspaceBaseline) (allowedPaths : List String) : List String :=
  if allowedPaths = [] then before.allowedPaths else allowedPaths

theorem categorize_outside (outside : pathAllowed path (scopeOf before allowedPaths) = false) :
    (categorize before after allowedPaths path).isUnexpected = true := by
  unfold scopeOf at outside
  unfold categorize
  dsimp only
  rw [outside]
  split
  · rw [if_neg Bool.false_ne_true]
    split
    · rfl
    split <;> rfl
  · rfl

theorem categorize_inside (inside : pathAllowed path (scopeOf before allowedPaths) = true)
    (completeBefore : before.incomplete = false) (completeAfter : after.incomplete = false) :
    (categorize before after allowedPaths path).isUnexpected = false := by
  unfold scopeOf at inside
  unfold categorize
  dsimp only
  rw [inside, completeBefore, completeAfter]
  split
  · rfl
  · rw [if_neg (Bool.noConfusion : true = false → False)]
    split
    · rfl
    · rfl

theorem unexpected_iff (completeBefore : before.incomplete = false)
    (completeAfter : after.incomplete = false) :
    (compareWorkspaceBaseline before after allowedPaths).unexpectedMutationDetected = true ↔
      ∃ path, pathAllowed path (scopeOf before allowedPaths) = false ∧
        isChanged before after path = true := by
  unfold compareWorkspaceBaseline
  simp only [any_map, any_eq_true, mem_filter, Function.comp_apply]
  constructor
  · rintro ⟨path, ⟨_, changed⟩, unexpected⟩
    refine ⟨path, ?_, changed⟩
    rw [Bool.eq_false_iff]
    intro inside
    rw [categorize_inside inside completeBefore completeAfter] at unexpected
    cases unexpected
  · rintro ⟨path, outside, changed⟩
    exact ⟨path, ⟨mem_comparedPaths changed, changed⟩, categorize_outside outside⟩

end

section

variable {ignored : String → Bool} {before after : Capture} {allowedPaths : List String}
  {path : String}

theorem isChanged_iff (completeBefore : (before.baseline allowedPaths).incomplete = false)
    (completeAfter : (after.baseline allowedPaths).incomplete = false) :
    isChanged (before.baseline allowedPaths) (after.baseline allowedPaths) path = true ↔
      Shows before after allowedPaths path := by
  unfold isChanged Shows
  rw [Bool.or_eq_true, bne_iff_ne, bne_iff_ne, fingerprint?_of_complete completeBefore,
    fingerprint?_of_complete completeAfter, or_comm, ← or_assoc]
  refine or_congr ?_ Iff.rfl
  by_cases first : before.Names allowedPaths path
  · by_cases second : after.Names allowedPaths path
    · have read := look_eq_iff (readable_of_complete completeBefore first)
        (readable_of_complete completeAfter second)
      simp only [first, second, if_true, ne_eq, Option.some.injEq, read, not_true, or_false, or_self,
        and_true, iff_self]
      rfl
    · simp [first, second]
  · by_cases second : after.Names allowedPaths path
    · simp [first, second]
    · simp [first, second]

theorem scopeOf_baseline : scopeOf (before.baseline allowedPaths) allowedPaths = allowedPaths := by
  unfold scopeOf
  split
  · rfl
  · rfl

theorem flagged_iff : Flagged before after allowedPaths ↔
    ¬ before.Fits allowedPaths ∨ ¬ after.Fits allowedPaths ∨
      ∃ path, pathAllowed path allowedPaths = false ∧ Shows before after allowedPaths path := by
  rw [← complete_iff, ← complete_iff, Bool.not_eq_false, Bool.not_eq_false]
  have incomplete : (compareWorkspaceBaseline (before.baseline allowedPaths)
      (after.baseline allowedPaths) allowedPaths).incomplete =
        ((before.baseline allowedPaths).incomplete || (after.baseline allowedPaths).incomplete) :=
    rfl
  unfold Flagged
  dsimp only
  rw [incomplete]
  cases first : (before.baseline allowedPaths).incomplete with
  | true => simp only [Bool.true_or, or_true, true_or]
  | false =>
  cases second : (after.baseline allowedPaths).incomplete with
  | true => simp only [Bool.or_true, or_true, true_or]
  | false =>
    rw [unexpected_iff first second, scopeOf_baseline]
    simp only [Bool.or_self, Bool.false_eq_true, or_false, false_or, isChanged_iff first second]

end

/-- The committed, the staged and the working version of a path agree. -/
def Snapshot.IsClean (snapshot : Snapshot) (path : String) : Prop :=
  snapshot.committed.lookup path = snapshot.index.lookup path ∧
    snapshot.index.lookup path = snapshot.content path

/-- An entry of `git status --porcelain`. -/
inductive StatusEntry where
  | single (code path : String)
  | renamed (code old new : String)

namespace StatusEntry

def paths : StatusEntry → List String
  | single _ path => [path]
  | renamed _ old new => [old, new]

/-- The line of an entry; `shown` is how git prints a name. -/
def line (shown : String → String) : StatusEntry → String
  | single code path => code ++ " " ++ shown path
  | renamed code old new => code ++ " " ++ shown old ++ " -> " ++ shown new

end StatusEntry

/-- `git status` lists the paths that are not ignored and not clean, and `git ls-files` the index. -/
structure Listed (shown : String → String) (ignored : String → Bool) (snapshot : Snapshot) :
    Prop where
  status : ∃ entries : List StatusEntry, snapshot.status = some (entries.map (·.line shown)) ∧
    ∀ path, ignored path = false →
      ((∃ entry ∈ entries, path ∈ entry.paths) ↔ ¬ snapshot.IsClean path)
  lsFiles : snapshot.lsFiles = some (snapshot.index.map (·.1))

/-- The path stands in a status line that is not read as the path, such as the old name of a rename. -/
def Misread (shown : String → String) (snapshot : Snapshot) (path : String) : Prop :=
  ∃ entry : StatusEntry, path ∈ entry.paths ∧ entry.line shown ∈ snapshot.status.getD [] ∧
    (strip (entry.line shown) = "" ∨ statusPath (entry.line shown) ≠ path)

section

variable {shown : String → String} {ignored : String → Bool} {before after capture : Capture}
  {allowedPaths : List String} {path : String}

theorem clean_or_misread (listed : Listed shown ignored capture.snapshot) (plain : ignored path = false)
    (included : isExcluded path = false) (unnamed : ¬ capture.Names allowedPaths path) :
    capture.snapshot.IsClean path ∨ Misread shown capture.snapshot path := by
  by_cases clean : capture.snapshot.IsClean path
  · exact .inl clean
  obtain ⟨entries, status, lists⟩ := listed.status
  obtain ⟨entry, member, inside⟩ := (lists path plain).mpr clean
  have line : entry.line shown ∈ capture.snapshot.status.getD [] := by
    rw [status]
    exact mem_map_of_mem member
  refine .inr ⟨entry, inside, line, ?_⟩
  by_contra read
  rw [not_or, not_not] at read
  exact unnamed ⟨included, .inl ⟨_, line, read⟩⟩

def Reports (ignored : String → Bool) (before after : Capture) (allowedPaths : List String) : Prop :=
  ∀ path, Mutated ignored before after allowedPaths path → Flagged before after allowedPaths

/-- With git as it is, mutations outside the scope are reported exactly when there are none, a capture does
not fit, or something shows outside the scope; and one that is not reported is at both times clean or in a
line that is read as another path. -/
theorem reports_iff (allowedPaths : List String) (listedBefore : Listed shown ignored before.snapshot)
    (listedAfter : Listed shown ignored after.snapshot) :
    (Reports ignored before after allowedPaths ↔
      (∀ path, ¬ Mutated ignored before after allowedPaths path) ∨
        ¬ before.Fits allowedPaths ∨ ¬ after.Fits allowedPaths ∨
        ∃ path, pathAllowed path allowedPaths = false ∧ Shows before after allowedPaths path) ∧
      ∀ path, Mutated ignored before after allowedPaths path → ¬ Flagged before after allowedPaths →
        ∀ capture ∈ [before, after],
          capture.snapshot.IsClean path ∨ Misread shown capture.snapshot path := by
  constructor
  · rw [← flagged_iff, ← forall_or_right]
    exact forall_congr' fun path => imp_iff_not_or
  · intro path ⟨plain, outside, included, changed⟩ silent
    have unnamed : ¬ (before.Names allowedPaths path ∨ after.Names allowedPaths path) := fun named =>
      silent (flagged_iff.mpr (.inr (.inr ⟨path, outside, .inl ⟨changed, named⟩⟩)))
    rw [not_or] at unnamed
    simp only [forall_mem_cons, not_mem_nil, false_imp_iff, implies_true, and_true]
    exact ⟨clean_or_misread listedBefore plain included unnamed.1,
      clean_or_misread listedAfter plain included unnamed.2⟩

end

variable (name : String)

/-- A repository with one file, `docs/a`, before and after it is staged as `src/a`. -/
def sampleSnapshot (lines : List String) : Snapshot where
  committed := [("docs/a", .regular "x")]
  index := [(name, .regular "x")]
  items := [⟨name, .regular "x", true, false⟩]
  status := some lines
  lsFiles := some [name]

def sampleCapture (lines : List String) : Capture where
  snapshot := sampleSnapshot name lines
  resolve path := some [path]
  caps := ⟨10, 1000⟩
  late _ := false

theorem lookup_singleton' (path : String) (content : Content) :
    [(name, content)].lookup path = if path = name then some content else none := by
  rw [lookup_cons]
  by_cases same : path = name
  · rw [if_pos same, beq_iff_eq.mpr same]
  · rw [if_neg same, beq_false_of_ne same]
    rfl

theorem sampleSnapshot_content (path : String) (lines : List String) :
    (sampleSnapshot name lines).content path = if path = name then some (.regular "x") else none := by
  unfold Snapshot.content Snapshot.item? sampleSnapshot
  rw [find?_cons]
  by_cases same : path = name
  · rw [if_pos same, decide_eq_true same.symm]
    rfl
  · rw [if_neg same, decide_eq_false (Ne.symm same)]
    rfl

theorem listed_before : Listed id (fun _ => false) (sampleSnapshot "docs/a" []) := by
  refine ⟨⟨[], rfl, ?_⟩, rfl⟩
  intro path _
  have clean : (sampleSnapshot "docs/a" []).IsClean path := by
    refine ⟨rfl, ?_⟩
    rw [sampleSnapshot_content]
    exact lookup_singleton' "docs/a" path (.regular "x")
  simp [clean]

theorem listed_after : Listed id (fun _ => false) (sampleSnapshot "src/a" ["R  docs/a -> src/a"]) := by
  refine ⟨⟨[.renamed "R " "docs/a" "src/a"], by decide, ?_⟩, rfl⟩
  intro path _
  unfold Snapshot.IsClean
  rw [sampleSnapshot_content]
  simp only [sampleSnapshot, lookup_singleton', exists_eq_left, StatusEntry.paths,
    mem_cons, not_mem_nil, or_false]
  by_cases old : path = "docs/a"
  · simp [old]
  · by_cases new : path = "src/a"
    · simp [new]
    · simp [old, new]

theorem moved_out : Mutated (fun _ => false) (sampleCapture "docs/a" [])
    (sampleCapture "src/a" ["R  docs/a -> src/a"]) ["src"] "docs/a" :=
  ⟨rfl, by decide, by decide, by decide⟩

theorem silent_move : ¬ Flagged (sampleCapture "docs/a" [])
    (sampleCapture "src/a" ["R  docs/a -> src/a"]) ["src"] := by
  unfold Flagged
  decide

/-- A file that is moved into the scope is not missed where it was. -/
theorem rename_unreported :
    ¬ ∀ (shown : String → String) (ignored : String → Bool) (before after : Capture)
        (allowedPaths : List String),
      Listed shown ignored before.snapshot → Listed shown ignored after.snapshot →
        Reports ignored before after allowedPaths :=
  fun claimed => silent_move (claimed id _ _ _ ["src"] listed_before listed_after "docs/a" moved_out)

/-- The old name was clean before the move, and is read as the new one after it. -/
theorem reports_iff_sample :
    ((sampleSnapshot "docs/a" []).IsClean "docs/a" ∨ Misread id (sampleSnapshot "docs/a" []) "docs/a") ∧
      ((sampleSnapshot "src/a" ["R  docs/a -> src/a"]).IsClean "docs/a" ∨
        Misread id (sampleSnapshot "src/a" ["R  docs/a -> src/a"]) "docs/a") := by
  have seen := (reports_iff ["src"] listed_before listed_after).2 "docs/a" moved_out silent_move
  exact ⟨seen _ mem_cons_self, seen _ (mem_cons_of_mem _ mem_cons_self)⟩

end WorkOrchestration.Workspace.Baseline
