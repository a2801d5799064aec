import Mathlib.Data.List.Dedup
import Mathlib.Data.List.Sort
import WorkOrchestration.Native.Authority

/-!
# Stop scope and continuation

How far a stop reaches, under whose authority, and which ways of going on it
leaves open.  Merging keeps the widest authorised scope.
-/

namespace WorkOrchestration.Native.StopScope

open List Lib.Checks Lib.Text Artifacts Authority

/-- `CONTINUATION_PATHS`. -/
inductive Continuation where
  | retryChild
  | replaceChild
  | continueCohort
  | retryCohort
  | alternateExecutionPath
  | resumeTask
  | taskRemediation
  | publicationReview
  | operatorAdjudication
  deriving DecidableEq

def Continuation.text : Continuation → String
  | retryChild => "retry-child"
  | replaceChild => "replace-child"
  | continueCohort => "continue-cohort"
  | retryCohort => "retry-cohort"
  | alternateExecutionPath => "alternate-execution-path"
  | resumeTask => "resume-task"
  | taskRemediation => "task-remediation"
  | publicationReview => "publication-review"
  | operatorAdjudication => "operator-adjudication"

/-- `CONTINUATION_PATH_FIELDS`. -/
structure ContinuationPath where
  path : Continuation
  targetId : Option Name
  conditions : List Name
  deriving DecidableEq

namespace ContinuationPath

def json (entry : ContinuationPath) : Json :=
  .obj [("path", .str entry.path.text),
      ("target_id", .optional (fun target => .str target.text) entry.targetId),
      ("conditions", .strings (entry.conditions.map Name.text))]

/-- `canonical_scope_sha256` of a path, by which paths are sorted. -/
def key (entry : ContinuationPath) : List Char := (canonicalSha256 entry.json).key

/-- `sorted(set(conditions)) == conditions`. -/
def Canonical (entry : ContinuationPath) : Prop := entry.conditions.Pairwise (·.text < ·.text)

instance (entry : ContinuationPath) : Decidable entry.Canonical :=
  inferInstanceAs (Decidable (List.Pairwise _ _))

end ContinuationPath

variable (paths : List ContinuationPath)

/-- Paths ordered by their digests. -/
abbrev SortedByKey : Prop := paths.Pairwise (·.key ≤ ·.key)

/-- `paths.sort(key=canonical_scope_sha256)`. -/
def sortByKey : List ContinuationPath := paths.insertionSort (·.key ≤ ·.key)

instance : Std.Total (fun left right : ContinuationPath => left.key ≤ right.key) :=
  ⟨fun left right => le_total left.key right.key⟩

instance : IsTrans ContinuationPath (fun left right => left.key ≤ right.key) :=
  ⟨fun _ _ _ first second => le_trans first second⟩

theorem sortedByKey_sortByKey : SortedByKey (sortByKey paths) := pairwise_insertionSort _ paths

theorem sortByKey_perm : (sortByKey paths).Perm paths := perm_insertionSort _ paths

def validateContinuationPaths : List String :=
  forEach paths (fun index entry =>
    reject (¬ entry.Canonical) s!"continuation-path[{index}]-not-canonical") ++
  reject (¬ SortedByKey paths) "authorized-continuation-paths-not-canonical" ++
  reject (¬ paths.Nodup) "authorized-continuation-paths-duplicate"

theorem validateContinuationPaths_eq_nil {paths : List ContinuationPath} :
    validateContinuationPaths paths = [] ↔
      (∀ entry ∈ paths, entry.Canonical) ∧ SortedByKey paths ∧ paths.Nodup := by
  simp only [validateContinuationPaths, append_eq_nil_iff, forEach_eq_nil, reject_eq_nil,
    Decidable.not_not, and_assoc]
  refine and_congr_left fun _ => ⟨fun each entry member => ?_, fun each _ entry found => ?_⟩
  · obtain ⟨index, found⟩ := mem_iff_getElem?.mp member
    exact each index entry found
  · exact each entry (mem_of_getElem? found)

theorem validateContinuationPaths_sortByKey {paths : List ContinuationPath}
    (canonical : ∀ entry ∈ paths, entry.Canonical) (distinct : paths.Nodup) :
    validateContinuationPaths (sortByKey paths) = [] := by
  rw [validateContinuationPaths_eq_nil]
  have same := sortByKey_perm paths
  exact ⟨fun entry member => canonical entry (same.mem_iff.mp member),
    sortedByKey_sortByKey paths, same.nodup_iff.mpr distinct⟩

/-- `STOP_METADATA_FIELDS`. -/
structure StopMetadata where
  stopScope : Scope
  authorizedContinuationPaths : List ContinuationPath
  scopeAuthority : Provenance
  deriving DecidableEq

def StopMetadata.fields (stop : StopMetadata) : List (String × Json) :=
  [("stop_scope", .str stop.stopScope.text),
    ("authorized_continuation_paths",
      .arr (stop.authorizedContinuationPaths.map ContinuationPath.json)),
    ("scope_authority", stop.scopeAuthority.json)]

def validateStopMetadata (stop : StopMetadata) : List String :=
  (validateAuthorityProvenance stop.scopeAuthority).map
    (fun error => error.replace "authority-provenance" "scope-authority") ++
  validateContinuationPaths stop.authorizedContinuationPaths ++
  reject (stop.scopeAuthority.authorizedScope.rank < stop.stopScope.rank)
    "stop-scope-exceeds-authority"

theorem validateStopMetadata_eq_nil {stop : StopMetadata} : validateStopMetadata stop = [] ↔
      validateAuthorityProvenance stop.scopeAuthority = [] ∧
        validateContinuationPaths stop.authorizedContinuationPaths = [] ∧
        stop.stopScope.rank ≤ stop.scopeAuthority.authorizedScope.rank := by
  simp only [validateStopMetadata, append_eq_nil_iff, map_eq_nil_iff, reject_eq_nil,
    not_lt, and_assoc]

structure VerifiedStop where
  metadata : StopMetadata
  valid : validateStopMetadata metadata = []

/-- Continuation paths a stop may be built from: canonical and pairwise different. -/
structure PathSet where
  paths : List ContinuationPath
  canonical : ∀ entry ∈ paths, entry.Canonical
  distinct : paths.Nodup

def buildStopMetadata (requested : Scope) (authority : VerifiedAuthority) (paths : PathSet) :
    VerifiedStop where
  metadata :=
    { stopScope := Scope.narrower requested authority.authorizedScope
      authorizedContinuationPaths := sortByKey paths.paths
      scopeAuthority := authority.payload }
  valid := validateStopMetadata_eq_nil.mpr
    ⟨authority.verified, validateContinuationPaths_sortByKey paths.canonical paths.distinct,
      Scope.rank_narrower_le_right requested authority.authorizedScope⟩

/-- The authority with the smaller digest, by which equally wide stops are ordered. -/
def selectAuthority (first second : StopMetadata) : Provenance :=
  if (canonicalSha256 first.scopeAuthority.json).key ≤
      (canonicalSha256 second.scopeAuthority.json).key then
    first.scopeAuthority
  else second.scopeAuthority

theorem selectAuthority_eq (first second : StopMetadata) :
    selectAuthority first second = first.scopeAuthority ∨
      selectAuthority first second = second.scopeAuthority := by
  unfold selectAuthority
  split
  · exact .inl rfl
  · exact .inr rfl

def mergePaths (first second : List ContinuationPath) : List ContinuationPath :=
  sortByKey (first ++ second).dedup

/-- `merge_stop_metadata(first, second)` before its result is checked. -/
def mergeMetadata (first second : StopMetadata) : StopMetadata :=
  if second.stopScope.rank < first.stopScope.rank then
    { first with authorizedContinuationPaths := mergePaths first.authorizedContinuationPaths [] }
  else if first.stopScope.rank < second.stopScope.rank then
    { second with authorizedContinuationPaths := mergePaths second.authorizedContinuationPaths [] }
  else
    { stopScope := first.stopScope
      authorizedContinuationPaths :=
        mergePaths first.authorizedContinuationPaths second.authorizedContinuationPaths
      scopeAuthority := selectAuthority first second }

theorem validateContinuationPaths_mergePaths {first second : List ContinuationPath}
    (firstValid : validateContinuationPaths first = [])
    (secondValid : validateContinuationPaths second = []) :
    validateContinuationPaths (mergePaths first second) = [] := by
  obtain ⟨firstCanonical, _⟩ := validateContinuationPaths_eq_nil.mp firstValid
  obtain ⟨secondCanonical, _⟩ := validateContinuationPaths_eq_nil.mp secondValid
  refine validateContinuationPaths_sortByKey ?_ (nodup_dedup _)
  intro entry member
  rcases mem_append.mp (mem_dedup.mp member) with left | right
  · exact firstCanonical entry left
  · exact secondCanonical entry right

theorem validateStopMetadata_mergeMetadata {first second : StopMetadata}
    (firstValid : validateStopMetadata first = []) (secondValid : validateStopMetadata second = []) :
    validateStopMetadata (mergeMetadata first second) = [] := by
  obtain ⟨firstAuthority, firstPaths, firstScope⟩ := validateStopMetadata_eq_nil.mp firstValid
  obtain ⟨secondAuthority, secondPaths, secondScope⟩ := validateStopMetadata_eq_nil.mp secondValid
  have none : validateContinuationPaths [] = [] := by decide
  rw [validateStopMetadata_eq_nil]
  unfold mergeMetadata
  split_ifs with firstWins secondWins
  · exact ⟨firstAuthority, validateContinuationPaths_mergePaths firstPaths none, firstScope⟩
  · exact ⟨secondAuthority, validateContinuationPaths_mergePaths secondPaths none, secondScope⟩
  · have level : first.stopScope.rank = second.stopScope.rank := by omega
    refine ⟨?_, validateContinuationPaths_mergePaths firstPaths secondPaths, ?_⟩
    · rcases selectAuthority_eq first second with chosen | chosen
      · simpa only [chosen] using firstAuthority
      · simpa only [chosen] using secondAuthority
    · rcases selectAuthority_eq first second with chosen | chosen
      · simpa only [chosen] using firstScope
      · simpa only [chosen, level] using secondScope

def mergeStopMetadata (first second : VerifiedStop) : VerifiedStop where
  metadata := mergeMetadata first.metadata second.metadata
  valid := validateStopMetadata_mergeMetadata first.valid second.valid

end WorkOrchestration.Native.StopScope
