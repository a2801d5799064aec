import Mathlib.Data.List.Sort
import WorkOrchestration.Native.PoolContracts

/-!
# Workspace baselines

What git reports about a repository, the fingerprints of the files that it names and of those below
the allowed paths, and the comparison of two such captures.
-/

namespace WorkOrchestration.Workspace.Baseline

open Lib.Text Native.Artifacts Native.PoolContracts

/-- What stands at a path; file contents have one character for each byte. -/
inductive Content where
  | regular (bytes : String)
  | symlink (target : String)
  | special
  deriving DecidableEq

/-- An entry of the working tree. -/
structure Item where
  path : String
  content : Content
  /-- The file can be opened. -/
  readable : Bool
  /-- A symbolic link leads to a file or a directory. -/
  resolves : Bool

/-- A repository at one time. -/
structure Snapshot where
  committed : List (String × Content)
  index : List (String × Content)
  items : List Item
  /-- The lines of `git status --porcelain`, unless it fails. -/
  status : Option (List String)
  /-- What `git ls-files` lists, unless it fails or is no UTF-8. -/
  lsFiles : Option (List String)

variable (snapshot : Snapshot) (before : WorkspaceBaseline) (path : String)
  (after : WorkspaceBaseline)

def Snapshot.item? : Option Item := snapshot.items.find? (·.path = path)

def Snapshot.content : Option Content := (snapshot.item? path).map (·.content)

def FINGERPRINT_EXCLUDED_PARTS : List String :=
  [".git", ".beads", ".orchestration-audit", "__pycache__", ".ruff_cache", ".pytest_cache",
    ".mypy_cache"]

/-- `any(part in FINGERPRINT_EXCLUDED_PARTS for part in Path(path).parts)`. -/
def isExcluded : Bool := (posixParts path).any (FINGERPRINT_EXCLUDED_PARTS.contains ·)

/-- What follows the first occurrence of a separator. -/
def afterFirst (separator : List Char) : List Char → Option (List Char)
  | [] => none
  | text@(_ :: rest) =>
    if separator.isPrefixOf text then some (text.drop separator.length)
    else afterFirst separator rest

/-- `path.strip('"')`. -/
def stripQuotes (path : List Char) : List Char :=
  (((path.dropWhile (· == '"')).reverse.dropWhile (· == '"'))).reverse

def statusPath (line : String) : String :=
  let path := if 3 < line.toList.length then line.toList.drop 3 else line.toList
  let path := (afterFirst " -> ".toList path).getD path
  String.ofList (stripQuotes (strip (String.ofList path)).toList)

/-- `tracked_status_map(lines).get(path)`: the last line wins. -/
def statusOf (lines : List String) (path : String) : Option String :=
  lines.reverse.find? fun line => strip line ≠ "" ∧ statusPath line = path

/-- `value.strip().lstrip("./")`. -/
def withoutDots : List Char :=
  (strip path).toList.dropWhile fun character => character == '.' || character == '/'

def pathAllowed (allowedPaths : List String) : Bool :=
  allowedPaths.any fun raw =>
    let allowed := ((withoutDots raw).reverse.dropWhile (· == '/')).reverse
    allowed ≠ [] &&
      (withoutDots path == allowed || (allowed ++ ['/']).isPrefixOf (withoutDots path))

structure Fingerprint where
  kind : Option String
  sha256 : Option Digest
  size : Option Nat
  error : Option String
  deriving DecidableEq

/-- What is found at a path: its fingerprint, the bytes that have to fit, and those that count. -/
structure Look where
  fingerprint : Fingerprint
  fits : Nat
  counts : Nat

def unreadable : Fingerprint := ⟨none, none, none, some "unreadable"⟩

def look : Option Item → Look
  | none => ⟨unreadable, 0, 0⟩
  | some item =>
    match item.content with
    | .symlink target =>
      ⟨⟨some "symlink", some (textSha256 target), some target.length, none⟩, target.length,
        target.length⟩
    | .special => ⟨⟨none, none, none, some "unsupported-file-type"⟩, 0, 0⟩
    | .regular bytes =>
      if item.readable then
        ⟨⟨none, some (textSha256 bytes), some bytes.length, none⟩, bytes.length, bytes.length⟩
      else ⟨unreadable, bytes.length, 0⟩

structure Caps where
  maxFiles : Nat
  maxBytes : Nat

/-- `_content_fingerprints` of sorted candidates, after some have been taken; `late` tells when the
time is over. -/
def contentFingerprints (snapshot : Snapshot) (caps : Caps) (late : Nat → Bool)
    (taken totalBytes : Nat) : List String → List (String × Fingerprint)
  | [] => []
  | path :: rest =>
    if caps.maxFiles ≤ taken ∨ late taken = true then []
    else
      let found := look (snapshot.item? path)
      if caps.maxBytes < totalBytes + found.fits then []
      else (path, found.fingerprint) ::
        contentFingerprints snapshot caps late (taken + 1) (totalBytes + found.counts) rest

/-- The files that walking the allowed paths lists; `resolve` gives the parts of an allowed path below
the root. -/
def walked (resolve : String → Option (List String)) (allowedPaths : List String) : List String :=
  let bases := allowedPaths.filterMap resolve
  (snapshot.items.filter fun item =>
    (match item.content with
      | .regular _ => true
      | .symlink _ => item.resolves
      | .special => false) &&
    !isExcluded item.path && bases.any (·.isPrefixOf (posixParts item.path))).map (·.path)

/-- The lines that `capture_tracked_workspace_state` keeps. -/
def statusLines : List String :=
  ((snapshot.status.getD []).filter (strip · ≠ "")).insertionSort (· ≤ ·)

def fingerprintCandidates (resolve : String → Option (List String))
    (allowedPaths : List String) : List String :=
  let named := ((statusLines snapshot).map statusPath).filter fun path => !isExcluded path
  (named ++ walked snapshot resolve allowedPaths).dedup.insertionSort (· ≤ ·)

/-- `capture_workspace_baseline`. -/
structure WorkspaceBaseline where
  allowedPaths : List String
  trackedStatus : List String
  trackedPaths : List String
  trackedPathsComplete : Bool
  preexistingDirtyPaths : List String
  contentFingerprints : List (String × Fingerprint)
  incomplete : Bool

/-- `bool(line[:2].strip())`. -/
def isDirtyLine (line : String) : Bool := (line.toList.take 2).any fun character => !isSpace character

def trackedFilePaths : List String × Bool :=
  match snapshot.lsFiles with
  | none => ([], false)
  | some values =>
    let filtered := ((values.filter (· ≠ "")).filter fun path => !isExcluded path).insertionSort
      (· ≤ ·)
    (filtered, decide filtered.Nodup)

def captureWorkspaceBaseline (resolve : String → Option (List String))
    (allowedPaths : List String) (caps : Caps) (late : Nat → Bool) : WorkspaceBaseline :=
  let lines := statusLines snapshot
  let candidates := fingerprintCandidates snapshot resolve allowedPaths
  let tracked := trackedFilePaths snapshot
  let fingerprints := contentFingerprints snapshot caps late 0 0 candidates
  { allowedPaths
    trackedStatus := lines
    trackedPaths := tracked.1
    trackedPathsComplete := tracked.2
    preexistingDirtyPaths := ((lines.filter isDirtyLine).map statusPath).insertionSort (· ≤ ·)
    contentFingerprints := fingerprints
    incomplete := decide (fingerprints.length < candidates.length) ||
      fingerprints.any (fun entry => entry.2.error.isSome) || !tracked.2 }

inductive Category where
  | scoped
  | outOfScope
  | untracked
  | unchangedDirty
  | attributionAmbiguous
  deriving DecidableEq

structure Mutation where
  path : String
  category : Category
  beforeStatus : Option String
  afterStatus : Option String
  contentChanged : Bool

structure MutationReport where
  mutations : List Mutation
  unchangedDirty : List String
  mutationDetected : Bool
  unexpectedMutationDetected : Bool
  attributionAmbiguous : Bool
  incomplete : Bool

namespace WorkspaceBaseline

def fingerprint? (baseline : WorkspaceBaseline) (path : String) : Option Fingerprint :=
  baseline.contentFingerprints.lookup path

def status? (baseline : WorkspaceBaseline) (path : String) : Option String :=
  statusOf baseline.trackedStatus path

end WorkspaceBaseline

def baselineDirty : Bool :=
  before.preexistingDirtyPaths.contains path || ((before.status? path).any isDirtyLine)

def categorize (allowedPaths : List String) (path : String) :
    Category :=
  let scope := if allowedPaths = [] then before.allowedPaths else allowedPaths
  let inScope := pathAllowed path scope
  let contentChanged := before.fingerprint? path ≠ after.fingerprint? path
  if (before.fingerprint? path).isNone ∧ (after.fingerprint? path).isSome then
    if inScope then .scoped
    else if path ∈ before.trackedPaths then .outOfScope
    else if before.trackedPathsComplete then .untracked
    else .attributionAmbiguous
  else if inScope = false then .outOfScope
  else if baselineDirty before path ∧ ¬ contentChanged then .unchangedDirty
  else if before.incomplete ∨ after.incomplete then .attributionAmbiguous
  else .scoped

def isChanged (path : String) : Bool :=
  before.status? path != after.status? path || before.fingerprint? path != after.fingerprint? path

/-- The paths that either capture names. -/
def comparedPaths : List String :=
  let lined (baseline : WorkspaceBaseline) :=
    (baseline.trackedStatus.filter (strip · ≠ "")).map statusPath
  (lined before ++ lined after ++ before.contentFingerprints.map (·.1) ++
    after.contentFingerprints.map (·.1)).dedup.insertionSort (· ≤ ·)

def Category.isUnexpected (category : Category) : Bool :=
  [Category.outOfScope, .untracked, .attributionAmbiguous].contains category

def compareWorkspaceBaseline (allowedPaths : List String) :
    MutationReport :=
  let paths := comparedPaths before after
  let mutations := (paths.filter (isChanged before after)).map fun path =>
    { path
      category := categorize before after allowedPaths path
      beforeStatus := before.status? path
      afterStatus := after.status? path
      contentChanged := before.fingerprint? path != after.fingerprint? path : Mutation }
  { mutations
    unchangedDirty := paths.filter fun path =>
      !isChanged before after path && baselineDirty before path
    mutationDetected := !mutations.isEmpty
    unexpectedMutationDetected := mutations.any (·.category.isUnexpected)
    attributionAmbiguous := mutations.any (·.category == .attributionAmbiguous)
    incomplete := before.incomplete || after.incomplete }

end WorkOrchestration.Workspace.Baseline
