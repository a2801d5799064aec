import Mathlib.Data.List.Lex
import Mathlib.Data.Prod.Lex
import WorkOrchestration.Lib.Combinations
import WorkOrchestration.Native.OperatorApprovals
import WorkOrchestration.Native.PoolContracts

/-!
# Ready candidates

The issues that could be worked on at the same time, the conflicts between two of
them, and the enumeration of the sets that are free of conflicts.
-/

namespace WorkOrchestration.Native.ReadyCandidates

open Lib.Checks Lib.Combinations Lib.Sorting Artifacts
open OperatorApprovals (dashed sortedTexts)
open PoolContracts (posixParts)

/-- `POOL_BUDGET_FIELDS`. -/
inductive PoolBudgetField where
  | toolCalls
  | runtimeSeconds
  | compactions
  | fullSuiteRuns
  | mutations
  deriving DecidableEq

namespace PoolBudgetField

def text : PoolBudgetField → String
  | toolCalls => "tool_calls"
  | runtimeSeconds => "runtime_seconds"
  | compactions => "compactions"
  | fullSuiteRuns => "full_suite_runs"
  | mutations => "mutations"

def fields : List PoolBudgetField :=
  [toolCalls, runtimeSeconds, compactions, fullSuiteRuns, mutations]

theorem mem_fields (field : PoolBudgetField) : field ∈ fields := by
  cases field <;> decide

end PoolBudgetField

/-- A budget as `_budget` returns it. -/
structure PoolBudget where
  toolCalls : Nat
  runtimeSeconds : Nat
  compactions : Nat
  fullSuiteRuns : Nat
  mutations : Nat
  deriving DecidableEq

namespace PoolBudget

def amount (budget : PoolBudget) : PoolBudgetField → Nat
  | .toolCalls => budget.toolCalls
  | .runtimeSeconds => budget.runtimeSeconds
  | .compactions => budget.compactions
  | .fullSuiteRuns => budget.fullSuiteRuns
  | .mutations => budget.mutations

/-- `dict(sorted(budget.items()))`. -/
def json (budget : PoolBudget) : Json :=
  .obj [("compactions", .nat budget.compactions), ("full_suite_runs", .nat budget.fullSuiteRuns),
    ("mutations", .nat budget.mutations), ("runtime_seconds", .nat budget.runtimeSeconds),
    ("tool_calls", .nat budget.toolCalls)]

end PoolBudget

structure ReadyCandidate where
  issueId : String
  rank : Int
  workEstimateSha256 : Digest
  workerCommitmentSha256 : Digest
  admissionMetadataSha256 : Digest
  readPaths : List String
  writePaths : List String
  integrationTargetPaths : List String
  protectedDomains : List String
  topology : String
  isolationClass : String
  architectureAuthority : String
  executionAuthority : String
  shareBoundary : String
  requestedModel : String
  requiredTools : List String
  toolSurfaceId : String
  toolPolicySha256 : Digest
  toolSurfaceSha256 : Digest
  capabilityReceiptSha256 : Digest
  capabilityAssessedAt : String
  leaseScopeSha256 : Digest
  integrationRootIdentitySha256 : Digest
  workspaceScopeSha256 : Digest
  authorityApprovalAuditSha256 : Option Digest
  hardBudget : PoolBudget
  aggregateHardBudget : PoolBudget
  deriving DecidableEq

namespace ReadyCandidate

/-- `[*write_paths, *integration_target_paths]`. -/
def mutablePaths (candidate : ReadyCandidate) : List String :=
  candidate.writePaths ++ candidate.integrationTargetPaths

def ranking (candidate : ReadyCandidate) : Int ×ₗ String :=
  toLex (candidate.rank, candidate.issueId)

end ReadyCandidate

def pathOverlap (left right : String) : Bool :=
  let leftParts := posixParts left
  let rightParts := posixParts right
  let common := min leftParts.length rightParts.length
  leftParts.take common == rightParts.take common

def scopeOverlap (left right : List String) : List String :=
  sortedTexts (left.flatMap fun leftPath =>
    (right.filter (pathOverlap leftPath)).map fun rightPath => leftPath ++ "<->" ++ rightPath)

structure Conflict where
  code : String
  issueIds : List String
  evidence : List String

/-- `sorted([left, right])`. -/
def sortedPair (left right : String) : List String := sortByKey id [left, right]

/-- The conflict that evidence shows, if there is any. -/
def conflictOf (code : String) (issueIds evidence : List String) : List Conflict :=
  if evidence.isEmpty then [] else [⟨code, issueIds, evidence⟩]

/-- The conflict of a property in which two candidates have to agree. -/
def disagreement (code : String) (issueIds : List String) (left right : String) : List Conflict :=
  if left = right then [] else [⟨code, issueIds, sortedPair left right⟩]

section

variable (left right : ReadyCandidate)

variable (issueIds : List String)

def pathConflicts : List Conflict :=
  conflictOf "mutable-path-conflict" issueIds (scopeOverlap left.mutablePaths right.mutablePaths) ++
  conflictOf "read-write-conflict" issueIds
    (sortedTexts (scopeOverlap left.readPaths right.mutablePaths ++
      scopeOverlap right.readPaths left.mutablePaths))

def domainConflicts : List Conflict :=
  if left.mutablePaths ≠ [] ∨ right.mutablePaths ≠ [] then
    conflictOf "protected-domain-conflict" issueIds
      (sortedTexts (left.protectedDomains.filter right.protectedDomains.contains))
  else []

def isolationConflicts : List Conflict :=
  if left.isolationClass ≠ right.isolationClass ∧
      (left.isolationClass ≠ "read-only-shared" ∨ right.isolationClass ≠ "read-only-shared") then
    [⟨"isolation-class-conflict", issueIds, sortedPair left.isolationClass right.isolationClass⟩]
  else []

def toolConflicts : List Conflict :=
  if left.toolSurfaceId ≠ right.toolSurfaceId ∨ left.requiredTools ≠ right.requiredTools then
    [⟨"tool-surface-conflict", issueIds, sortedTexts (left.toolSurfaceId :: right.toolSurfaceId ::
        (left.requiredTools ++ right.requiredTools))⟩]
  else []

def leaseConflicts : List Conflict :=
  (if left.integrationRootIdentitySha256 ≠ right.integrationRootIdentitySha256 then
    [⟨"lease-integration-root-conflict", issueIds,
      sortedPair left.integrationRootIdentitySha256.hex right.integrationRootIdentitySha256.hex⟩]
  else []) ++
  (if left.workspaceScopeSha256 = right.workspaceScopeSha256 then
    [⟨"lease-workspace-identity-conflict", issueIds, [left.workspaceScopeSha256.hex]⟩]
  else [])

/-- The conflict over the budget of the pool. -/
def aggregateConflicts : List Conflict :=
  if left.aggregateHardBudget ≠ right.aggregateHardBudget then
    [⟨"aggregate-budget-contract-conflict", issueIds,
      [(canonicalSha256 left.aggregateHardBudget.json.canonical).hex,
        (canonicalSha256 right.aggregateHardBudget.json.canonical).hex]⟩]
  else []

def candidateConflicts : List Conflict :=
  let issueIds := sortedPair left.issueId right.issueId
  pathConflicts left right issueIds ++
  domainConflicts left right issueIds ++
  disagreement "topology-conflict" issueIds left.topology right.topology ++
  isolationConflicts left right issueIds ++
  disagreement "architecture-authority-conflict" issueIds left.architectureAuthority
    right.architectureAuthority ++
  disagreement "execution-authority-conflict" issueIds left.executionAuthority
    right.executionAuthority ++
  disagreement "share-boundary-conflict" issueIds left.shareBoundary right.shareBoundary ++
  disagreement "model-conflict" issueIds left.requestedModel right.requestedModel ++
  toolConflicts left right issueIds ++
  leaseConflicts left right issueIds ++
  aggregateConflicts left right issueIds

end

def totalOf (candidates : List ReadyCandidate) (field : PoolBudgetField) : Nat :=
  (candidates.map fun candidate => candidate.hardBudget.amount field).sum

/-- A total of more than 4300 digits, for which the message cannot be formatted, is left out. -/
def subsetBudgetConflicts : List ReadyCandidate → List Conflict
  | [] => []
  | first :: rest =>
    let candidates := first :: rest
    let aggregate := first.aggregateHardBudget
    let exceeded := PoolBudgetField.fields.filter fun field =>
      aggregate.amount field < totalOf candidates field
    conflictOf "aggregate-budget-conflict" (sortByKey id (candidates.map (·.issueId)))
      (exceeded.map fun field => field.text ++ ":" ++ toString (totalOf candidates field) ++ ">" ++
        toString (aggregate.amount field))

/-- `tuple(sorted([left.issue_id, right.issue_id]))`. -/
def pairKey (left right : ReadyCandidate) : String × String :=
  if left.issueId ≤ right.issueId then (left.issueId, right.issueId)
  else (right.issueId, left.issueId)

/-- The conflicts of every pair; a later entry of a pair comes first. -/
def pairConflicts (candidates : List ReadyCandidate) : List ((String × String) × List Conflict) :=
  ((pairs candidates).map fun pair =>
    (pairKey pair.1 pair.2, candidateConflicts pair.1 pair.2)).reverse

def safeSubset (conflicts : List ((String × String) × List Conflict))
    (candidates : List ReadyCandidate) : Bool :=
  ((pairs candidates).all fun pair =>
    ((conflicts.lookup (pairKey pair.1 pair.2)).getD []).isEmpty) &&
  (subsetBudgetConflicts candidates).isEmpty

def setKey (candidates : List ReadyCandidate) : Int ×ₗ List (Int ×ₗ String) :=
  toLex (-(candidates.length : Int), candidates.map ReadyCandidate.ranking)

def enumerateSafeSets (candidates : List ReadyCandidate) (capacity : Int)
    (conflicts : List ((String × String) × List Conflict)) : List (List ReadyCandidate) :=
  let ordered := sortByKey ReadyCandidate.ranking candidates
  let limit := (min capacity ordered.length).toNat
  sortByKey setKey ((selections limit ordered).filter (safeSubset conflicts))

end WorkOrchestration.Native.ReadyCandidates
