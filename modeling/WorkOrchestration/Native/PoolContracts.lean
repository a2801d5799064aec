import WorkOrchestration.Native.Accounting

/-!
# Pool contracts

A pool contract fixes a cohort: its children with their worktrees, targets and leases, the scheduler, the
aggregate budget and the topology. The rules that only check the type of a field hold of every contract by
its types.
-/

namespace WorkOrchestration.Native.PoolContracts

open List Lib.Checks Lib.Text Artifacts Accounting

/-- `PurePosixPath(path).parts`. -/
def posixParts (path : String) : List String :=
  let slashes := (path.toList.takeWhile (· = '/')).length
  let root := if slashes = 0 then [] else if slashes = 2 then ["//"] else ["/"]
  let names := (path.toList.splitOnP (· == '/')).filter fun part => part ≠ [] ∧ part ≠ ['.']
  root ++ names.map String.ofList

/-- `PurePosixPath(path).as_posix()`. -/
def asPosix (path : String) : String :=
  match posixParts path with
  | [] => "."
  | "/" :: names => "/" ++ joinWith "/" names
  | "//" :: names => "//" ++ joinWith "/" names
  | names => joinWith "/" names

/-- One path is the other or a directory above it. -/
def Covers (left right : String) : Prop := posixParts left <+: posixParts right

instance (left right : String) : Decidable (Covers left right) :=
  inferInstanceAs (Decidable (_ <+: _))

def PathsOverlap (first second : List String) : Prop :=
  ∃ left ∈ first, ∃ right ∈ second, Covers left right ∨ Covers right left

instance (first second : List String) : Decidable (PathsOverlap first second) :=
  inferInstanceAs (Decidable (∃ left ∈ first, ∃ right ∈ second, _))

theorem PathsOverlap.symm {first second : List String} (overlap : PathsOverlap first second) :
    PathsOverlap second first := by
  obtain ⟨left, inFirst, right, inSecond, covers⟩ := overlap
  exact ⟨right, inSecond, left, inFirst, covers.symm⟩

/-- The complaint of `_validate_relative_paths` about one path. -/
def relativePathError (label : String) (index : Nat) (path : String) : Option String :=
  if ¬ Nonempty path then some s!"invalid-{label}[{index}]"
  else if path.toList.head? = some '/' ∨ path = "." ∨ path = ".." ∨ ".." ∈ posixParts path then
    some s!"unsafe-{label}[{index}]"
  else if asPosix path ≠ path then some s!"noncanonical-{label}[{index}]"
  else none

/-- The paths that `_validate_relative_paths` returns. -/
def relativePaths (label : String) (paths : List String) : List String :=
  paths.filter fun path => (relativePathError label 0 path).isNone

/-- Report every pair whose earlier element is related to the later one. -/
def forPairs {α : Type} (errors : α → α → List String) : List α → List String
  | [] => []
  | first :: rest => (rest.map (errors first)).flatten ++ forPairs errors rest

/-- The errors of `_validate_relative_paths`. -/
def validateRelativePaths (label : String) (allowEmpty : Bool) (paths : List String) :
    List String :=
  reject (allowEmpty = false ∧ paths = []) (label ++ "-must-not-be-empty") ++
  forEach paths (fun index path => (relativePathError label index path).toList) ++
  reject (¬ (relativePaths label paths).Nodup) ("duplicate-" ++ label) ++
  forPairs (fun left right => reject (Covers left right ∨ Covers right left)
      s!"overlapping-{label}:{left}:{right}")
    (relativePaths label paths)

/-- `IDENTITY_FIELDS`. -/
structure Identity where
  canonicalPathSha256 : Digest
  gitCommonDirSha256 : Digest
  device : Nat
  inode : Nat
  baselineSha256 : Digest
  deriving DecidableEq

namespace Identity

/-- `_identity_key`: the baseline is no part of a worktree's identity. -/
def key (identity : Identity) : Digest :=
  canonicalSha256 (.obj [("canonical_path_sha256", identity.canonicalPathSha256.json),
      ("git_common_dir_sha256", identity.gitCommonDirSha256.json),
      ("device", .nat identity.device), ("inode", .nat identity.inode)])

def json (identity : Identity) : Json :=
  .obj [("canonical_path_sha256", identity.canonicalPathSha256.json),
      ("git_common_dir_sha256", identity.gitCommonDirSha256.json),
      ("device", .nat identity.device), ("inode", .nat identity.inode),
      ("baseline_sha256", identity.baselineSha256.json)]

end Identity

/-- `OWNER_FIELDS`. -/
structure Owner where
  pid : Nat
  startTicks : Nat
  bootIdSha256 : Digest
  deriving DecidableEq

def Owner.json (owner : Owner) : Json :=
  .obj [("pid", .nat owner.pid), ("start_ticks", .nat owner.startTicks),
      ("boot_id_sha256", owner.bootIdSha256.json)]

def validateOwner (owner : Owner) : List String :=
  reject (owner.pid = 0) "invalid-owner-pid" ++
  reject (owner.startTicks = 0) "invalid-owner-start-ticks"

inductive IsolationClass where
  | readOnlyShared
  | mutableIsolated
  deriving DecidableEq

/-- `COMPLETION_MUTATION_MODES`. -/
inductive MutationMode where
  | readOnly
  | mutableIsolated
  deriving DecidableEq

/-- `COMPLETION_POLICIES`. -/
inductive CompletionPolicy where
  | allOrNothing
  | bestEffort
  deriving DecidableEq

/-- `VERSION` and `ADMITTED_POOL_VERSION`. -/
inductive ContractVersion where
  | v1
  | admittedV2
  deriving DecidableEq

/-- The admission fields of a child that a pool artifact repeats. -/
structure AdmissionBinding where
  beadId : Name
  workUnitId : Name
  admittedChildSha256 : Digest
  deriving DecidableEq

/-- The fields of a child contract that the supervision of a pool reads. -/
structure ChildContract where
  ordinal : Nat
  childId : Name
  agentId : Name
  controlTurnId : Name
  packetSha256 : Digest
  controlContractSha256 : Digest
  stateFile : String
  worktreeIdentity : Identity
  isolationClass : IsolationClass
  expectedMutationMode : MutationMode
  declaredWritePaths : List String
  integrationTargetPaths : List String
  leaseId : Name
  admission : Option AdmissionBinding

variable (limits : CapacityLimits) (contract : PoolContract) (requested : Nat)

/--
The fields of a pool contract that the supervision of a pool reads.  What the
validator has to say about the remaining fields, and about the contract's own
digest, is `furtherErrors`.
-/
structure PoolContract where
  version : ContractVersion
  completionPolicy : CompletionPolicy
  poolId : Name
  poolEpoch : Name
  owner : Owner
  children : List ChildContract
  maxActiveWorkers : Nat
  pollIntervalMs : Nat
  pollLagToleranceMs : Nat
  certifiedMaxCheckMs : Option Nat
  certifiedMaxSchedulerOverheadMs : Option Nat
  aggregateHardBudget : Budget
  integrationRootIdentity : Identity
  sharedReadOnlyWorktree : Bool
  capabilityReceiptSha256 : Option Digest
  fixedCohortSha256 : Option Digest
  contractSha256 : Digest
  furtherErrors : List String

namespace PoolContract

def childIds : List Name := contract.children.map ChildContract.childId

def child? (childId : String) : Option ChildContract :=
  contract.children.find? fun child => child.childId.text = childId

end PoolContract

/-- `PoolCapacityLimits`. -/
structure CapacityLimits where
  releasedMaxActiveWorkers : Nat
  hardMaxActiveWorkers : Nat

namespace CapacityLimits

def repository : CapacityLimits := ⟨3, 3⟩

def validatesRequestedCapacity : Prop := 1 ≤ requested ∧ requested ≤ limits.hardMaxActiveWorkers

def isReleased : Prop :=
  limits.validatesRequestedCapacity requested ∧ requested ≤ limits.releasedMaxActiveWorkers

def requiresCapabilityReceipt : Prop := limits.validatesRequestedCapacity requested ∧ 1 < requested

instance :
    Decidable (limits.validatesRequestedCapacity requested) :=
  inferInstanceAs (Decidable (_ ∧ _))

instance : Decidable (limits.isReleased requested) := inferInstanceAs (Decidable (_ ∧ _))

instance :
    Decidable (limits.requiresCapabilityReceipt requested) :=
  inferInstanceAs (Decidable (_ ∧ _))

end CapacityLimits

/-- `CERTIFIED_CALLBACK_MAX_MS["check"]`. -/
def certifiedCheckMs : Nat := 200

/-- The largest entry of `CERTIFIED_CALLBACK_MAX_MS`. -/
def certifiedLifecycleMs : Nat := 275

/-- `CERTIFIED_SCHEDULER_OVERHEAD_MS`. -/
def certifiedOverheadMs : Nat := 100

/-- `scheduling_budget_proof(...).accepted` for the certified callbacks. -/
def schedulable (workers overheadMs pollIntervalMs : Nat) : Prop :=
  certifiedLifecycleMs + workers * certifiedCheckMs + overheadMs ≤ pollIntervalMs

instance (workers overheadMs pollIntervalMs : Nat) :
    Decidable (schedulable workers overheadMs pollIntervalMs) :=
  inferInstanceAs (Decidable (_ ≤ _))

/-- The rules about one child of a contract. -/
def childErrors (version : ContractVersion) (index : Nat) (child : ChildContract) : List String :=
  let readOnly := child.isolationClass == .readOnlyShared
  let writes := s!"child[{index}]-declared-write-paths"
  let targets := s!"child[{index}]-integration-target-paths"
  let writePaths := relativePaths writes child.declaredWritePaths
  let targetPaths := relativePaths targets child.integrationTargetPaths
  reject (child.ordinal ≠ index) s!"invalid-child[{index}]-ordinal" ++
  reject (version = .admittedV2 ∧ child.admission = none) s!"child[{index}]-missing-fields" ++
  reject (version = .v1 ∧ child.admission ≠ none) s!"child[{index}]-unknown-fields" ++
  reject (¬ Nonempty child.stateFile ∨ child.stateFile.toList.head? ≠ some '/')
    s!"invalid-child[{index}]-state-file" ++
  reject ((child.isolationClass = .readOnlyShared ∧ child.expectedMutationMode ≠ .readOnly) ∨
      (child.isolationClass = .mutableIsolated ∧ child.expectedMutationMode ≠ .mutableIsolated))
    s!"child[{index}]-completion-evidence-policy-isolation-mutation-mode-mismatch" ++
  validateRelativePaths writes readOnly child.declaredWritePaths ++
  validateRelativePaths targets readOnly child.integrationTargetPaths ++
  reject (child.isolationClass = .readOnlyShared ∧ (writePaths ≠ [] ∨ targetPaths ≠ []))
    s!"read-only-child[{index}]-paths-must-be-empty" ++
  (if child.isolationClass = .mutableIsolated then
    forEach writePaths fun _ path =>
      reject (∀ target ∈ targetPaths, ¬ Covers target path)
        s!"child[{index}]-declared-write-outside-integration-target:{path}"
  else [])

/-- The rules that compare the children of a contract with one another. -/
def cohortErrors : List String :=
  let children := contract.children
  let isolated := children.filter (·.isolationClass == .mutableIsolated)
  let targets := isolated.flatMap fun child =>
    child.integrationTargetPaths.map fun path => (child.childId, path)
  reject (¬ (children.map ChildContract.childId).Nodup) "duplicate-child-child-id" ++
  reject (¬ (children.map ChildContract.agentId).Nodup) "duplicate-child-agent-id" ++
  reject (¬ (children.map ChildContract.controlTurnId).Nodup) "duplicate-child-control-turn-id" ++
  reject (¬ (children.map ChildContract.leaseId).Nodup) "duplicate-child-lease-id" ++
  reject (contract.version = .admittedV2 ∧
      ¬ (children.map fun child => child.admission.map AdmissionBinding.beadId).Nodup)
    "duplicate-child-bead-id" ++
  reject (contract.version = .admittedV2 ∧
      ¬ (children.map fun child => child.admission.map AdmissionBinding.workUnitId).Nodup)
    "duplicate-child-work-unit-id" ++
  reject (contract.version = .admittedV2 ∧
      ¬ (children.map fun child => child.admission.map AdmissionBinding.admittedChildSha256).Nodup)
    "duplicate-child-admitted-child-sha256" ++
  reject (¬ (isolated.map fun child => child.worktreeIdentity.key).Nodup)
    "duplicate-mutable-worktree-identity" ++
  forPairs (fun left right =>
      reject (left.1 ≠ right.1 ∧ (Covers left.2 right.2 ∨ Covers right.2 left.2))
        ("cross-child-target-overlap:" ++
          joinWith ":" [left.1.text, left.2, right.1.text, right.2]))
    targets

/-- The rules about the scheduler. -/
def schedulerErrors : List String :=
  let concurrent := limits.requiresCapabilityReceipt contract.maxActiveWorkers
  reject (contract.pollIntervalMs ≠ 1000) "invalid-scheduler-poll-interval-ms" ++
  reject (contract.pollLagToleranceMs ≠ 1500) "invalid-scheduler-poll-lag-tolerance-ms" ++
  reject (contract.maxActiveWorkers = 1 ∧
      (contract.certifiedMaxCheckMs ≠ none ∨ contract.certifiedMaxSchedulerOverheadMs ≠ none))
    "single-worker-scheduler-certification-must-be-null" ++
  reject (concurrent ∧ contract.certifiedMaxCheckMs ≠ some certifiedCheckMs)
    "concurrent-check-certification-invalid" ++
  reject (concurrent ∧ contract.certifiedMaxSchedulerOverheadMs ≠ some certifiedOverheadMs)
    "concurrent-overhead-certification-invalid" ++
  (match contract.certifiedMaxCheckMs, contract.certifiedMaxSchedulerOverheadMs with
    | some _, some overheadMs =>
      reject (concurrent ∧ 1 ≤ contract.pollIntervalMs ∧
          ¬ schedulable contract.maxActiveWorkers overheadMs contract.pollIntervalMs)
        "concurrent-response-time-bound-failed"
    | _, _ => [])

/-- The rules about worktrees and the integration root. -/
def topologyErrors : List String :=
  let keys := contract.children.map fun child => child.worktreeIdentity.key
  forEach keys (fun index key =>
    reject (key = contract.integrationRootIdentity.key)
      s!"child[{index}]-worktree-aliases-integration-root") ++
  (if contract.sharedReadOnlyWorktree then
    reject (∃ child ∈ contract.children, child.isolationClass ≠ .readOnlyShared)
      "shared-read-only-worktree-has-mutable-child" ++
    reject (∃ left ∈ keys, ∃ right ∈ keys, left ≠ right)
      "shared-read-only-worktree-identity-mismatch"
  else reject (¬ keys.Nodup) "shared-worktree-requires-read-only-topology")

/-- The most children that a contract of the given version may have. -/
def childLimit : ContractVersion → Nat
  | .v1 => limits.hardMaxActiveWorkers
  | .admittedV2 => limits.releasedMaxActiveWorkers

def validatePoolContract : List String :=
  reject (contract.completionPolicy = .bestEffort ∧ contract.version ≠ .admittedV2)
    "best-effort-requires-admitted-v2" ++
  validateOwner contract.owner ++
  (if contract.children = [] ∨ childLimit limits contract.version < contract.children.length then
    ["invalid-children"]
  else forEach contract.children (childErrors contract.version)) ++
  cohortErrors contract ++
  (if ¬ limits.validatesRequestedCapacity contract.maxActiveWorkers then
    ["invalid-max-active-workers"]
  else
    reject (contract.maxActiveWorkers ≠ contract.children.length)
      "max-active-workers-must-equal-fixed-cohort") ++
  schedulerErrors limits contract ++
  reject (contract.aggregateHardBudget.toolCalls = 0) "invalid-aggregate-hard-budget-tool-calls" ++
  reject (contract.aggregateHardBudget.runtimeSeconds = 0)
    "invalid-aggregate-hard-budget-runtime-seconds" ++
  topologyErrors contract ++
  reject (contract.maxActiveWorkers = 1 ∧ contract.capabilityReceiptSha256 ≠ none)
    "single-worker-capability-receipt-must-be-null" ++
  reject (limits.requiresCapabilityReceipt contract.maxActiveWorkers ∧
      contract.capabilityReceiptSha256 = none)
    "concurrent-capability-receipt-required" ++
  reject (contract.version = .admittedV2 ∧ ¬ limits.isReleased contract.maxActiveWorkers)
    "admitted-capacity-not-released" ++
  reject (contract.version = .admittedV2 ∧ contract.fixedCohortSha256 = none)
    "pool-contract-missing-fields" ++
  contract.furtherErrors

/-- What the rest of the development uses of an accepted contract. -/
structure Accepted (limits : CapacityLimits) (contract : PoolContract) : Prop where
  bestEffortAdmitted : contract.completionPolicy = .bestEffort → contract.version = .admittedV2
  owner : validateOwner contract.owner = []
  nonempty : contract.children ≠ []
  childLimit : contract.children.length ≤ childLimit limits contract.version
  ordinals : ∀ (index : Nat) (child : ChildContract),
    contract.children[index]? = some child → child.ordinal = index
  admissions : contract.version = .admittedV2 → ∀ child ∈ contract.children, child.admission ≠ none
  childIds : contract.childIds.Nodup
  leaseIds : (contract.children.map ChildContract.leaseId).Nodup
  cohort : contract.maxActiveWorkers = contract.children.length
  capacity : limits.validatesRequestedCapacity contract.maxActiveWorkers
  fixedCohort : contract.version = .admittedV2 → contract.fixedCohortSha256 ≠ none
  pollIntervalMs : contract.pollIntervalMs = 1000
  pollLagToleranceMs : contract.pollLagToleranceMs = 1500

def samplePool : Name := ⟨"pool", by decide⟩

def sampleEpoch : Name := ⟨"epoch", by decide⟩

def sampleBead : Name := ⟨"bead", by decide⟩
def sampleUnit : Name := ⟨"unit", by decide⟩
def sampleChild : Name := ⟨"child", by decide⟩

def sampleTurn : Name := ⟨"turn", by decide⟩

def sampleLease : Name := ⟨"lease", by decide⟩

def sampleIdentity (inode : Nat) : Identity :=
  { canonicalPathSha256 := textSha256 "path"
    gitCommonDirSha256 := textSha256 "git"
    device := 1
    inode := inode
    baselineSha256 := textSha256 "baseline" }

/-- An admitted pool of the given name with one read-only child. -/
def sampleContract (poolId : Name) : PoolContract :=
  { version := .admittedV2
    completionPolicy := .bestEffort
    poolId := poolId
    poolEpoch := sampleEpoch
    owner := ⟨1, 1, textSha256 "boot"⟩
    children :=
      [{  ordinal := 0
          childId := sampleChild
          agentId := ⟨"agent", by decide⟩
          controlTurnId := sampleTurn
          packetSha256 := textSha256 "packet"
          controlContractSha256 := textSha256 "control"
          stateFile := "/state"
          worktreeIdentity := sampleIdentity 2
          isolationClass := .readOnlyShared
          expectedMutationMode := .readOnly
          declaredWritePaths := []
          integrationTargetPaths := []
          leaseId := sampleLease
          admission := some ⟨sampleBead, sampleUnit, textSha256 "admitted"⟩ }]
    maxActiveWorkers := 1
    pollIntervalMs := 1000
    pollLagToleranceMs := 1500
    certifiedMaxCheckMs := none
    certifiedMaxSchedulerOverheadMs := none
    aggregateHardBudget := ⟨1000, 1000, 1000, 1000, 1000⟩
    integrationRootIdentity := sampleIdentity 1
    sharedReadOnlyWorktree := true
    capabilityReceiptSha256 := none
    fixedCohortSha256 := some (textSha256 "cohort")
    contractSha256 := textSha256 "contract"
    furtherErrors := [] }

theorem sampleContract_valid :
    validatePoolContract .repository (sampleContract samplePool) = [] := by
  decide +kernel

end WorkOrchestration.Native.PoolContracts
