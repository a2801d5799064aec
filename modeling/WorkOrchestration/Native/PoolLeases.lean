import WorkOrchestration.Native.PoolStates

/-!
# Pool leases

The registry of leases that all pools on a host share.  It is a list of leases
behind one lock, so its history is a sequence of calls; a call that fails leaves
the list as it was, except where the write itself is cut off halfway.
-/

namespace WorkOrchestration.Native.PoolLeases

open Lib.Checks Lib.Text Artifacts PoolContracts PoolStates

/-- The values of `lifecycle_state`. -/
inductive LeaseState where
  | acquired
  | held
  | releasePending
  | released
  | orphanedActive
  deriving DecidableEq

namespace LeaseState

def text : LeaseState → String
  | acquired => "acquired"
  | held => "held"
  | releasePending => "release-pending"
  | released => "released"
  | orphanedActive => "orphaned-active"

/-- `ACTIVE_LEASE_STATES`. -/
def isActive : LeaseState → Bool
  | released => false
  | _ => true

/-- `LEASE_TRANSITIONS`. -/
def transitions : LeaseState → List LeaseState
  | acquired => [held, releasePending, released]
  | held => [releasePending, released]
  | releasePending => [released]
  | orphanedActive => [releasePending, released]
  | released => []

/-- `IDEMPOTENT_LEASE_STATES`. -/
def isIdempotent : LeaseState → Bool
  | releasePending | released => true
  | _ => false

/-- `ORPHAN_RECLASSIFICATION_STATES`. -/
def isReclassifiable : LeaseState → Bool
  | acquired | held => true
  | _ => false

end LeaseState

variable (env : RegistryEnv) (write : WriteOutcome) (lease : Lease) (registry previous : List Lease)
  (terminalStates : Name → Option PoolState) (contract : PoolContract) (next : List Lease)

/-- `LEASE_FIELDS`; times are milliseconds of the epoch. -/
structure Lease where
  leaseId : Name
  poolId : Name
  childId : Name
  poolEpoch : Name
  integrationRootIdentity : Identity
  worktreeIdentity : Identity
  targetPaths : List String
  owner : Owner
  lifecycleState : LeaseState
  acquiredAt : Int
  updatedAt : Int
  terminalEvidenceSha256 : Option Digest
  releaseReason : Option String
  leaseSha256 : Digest
  deriving DecidableEq

namespace Lease

/-- Everything but the lease's own digest. -/
def body : Json :=
  .obj
    [("lease_type", .str "cwo-native-supervision-lease"), ("version", .int 1),
      ("schema", .str "schemas/native-supervision-lease.schema.json"),
      ("lease_id", .str lease.leaseId.text), ("pool_id", .str lease.poolId.text),
      ("child_id", .str lease.childId.text), ("pool_epoch", .str lease.poolEpoch.text),
      ("integration_root_identity", lease.integrationRootIdentity.json),
      ("worktree_identity", lease.worktreeIdentity.json),
      ("target_paths", .strings lease.targetPaths), ("owner", lease.owner.json),
      ("lifecycle_state", .str lease.lifecycleState.text), ("acquired_at", .int lease.acquiredAt),
      ("updated_at", .int lease.updatedAt),
      ("terminal_evidence_sha256", .optional Digest.json lease.terminalEvidenceSha256),
      ("release_reason", .optional .str lease.releaseReason)]

/-- `seal_artifact(lease, "lease_sha256")`. -/
def sealed : Lease := { lease with leaseSha256 := canonicalSha256 lease.body }

end Lease

/-- The rules about a lease's lifecycle state, evidence and reason. -/
def lifecycleErrors : List String :=
  let state := lease.lifecycleState.text
  match lease.lifecycleState with
  | .released | .releasePending =>
    reject (lease.terminalEvidenceSha256 = none) (state ++ "-lease-terminal-evidence-required") ++
    reject (¬ ∃ reason ∈ lease.releaseReason, Nonempty reason)
      (state ++ "-lease-reason-required")
  | _ =>
    reject (lease.terminalEvidenceSha256 ≠ none)
      "nonterminal-lease-terminal-evidence-forbidden" ++
    reject (lease.releaseReason ≠ none) "nonterminal-lease-release-reason-forbidden"

/-- The rules that compare a lease with the contract it was acquired under. -/
def leaseContractErrors (lease : Lease) : List String :=
  reject (lease.poolId ≠ contract.poolId) "lease-pool-id-mismatch" ++
  reject (lease.poolEpoch ≠ contract.poolEpoch) "lease-pool-epoch-mismatch" ++
  match contract.child? lease.childId.text with
  | none => ["lease-child-unknown"]
  | some child =>
    reject (lease.leaseId ≠ child.leaseId) "lease-id-mismatch" ++
    reject (lease.worktreeIdentity ≠ child.worktreeIdentity)
      "lease-worktree-identity-mismatch" ++
    reject (lease.targetPaths ≠ child.integrationTargetPaths) "lease-target-paths-mismatch" ++
    reject (lease.integrationRootIdentity ≠ contract.integrationRootIdentity)
      "lease-integration-root-identity-mismatch" ++
    reject (lease.owner ≠ contract.owner) "lease-owner-mismatch"

def validateLease (contract : Option PoolContract) (lease : Lease) : List String :=
  validateRelativePaths "target-paths" true lease.targetPaths ++
  validateOwner lease.owner ++
  reject (lease.updatedAt < lease.acquiredAt) "lease-time-regression" ++
  lifecycleErrors lease ++
  (match contract with
    | some contract => leaseContractErrors contract lease
    | none => []) ++
  reject (lease.leaseSha256 ≠ canonicalSha256 lease.body) "lease-sha256-mismatch"

/-- An exception of a registry call, with what a handler can ask of it. -/
structure RegistryError where
  error : PyError
  /-- `isinstance(error, PoolLeaseError)` -/
  isLeaseError : Bool
  childId : Option Name

def leaseError (message : String) : RegistryError :=
  ⟨⟨.value, "PoolLeaseError", message⟩, true, none⟩

/-- `PoolLeaseCollision`. -/
def leaseCollision (code : String) (childId : Name) : RegistryError :=
  ⟨⟨.value, "PoolLeaseCollision", code⟩, true, some childId⟩

/-- `PoolLeaseTransitionError`. -/
def leaseTransitionError (requested : LeaseState) : RegistryError :=
  ⟨⟨.value, "PoolLeaseTransitionError",
      "lease-transition-not-allowed:lease=" ++ lease.leaseId.text ++ ":current=" ++
        lease.lifecycleState.text ++ ":requested=" ++ requested.text⟩, true, none⟩

/-- How an attempt to restore the previous registry file ends. -/
inductive Rollback where
  | restored
  | failed (error : PyError) (restoredAnyway : Bool)

/--
How writing the registry file ends.  A failed write may already have replaced
the file.
-/
inductive WriteOutcome where
  | written
  | failed (error : RegistryError) (replaced : Bool) (rollback : Rollback)

/-- What a call depends on besides its arguments. -/
structure RegistryEnv where
  /-- a symbolic link in place of the file or its lock, or a file that cannot be read -/
  accessError : Option RegistryError
  now : Except RegistryError Int
  /-- the answer of `owner_alive` for the lease at each position -/
  ownerAlive : Nat → Bool
  write : WriteOutcome

/-- The registry after a call, and the call's result. -/
structure Outcome (α : Type) where
  registry : List Lease
  result : Except RegistryError α

/-- A call that fails before it writes. -/
def Outcome.refused {α : Type} (error : RegistryError) : Outcome α :=
  ⟨registry, .error error⟩

/-- `_load_unlocked`. -/
def loadErrors : Option RegistryError :=
  match registry.find? fun lease => validateLease none lease ≠ [] with
  | some lease =>
    some (leaseError ("lease-registry-artifact-invalid:" ++ joinWith ";" (validateLease none lease)))
  | none =>
    if (registry.map Lease.leaseId).Nodup then none
    else some (leaseError "lease-registry-duplicate-lease-id")

/-- Load the registry under its lock and go on with it. -/
def locked {α : Type} (act : Outcome α) : Outcome α :=
  match env.accessError.or (loadErrors registry) with
  | some error => .refused registry error
  | none => act

/-- `_write_unlocked` without a rollback. -/
def writeThrough {α : Type} (result : α) :
    Outcome α :=
  match write with
  | .written => ⟨next, .ok result⟩
  | .failed error replaced _ => ⟨if replaced then next else previous, .error error⟩

/-- `_write_unlocked` with `_restore_bytes_unlocked` behind it. -/
def writeOrRestore {α : Type} (result : α) :
    Outcome α :=
  match write with
  | .written => ⟨next, .ok result⟩
  | .failed error replaced rollback =>
    let current := if replaced then next else previous
    if error.isLeaseError ∨ error.error.kind = .os ∨ error.error.kind = .value then
      match rollback with
      | .restored =>
        ⟨previous, .error (if error.isLeaseError then error
          else leaseError "lease-registry-write-failed")⟩
      | .failed failure restoredAnyway =>
        ⟨if restoredAnyway then previous else current,
          .error (if failure.kind = .os ∨ failure.kind = .value then
            leaseError "lease-registry-rollback-failed"
          else ⟨failure, false, none⟩)⟩
    else ⟨current, .error error⟩

/-- `_prepare_transition`: the lease to store, or none when nothing changes. -/
def prepareTransition (current : Lease) (lifecycleState : LeaseState)
    (terminalEvidenceSha256 : Option Digest) (releaseReason : Option String)
    (allowOrphanReclassification : Bool) (updatedAt : Except RegistryError Int)
    (invalidArtifactCode : String) : Except RegistryError (Option Lease) :=
  if current.lifecycleState = lifecycleState ∧ current.lifecycleState.isIdempotent then .ok none
  else if lifecycleState ∉ current.lifecycleState.transitions ∧
      ¬ (allowOrphanReclassification = true ∧ lifecycleState = .orphanedActive ∧
        current.lifecycleState.isReclassifiable = true) then
    .error (leaseTransitionError current lifecycleState)
  else
    match updatedAt with
    | .error error => .error error
    | .ok updatedAt =>
      let updated := Lease.sealed
        { current with
          lifecycleState := lifecycleState
          updatedAt := updatedAt
          terminalEvidenceSha256 := terminalEvidenceSha256
          releaseReason := releaseReason }
      if validateLease none updated ≠ [] then
        .error (leaseError (invalidArtifactCode ++ ":" ++
          joinWith ";" (validateLease none updated)))
      else .ok (some updated)

/-- The lease `acquire_many` asks for on behalf of one child. -/
def requestedLease (child : ChildContract) (now : Int) : Lease :=
  Lease.sealed
    { leaseId := child.leaseId
      poolId := contract.poolId
      childId := child.childId
      poolEpoch := contract.poolEpoch
      integrationRootIdentity := contract.integrationRootIdentity
      worktreeIdentity := child.worktreeIdentity
      targetPaths := child.integrationTargetPaths
      owner := contract.owner
      lifecycleState := .acquired
      acquiredAt := now
      updatedAt := now
      terminalEvidenceSha256 := none
      releaseReason := none
      leaseSha256 := contract.contractSha256 }

def requestedLeases (contract : PoolContract) (now : Int) :
    List String → Except RegistryError (List Lease)
  | [] => .ok []
  | childId :: rest =>
    match contract.child? childId with
    | none => .error (leaseError "lease-child-unknown")
    | some child =>
      let lease := requestedLease contract child now
      if validateLease (some contract) lease ≠ [] then
        .error (leaseError ("lease-invalid:" ++
          joinWith ";" (validateLease (some contract) lease)))
      else
        match requestedLeases contract now rest with
        | .error error => .error error
        | .ok leases => .ok (lease :: leases)

/-- The first loop of `acquire_many`: leases of dead owners become orphaned. -/
def reclassify (ownerAlive : Nat → Bool) (now : Int) :
    Nat → List Lease → Except RegistryError (List Lease)
  | _, [] => .ok []
  | index, lease :: rest =>
    let reclassified : Except RegistryError (Option Lease) :=
      if lease.lifecycleState.isActive = true ∧ ownerAlive index = false ∧
          lease.lifecycleState.isReclassifiable = true then
        prepareTransition lease .orphanedActive none none true (.ok now) "lease-transition-invalid"
      else .ok none
    match reclassified with
    | .error error => .error error
    | .ok updated =>
      match reclassify ownerAlive now (index + 1) rest with
      | .error error => .error error
      | .ok leases => .ok (updated.getD lease :: leases)

/-- The collision of a requested lease with one that is already staged. -/
def collision (existing lease : Lease) : Option String :=
  let sameRoot := existing.integrationRootIdentity.key = lease.integrationRootIdentity.key
  let sameWorktree := existing.worktreeIdentity.key = lease.worktreeIdentity.key
  let samePool := existing.poolId = lease.poolId ∧ existing.poolEpoch = lease.poolEpoch
  let readOnlySiblings := samePool ∧ existing.targetPaths = [] ∧ lease.targetPaths = []
  if existing.leaseId = lease.leaseId then some "lease-id-already-active"
  else if existing.lifecycleState.isActive = false then none
  else if sameWorktree ∧ ¬ readOnlySiblings then some "worktree-lease-collision"
  else if sameRoot ∧ PathsOverlap existing.targetPaths lease.targetPaths then
    some "integration-target-lease-collision"
  else none

/-- The second loop of `acquire_many`: every lease is checked against all before it. -/
def stage (staged : List Lease) : List Lease → Except RegistryError (List Lease)
  | [] => .ok staged
  | lease :: rest =>
    match staged.findSome? fun existing => collision existing lease with
    | some code => .error (leaseCollision code lease.childId)
    | none => stage (staged ++ [lease]) rest

def acquireMany
    (childIds : Option (List String)) (limits : CapacityLimits) : Outcome (List Lease) :=
  let contractErrors := validatePoolContract limits contract
  let requested := childIds.getD (contract.childIds.map Name.text)
  if contractErrors ≠ [] then
    .refused registry (leaseError ("pool-contract-invalid:" ++ joinWith ";" contractErrors))
  else if requested = [] ∨ "" ∈ requested ∨ ¬ requested.Nodup then
    .refused registry (leaseError "lease-child-set-invalid")
  else
    match env.now with
    | .error error => .refused registry error
    | .ok now =>
      match requestedLeases contract now requested with
      | .error error => .refused registry error
      | .ok leases =>
        locked env registry <|
          match reclassify env.ownerAlive now 0 registry with
          | .error error => .refused registry error
          | .ok current =>
            match stage current leases with
            | .error error => .refused registry error
            | .ok staged => writeOrRestore env.write registry staged leases

def releaseUncommittedMany
    (acquired : List Lease) (limits : CapacityLimits) : Outcome (List Lease) :=
  let contractErrors := validatePoolContract limits contract
  let suppliedIds := acquired.map Lease.leaseId
  let current := registry.filter fun lease => lease.leaseId ∈ suppliedIds
  let retained := registry.filter fun lease => lease.leaseId ∉ suppliedIds
  if contractErrors ≠ [] then
    .refused registry (leaseError ("pool-contract-invalid:" ++ joinWith ";" contractErrors))
  else if acquired.map Lease.childId ≠ contract.childIds then
    .refused registry (leaseError "uncommitted-lease-set-child-mismatch")
  else if ∃ lease ∈ acquired,
      validateLease (some contract) lease ≠ [] ∨ lease.lifecycleState ≠ .acquired then
    .refused registry (leaseError "uncommitted-lease-set-invalid")
  else if ¬ suppliedIds.Nodup then
    .refused registry (leaseError "uncommitted-lease-set-duplicate")
  else
    locked env registry <|
      if ¬ (current ⊆ acquired ∧ acquired ⊆ current) then
        .refused registry (leaseError "uncommitted-lease-set-drift")
      else writeOrRestore env.write registry retained []

/-- `_transition`, reporting the stored lease. -/
def transition (env : RegistryEnv) (registry : List Lease) (leaseId : Name)
    (lifecycleState : LeaseState) (terminalEvidenceSha256 : Option Digest)
    (releaseReason : Option String) : Outcome (List Lease) :=
  locked env registry <|
    match registry.find? fun lease => lease.leaseId = leaseId with
    | none => .refused registry (leaseError "lease-not-found")
    | some current =>
      match prepareTransition current lifecycleState terminalEvidenceSha256 releaseReason false
          env.now "lease-transition-invalid" with
      | .error error => .refused registry error
      | .ok none => ⟨registry, .ok [current]⟩
      | .ok (some updated) =>
        writeThrough env.write registry
          (registry.map fun lease => if lease.leaseId = leaseId then updated else lease) [updated]

def hold (leaseId : Name) : Outcome (List Lease) :=
  transition env registry leaseId .held none none

def markReleasePending (leaseId : Name)
    (terminalEvidenceSha256 : Digest) (reason : String) : Outcome (List Lease) :=
  transition env registry leaseId .releasePending (some terminalEvidenceSha256) (some reason)

def release (env : RegistryEnv) (registry : List Lease) (leaseId : Name)
    (terminalState : PoolState) (reason : String) : Outcome (List Lease) :=
  let stateErrors := validatePoolState none terminalState
  if stateErrors ≠ [] then
    .refused registry (leaseError ("terminal-pool-state-invalid:" ++ joinWith ";" stateErrors))
  else if terminalState.status ≠ .completed ∧ terminalState.status ≠ .closed then
    .refused registry (leaseError "lease-release-requires-completed-or-closed-pool")
  else transition env registry leaseId .released (some terminalState.stateSha256) (some reason)

/-- What `cleanup_stale` wants to do with a lease whose owner is dead. -/
inductive StaleVerdict where
  | orphan
  | release (state : PoolState)
  | contain (state : PoolState)

/-- The branches of `cleanup_stale` over the terminal state found for a lease. -/
def staleVerdict (lease : Lease) : StaleVerdict :=
  match terminalStates lease.poolId with
  | none => .orphan
  | some state =>
    if validatePoolState none state ≠ [] ∨ state.poolEpoch ≠ lease.poolEpoch then .orphan
    else if state.status = .completed ∨ state.status = .closed then .release state
    else if state.status = .controlFailed then .contain state
    else .orphan

/-- What `cleanup_stale` stores for one lease, if it changes. -/
def cleanLease (index : Nat)
    (lease : Lease) : Except RegistryError (Option Lease) :=
  let prepare := fun lifecycle evidence reason =>
    prepareTransition lease lifecycle evidence reason true env.now "stale-lease-transition-invalid"
  if lease.lifecycleState = .released ∨ env.ownerAlive index = true then .ok none
  else
    match staleVerdict terminalStates lease with
    | .release state =>
      prepare .released (some state.stateSha256) (some "stale-owner-terminal-pool")
    | .contain state =>
      prepare .releasePending (some state.stateSha256) (some "manual-containment-required")
    | .orphan =>
      if lease.lifecycleState.isReclassifiable then prepare .orphanedActive none none
      else .ok none

/-- The loop of `cleanup_stale`: the updates it collects, position by position. -/
def cleanLeases (env : RegistryEnv) (terminalStates : Name → Option PoolState) :
    Nat → List Lease → Except RegistryError (List (Option Lease))
  | _, [] => .ok []
  | index, lease :: rest =>
    match cleanLease env terminalStates index lease with
    | .error error => .error error
    | .ok updated =>
      match cleanLeases env terminalStates (index + 1) rest with
      | .error error => .error error
      | .ok updates => .ok (updated :: updates)

def applyUpdates (updates : List (Option Lease)) (registry : List Lease) : List Lease :=
  List.zipWith (fun updated lease => updated.getD lease) updates registry

def cleanupStale : Outcome (List Lease) :=
  locked env registry <|
    match cleanLeases env terminalStates 0 registry with
    | .error error => .refused registry error
    | .ok updates =>
      let changed := updates.filterMap id
      if changed = [] then ⟨registry, .ok []⟩
      else writeThrough env.write registry (applyUpdates updates registry) changed

/-- A call of one of the registry's operations. -/
inductive Call where
  | acquireMany (contract : PoolContract) (childIds : Option (List String)) (limits : CapacityLimits)
  | releaseUncommittedMany (contract : PoolContract) (acquired : List Lease)
      (limits : CapacityLimits)
  | hold (leaseId : Name)
  | markReleasePending (leaseId : Name) (terminalEvidenceSha256 : Digest) (reason : String)
  | release (leaseId : Name) (terminalState : PoolState) (reason : String)
  | cleanupStale (terminalStates : Name → Option PoolState)

def perform : Call → Outcome (List Lease)
  | .acquireMany contract childIds limits =>
    PoolLeases.acquireMany env registry contract childIds limits
  | .releaseUncommittedMany contract acquired limits =>
    PoolLeases.releaseUncommittedMany env registry contract acquired limits
  | .hold leaseId => PoolLeases.hold env registry leaseId
  | .markReleasePending leaseId evidence reason =>
    PoolLeases.markReleasePending env registry leaseId evidence reason
  | .release leaseId state reason => PoolLeases.release env registry leaseId state reason
  | .cleanupStale states => PoolLeases.cleanupStale env registry states

/-- Calls in the order in which the lock admits them, each with its environment. -/
abbrev History := List (RegistryEnv × Call)

def performAll (history : History) : List Lease :=
  history.foldl (fun registry entry => (perform entry.1 registry entry.2).registry) registry

/-! ## What a call can change -/

/-- A state that a lease may be released on: hash-valid, and completed or closed. -/
def Finished (state : PoolState) : Prop :=
  validatePoolState none state = [] ∧ (state.status = .completed ∨ state.status = .closed)

/-- The transition of one lease that a call asks for. -/
inductive Asks : Call → Name → LeaseState → Option Digest → Option String → Prop where
  | hold (leaseId : Name) : Asks (.hold leaseId) leaseId .held none none
  | markReleasePending (leaseId : Name) (evidence : Digest) (reason : String) :
      Asks (.markReleasePending leaseId evidence reason) leaseId .releasePending (some evidence)
        (some reason)
  | release (leaseId : Name) (state : PoolState) (reason : String) (finished : Finished state) :
      Asks (.release leaseId state reason) leaseId .released (some state.stateSha256) (some reason)

/-- The registries that a call can leave behind. -/
inductive Leaves (env : RegistryEnv) (registry : List Lease) : Call → List Lease → Prop where
  | unchanged (call : Call) : Leaves env registry call registry
  | acquired {contract : PoolContract} {childIds : Option (List String)} {limits : CapacityLimits}
      {now : Int} {requested : List String} {leases current staged : List Lease}
      (built : requestedLeases contract now requested = .ok leases)
      (reclassified : reclassify env.ownerAlive now 0 registry = .ok current)
      (accepted : stage current leases = .ok staged) :
      Leaves env registry (.acquireMany contract childIds limits) staged
  | uncommitted {contract : PoolContract} {acquired : List Lease} {limits : CapacityLimits}
      (unused : ∀ lease ∈ acquired, lease.lifecycleState = .acquired)
      (supplied : ∀ lease ∈ registry, lease.leaseId ∈ acquired.map Lease.leaseId → lease ∈ acquired) :
      Leaves env registry (.releaseUncommittedMany contract acquired limits)
        (registry.filter fun lease => lease.leaseId ∉ acquired.map Lease.leaseId)
  | moved {call : Call} {leaseId : Name} {lifecycleState : LeaseState} {evidence : Option Digest}
      {reason : Option String} {current updated : Lease}
      (asks : Asks call leaseId lifecycleState evidence reason)
      (distinct : (registry.map Lease.leaseId).Nodup)
      (found : registry.find? (fun lease => lease.leaseId = leaseId) = some current)
      (prepared : prepareTransition current lifecycleState evidence reason false env.now
        "lease-transition-invalid" = .ok (some updated)) :
      Leaves env registry call
        (registry.map fun lease => if lease.leaseId = leaseId then updated else lease)
  | cleaned {terminalStates : Name → Option PoolState} {updates : List (Option Lease)}
      (collected : cleanLeases env terminalStates 0 registry = .ok updates) :
      Leaves env registry (.cleanupStale terminalStates) (applyUpdates updates registry)

theorem writeThrough_registry {α : Type}
    (result : α) :
    (writeThrough write previous next result).registry = previous ∨
      (writeThrough write previous next result).registry = next := by
  unfold writeThrough
  split
  · exact .inr rfl
  · rename_i replaced _
    cases replaced
    · exact .inl rfl
    · exact .inr rfl

theorem writeOrRestore_registry {α : Type}
    (result : α) :
    (writeOrRestore write previous next result).registry = previous ∨
      (writeOrRestore write previous next result).registry = next := by
  unfold writeOrRestore
  split
  · exact .inr rfl
  · rename_i replaced rollback
    simp only
    split
    · cases rollback with
      | restored => exact .inl rfl
      | failed failure restoredAnyway =>
        cases restoredAnyway <;> cases replaced <;> simp
    · cases replaced <;> simp

theorem locked_registry {α : Type} {env : RegistryEnv} {registry : List Lease} {act : Outcome α} :
    (locked env registry act).registry = registry ∨
      (registry.map Lease.leaseId).Nodup ∧ locked env registry act = act := by
  unfold locked
  split
  · exact .inl rfl
  · rename_i accessible
    refine .inr ⟨?_, rfl⟩
    have loads := (Option.or_eq_none_iff.mp accessible).2
    unfold loadErrors at loads
    split at loads
    · cases loads
    · by_contra duplicate
      simp [duplicate] at loads

theorem leaves_acquireMany
    (childIds : Option (List String)) (limits : CapacityLimits) :
    Leaves env registry (.acquireMany contract childIds limits)
      (acquireMany env registry contract childIds limits).registry := by
  unfold acquireMany
  simp only
  split_ifs
  · exact .unchanged _
  · exact .unchanged _
  · split
    · exact .unchanged _
    · split
      · exact .unchanged _
      · rename_i leases built
        rcases locked_registry with refused | ⟨_, entered⟩
        · rw [refused]
          exact .unchanged _
        · rw [entered]
          split
          · exact .unchanged _
          · rename_i current reclassified
            split
            · exact .unchanged _
            · rename_i staged accepted
              rcases writeOrRestore_registry env.write registry staged leases with kept | stored
              · rw [kept]
                exact .unchanged _
              · rw [stored]
                exact .acquired built reclassified accepted

theorem leaves_releaseUncommittedMany (acquired : List Lease) (limits : CapacityLimits) :
    Leaves env registry (.releaseUncommittedMany contract acquired limits)
      (releaseUncommittedMany env registry contract acquired limits).registry := by
  unfold releaseUncommittedMany
  extract_lets contractErrors suppliedIds current retained
  by_cases invalid : contractErrors ≠ []
  · rw [if_pos invalid]
    exact .unchanged _
  rw [if_neg invalid]
  by_cases mismatch : acquired.map Lease.childId ≠ contract.childIds
  · rw [if_pos mismatch]
    exact .unchanged _
  rw [if_neg mismatch]
  by_cases unsuitable : ∃ lease ∈ acquired,
      validateLease (some contract) lease ≠ [] ∨ lease.lifecycleState ≠ .acquired
  · rw [if_pos unsuitable]
    exact .unchanged _
  rw [if_neg unsuitable]
  by_cases duplicate : ¬ suppliedIds.Nodup
  · rw [if_pos duplicate]
    exact .unchanged _
  rw [if_neg duplicate]
  rcases locked_registry with unloaded | ⟨_, entered⟩
  · rw [unloaded]
    exact .unchanged _
  rw [entered]
  by_cases drift : ¬ (current ⊆ acquired ∧ acquired ⊆ current)
  · rw [if_pos drift]
    exact .unchanged _
  rw [if_neg drift]
  rcases writeOrRestore_registry env.write registry retained ([] : List Lease) with kept | stored
  · rw [kept]
    exact .unchanged _
  · rw [stored]
    refine .uncommitted (fun lease member => ?_) fun lease member supplied => ?_
    · by_contra used
      exact unsuitable ⟨lease, member, .inr used⟩
    · have matching : current ⊆ acquired := (Decidable.not_not.mp drift).1
      exact matching (List.mem_filter.mpr ⟨member, decide_eq_true supplied⟩)

theorem leaves_transition {env : RegistryEnv} {registry : List Lease} {call : Call} {leaseId : Name}
    {lifecycleState : LeaseState} {evidence : Option Digest} {reason : Option String}
    (asks : Asks call leaseId lifecycleState evidence reason) :
    Leaves env registry call
      (transition env registry leaseId lifecycleState evidence reason).registry := by
  unfold transition
  rcases locked_registry with refused | ⟨distinct, entered⟩
  · rw [refused]
    exact .unchanged _
  · rw [entered]
    split
    · exact .unchanged _
    · rename_i current found
      split
      · exact .unchanged _
      · exact .unchanged _
      · rename_i updated prepared
        rcases writeThrough_registry env.write registry
          (registry.map fun lease => if lease.leaseId = leaseId then updated else lease)
          [updated] with kept | stored
        · rw [kept]
          exact .unchanged _
        · rw [stored]
          exact .moved asks distinct found prepared

theorem leaves_release (leaseId : Name)
    (state : PoolState) (reason : String) :
    Leaves env registry (.release leaseId state reason)
      (release env registry leaseId state reason).registry := by
  unfold release
  by_cases invalid : validatePoolState none state ≠ []
  · rw [if_pos invalid]
    exact .unchanged _
  rw [if_neg invalid]
  by_cases running : state.status ≠ .completed ∧ state.status ≠ .closed
  · rw [if_pos running]
    exact .unchanged _
  rw [if_neg running]
  refine leaves_transition (.release leaseId state reason ⟨Decidable.not_not.mp invalid, ?_⟩)
  by_contra neither
  exact running (not_or.mp neither)

theorem leaves_cleanupStale :
    Leaves env registry (.cleanupStale terminalStates)
      (cleanupStale env registry terminalStates).registry := by
  unfold cleanupStale
  rcases locked_registry with refused | ⟨_, entered⟩
  · rw [refused]
    exact .unchanged _
  · rw [entered]
    split
    · exact .unchanged _
    · rename_i updates collected
      simp only
      split_ifs
      · exact .unchanged _
      · rcases writeThrough_registry env.write registry (applyUpdates updates registry)
          (updates.filterMap id) with kept | stored
        · rw [kept]
          exact .unchanged _
        · rw [stored]
          exact .cleaned collected

/-- The inversion lemma of the registry: what any call leaves behind. -/
theorem leaves_perform (call : Call) :
    Leaves env registry call (perform env registry call).registry := by
  cases call with
  | acquireMany contract childIds limits =>
    exact leaves_acquireMany env registry contract childIds limits
  | releaseUncommittedMany contract acquired limits =>
    exact leaves_releaseUncommittedMany env registry contract acquired limits
  | hold leaseId =>
    exact leaves_transition (.hold leaseId)
  | markReleasePending leaseId evidence reason =>
    exact leaves_transition (.markReleasePending leaseId evidence reason)
  | release leaseId state reason =>
    exact leaves_release env registry leaseId state reason
  | cleanupStale terminalStates =>
    exact leaves_cleanupStale env registry terminalStates

end WorkOrchestration.Native.PoolLeases
