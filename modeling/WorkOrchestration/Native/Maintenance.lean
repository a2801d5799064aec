import WorkOrchestration.Lib.Programs
import WorkOrchestration.Lib.Runs
import WorkOrchestration.Native.Artifacts

/-!
# Maintenance authority

A controller's ledger of maintenance operations. It is one file that several processes rewrite under a
lock; capabilities live in the memory of one process and look at the file whenever they are used.
-/

namespace WorkOrchestration.Native.Maintenance

open Lib.Text Lib.Programs Lib.Runs Artifacts

def maintenanceError (reason : String) : PyError :=
  ⟨.value, "MaintenanceAuthorityError", "maintenance-" ++ reason⟩

def need (condition : Bool) (reason : String) : Except PyError Unit :=
  if condition then .ok () else .error (maintenanceError reason)

def text (value label : String) : Except PyError Unit :=
  need (decide (Nonempty value) && strip value == value) (label ++ "-invalid")

inductive Status where
  | active
  | revoked
  | completed
  deriving DecidableEq

/-- How a settled operation ended. -/
inductive Outcome where
  | accepted
  | contained
  | failed
  deriving DecidableEq

/-- `_OPERATION_STATE_FIELDS`: an operation is claimed until it has an outcome. -/
structure OperationRow where
  operationSha256 : Digest
  planSha256 : Digest
  outcome : Option Outcome
  deriving DecidableEq

/-- `_STATE_FIELDS`. -/
structure State where
  missionId : String
  missionSha256 : Digest
  revocationGeneration : Nat
  status : Status
  operations : List (String × OperationRow)

def State.row (state : State) (operationId : String) : Option OperationRow :=
  state.operations.lookup operationId

/-- `value["operations"][operation_id] = row`. -/
def State.setRow (state : State) (operationId : String) (row : OperationRow) : State :=
  { state with
    operations := (operationId, row) :: state.operations.filter (·.1 != operationId) }

abbrev File := Option State

inductive Writing where
  | done
  | failedBefore
  | failedAfter

/-- What the file system does during one locked section. -/
structure Disk where
  readable : Bool
  writing : Writing

def osError : PyError := ⟨.os, "OSError", "input or output failed"⟩

variable (system : System) (store : MaintenanceStateStore) (disk : Disk) (handle : Nat)
  (sight : Sight)

/-- `_write`; the file is replaced as a whole. -/
def write (value : State) : EStateM PyError File Unit :=
  match disk.writing with
  | .done => set (some value)
  | .failedBefore => throw osError
  | .failedAfter => do
      set (some value)
      throw osError

/-- `MaintenanceStateStore`: the mission whose ledger it is. -/
structure MaintenanceStateStore where
  missionId : String
  missionSha256 : Digest

namespace MaintenanceStateStore

/-- `_state`: the ledger is one of this mission. -/
def belongs (state : State) : Bool :=
  state.missionId == store.missionId && state.missionSha256 = store.missionSha256

def read : EStateM PyError File State := do
  match disk.readable, ← get with
  | true, some state => do
      ofExcept (need (store.belongs state) "state-mission-mismatch")
      return state
  | true, none => throw ⟨.os, "FileNotFoundError", "maintenance-state.json"⟩
  | false, _ => throw osError

/-- `initialize`, which links a new file and never replaces one. -/
def initialize' : EStateM PyError File Unit := do
  match ← get with
  | some _ => throw ⟨.os, "FileExistsError", "maintenance-state.json"⟩
  | none => write disk ⟨store.missionId, store.missionSha256, 0, .active, []⟩

def claimOperation (operationId : String)
    (operationSha256 planSha256 : Digest) (expectedGeneration : Nat) : EStateM PyError File Unit := do
  ofExcept (text operationId "operation-id")
  let state ← store.read disk
  ofExcept (need (state.status = .active && state.revocationGeneration == expectedGeneration)
    "authority-not-current")
  ofExcept (need (state.row operationId).isNone "operation-already-consumed")
  write disk (state.setRow operationId ⟨operationSha256, planSha256, none⟩)

/-- The row that `settle` settles. -/
def settled (state : State) (operationId : String) (operationSha256 : Digest) (outcome : Outcome) :
    Except PyError State :=
  match state.row operationId with
  | some ⟨sha256, planSha256, none⟩ =>
    if sha256 = operationSha256 then
      .ok (state.setRow operationId ⟨sha256, planSha256, some outcome⟩)
    else .error (maintenanceError "settlement-operation-mismatch")
  | _ => .error (maintenanceError "settlement-operation-mismatch")

def settle (operationId : String)
    (operationSha256 : Digest) (outcome : Outcome) : EStateM PyError File Unit := do
  let state ← store.read disk
  let after ← ofExcept (settled state operationId operationSha256 outcome)
  write disk after

def revoke (completed : Bool) :
    EStateM PyError File Unit := do
  let state ← store.read disk
  ofExcept (need (state.status = .active) "authority-already-inactive")
  write disk { state with
    status := if completed then .completed else .revoked
    revocationGeneration := state.revocationGeneration + 1 }

end MaintenanceStateStore

/-- What a capability binds of its operation. -/
structure Operation where
  operationId : String
  revocationGeneration : Nat
  operationSha256 : Digest
  planSha256 : Digest

/-- `VerifiedMaintenanceOperation`, with the number of the verifier that issued it. -/
structure Capability where
  verifier : Nat
  operation : Operation
  claimed : Bool

/-- How far the `claim` of a capability has got. -/
inductive Claiming where
  | checked
  | recorded
  deriving DecidableEq

instance lawfulClaiming : LawfulBEq (Nat × Claiming) := inferInstance

/-- What a verifier sees outside the ledger: whether plan, workspace and adapter are as they were. -/
structure Sight where
  disk : Disk
  unchanged : Except PyError Unit

def current (store : MaintenanceStateStore) (disk : Disk) : EStateM PyError File State := do
  let state ← store.read disk
  ofExcept (need (state.status = .active) "authority-not-current")
  return state

/-- `_check_capability` of a capability that the verifier has issued. -/
def checkCapability (capability : Capability)
    (requireClaimed : Bool) : EStateM PyError File Unit := do
  let state ← current store sight.disk
  ofExcept sight.unchanged
  let operation := capability.operation
  ofExcept (need (state.revocationGeneration == operation.revocationGeneration)
    "revocation-generation-mismatch")
  if requireClaimed then
    ofExcept (need (capability.claimed && state.row operation.operationId =
      some ⟨operation.operationSha256, operation.planSha256, none⟩) "operation-not-live-claimed")
  else
    ofExcept (need (!capability.claimed && (state.row operation.operationId).isNone)
      "operation-already-consumed")

/-- `verify_operation` of a plan and an operation that are signed and in scope. -/
def verifyOperation (operation : Operation) :
    EStateM PyError File Unit := do
  let state ← current store sight.disk
  ofExcept (need (state.revocationGeneration == operation.revocationGeneration)
    "revocation-generation-mismatch")
  ofExcept (need (state.row operation.operationId).isNone "operation-already-consumed")
  ofExcept sight.unchanged

/-- The file, the capabilities that were issued, and the claims that are under way. -/
structure System where
  file : File
  capabilities : List Capability
  claiming : List (Nat × Claiming)

/-- One locked section of a call. -/
inductive Move where
  | start (store : MaintenanceStateStore) (disk : Disk)
  | claimOperation (store : MaintenanceStateStore) (disk : Disk) (operationId : String)
      (operationSha256 planSha256 : Digest) (expectedGeneration : Nat)
  | settle (store : MaintenanceStateStore) (disk : Disk) (operationId : String)
      (operationSha256 : Digest) (outcome : Outcome)
  | revoke (store : MaintenanceStateStore) (disk : Disk) (completed : Bool)
  | verify (verifier : Nat) (sight : Sight) (operation : Operation)
  | beginClaim (handle : Nat) (sight : Sight)
  | recordClaim (handle : Nat) (disk : Disk)
  | endClaim (handle : Nat) (sight : Sight)
  | revalidate (handle : Nat) (sight : Sight) (requireClaimed : Bool)

/-- What a move came to: a call that ended, or one that goes on or has not begun. -/
inductive Ended where
  | returned
  | raised (error : PyError)
  | pending

namespace System

/-- A section that leaves the capabilities alone. -/
def perform (program : EStateM PyError File Unit) : System × Ended :=
  match program system.file with
  | .ok _ file => ({ system with file }, .returned)
  | .error error file => ({ system with file }, .raised error)

/-- Some call of the verifier holds its lock. -/
def busy (verifier : Nat) : Bool :=
  system.claiming.any fun entry =>
    (system.capabilities[entry.1]?.map Capability.verifier) == some verifier

def release : System := { system with claiming := system.claiming.filter (·.1 != handle) }

/-- `capability._claimed = True`. -/
def markClaimed : System :=
  { system with
    capabilities := system.capabilities.modify handle fun capability =>
      { capability with claimed := true } }

/-- `verify_operation`. -/
def verify (verifier : Nat) (sight : Sight) (operation : Operation) : System × Ended :=
  match verifyOperation store sight operation system.file with
  | .ok _ file =>
    ({ system with file, capabilities := system.capabilities ++ [⟨verifier, operation, false⟩] },
      .returned)
  | .error error file => ({ system with file }, .raised error)

/-- `claim` up to the call of the ledger. -/
def beginClaim (capability : Capability) : System × Ended :=
  match checkCapability store sight capability false system.file with
  | .ok _ file => ({ system with file, claiming := (handle, .checked) :: system.claiming }, .pending)
  | .error error file => ({ system with file }, .raised error)

/-- The call of the ledger in `claim`. -/
def recordClaim (disk : Disk) (operation : Operation) : System × Ended :=
  match store.claimOperation disk operation.operationId operation.operationSha256
      operation.planSha256 operation.revocationGeneration system.file with
  | .ok _ file =>
    let recorded := ({ system with file }.release handle).markClaimed handle
    ({ recorded with claiming := (handle, .recorded) :: recorded.claiming }, .pending)
  | .error error file => ({ system with file }.release handle, .raised error)

/-- The end of `claim`. -/
def endClaim (capability : Capability) : System × Ended :=
  let done := system.perform (checkCapability store sight capability true)
  (done.1.release handle, done.2)

/-- A move that the state of its call does not allow leaves everything as it is. -/
def waits : System × Ended := (system, .pending)

/-- The lock of a verifier serializes its calls; `store verifier` is the ledger that it reads. -/
def step (store : Nat → MaintenanceStateStore) (system : System) : Move → System × Ended
  | .start store disk => system.perform (store.initialize' disk)
  | .claimOperation store disk operationId operationSha256 planSha256 generation =>
    system.perform (store.claimOperation disk operationId operationSha256 planSha256 generation)
  | .settle store disk operationId operationSha256 outcome =>
    system.perform (store.settle disk operationId operationSha256 outcome)
  | .revoke store disk completed => system.perform (store.revoke disk completed)
  | .verify verifier sight operation =>
    if system.busy verifier then system.waits
    else system.verify (store verifier) verifier sight operation
  | .beginClaim handle sight =>
    match system.capabilities[handle]? with
    | some capability =>
      if system.busy capability.verifier then system.waits
      else system.beginClaim (store capability.verifier) handle sight capability
    | none => system.waits
  | .recordClaim handle disk =>
    match system.capabilities[handle]? with
    | some capability =>
      if (handle, Claiming.checked) ∈ system.claiming then
        system.recordClaim (store capability.verifier) handle disk capability.operation
      else system.waits
    | none => system.waits
  | .endClaim handle sight =>
    match system.capabilities[handle]? with
    | some capability =>
      if (handle, Claiming.recorded) ∈ system.claiming then
        system.endClaim (store capability.verifier) handle sight capability
      else system.waits
    | none => system.waits
  | .revalidate handle sight requireClaimed =>
    match system.capabilities[handle]? with
    | some capability =>
      if system.busy capability.verifier then system.waits
      else system.perform
        (checkCapability (store capability.verifier) sight capability requireClaimed)
    | none => system.waits

end System

/-- One move of a run. -/
structure Transition where
  before : System
  move : Move
  ended : Ended
  after : System

def run (store : Nat → MaintenanceStateStore) (system : System) : List Move → List Transition
  | [] => []
  | move :: rest =>
    let done := system.step store move
    ⟨system, move, done.2, done.1⟩ :: run store done.1 rest

def System.empty : System := ⟨none, [], []⟩

end WorkOrchestration.Native.Maintenance
