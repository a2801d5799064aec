import WorkOrchestration.Native.PrecommitRuns

/-!
# Precommit leases

Many precommit states and the registry of their identities and leases.  Exclusivity is looked at only
when a state is registered, so it lasts as long as closed states stay closed.
-/

namespace WorkOrchestration.Native.PrecommitLeases

open Lib.Runs Artifacts PoolContracts Precommit

/-- An entry of `leases.json`; its paths are resolved. -/
structure Lease where
  stateId : String
  stateFile : String
  packetId : String
  attemptNonce : String
  sessionFile : String
  workdir : String
  ownerIdentity : OwnerIdentity
  status : Status

/-- `identities.json`, in the order of registration, and `leases.json`. -/
structure Registry where
  packetIds : List String
  attemptNonces : List String
  leases : List Lease

/-- `_paths_overlap`, of resolved paths. -/
def pathsOverlap (first second : String) : Bool :=
  (posixParts first).isPrefixOf (posixParts second) ||
    (posixParts second).isPrefixOf (posixParts first)

/-- A maintenance operation: its checks against the state, and its revalidation. -/
structure Maintenance where
  admission : Except PyError Unit
  revalidation : Except PyError Unit

/-- Whether an entry stays when a state is registered. -/
def Lease.isRetained (lease : Lease) (state : State) (host : Host) (maintained terminal : Bool) :
    Except PyError Bool :=
  if ownerIdentityMatches host lease.ownerIdentity = false then
    if terminal then .ok false
    else if maintained = false ∨ lease.sessionFile = state.sessionFile ∨
        pathsOverlap lease.workdir state.workdir = true then
      .error (valueError "stale precommit lease owner is dead but recorded state is non-terminal")
    else .ok true
  else if terminal then .ok true
  else if lease.sessionFile = state.sessionFile then
    .error (valueError "duplicate active precommit session")
  else if pathsOverlap lease.workdir state.workdir then
    .error (valueError "overlapping active precommit worktree lease")
  else .ok true

def retainedLeases (state : State) (host : Host) (maintained : Bool) (terminal : String → Bool) :
    List Lease → Except PyError (List Lease)
  | [] => .ok []
  | lease :: rest => do
      let kept ← lease.isRetained state host maintained (terminal lease.stateFile)
      let others ← retainedLeases state host maintained terminal rest
      return if kept then lease :: others else others

variable (store : Store) (state : State)

def Lease.of : Lease where
  stateId := state.stateId
  stateFile := state.stateFile
  packetId := state.packetId
  attemptNonce := state.attemptNonce
  sessionFile := state.sessionFile
  workdir := state.workdir
  ownerIdentity := state.ownerIdentity
  status := state.status

namespace Registry

/-- `_register_identity_and_lease_guarded`; `terminal` tells which state files are closed. -/
def register (registry : Registry) (state : State) (host : Host) (maintenance : Option Maintenance)
    (terminal : String → Bool) : Except PyError Registry := do
  maintenance.elim (.ok ()) (·.admission)
  if state.packetId ∈ registry.packetIds then throw (valueError "duplicate precommit packet_id")
  if state.attemptNonce ∈ registry.attemptNonces then
    throw (valueError "duplicate precommit attempt nonce")
  let retained ← retainedLeases state host maintenance.isSome terminal registry.leases
  maintenance.elim (.ok ()) (·.revalidation)
  return { packetIds := registry.packetIds ++ [state.packetId]
           attemptNonces := registry.attemptNonces ++ [state.attemptNonce]
           leases := retained ++ [Lease.of state] }

/-- `_update_lease_state`. -/
def updateLease (registry : Registry) (state : State) : Except PyError Registry :=
  if registry.leases.all (·.stateId ≠ state.stateId) then
    .error (valueError "precommit lease registry lost the active state binding")
  else
    .ok { registry with
      leases := registry.leases.map fun lease =>
        if lease.stateId = state.stateId then { lease with status := state.status } else lease }

end Registry

structure Store where
  states : List State
  registry : Registry

namespace Store

def empty : Store := ⟨[], ⟨[], [], []⟩⟩

def state? (stateFile : String) : Option State := store.states.find? (·.stateFile = stateFile)

def write : Store :=
  { store with
    states := store.states.map fun held => if held.stateFile = state.stateFile then state else held }

def isClosed (stateFile : String) : Bool := (store.state? stateFile).any (·.status = .closed)

/-- An operation on a state file, which updates the lease after the state is written. -/
def update (stateFile : String) (operation : State → Except PyError State) :
    Store × Except PyError Unit :=
  match store.state? stateFile with
  | none => (store, .error (valueError "precommit state is unreadable"))
  | some state =>
    match operation state with
    | .error error => (store, .error error)
    | .ok after =>
      match store.registry.updateLease after with
      | .error error => (store.write after, .error error)
      | .ok registry => ({ store.write after with registry }, .ok ())

/-- The creation of a state: it is registered, and then written, unless that fails. -/
def create (setting : Setting) (request : Request) (evidence : Evidence)
    (maintenance : Option Maintenance) (readable : String → Bool) (written : Except PyError Unit)
    (now : Int) : Store × Except PyError Unit :=
  match createPrecommitState setting.policy request evidence now with
  | .error error => (store, .error error)
  | .ok state =>
    match store.state? state.stateFile with
    | some _ => (store, .error (valueError "precommit state artifact already exists"))
    | none =>
      match store.registry.register state evidence.host maintenance
          (fun stateFile => readable stateFile && store.isClosed stateFile) with
      | .error error => (store, .error error)
      | .ok registry =>
        match written with
        | .error error => ({ store with registry }, .error error)
        | .ok _ => ({ states := store.states ++ [state], registry }, .ok ())

end Store

inductive Call where
  | create (request : Request) (evidence : Evidence) (maintenance : Option Maintenance)
      (readable : String → Bool) (written : Except PyError Unit) (now : Int)
  | arm (stateFile : String) (evidence : Evidence) (controlTurnId : String) (now : Int)
  | markFitDispatched (stateFile : String) (evidence : Evidence)
      (controlTurnId submissionId : String) (now : Int)
  | check (stateFile : String) (evidence : Evidence) (controlTurnId : String) (now : Int)
  | finalize (stateFile : String) (evidence : Evidence) (controlTurnId : String)
      (action : ControlAction) (now : Int)
  | issue (stateFile : String) (evidence : Evidence)

/-- A check of a closed state in its control turn writes nothing. -/
def rests (controlTurnId : String) : Prop :=
  state.status = .closed ∧ state.requireControlTurn controlTurnId = .ok ()

instance (controlTurnId : String) : Decidable (rests state controlTurnId) :=
  inferInstanceAs (Decidable (_ ∧ _))

def Store.call (setting : Setting) : Call → Store × Except PyError Unit
  | .create request evidence maintenance readable written now =>
    store.create setting request evidence maintenance readable written now
  | .arm stateFile evidence controlTurnId now =>
    store.update stateFile fun state => state.armPrecommit evidence controlTurnId now
  | .markFitDispatched stateFile evidence controlTurnId submissionId now =>
    store.update stateFile fun state =>
      state.markFitDispatched evidence controlTurnId submissionId now
  | .check stateFile evidence controlTurnId now =>
    if (store.state? stateFile).any fun state => decide (rests state controlTurnId) then
      (store, ((store.state? stateFile).elim (.ok ()) fun state =>
        (state.checkPrecommit setting.loads evidence controlTurnId now).map fun _ => ()))
    else
      store.update stateFile fun state =>
        state.checkPrecommit setting.loads evidence controlTurnId now
  | .finalize stateFile evidence controlTurnId action now =>
    store.update stateFile fun state => state.finalizePrecommit evidence controlTurnId action now
  | .issue stateFile evidence =>
    (store, (store.state? stateFile).elim (.error (valueError "precommit state is unreadable"))
      fun state => (issuePrecommitReceipt setting.policy state evidence).map fun _ => ())

structure Step where
  before : Store
  call : Call
  after : Store
  result : Except PyError Unit

def run (setting : Setting) (store : Store) : List Call → List Step
  | [] => []
  | call :: rest =>
    let outcome := store.call setting call
    ⟨store, call, outcome.1, outcome.2⟩ :: run setting outcome.1 rest

end WorkOrchestration.Native.PrecommitLeases
