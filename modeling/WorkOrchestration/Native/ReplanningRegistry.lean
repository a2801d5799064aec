import WorkOrchestration.Native.Documents

/-!
# Live replanning states

A replanning state is operative while the process registers it as available. Calls are interleaved between
the sections that hold the registry lock, and may raise outside of them.
-/

namespace WorkOrchestration.Native.ReplanningRegistry

open Artifacts

/-- `_replanning_identity`. -/
structure Identity where
  workUnitId : String
  beadId : String
  packetId : String
  deriving DecidableEq

/-- `VerifiedReplanningState`: an object in memory with a sealed payload. -/
structure Capability where
  address : Nat
  identity : Identity
  payload : Json

inductive Status where
  | available
  | inFlight
  | retired
  deriving DecidableEq

/-- `_ReplanningCapabilityRecord`: a weak reference to an object, and the address and payload
that its code authenticates. -/
structure Record where
  reference : Nat
  mac : Nat × Json
  status : Status

/-- `_replanning_capability_mac`. -/
def Capability.mac (capability : Capability) : Nat × Json := (capability.address, capability.payload)

/-- What a caller hands to a transition: a live object, or anything else. -/
inductive Argument where
  | capability (object : Nat)
  | other (value : Json)

/-- Where a call stands between two sections that hold the lock. -/
inductive Call where
  | validating
  | minted (object : Nat)
  | registered (object : Nat)
  | calling (argument : Argument)
  | claimed (source : Nat)
  | running (source : Nat)
  | working (source : Nat)
  | sealing (source successor : Nat)
  | failing (source : Nat) (error : PyError)
  | returned (object : Nat)
  | raised (error : PyError)

/-- The process: its objects in the order in which they were made, those that were collected,
the registry, and the calls with the successors that they have published. -/
structure System where
  objects : List Capability
  collected : List Nat
  records : Nat → Option Record
  bootstrapped : List Identity
  calls : List Call
  successors : List (Nat × Nat)

variable (system : System) (call object : Nat)

def initial : System := ⟨[], [], fun _ => none, [], [], []⟩

namespace System

/-- The object is there and has not been collected. -/
def Alive : Prop := object < system.objects.length ∧ object ∉ system.collected

instance : Decidable (system.Alive object) := inferInstanceAs (Decidable (_ ∧ _))

/-- No object that is alive lies at the address. -/
def Free (address : Nat) : Prop :=
  ∀ object < system.objects.length, system.Alive object →
    (system.objects[object]?).map Capability.address ≠ some address

instance (address : Nat) : Decidable (system.Free address) :=
  inferInstanceAs (Decidable (∀ _ < _, _))

def record? : Option Record := do
  let capability ← system.objects[object]?
  let record ← system.records capability.address
  if record.reference = object then some record else none

def setRecord (address : Nat) (record : Option Record) : System :=
  { system with records := fun other => if other = address then record else system.records other }

def setCall (next : Call) : System := { system with calls := system.calls.set call next }

/-- `_registered_replanning_state_locked`. -/
def registeredLocked (expected : Status) : Except PyError Record :=
  match system.objects[object]?, system.record? object with
  | some capability, some record =>
    if record.mac ≠ capability.mac then
      .error (valueError "malformed state: replanning live capability integrity mismatch")
    else if record.status = expected then .ok record
    else
      match record.status with
      | .inFlight => .error (valueError "replanning state transition already in-flight")
      | .retired => .error (valueError "replanning state capability is retired and stale")
      | .available => .error (valueError "replanning state capability status invalid")
  | _, _ => .error (valueError "malformed state: replanning live capability unregistered")

def setStatus (record : Record) (status : Status) : System :=
  match system.objects[object]? with
  | some capability => system.setRecord capability.address (some { record with status })
  | none => system

/-- `_register_replanning_state` of a new lifecycle. -/
def register (capability : Capability) : System :=
  if capability.identity ∈ system.bootstrapped then
    system.setCall call (.raised (valueError "replanning-lifecycle-already-bootstrapped"))
  else
    { (system.setRecord capability.address (some ⟨object, capability.mac, .available⟩)).setCall call
        (.registered object) with
      bootstrapped := system.bootstrapped ++ [capability.identity] }

/-- What `_exact_replanning_state` raises on a value that is no live object. -/
def exactError (value : Json) : PyError :=
  let required := valueError ("malformed state: live verifier-minted replanning state required; " ++
    "serialized state is inspection-only")
  if value.isObject then
    match (value.value "version").unhashable? with
    | some error => error
    | none =>
      if (value.value "version").equalsNat 1 || (value.value "version").equalsNat 2 then
        valueError "malformed state: historical replanning state is inspection-only"
      else required
  else required

/-- `_claim_replanning_transition` as far as it holds the lock. -/
def claim : Argument → System
  | .other value => system.setCall call (.raised (exactError value))
  | .capability object =>
    match system.registeredLocked object .available with
    | .error error => system.setCall call (.raised error)
    | .ok record => (system.setStatus object record .inFlight).setCall call (.claimed object)

/-- `_require_live_replanning_state` inside of a claim. -/
def requireLive (source : Nat) : System :=
  match system.registeredLocked source .inFlight with
  | .error error => system.setCall call (.failing source error)
  | .ok _ => system.setCall call (.working source)

/-- `_release_replanning_transition_claim`. -/
def release (source : Nat) (error : PyError) : System :=
  match system.record? source with
  | some record =>
    (if record.status = .inFlight then system.setStatus source record .available
      else system).setCall call (.raised error)
  | none => system.setCall call (.raised error)

/-- `_finalize_replanning_transition` of a valid successor. -/
def finalize (source successor : Nat) (old new : Capability) : System :=
  if new.identity ≠ old.identity then
    system.setCall call
      (.failing source (valueError "replanning successor lifecycle identity mismatch"))
  else
    match system.registeredLocked source .inFlight with
    | .error error => system.setCall call (.failing source error)
    | .ok record =>
      if (system.records new.address).isSome then
        system.setCall call
          (.failing source (valueError "replanning successor capability already registered"))
      else
        { (((system.setStatus source record .retired).setRecord new.address
            (some ⟨successor, new.mac, .available⟩)).setCall call (.returned successor)) with
          successors := system.successors ++ [(source, successor)] }

def mint (capability : Capability) : System :=
  { system with objects := system.objects ++ [capability] }

end System

/-- What the code outside of the locked sections does next. -/
inductive Outcome where
  | continues
  | mints (capability : Capability)
  | raises (error : PyError)

inductive Move where
  | bootstrap
  | transition (argument : Argument)
  | proceed (call : Nat) (outcome : Outcome)
  | collect (object : Nat)
  | remove (object : Nat)

/-- The objects that a call keeps alive. -/
def Call.holds : Call → List Nat
  | .minted object => [object]
  | .registered object => [object]
  | .calling (.capability object) => [object]
  | .claimed source => [source]
  | .running source => [source]
  | .working source => [source]
  | .sealing source successor => [source, successor]
  | .failing source _ => [source]
  | _ => []

/-- One call goes on to its next section. -/
def proceed (current : Call) (outcome : Outcome) : System :=
  match current, outcome with
  | .validating, .raises error => system.setCall call (.raised error)
  | .validating, .mints capability =>
    if system.Free capability.address then
      (system.mint capability).setCall call (.minted system.objects.length)
    else system
  | .minted object, .continues =>
    match system.objects[object]? with
    | some capability => system.register call object capability
    | none => system
  | .registered object, .continues => system.setCall call (.returned object)
  | .registered _, .raises error => system.setCall call (.raised error)
  | .calling argument, .continues => system.claim call argument
  | .claimed source, .continues => system.setCall call (.running source)
  | .claimed source, .raises error => system.setCall call (.failing source error)
  | .running source, .continues => system.requireLive call source
  | .working source, .raises error => system.setCall call (.failing source error)
  | .working source, .mints capability =>
    if system.Free capability.address then
      (system.mint capability).setCall call (.sealing source system.objects.length)
    else system
  | .sealing source _, .raises error => system.setCall call (.failing source error)
  | .sealing source successor, .continues =>
    match system.objects[source]?, system.objects[successor]? with
    | some old, some new => system.finalize call source successor old new
    | _, _ => system
  | .failing source error, .continues => system.release call source error
  | _, _ => system

/-- One move; a move that is not possible changes nothing. -/
def step : Move → System
  | .bootstrap => { system with calls := system.calls ++ [.validating] }
  | .transition argument =>
    match argument with
    | .other _ => { system with calls := system.calls ++ [.calling argument] }
    | .capability object =>
      if system.Alive object then { system with calls := system.calls ++ [.calling argument] }
      else system
  | .proceed call outcome =>
    match system.calls[call]? with
    | some current => proceed system call current outcome
    | none => system
  | .collect object =>
    if system.Alive object ∧ ∀ call ∈ system.calls, object ∉ call.holds then
      { system with collected := object :: system.collected }
    else system
  | .remove object =>
    match system.objects[object]? with
    | some capability =>
      if object ∈ system.collected ∧ (system.record? object).isSome then
        system.setRecord capability.address none
      else system
    | none => system

def run (moves : List Move) : System := moves.foldl step initial

end WorkOrchestration.Native.ReplanningRegistry
