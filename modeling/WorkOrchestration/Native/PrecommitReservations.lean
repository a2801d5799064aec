import WorkOrchestration.Native.Precommit

/-!
# Receipt reservations

A receipt is reserved by a process, and consumed by the commit of the reservation.  Two registry files
say so: they are read and rewritten under one lock, one after the other.
-/

namespace WorkOrchestration.Native.PrecommitReservations

open Lib.Runs Lib.Text Artifacts Precommit

/-- An entry of `receipt-reservations.json`. -/
structure Reservation where
  reservationId : String
  packetBuildId : String
  packetId : Json
  attemptNonce : Json
  stateId : Json
  stateFile : Json
  ownerIdentity : OwnerIdentity
  deriving DecidableEq

/-- An entry of `consumed-receipts.json`. -/
structure Consumption where
  packetId : Json
  attemptNonce : Json
  stateId : Json
  reservationId : String
  packetBuildId : String
  packetSha256 : Digest

/-- The two registry files. -/
structure Registries where
  consumed : Digest → Option Consumption
  reservations : Digest → Option Reservation

/-- A registry write; it can fail before or after the file is replaced. -/
inductive Write where
  | done
  | failed (replaced : Bool) (error : PyError)

/-- The file content after a write. -/
def Write.leaves {α : Type} (write : Write) (old new : α) : α :=
  match write with
  | .done => new
  | .failed replaced _ => if replaced then new else old

/-- What a call finds: the processes, its own, whether the registries can be read, which state files are
closed, and how its writes go.  A process that dies in a call has failed the write that it was at. -/
structure Sight where
  host : Host
  pid : Nat
  readable : Except PyError Unit
  terminal : String → Bool
  consumedWrite : Write
  reservationsWrite : Write

def requireHash (value : Json) (field : String) : Except PyError Digest :=
  match Digest.ofJson? value with
  | some digest => .ok digest
  | none =>
    match value with
    | .str text =>
      if strip text = "" then .error (valueError (field ++ " must be a non-empty string"))
      else .error (valueError (field ++ " must be a lowercase SHA-256 digest"))
    | _ => .error (valueError (field ++ " must be a non-empty string"))

variable (registries : Registries) (receipt : Json) (reservationId : String)

def reservationOwnerIsCurrent (sight : Sight) (owner : OwnerIdentity) : Bool :=
  owner.pid == sight.pid && ownerIdentityMatches sight.host owner

namespace Registries

def empty : Registries := ⟨fun _ => none, fun _ => none⟩

/-- Whether an existing reservation gives way. -/
def giveWay (sight : Sight) : Option Reservation → Except PyError Unit
  | none => .ok ()
  | some existing =>
    if ownerIdentityMatches sight.host existing.ownerIdentity then
      .error (valueError "precommit receipt already has an active packet-build reservation")
    else
      match existing.stateFile with
      | .str stateFile =>
        if sight.terminal stateFile then .ok ()
        else .error (valueError
          "stale receipt reservation owner is dead but state is non-terminal")
      | _ => .error (valueError
          "stale receipt reservation owner is dead but state is non-terminal")

def reservation (validity : Except PyError Unit)
    (packetBuildId reservationId : String) (sight : Sight) :
    Except PyError (Digest × Reservation) := do
  validity
  let receiptSha256 ← requireHash (receipt.value "receipt_sha256") "receipt_sha256"
  let buildId ← requireString packetBuildId "packet_build_id"
  let ownerIdentity ← captureOwnerIdentity sight.host sight.pid reservationId
  sight.readable
  if (registries.consumed receiptSha256).isSome then
    throw (valueError "precommit receipt replay detected")
  giveWay sight (registries.reservations receiptSha256)
  return (receiptSha256,
    { reservationId
      packetBuildId := buildId
      packetId := receipt.value "packet_id"
      attemptNonce := receipt.value "attempt_nonce"
      stateId := receipt.value "state_id"
      stateFile := receipt.value "state_file"
      ownerIdentity })

/-- `reserve_precommit_receipt`. -/
def reserve (validity : Except PyError Unit)
    (packetBuildId reservationId : String) (sight : Sight) : Registries × Except PyError Unit :=
  match registries.reservation receipt validity packetBuildId reservationId sight with
  | .error error => (registries, .error error)
  | .ok (receiptSha256, entry) =>
    let reservations := Function.update registries.reservations receiptSha256 (some entry)
    let left := { registries with
      reservations := sight.reservationsWrite.leaves registries.reservations reservations }
    match sight.reservationsWrite with
    | .done => (left, .ok ())
    | .failed _ error => (left, .error error)

/-- The reservation that a commit or a release is about. -/
def current (receiptSha256 : Digest) (reservationId : String)
    (sight : Sight) : Except PyError Reservation :=
  match registries.reservations receiptSha256 with
  | none => .error (valueError "precommit receipt reservation is missing or mismatched")
  | some found =>
    if found.reservationId ≠ reservationId then
      .error (valueError "precommit receipt reservation is missing or mismatched")
    else if reservationOwnerIsCurrent sight found.ownerIdentity = false then
      .error (valueError "precommit receipt reservation owner identity changed")
    else .ok found

/-- The consumption that a commit writes. -/
def consumption
    (packetSha256 : Json) (sight : Sight) : Except PyError (Digest × Consumption) := do
  let receiptSha256 ← requireHash (receipt.value "receipt_sha256") "receipt_sha256"
  let reservation ← requireString reservationId "reservation_id"
  let packetHash ← requireHash packetSha256 "packet_sha256"
  sight.readable
  if (registries.consumed receiptSha256).isSome then
    throw (valueError "precommit receipt replay detected")
  let current ← registries.current receiptSha256 reservation sight
  if current.packetId ≠ receipt.value "packet_id" then
    throw (valueError "precommit receipt reservation packet_id binding changed")
  if current.attemptNonce ≠ receipt.value "attempt_nonce" then
    throw (valueError "precommit receipt reservation attempt_nonce binding changed")
  if current.stateId ≠ receipt.value "state_id" then
    throw (valueError "precommit receipt reservation state_id binding changed")
  return (receiptSha256,
    { packetId := receipt.value "packet_id"
      attemptNonce := receipt.value "attempt_nonce"
      stateId := receipt.value "state_id"
      reservationId := reservation
      packetBuildId := current.packetBuildId
      packetSha256 := packetHash })

/-- `commit_precommit_receipt_reservation`. -/
def commit
    (packetSha256 : Json) (sight : Sight) : Registries × Except PyError Unit :=
  match registries.consumption receipt reservationId packetSha256 sight with
  | .error error => (registries, .error error)
  | .ok (receiptSha256, entry) =>
    let consumed := Function.update registries.consumed receiptSha256 (some entry)
    let entered := { registries with
      consumed := sight.consumedWrite.leaves registries.consumed consumed }
    match sight.consumedWrite with
    | .failed _ error => (entered, .error error)
    | .done =>
      let reservations := Function.update registries.reservations receiptSha256 none
      let left := { entered with
        reservations := sight.reservationsWrite.leaves registries.reservations reservations }
      match sight.reservationsWrite with
      | .done => (left, .ok ())
      | .failed _ error => (left, .error error)

/-- The receipt whose reservation a release removes. -/
def released (sight : Sight) :
    Except PyError Digest := do
  let receiptSha256 ← requireHash (receipt.value "receipt_sha256") "receipt_sha256"
  let reservation ← requireString reservationId "reservation_id"
  sight.readable
  let _ ← registries.current receiptSha256 reservation sight
  return receiptSha256

/-- `release_precommit_receipt_reservation`. -/
def release (sight : Sight) :
    Registries × Except PyError Unit :=
  match registries.released receipt reservationId sight with
  | .error error => (registries, .error error)
  | .ok receiptSha256 =>
    let reservations := Function.update registries.reservations receiptSha256 none
    let left := { registries with
      reservations := sight.reservationsWrite.leaves registries.reservations reservations }
    match sight.reservationsWrite with
    | .done => (left, .ok ())
    | .failed _ error => (left, .error error)

end Registries

/-- The calls that take the lock. -/
inductive Move where
  | reserve (receipt : Json) (validity : Except PyError Unit)
      (packetBuildId reservationId : String) (sight : Sight)
  | commit (receipt : Json) (reservationId : String) (packetSha256 : Json) (sight : Sight)
  | release (receipt : Json) (reservationId : String) (sight : Sight)

/-- `consume_precommit_receipt` takes the lock twice, and others may come in between. -/
def consumePrecommitReceipt (validity : Except PyError Unit)
    (build reservationId : String) (first second : Sight) : List Move :=
  [.reserve receipt validity ("legacy-consume-" ++ build) reservationId first,
    .commit receipt reservationId (canonicalSha256 receipt).json second]

def Registries.step : Move → Registries × Except PyError Unit
  | .reserve receipt validity packetBuildId reservationId sight =>
    registries.reserve receipt validity packetBuildId reservationId sight
  | .commit receipt reservationId packetSha256 sight =>
    registries.commit receipt reservationId packetSha256 sight
  | .release receipt reservationId sight => registries.release receipt reservationId sight

structure Step where
  before : Registries
  move : Move
  after : Registries
  result : Except PyError Unit

def run (registries : Registries) : List Move → List Step
  | [] => []
  | move :: rest =>
    let outcome := registries.step move
    ⟨registries, move, outcome.1, outcome.2⟩ :: run outcome.1 rest

end WorkOrchestration.Native.PrecommitReservations
