import WorkOrchestration.Native.TransactionPlans

/-!
# Turn dispatch records

The evidence of one `turn/start` request: what has been reserved before the only
write on the wire, what became of it, and the successors that a record may have.
-/

namespace WorkOrchestration.Native.TurnDispatch

open Lib.Checks Lib.Text Artifacts
open Artifacts.Json (equalsNat hashable insertField isOneOf truthy)
open ActivationLedger (isHexDigit)
open OperatorApprovals (dashed sortedTexts)
open ProtectedChanges (isSha256 typeName)
open TransactionPlans (dumpsError?)

/-- A value with its numbers in lowest terms and its keys in order. -/
def plain : Json → Json
  | .bool value => .int value.toNat
  | .ratio numerator denominator =>
    let divisor := numerator.natAbs.gcd denominator
    if denominator / divisor = 1 then .int (numerator / divisor)
    else .ratio (numerator / divisor) (denominator / divisor)
  | .item head tail => .item (plain head) (plain tail)
  | .field key value rest => insertField key (plain value) (plain rest)
  | value => value

/-- `left == right`: numbers of different types may be equal. -/
def same (left right : Json) : Bool := plain left == plain right

def isInt (minimum : Int) : Json → Bool
  | .int value => minimum ≤ value
  | _ => false

def isBool : Json → Bool
  | .bool _ => true
  | _ => false

def turnDispatchArtifactType : String := "cwo-native-turn-dispatch:v1"

def turnDispatchStatuses : List String :=
  ["prepared", "dispatching", "acknowledged", "failed-contained", "failed-ambiguous"]

/-- `TURN_DISPATCH_LEDGER_RESOLUTIONS`. -/
def ledgerResolutions : List String := ["pending", "turn-bound", "verified-absent"]

def turnDispatchFields : List String :=
  ["artifact_type", "version", "thread_id", "turn_intent_id", "client_user_message_id",
    "request_id", "connection_epoch_sha256", "notification_cursor",
    "notification_connection_epoch_sha256", "preexisting_turn_ids", "ledger_id",
    "ledger_head_entry_sha256", "turn_intent_entry_sha256", "wire_request_sha256",
    "wire_write_attempt_count", "status", "ambiguity_reason", "exact_response_turn_id",
    "notification_sequences", "discovered_turn_ids", "interrupt_attempted_turn_ids",
    "interrupt_failed_turn_ids", "terminal_status_by_turn", "active_turn_ids_at_final_check",
    "query_count", "absence_verified", "absence_proof_sha256", "archived", "ledger_resolution",
    "record_sha256"]

/-- `NativeTurnDispatchError`. -/
def turnDispatchError (message : String) : PyError := ⟨.value, "NativeTurnDispatchError", message⟩

/-- `_record_sha256`; the digest is taken in a domain of its own. -/
def recordSha256 (value : Json) : Except PyError Json :=
  let unsigned := value.erase "record_sha256"
  match dumpsError? unsigned with
  | some error => .error error
  | none => .ok (.sha256 (.arr [.bytes "cwo-native-turn-dispatch-record", unsigned.canonical]))

/-- `_UUID_RE`. -/
def isUuidText (text : String) : Bool :=
  text.length == 36 && text.toList.zipIdx.all fun entry =>
      if [8, 13, 18, 23].contains entry.2 then entry.1 == '-'
      else if entry.2 = 14 then ['1', '2', '3', '4', '5'].contains entry.1
      else if entry.2 = 19 then ['8', '9', 'a', 'b'].contains entry.1
      else isHexDigit entry.1

def isUuid : Json → Bool
  | .str text => isUuidText text
  | _ => false

def characters? : Json → Option (List Char)
  | .str text => some text.toList
  | .sha256 preimage => some (Digest.hex ⟨preimage⟩).toList
  | _ => none

/-- `isinstance(value, str) and value`. -/
def isNonemptyText (value : Json) : Bool :=
  match characters? value with
  | some characters => !characters.isEmpty
  | none => false

/-- `value == sorted(set(value))`: each value is smaller than the next. -/
def ascending {α : Type} (before : α → α → Bool) : List α → Bool
  | first :: second :: rest => before first second && ascending before (second :: rest)
  | _ => true

def isSortedUniqueStrings (value : Json) : Bool :=
  match value.elements? with
  | none => false
  | some items =>
    items.all isNonemptyText &&
      ascending (fun left right => decide (left < right)) (items.filterMap characters?)

/-- The number that an integer is. -/
def integer? : Json → Option Int
  | .int number => some number
  | _ => none

def isSortedUniqueInts (value : Json) : Bool :=
  match value.elements? with
  | none => false
  | some items =>
    items.all (isInt 1) &&
      ascending (fun left right => decide (left < right)) (items.filterMap integer?)

/-- `iter(value)`. -/
def iterated (value : Json) : Except PyError (List Json) :=
  match value.elements? with
  | some items => .ok items
  | none =>
    match characters? value with
    | some characters => .ok (characters.map fun character => .str (String.singleton character))
    | none =>
      if value.isObject then .ok (value.keys.map .str)
      else .error ⟨.type, "TypeError", "'" ++ typeName value ++ "' object is not iterable"⟩

/-- `set(value)`. -/
def setOf (value : Json) : Except PyError (List Json) := do
  let items ← iterated value
  items.forM hashable
  return items

def isSubset (left right : List Json) : Bool := left.all fun item => right.any (same item)

/-- `set(left) != set(right)`. -/
def differ (left right : Json) : Except PyError Bool := do
  let first ← setOf left
  let second ← setOf right
  return !(isSubset first second && isSubset second first)

/-- `item in container`. -/
def isIn (item container : Json) : Except PyError Bool :=
  match container.elements?, characters? container, characters? item with
  | some items, _, _ => .ok (items.any (same item))
  | none, some text, some part => .ok (text.tails.any part.isPrefixOf)
  | none, some _, none =>
    .error ⟨.type, "TypeError",
      "'in <string>' requires string as left operand, not " ++ typeName item⟩
  | none, none, _ => do
      let keys ← iterated container
      hashable item
      return keys.any (same item)

/-- A number as a quotient; the denominator of one that is not finite is zero. -/
def quotient? : Json → Option (Int × Nat)
  | .bool value => some (value.toNat, 1)
  | .int value => some (value, 1)
  | .ratio numerator denominator => some (numerator, denominator)
  | _ => none

/-- `left <= right` for numbers. -/
def quotientLe (left right : Int × Nat) : Bool :=
  if left = (0, 0) ∨ right = (0, 0) then false
  else if left.2 = 0 ∧ right.2 = 0 then left.1 ≤ 0 || 0 ≤ right.1
  else left.1 * right.2 ≤ right.1 * left.2

/-- `value < 1`. -/
def belowOne (value : Json) : Except PyError Bool :=
  match quotient? value with
  | some number => .ok (quotientLe number (1, 1) && !quotientLe (1, 1) number)
  | none =>
    .error ⟨.type, "TypeError", "'<' not supported between instances of '" ++ typeName value ++
      "' and 'int'"⟩

/-- `left <= right`. -/
def lessOrEqual : Json → Json → Except PyError Bool
  | .arrEnd, .arrEnd => .ok true
  | .arrEnd, .item .. => .ok true
  | .item .., .arrEnd => .ok false
  | .item left lefts, .item right rights =>
    if same left right then lessOrEqual lefts rights else lessOrEqual left right
  | left, right =>
    match quotient? left, quotient? right, characters? left, characters? right with
    | some first, some second, _, _ => .ok (quotientLe first second)
    | _, _, some first, some second => .ok (decide (first ≤ second))
    | _, _, _, _ =>
      .error ⟨.type, "TypeError", "'<=' not supported between instances of '" ++
        typeName left ++ "' and '" ++ typeName right ++ "'"⟩

/-- `any(conditions)`, which stops at the first that holds. -/
def anyOf {α : Type} (holds : α → Except PyError Bool) : List α → Except PyError Bool
  | [] => .ok false
  | first :: rest => do if ← holds first then return true else anyOf holds rest

/-- `errors.append(error)` if a rule is broken. -/
def finding (broken : Except PyError Bool) (error : String) : Except PyError (List String) := do
  return reject ((← broken) = true) error

/-- The findings of rules that are checked one after the other. -/
def gather : List (Except PyError (List String)) → Except PyError (List String)
  | [] => .ok []
  | first :: rest => do
      let errors ← first
      return errors ++ (← gather rest)

/-- `item not in {...}` for a set of texts. -/
def isOutside (texts : List String) (value : Json) : Except PyError Bool := do
  hashable value
  return !isOneOf texts value

/-- A terminal status of a turn that the record may not name. -/
def isForeignTerminal (entry : String × Json) : Except PyError Bool :=
  if entry.1 = "" then .ok true else isOutside ["completed", "failed", "interrupted"] entry.2

def entriesOf : Json → List (String × Json)
  | .field key value rest => (key, value) :: entriesOf rest
  | _ => []

section

variable (value : Json)

/-- The identity that the record reserves and the turns that were there before. -/
def identityFindings : Except PyError (List String) :=
  let epoch := value.value "notification_connection_epoch_sha256"
  .ok (reject (value.value "artifact_type" ≠ .str turnDispatchArtifactType)
      "turn-dispatch-artifact-type-invalid" ++
    reject ((value.value "version").equalsNat 1 = false) "turn-dispatch-version-invalid" ++
    reject (isNonemptyText (value.value "thread_id") = false) "turn-dispatch-thread-id-invalid" ++
    reject (isUuid (value.value "turn_intent_id") = false) "turn-dispatch-intent-id-invalid" ++
    reject (same (value.value "client_user_message_id") (value.value "turn_intent_id") = false)
      "turn-dispatch-client-message-binding-invalid" ++
    reject (isInt 1 (value.value "request_id") = false) "turn-dispatch-request-id-invalid" ++
    reject (isSha256 (value.value "connection_epoch_sha256") = false)
      "turn-dispatch-connection-epoch-invalid" ++
    reject (isInt 0 (value.value "notification_cursor") = false)
      "turn-dispatch-notification-cursor-invalid" ++
    reject (epoch ≠ .null ∧ isSha256 epoch = false)
      "turn-dispatch-notification-connection-epoch-invalid" ++
    ["preexisting_turn_ids", "discovered_turn_ids", "interrupt_attempted_turn_ids",
      "interrupt_failed_turn_ids", "active_turn_ids_at_final_check"].flatMap (fun field =>
        reject (isSortedUniqueStrings (value.value field) = false)
          ("turn-dispatch-" ++ dashed field ++ "-invalid")) ++
    (if isSortedUniqueInts (value.value "notification_sequences") then
      reject (truthy (value.value "notification_sequences") = true ∧ epoch = .null)
        "turn-dispatch-notification-connection-epoch-missing"
    else ["turn-dispatch-notification-sequences-invalid"]))

def linkFindings : Except PyError (List String) :=
  let linked := ["ledger_id", "ledger_head_entry_sha256", "turn_intent_entry_sha256"].map
    fun field => decide (value.value field = .null)
  .ok (reject (value.value "ledger_id" ≠ .null ∧ isUuid (value.value "ledger_id") = false)
      "turn-dispatch-ledger-id-invalid" ++
    ["ledger_head_entry_sha256", "turn_intent_entry_sha256"].flatMap (fun field =>
      reject (value.value field ≠ .null ∧ isSha256 (value.value field) = false)
        ("turn-dispatch-" ++ dashed field ++ "-invalid")) ++
    reject (linked.dedup.length ≠ 1) "turn-dispatch-ledger-link-incomplete" ++
    reject (isSha256 (value.value "wire_request_sha256") = false)
      "turn-dispatch-wire-request-sha256-invalid")

/-- `value.get("wire_write_attempt_count") not in {0, 1}`. -/
def countFindings : Except PyError (List String) := do
  let count := value.value "wire_write_attempt_count"
  hashable count
  return reject (count.equalsNat 0 = false ∧ count.equalsNat 1 = false)
    "turn-dispatch-wire-write-count-invalid"

def progressFindings : Except PyError (List String) :=
  let reason := value.value "ambiguity_reason"
  let exactTurn := value.value "exact_response_turn_id"
  let terminal := value.value "terminal_status_by_turn"
  let proof := value.value "absence_proof_sha256"
  gather [
    finding (isOutside turnDispatchStatuses (value.value "status")) "turn-dispatch-status-invalid",
    .ok (reject (reason ≠ .null ∧ isNonemptyText reason = false)
      "turn-dispatch-ambiguity-reason-invalid"),
    .ok (reject (exactTurn ≠ .null ∧ isNonemptyText exactTurn = false)
      "turn-dispatch-exact-response-turn-id-invalid"),
    finding (if terminal.isObject then anyOf isForeignTerminal (entriesOf terminal) else .ok true)
      "turn-dispatch-terminal-statuses-invalid",
    .ok (reject (isInt 0 (value.value "query_count") = false) "turn-dispatch-query-count-invalid"),
    .ok (["absence_verified", "archived"].flatMap fun field =>
      reject (isBool (value.value field) = false) ("turn-dispatch-" ++ dashed field ++ "-invalid")),
    .ok (reject (proof ≠ .null ∧ isSha256 proof = false)
      "turn-dispatch-absence-proof-sha256-invalid"),
    finding (isOutside ledgerResolutions (value.value "ledger_resolution"))
      "turn-dispatch-ledger-resolution-invalid"]

def emptyProgress : Bool :=
  decide (value.value "exact_response_turn_id" = .null) &&
    decide (value.value "notification_connection_epoch_sha256" = .null) &&
    ["notification_sequences", "discovered_turn_ids", "interrupt_attempted_turn_ids",
      "interrupt_failed_turn_ids", "terminal_status_by_turn",
      "active_turn_ids_at_final_check"].all (fun field => !truthy (value.value field)) &&
    (value.value "query_count").equalsNat 0 &&
    decide (value.value "absence_verified" = .bool false) &&
    decide (value.value "absence_proof_sha256" = .null) &&
    decide (value.value "archived" = .bool false)

/-- A record of which nothing but the number of attempts is known. -/
def isBlank (attempts : Nat) : Bool :=
  (value.value "wire_write_attempt_count").equalsNat attempts &&
    decide (value.value "ambiguity_reason" = .null) &&
    decide (value.value "ledger_resolution" = .str "pending") && emptyProgress value

/-- A record of a turn that the response has named. -/
def isAcknowledged : Bool :=
  let exactTurn := value.value "exact_response_turn_id"
  (value.value "wire_write_attempt_count").equalsNat 1 && decide (exactTurn ≠ .null) &&
    same (value.value "discovered_turn_ids") (.arr [exactTurn]) &&
    decide (value.value "ledger_resolution" = .str "turn-bound") &&
    decide (value.value "ambiguity_reason" = .null) &&
    decide (value.value "notification_connection_epoch_sha256" = .null) &&
    ["notification_sequences", "interrupt_attempted_turn_ids", "interrupt_failed_turn_ids",
      "terminal_status_by_turn", "active_turn_ids_at_final_check"].all
        (fun field => !truthy (value.value field)) &&
    (value.value "query_count").equalsNat 0 &&
    decide (value.value "absence_verified" = .bool false) &&
    decide (value.value "absence_proof_sha256" = .null) &&
    decide (value.value "archived" = .bool false)

/-- Turns may still be running: no absence, active turns or an interrupt that failed. -/
def mayRun : Bool :=
  !truthy (value.value "absence_verified") || truthy (value.value "active_turn_ids_at_final_check") ||
    truthy (value.value "interrupt_failed_turn_ids")

/-- `not contained`, for a record that says it is. -/
def isUncontained : Except PyError Bool :=
  let resolution := value.value "ledger_resolution"
  if mayRun value then .ok true
  else do
    if ← differ (value.value "discovered_turn_ids") (value.value "terminal_status_by_turn") then
      return true
    if ← isOutside ["turn-bound", "verified-absent"] resolution then return true
    return truthy (value.value "discovered_turn_ids") != decide (resolution = .str "turn-bound") ||
      decide (value.value "archived" ≠ .bool true)

/-- A record that is archived before its turns are known to be over. -/
def isArchivedEarly : Except PyError Bool :=
  if truthy (value.value "archived") then
    if mayRun value then .ok true
    else do
      if ← differ (value.value "discovered_turn_ids") (value.value "terminal_status_by_turn") then
        return true
      return decide (value.value "ledger_resolution" = .str "pending")
  else .ok false

/-- What each status asks of the record. -/
def statusFindings : Except PyError (List String) :=
  let status := value.value "status"
  let failed := isOneOf ["failed-contained", "failed-ambiguous"] status
  gather [.ok (reject (status = .str "prepared" ∧ isBlank value 0 = false)
      "turn-dispatch-prepared-state-invalid"),
    .ok (reject (status = .str "dispatching" ∧ isBlank value 1 = false)
      "turn-dispatch-dispatching-state-invalid"),
    .ok (reject (status = .str "acknowledged" ∧ isAcknowledged value = false)
      "turn-dispatch-acknowledged-state-invalid"),
    .ok (reject (failed = true ∧ ((value.value "wire_write_attempt_count").equalsNat 1 = false ∨
          value.value "ambiguity_reason" = .null))
      "turn-dispatch-ambiguous-state-invalid"),
    finding (if status = .str "failed-contained" then isUncontained value else .ok false)
      "turn-dispatch-contained-proof-invalid",
    finding (if status = .str "failed-ambiguous" then isArchivedEarly value else .ok false)
      "turn-dispatch-ambiguous-archive-invalid"]

/-- `not set(left).issubset(right)`. -/
def exceeds (left right : String) : Except PyError Bool := do
  let first ← setOf (value.value left)
  let second ← setOf (value.value right)
  return !isSubset first second

/-- The order in which turns are discovered, interrupted and ended. -/
def phaseFindings : Except PyError (List String) := do
  let exactTurn := value.value "exact_response_turn_id"
  let subsets ← gather [
    finding (exceeds value "interrupt_failed_turn_ids" "interrupt_attempted_turn_ids")
      "turn-dispatch-interrupt-failure-without-attempt",
    finding (exceeds value "interrupt_attempted_turn_ids" "discovered_turn_ids")
      "turn-dispatch-interrupt-attempt-without-discovery",
    finding (exceeds value "terminal_status_by_turn" "discovered_turn_ids")
      "turn-dispatch-terminal-status-without-discovery",
    finding (if exactTurn = .null then .ok false
        else (isIn exactTurn (value.value "discovered_turn_ids")).map (!·))
      "turn-dispatch-exact-response-without-discovery"]
  let discovered ← setOf (value.value "discovered_turn_ids")
  let active ← setOf (value.value "active_turn_ids_at_final_check")
  let terminal ← setOf (value.value "terminal_status_by_turn")
  let preexisting ← setOf (value.value "preexisting_turn_ids")
  let epoch := value.value "notification_connection_epoch_sha256"
  let floor := if same epoch (value.value "connection_epoch_sha256")
    then value.value "notification_cursor" else .int 0
  let sequences ← iterated (value.value "notification_sequences")
  let early ← anyOf (fun sequence => lessOrEqual sequence floor) sequences
  let unasked ← if truthy (value.value "absence_verified") then
      if active.isEmpty = false then .ok true
      else if discovered.isEmpty then .ok false
      else belowOne (value.value "query_count")
    else .ok false
  return subsets ++
    reject (isSubset active discovered = false ∨ active.any (terminal.any <| same ·) = true)
      "turn-dispatch-active-turn-phase-invalid" ++
    reject (preexisting.any (discovered.any <| same ·) = true)
      "turn-dispatch-preexisting-turn-rediscovered" ++
    reject (early = true) "turn-dispatch-notification-sequence-before-cursor" ++
    reject (unasked = true) "turn-dispatch-absence-phase-invalid"

/-- What the resolution in the ledger and the archive ask of the record. -/
def resolutionFindings : Except PyError (List String) :=
  let resolution := value.value "ledger_resolution"
  let proof := value.value "absence_proof_sha256"
  let exactTurn := value.value "exact_response_turn_id"
  let absent := truthy (value.value "absence_verified")
  let failed := isOneOf ["failed-contained", "failed-ambiguous"] (value.value "status")
  do
    let discovered ← setOf (value.value "discovered_turn_ids")
    return (reject (resolution = .str "verified-absent" ∧
          (discovered ≠ [] ∨ exactTurn ≠ .null ∨ absent = false ∨ isSha256 proof = false))
        "turn-dispatch-verified-absent-resolution-invalid" ++
      reject (resolution = .str "turn-bound" ∧ (discovered = [] ∨ proof ≠ .null))
        "turn-dispatch-bound-resolution-invalid" ++
      reject (proof ≠ .null ∧ (discovered ≠ [] ∨ absent = false))
        "turn-dispatch-absence-proof-phase-invalid" ++
      reject (truthy (value.value "archived") = true ∧ failed = false)
        "turn-dispatch-archive-phase-invalid" ++
      reject (failed = false ∧ (value.value "notification_connection_epoch_sha256" ≠ .null ∨
            ["notification_sequences", "interrupt_attempted_turn_ids", "terminal_status_by_turn",
              "active_turn_ids_at_final_check", "query_count"].any
                (fun field => truthy (value.value field)) = true))
        "turn-dispatch-noncontainment-progress-invalid")

/-- The findings of a record with the right fields, but for its digest. -/
def contentFindings : Except PyError (List String) :=
  gather [identityFindings value, linkFindings value, countFindings value, progressFindings value,
    statusFindings value, phaseFindings value, resolutionFindings value]

/-- `value.get("record_sha256") != _record_sha256(value)`. -/
def digestFindings : Except PyError (List String) := do
  let digest ← recordSha256 value
  return reject (value.value "record_sha256" ≠ digest) "turn-dispatch-record-sha256-invalid"

def validateTurnDispatchRecord : Except PyError (List String) :=
  if value.isObject then
    let missing := sortedTexts (turnDispatchFields.filter fun key => !value.keys.contains key)
    let unknown := sortedTexts (value.keys.filter fun key => !turnDispatchFields.contains key)
    if missing.isEmpty && unknown.isEmpty then gather [contentFindings value, digestFindings value]
    else
      .ok ((if missing.isEmpty then [] else
          ["turn-dispatch-record-missing-fields:" ++ joinWith "," missing]) ++
        (if unknown.isEmpty then [] else
          ["turn-dispatch-record-unknown-fields:" ++ joinWith "," unknown]))
  else .ok ["turn-dispatch-record-must-be-object"]

/-- `if errors: raise`. -/
def requireValid : Except PyError Unit := do
  let errors ← validateTurnDispatchRecord value
  if errors.isEmpty then .ok () else .error (turnDispatchError (joinWith ";" errors))

def sealTurnDispatchRecord : Except PyError Json := do
  let digest ← recordSha256 value
  let record := value.set "record_sha256" digest
  requireValid record
  return record

end

/-- `TurnDispatchReservation`; the annotations of its fields are not enforced. -/
structure TurnDispatchReservation where
  threadId : Json
  turnIntentId : Json
  requestId : Json
  connectionEpochSha256 : Json
  notificationCursor : Json
  preexistingTurnIds : List String
  ledgerId : Json
  ledgerHeadEntrySha256 : Json
  turnIntentEntrySha256 : Json
  wireRequestSha256 : Json

/-- The record of a reservation before it is sealed. -/
def TurnDispatchReservation.document (reservation : TurnDispatchReservation) : Json :=
  .obj [
    ("artifact_type", .str turnDispatchArtifactType),
    ("version", .int 1),
    ("thread_id", reservation.threadId),
    ("turn_intent_id", reservation.turnIntentId),
    ("client_user_message_id", reservation.turnIntentId),
    ("request_id", reservation.requestId),
    ("connection_epoch_sha256", reservation.connectionEpochSha256),
    ("notification_cursor", reservation.notificationCursor),
    ("notification_connection_epoch_sha256", .null),
    ("preexisting_turn_ids", .strings (sortedTexts reservation.preexistingTurnIds)),
    ("ledger_id", reservation.ledgerId),
    ("ledger_head_entry_sha256", reservation.ledgerHeadEntrySha256),
    ("turn_intent_entry_sha256", reservation.turnIntentEntrySha256),
    ("wire_request_sha256", reservation.wireRequestSha256),
    ("wire_write_attempt_count", .int 0),
    ("status", .str "prepared"),
    ("ambiguity_reason", .null),
    ("exact_response_turn_id", .null),
    ("notification_sequences", .arr []),
    ("discovered_turn_ids", .arr []),
    ("interrupt_attempted_turn_ids", .arr []),
    ("interrupt_failed_turn_ids", .arr []),
    ("terminal_status_by_turn", .obj []),
    ("active_turn_ids_at_final_check", .arr []),
    ("query_count", .int 0),
    ("absence_verified", .bool false),
    ("absence_proof_sha256", .null),
    ("archived", .bool false),
    ("ledger_resolution", .str "pending"),
    ("record_sha256", .str "")]

def TurnDispatchReservation.preparedRecord (reservation : TurnDispatchReservation) :
    Except PyError Json :=
  sealTurnDispatchRecord reservation.document

def reservedIdentities : List String :=
  ["artifact_type", "version", "thread_id", "turn_intent_id", "client_user_message_id",
    "request_id", "connection_epoch_sha256", "notification_cursor", "preexisting_turn_ids",
    "ledger_id", "ledger_head_entry_sha256", "turn_intent_entry_sha256", "wire_request_sha256"]

/-- `evolved.update(updates)`. -/
def applied (record : Json) (updates : List (String × Json)) : Json :=
  updates.foldl (fun document update => document.set update.1 update.2) record

/-- `evolve_turn_dispatch_record`, given the keyword arguments. -/
def evolveTurnDispatchRecord (record : Json) (updates : List (String × Json)) :
    Except PyError Json := do
  if (updates.map (·.1)).contains "record" then
    throw ⟨.type, "TypeError",
      "evolve_turn_dispatch_record() got multiple values for argument 'record'"⟩
  requireValid record
  let changed := (reservedIdentities ++ ["record_sha256"]).filter ((updates.map (·.1)).contains ·)
  if changed.isEmpty then sealTurnDispatchRecord (applied record updates)
  else throw (turnDispatchError
    ("turn-dispatch-reservation-mutation:" ++ joinWith "," (sortedTexts changed)))

end WorkOrchestration.Native.TurnDispatch
