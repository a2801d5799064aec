import Mathlib.Algebra.Ring.Nat
import WorkOrchestration.Lib.Programs
import WorkOrchestration.Native.OperatorApprovals

/-!
# The replay store of operator approvals

A file that records every approval that was consumed, sealed with a key of its own. A verifier checks a
whole set of receipts against it and writes them all or none.
-/

namespace WorkOrchestration.Native.ApprovalStore

open Lib.Text Lib.Programs Artifacts
open Artifacts.Json (isOneOf)
open ProtectedChanges OperatorApprovals

/-- `OPERATOR_APPROVAL_REPLAY_ENTRY_FIELDS`. -/
def replayEntryFields : List String :=
  ["nonce", "approval_id", "receipt_sha256", "change_type", "before_sha256", "after_sha256"]

/-- `OPERATOR_APPROVAL_REPLAY_STORE_FIELDS`. -/
def replayStoreFields : List String := ["store_type", "version", "entries", "store_hmac_sha256"]

def replayStoreType : String := "cwo-operator-approval-replay-store"

def maxReplayStoreBytes : Nat := 8 * 1024 * 1024

def approvalReplayEntry (approval : Approval) : Json :=
  .obj (replayEntryFields.map fun field => (field, approval.audit.value field))

/-- The characters by which entries are sorted. -/
def entryKey (entry : Json) : List Char := (entry.value "receipt_sha256").encode

def sortEntries (entries : List Json) : List Json :=
  entries.mergeSort fun left right => entryKey left ≤ entryKey right

def replayStoreBody (entries : List Json) : Json :=
  .obj [("store_type", .str replayStoreType), ("version", .int 2),
    ("entries", .arr (sortEntries entries))]

def deriveReplayStoreKey (verificationKey : String) : Json :=
  hmacSha256 (.str verificationKey) (.bytes "cwo-operator-approval-replay-store-v2")

def sealedReplayStore (entries : List Json) (replayKey : Json) : Json :=
  let body := replayStoreBody entries
  body.set "store_hmac_sha256" (hmacSha256 replayKey body.canonical)

/-- An entry of a store. -/
def entryValid (entry : Json) : Bool :=
  entry.isObject && entry.hasExactly replayEntryFields &&
    replayEntryFields.all (fun field => nonemptyText (entry.value field)) &&
    isOneOf (ChangeType.all.map ChangeType.text) (entry.value "change_type") &&
    ["receipt_sha256", "before_sha256", "after_sha256"].all fun field => isSha256 (entry.value field)

/-- The fields in whose values no two entries may agree. -/
def bindingFields : List String := ["nonce", "approval_id", "receipt_sha256"]

def validateEntries : List Json → List Json → Except PyError Unit
  | _, [] => .ok ()
  | seen, entry :: rest => do
      demand (entryValid entry) "operator-approval-replay-store-entry-invalid"
      demand (bindingFields.all fun field =>
          !(seen.map (Json.value field)).contains (entry.value field))
        "operator-approval-replay-store-duplicate-binding"
      validateEntries (entry :: seen) rest

/-- `_validate_replay_store`: the entries of a valid store. -/
def validateReplayStore (value replayKey : Json) : Except PyError (List Json) := do
  let payload ← canonicalJsonObject "operator-approval-replay-store" value
  demand (payload.hasExactly replayStoreFields) "operator-approval-replay-store-fields-invalid"
  demand (payload.value "store_type" = .str replayStoreType)
    "operator-approval-replay-store-type-invalid"
  demand (payload.value "version" = .int 2) "operator-approval-replay-store-version-invalid"
  match (payload.value "entries").elements? with
  | none => .error (authorityError "operator-approval-replay-store-entries-invalid")
  | some entries => do
      validateEntries [] entries
      let expected := sealedReplayStore entries replayKey
      demand (← compareDigest (payload.value "store_hmac_sha256")
        (expected.value "store_hmac_sha256")) "operator-approval-replay-store-hmac-mismatch"
      demand (payload.canonical = expected.canonical) "operator-approval-replay-store-noncanonical"
      return sortEntries entries

/-- The bytes of a character in a JSON text that keeps other than ASCII characters. -/
def charSize (character : Char) : Nat :=
  if character = '"' ∨ character = '\\' ∨ character = '\n' ∨ character = '\r' ∨
      character = '\t' ∨ character.toNat = 8 ∨ character.toNat = 12 then 2
  else if character.toNat < 32 then 6
  else character.utf8Size

def stringSize (text : String) : Nat := (text.toList.map charSize).sum + 2

/-- The bytes of `json.dumps(value, separators=(",", ":"), ensure_ascii=False)`. -/
def textSize : Json → Nat
  | .null => 4
  | .bool value => if value then 4 else 5
  | .int value => (toString value).length
  | .ratio numerator denominator => (toString numerator).length + (toString denominator).length
  | .str text => stringSize text
  | .arrEnd => 2
  | .item head .arrEnd => textSize head + 2
  | .item head tail => textSize head + 1 + textSize tail
  | .objEnd => 2
  | .field key value .objEnd => stringSize key + 1 + textSize value + 2
  | .field key value rest => stringSize key + 1 + textSize value + 1 + textSize rest
  | .sha256 _ => 66
  | .bytes _ => 0
  | .foreign _ => 0

/-- What the file holds, if it is there. -/
abbrev File := Option Json

/-- What the file operations of one call answer, in the order in which they are made. -/
structure Surroundings where
  lock : Except PyError Unit
  read : Except PyError Unit
  time : Except PyError Int
  beforeReplace : Except PyError Unit
  afterReplace : Except PyError Unit
  release : Except PyError Unit

abbrev StoreProgram := EStateM PyError File

/-- `_read_replay_store`; the file ends with a line feed. -/
def readReplayStore (surroundings : Surroundings) (replayKey : Json) : StoreProgram (List Json) := do
  ofExcept surroundings.read
  match ← get with
  | none => return []
  | some document =>
    ofExcept (demand (textSize document + 1 ≤ maxReplayStoreBytes)
      "operator-approval-replay-store-too-large")
    ofExcept (validateReplayStore document replayKey)

/-- `_write_replay_store` while the lock is held. -/
def writeReplayStore (surroundings : Surroundings) (replayKey : Json) (entries : List Json) :
    StoreProgram Unit := do
  let payload := sealedReplayStore entries replayKey
  let _ ← readReplayStore surroundings replayKey
  let _ ← ofExcept (validateReplayStore payload replayKey)
  ofExcept surroundings.beforeReplace
  set (some payload.canonical)
  ofExcept surroundings.afterReplace

variable (fromIsoformat : String → Parsed)

def validateAssessment (assessment : Assessment) : Except PyError (List ChangeType) := do
  demand assessment.identity.isSome "protected-change-assessment-identity-required"
  demand assessment.uncategorizedPaths.isEmpty
    ("protected-change-uncategorized:" ++ joinWith "," assessment.uncategorizedPaths)
  let terminal := assessment.requiredChangeTypes.filter ChangeType.terminal
  demand terminal.isEmpty ("operator-approval-terminal-change-not-authorizable:" ++
      joinWith "," (terminal.map ChangeType.text))
  return assessment.requiredChangeTypes

/-- Bindings that are taken: nonces, approval identifiers and receipt hashes. -/
structure Taken where
  nonces : List Json
  approvalIds : List Json
  receiptHashes : List Json

def Taken.add (taken : Taken) (entry : Json) : Taken where
  nonces := entry.value "nonce" :: taken.nonces
  approvalIds := entry.value "approval_id" :: taken.approvalIds
  receiptHashes := entry.value "receipt_sha256" :: taken.receiptHashes

/-- The bindings of the entries of a store and the nonces that a caller rules out. -/
def takenBy (entries priorNonces : List Json) : Taken where
  nonces := entries.map (Json.value "nonce") ++ priorNonces
  approvalIds := entries.map (Json.value "approval_id")
  receiptHashes := entries.map (Json.value "receipt_sha256")

/-- The approvals of the required change types, each with bindings of its own. -/
def verifyAll (expected : Expected) (assessment : Assessment) (receipts : Json) (now : Int) :
    Taken → List ChangeType → Except PyError (List Approval)
  | _, [] => .ok []
  | taken, changeType :: rest => do
      let approval ← verifyOperatorApproval fromIsoformat expected changeType
        assessment.beforeSubject assessment.afterSubject taken.nonces now
        (receipts.value changeType.text)
      let entry := approvalReplayEntry approval
      demand (!taken.approvalIds.contains (entry.value "approval_id") &&
        !taken.receiptHashes.contains (entry.value "receipt_sha256")) "operator-approval-replayed"
      return approval :: (← verifyAll expected assessment receipts now (taken.add entry) rest)

/-- A mapping that may be missing. -/
def optionalObject (label : String) : Option Json → Except PyError Json
  | none => .ok .objEnd
  | some value => canonicalJsonObject label value

variable (expected : Expected)

/-- The part of `authorize_assessment` that holds the lock. -/
def consumeReceipts (surroundings : Surroundings) (assessment : Assessment)
    (receipts : Json) (changed : List ChangeType) (priorNonces : List Json) :
    StoreProgram (List Approval) := do
  let replayKey := deriveReplayStoreKey expected.verificationKey
  ofExcept surroundings.lock
  let existing ← readReplayStore surroundings replayKey
  let now ← ofExcept surroundings.time
  let approvals ← ofExcept (verifyAll fromIsoformat expected assessment receipts now
    (takenBy existing priorNonces) changed)
  writeReplayStore surroundings replayKey (existing ++ approvals.map approvalReplayEntry)
  ofExcept surroundings.release
  return approvals

def authorizeAssessment (surroundings : Surroundings)
    (assessment : Assessment) (receipts : Option Json) (priorNonces : List Json) :
    StoreProgram (List Approval) := do
  let changed ← ofExcept (validateAssessment assessment)
  let payload ← ofExcept (optionalObject "operator-approval-receipts" receipts)
  if changed = [] then
    ofExcept (demand (payload.keys = []) "operator-approval-unexpected")
    return []
  ofExcept (demand (payload.keys = changed.map ChangeType.text)
    ("operator-approval-required-for:" ++ joinWith "," (changed.map ChangeType.text)))
  ofExcept (demand (priorNonces.all nonemptyText) "operator-approval-prior-nonces-invalid")
  consumeReceipts fromIsoformat expected surroundings assessment payload changed priorNonces

/-- The receipt in an audit record is the one that was given, if receipts were given. -/
def requireSameReceipt (receipts : Option Json) (changeType : ChangeType) (signed : Json) :
    Except PyError Unit :=
  match receipts with
  | none => .ok ()
  | some receipts => do
      demand ((← canonicalAuthoritySha256 (receipts.value changeType.text)) =
          (← canonicalAuthoritySha256 signed)) "operator-approval-audit-receipt-mismatch"

def validateAudit (assessment : Assessment) (entries : List Json)
    (receipts : Option Json) (changeType : ChangeType) (value : Json) : Except PyError Unit := do
  let audit ← canonicalJsonObject "operator-approval-audit" value
  let errors ← validateOperatorApprovalAudit fromIsoformat audit
  demand errors.isEmpty ("operator-approval-audit-invalid:" ++ joinWith ";" errors)
  demand (audit.value "change_type" = .str changeType.text)
    "operator-approval-audit-change-type-mismatch"
  let signed := audit.value "signed_receipt"
  requireSameReceipt receipts changeType signed
  let time ← parseUtcTimestamp fromIsoformat "operator-approval-issued-at" (signed.value "issued_at")
  let approval ← verifyOperatorApproval fromIsoformat expected changeType
    assessment.beforeSubject assessment.afterSubject [] time signed
  demand ((← canonicalAuthoritySha256 approval.audit) = (← canonicalAuthoritySha256 audit))
    "operator-approval-audit-mismatch"
  let entry := approvalReplayEntry approval
  let recorded := entries.reverse.find? fun other =>
    other.value "receipt_sha256" = entry.value "receipt_sha256"
  demand (recorded.map Json.canonical = some entry.canonical)
    "operator-approval-audit-not-durably-consumed"

def validateAudits (expected : Expected) (assessment : Assessment) (entries : List Json)
    (receipts : Option Json) (audits : Json) : List ChangeType → Except PyError Unit
  | [] => .ok ()
  | changeType :: rest => do
      validateAudit fromIsoformat expected assessment entries receipts changeType
        (audits.value changeType.text)
      validateAudits expected assessment entries receipts audits rest

def validateAssessmentAudits (surroundings : Surroundings)
    (assessment : Assessment) (audits receipts : Option Json) : StoreProgram Unit := do
  let changed ← ofExcept (validateAssessment assessment)
  let auditPayload ← ofExcept (optionalObject "operator-approval-audits" audits)
  let receiptPayload ← ofExcept (receipts.mapM (canonicalJsonObject "operator-approval-receipts"))
  ofExcept (demand (auditPayload.keys = changed.map ChangeType.text)
    ("operator-approval-audit-required-for:" ++ joinWith "," (changed.map ChangeType.text)))
  ofExcept (demand (receiptPayload.all fun payload => payload.keys = changed.map ChangeType.text)
    ("operator-approval-required-for:" ++ joinWith "," (changed.map ChangeType.text)))
  ofExcept surroundings.lock
  let entries ← readReplayStore surroundings (deriveReplayStoreKey expected.verificationKey)
  ofExcept (validateAudits fromIsoformat expected assessment entries receiptPayload auditPayload
    changed)
  ofExcept surroundings.release

end WorkOrchestration.Native.ApprovalStore
