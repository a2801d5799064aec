import WorkOrchestration.Lib.Calendar
import WorkOrchestration.Native.OperatorApprovals
import WorkOrchestration.Native.ValueEquality

/-!
# Claim and close adapters

A tracker issue is claimed, and later closed, by a command whose outcome may be unknown; the
issue is shown before and after it, and only the exact change of the issue counts.
-/

namespace WorkOrchestration.Native.ClaimAdapters

open Lib.Calendar Lib.Text Artifacts
open Artifacts.Json (isOneOf)
open ProtectedChanges (Decoded isSha256 nonemptyText)
open OperatorApprovals (sortedTexts)
open ValueEquality

/-- `NativePoolAdmissionError`, a `ValueError`. -/
def admissionError (message : String) : PyError := ⟨.value, "NativePoolAdmissionError", message⟩

def insist (condition : Bool) (message : String) : Except PyError Unit :=
  if condition then .ok () else .error (admissionError message)

variable (world : World) (now : Nat) (value : Json) (adapter : Adapter) (beadId : String)

def canonicalAdmissionSha256 : Except PyError Json :=
  if value.encodable then .ok (.sha256 value.canonical)
  else .error (admissionError "admission-value-not-canonical-json")

/-- A digest field that is the digest of the other fields. -/
def sealHolds (field : String) : Except PyError Bool :=
  if isSha256 (value.value field) then do
    let expected ← canonicalAdmissionSha256 (value.erase field)
    return value.value field == expected
  else return false

def strict (fields : List String) (label : String) (value : Json) : Except PyError Json := do
  insist value.isObject (label ++ "-must-be-exact-dict")
  let missing := sortedTexts (fields.filter fun key => !value.keys.contains key)
  let unknown := sortedTexts (value.keys.filter fun key => !fields.contains key)
  insist missing.isEmpty (label ++ "-missing-fields:" ++ joinWith "," missing)
  insist unknown.isEmpty (label ++ "-unknown-fields:" ++ joinWith "," unknown)
  return value

/-- `BdCommandResult`. -/
structure BdCommandResult where
  command : List String
  returncode : Option Int
  stdout : String
  stderr : String
  timedOut : Bool
  timeoutSeconds : Int

def BdCommandResult.succeeded (result : BdCommandResult) : Bool :=
  !result.timedOut && result.returncode == some 0

/-- What becomes of a process: it exits, it is killed at its deadline, or running it raises. -/
inductive Process where
  | exited (returncode : Int) (stdout stderr : String)
  | timedOut (stdout stderr : String)
  | failed (error : PyError)

/-- A value that `json.loads` returns. -/
structure Document where
  json : Json
  decoded : Decoded json

/--
What the adapter meets: the outcome of its commands in the order in which they are run, the
checks of `run_bd_structured` that look at the host, the JSON reader and the clock, in
microseconds.
-/
structure World where
  requireBd : Nat → Except PyError Unit
  directoryExists : Nat → Bool
  timeoutSeconds : Nat → Except PyError Int
  process : Nat → Process
  loads : String → Except PyError Document
  now : Nat

/-- `BeadsClaimAdapter`, its texts stripped and not empty. -/
structure Adapter where
  directory : String
  database : Name
  actor : Name

/-- `run_bd_structured`, as the adapter calls it. -/
def runBdStructured (args : List String) (index : Nat) :
    Except PyError BdCommandResult := do
  world.requireBd index
  if !world.directoryExists index then .error (valueError "beads-directory-must-exist")
  if args.isEmpty || args.any (· == "") then .error (valueError "beads-args-must-be-nonempty-strings")
  let seconds ← world.timeoutSeconds index
  let command := ["bd", "-C", adapter.directory, "--db", adapter.database.text, "--actor",
    adapter.actor.text] ++ args
  match world.process index with
  | .exited returncode stdout stderr => return ⟨command, some returncode, stdout, stderr, false, seconds⟩
  | .timedOut stdout stderr => return ⟨command, none, stdout, stderr, true, seconds⟩
  | .failed error => .error error

/-- Whether `except json.JSONDecodeError` catches the exception. -/
def isJsonDecodeError (error : PyError) : Bool := error.typeName == "JSONDecodeError"

/-- Whether `except NativePoolAdmissionError` catches the exception. -/
def isAdmissionError (error : PyError) : Bool := error.typeName == "NativePoolAdmissionError"

/-- The issue in a decoded answer, a list of one issue or the issue itself. -/
def shownIssue (decoded : Document) : Except PyError Document := do
  match decoded with
  | ⟨.item issue .arrEnd, whole⟩ =>
    insist issue.isObject ("exact-show-cardinality-invalid:" ++ beadId)
    return ⟨issue, whole.1⟩
  | ⟨.item _ _, _⟩ => .error (admissionError ("exact-show-cardinality-invalid:" ++ beadId))
  | ⟨.arrEnd, _⟩ => .error (admissionError ("exact-show-cardinality-invalid:" ++ beadId))
  | issue =>
    insist issue.json.isObject ("exact-show-shape-invalid:" ++ beadId)
    return issue

/-- The answer of a show, where `except json.JSONDecodeError` raises another error. -/
def readAnswer (stdout beadId : String) : Except PyError Document :=
  match world.loads stdout with
  | .ok document => .ok document
  | .error error =>
    .error (if isJsonDecodeError error then admissionError ("exact-show-json-invalid:" ++ beadId)
      else error)

def decodeShow (result : BdCommandResult) (beadId : String) :
    Except PyError Document := do
  insist result.succeeded ("exact-show-failed:" ++ beadId)
  let issue ← shownIssue beadId (← readAnswer world result.stdout beadId)
  insist (issue.json.value "id" == .str beadId) ("exact-show-id-mismatch:" ++ beadId)
  return issue

def showExact (index : Nat) :
    Except PyError Document := do
  let issueId := strip beadId
  insist (issueId ≠ "") "claim-bead-id-empty"
  decodeShow world (← runBdStructured world adapter ["show", issueId, "--json"] index) issueId

def claimMutableFields : List String :=
  ["status", "assignee", "updated_at", "started_at", "revision", "heartbeat_at", "lease_expires_at"]

def closeMutableFields : List String :=
  ["status", "updated_at", "closed_at", "close_reason", "closed_by_session", "revision",
    "heartbeat_at", "lease_expires_at"]

/-- `value in (None, "")`. -/
def isBlank : Bool := value == .null || value == .str ""

/-- `_lease_instant`, in microseconds. -/
def leaseInstant : Option Nat := do
  let .str text := value | none
  let (year, rest) ← readField 4 text.toList
  let (month, rest) ← readField 2 (← readMark ['-'] rest)
  let (day, rest) ← readField 2 (← readMark ['-'] rest)
  let (hour, rest) ← readField 2 (← readMark ['T'] rest)
  let (minute, rest) ← readField 2 (← readMark [':'] rest)
  let (second, rest) ← readField 2 (← readMark [':'] rest)
  if rest = ['Z'] then instantOf? ⟨year, month, day⟩ hour minute second 0 else none

/-- `_lease_revision`. -/
def isRevision : Bool :=
  match value with
  | .str text =>
    let digits := match text.toList with
      | '-' :: rest => rest
      | characters => characters
    !digits.isEmpty && (readDigits digits).isSome
  | _ => false

/-- The two lease fields are blank. -/
def noLease (issue : Json) : Bool :=
  isBlank (issue.value "heartbeat_at") && isBlank (issue.value "lease_expires_at")

/-- The lease of an issue is running, and begins before it ends. -/
def leaseRuns (issue : Json) : Bool :=
  match leaseInstant (issue.value "heartbeat_at"), leaseInstant (issue.value "lease_expires_at") with
  | some heartbeat, some expiry => decide (heartbeat < expiry ∧ now < expiry)
  | _, _ => false

/-- Both revisions are numbers, and they differ. -/
def newRevision (pre post : Json) : Bool :=
  isRevision (pre.value "revision") && isRevision (post.value "revision") &&
    !equal (pre.value "revision") (post.value "revision")

def exactClaimLeaseDelta (pre post : Json) : Bool :=
  if noLease pre && noLease post then equal (pre.value "revision") (post.value "revision")
  else noLease pre && leaseRuns now post && newRevision pre post

def exactCloseLeaseDelta (pre post : Json) : Bool :=
  if noLease pre && noLease post then equal (pre.value "revision") (post.value "revision")
  else leaseRuns now pre && noLease post && newRevision pre post

def isExactClaimTransition (actor : Name) (pre post : Json) : Bool :=
  let before := pre.value "started_at"
  let after := post.value "started_at"
  pre.value "status" == .str "open" && isBlank (pre.value "assignee") &&
    post.value "status" == .str "in_progress" && post.value "assignee" == .str actor.text &&
    ((isBlank before && nonemptyText after) || (nonemptyText before && equal after before)) &&
    exactClaimLeaseDelta now pre post &&
    equal (without claimMutableFields pre) (without claimMutableFields post)

def isExactCloseTransition (actor : Name) (reason : String) (pre post : Json) : Bool :=
  pre.value "status" == .str "in_progress" && pre.value "assignee" == .str actor.text &&
    isBlank (pre.value "closed_at") && isBlank (pre.value "close_reason") &&
    post.value "status" == .str "closed" && post.value "assignee" == .str actor.text &&
    equal (post.value "started_at") (pre.value "started_at") && nonemptyText (post.value "closed_at") &&
    post.value "close_reason" == .str reason && exactCloseLeaseDelta now pre post &&
    equal (without closeMutableFields pre) (without closeMutableFields post)

/-- `CLAIM_OUTCOMES`. -/
inductive ClaimOutcome where
  | claimed
  | claimedAfterTimeout
  | claimedAfterCommandError
  | claimLost
  | claimShowFailed
  | preownedReplay

def ClaimOutcome.text : ClaimOutcome → String
  | claimed => "claimed"
  | claimedAfterTimeout => "claimed-after-timeout"
  | claimedAfterCommandError => "claimed-after-command-error"
  | claimLost => "claim-lost"
  | claimShowFailed => "claim-show-failed"
  | preownedReplay => "preowned-replay"

/-- `CLOSE_OUTCOMES`. -/
inductive CloseOutcome where
  | closed
  | closedAfterTimeout
  | closedAfterCommandError
  | closeLost
  | closeShowFailed
  | preclosedReplay

def CloseOutcome.text : CloseOutcome → String
  | closed => "closed"
  | closedAfterTimeout => "closed-after-timeout"
  | closedAfterCommandError => "closed-after-command-error"
  | closeLost => "close-lost"
  | closeShowFailed => "close-show-failed"
  | preclosedReplay => "preclosed-replay"

/-- `_seal`. -/
def sealReceipt (field : String) : Except PyError Json := do
  let unsigned := value.erase field
  let digest ← canonicalAdmissionSha256 unsigned
  return unsigned.set field digest

/-- What a receipt says about the command. -/
structure CommandEvidence where
  sha256 : Json
  returncode : Json
  timedOut : Bool

def commandEvidence (result : Option BdCommandResult) : Except PyError CommandEvidence := do
  match result with
  | none => return ⟨.null, .null, false⟩
  | some result =>
    let sha256 ← canonicalAdmissionSha256 (.strings result.command)
    return ⟨sha256, .optional .int result.returncode, result.timedOut⟩

def claimReceipt (actor : Name) (outcome : ClaimOutcome) (preShow postShow : Json)
    (result : Option BdCommandResult) (owned : Bool) : Except PyError Json := do
  let command ← commandEvidence result
  sealReceipt (.obj
    [("bead_id", .str beadId), ("actor", .str actor.text), ("outcome", .str outcome.text),
      ("pre_show_sha256", preShow), ("post_show_sha256", postShow), ("command_sha256", command.sha256),
      ("command_returncode", command.returncode), ("command_timed_out", .bool command.timedOut),
      ("owned", .bool owned)]) "claim_sha256"

def closeReceipt (actor : Name) (outcome : CloseOutcome) (reason : String)
    (preShow postShow : Json) (result : Option BdCommandResult) (closed : Bool) :
    Except PyError Json := do
  let command ← commandEvidence result
  sealReceipt (.obj
    [("bead_id", .str beadId), ("actor", .str actor.text), ("outcome", .str outcome.text),
      ("reason_sha256", (textSha256 reason).json), ("pre_show_sha256", preShow),
      ("post_show_sha256", postShow), ("command_sha256", command.sha256),
      ("command_returncode", command.returncode), ("command_timed_out", .bool command.timedOut),
      ("closed", .bool closed)]) "close_sha256"

/-- `ClaimTransition` and `CloseTransition`. -/
structure Transition where
  receipt : Json
  postIssue : Option Json

def Transition.owned (transition : Transition) : Bool := transition.receipt.value "owned" == .bool true

def Transition.closed (transition : Transition) : Bool := transition.receipt.value "closed" == .bool true

/-- What a show has found, where `except NativePoolAdmissionError` catches a failure. -/
def shown? (outcome : Except PyError Document) : Except PyError (Option Document) :=
  match outcome with
  | .ok issue => .ok (some issue)
  | .error error => if isAdmissionError error then .ok none else .error error

/-- The outcome of a claim of which the effect has been seen. -/
def claimOutcome (owned : Bool) (result : BdCommandResult) : ClaimOutcome :=
  if owned && result.timedOut then .claimedAfterTimeout
  else if owned && result.returncode != some 0 then .claimedAfterCommandError
  else if owned then .claimed
  else .claimLost

/-- The outcome of a close of which the effect has been seen. -/
def closeOutcome (closed : Bool) (result : BdCommandResult) : CloseOutcome :=
  if closed && result.timedOut then .closedAfterTimeout
  else if closed && result.returncode != some 0 then .closedAfterCommandError
  else if closed then .closed
  else .closeLost

def checkExpected (expected : Option Json) : Except PyError Unit :=
  match expected with
  | none => .ok ()
  | some digest => insist (isSha256 digest) "claim-expected-pre-show-sha256-invalid"

/-- `claim`, once the command has been run: the issue is shown again. -/
def reconcileClaim (issueId : String) (pre preHash : Json)
    (result : BdCommandResult) : Except PyError Transition := do
  match ← shown? (showExact world adapter issueId 2) with
  | none =>
    return ⟨← claimReceipt issueId adapter.actor .claimShowFailed preHash .null (some result) false, none⟩
  | some post =>
    let postHash ← canonicalAdmissionSha256 post.json
    let owned := isExactClaimTransition world.now adapter.actor pre post.json &&
      equal (without claimMutableFields pre) (without claimMutableFields post.json)
    return ⟨← claimReceipt issueId adapter.actor (claimOutcome owned result) preHash postHash
      (some result) owned, some post.json⟩

def claim (world : World) (adapter : Adapter) (beadId : String) (expected : Option Json) :
    Except PyError Transition := do
  let issueId := strip beadId
  let pre := (← showExact world adapter issueId 0).json
  let preHash ← canonicalAdmissionSha256 pre
  checkExpected expected
  if expected.any (preHash != ·) then
    return ⟨← claimReceipt issueId adapter.actor .claimLost preHash preHash none false, some pre⟩
  if pre.value "status" != .str "open" || !isBlank (pre.value "assignee") then
    return ⟨← claimReceipt issueId adapter.actor .preownedReplay preHash preHash none false, some pre⟩
  let result ← runBdStructured world adapter ["update", issueId, "--claim", "--json"] 1
  reconcileClaim world adapter issueId pre preHash result

/-- `close_owned`, once the command has been run: the issue is shown again. -/
def reconcileClose (issueId closeReason : String) (pre preHash : Json)
    (result : BdCommandResult) : Except PyError Transition := do
  match ← shown? (showExact world adapter issueId 2) with
  | none =>
    return ⟨← closeReceipt issueId adapter.actor .closeShowFailed closeReason preHash .null
      (some result) false, none⟩
  | some post =>
    let postHash ← canonicalAdmissionSha256 post.json
    let closed := isExactCloseTransition world.now adapter.actor closeReason pre post.json
    return ⟨← closeReceipt issueId adapter.actor (closeOutcome closed result) closeReason preHash
      postHash (some result) closed, some post.json⟩

def closeOwned (expected : Json) (reason : String) :
    Except PyError Transition := do
  let issueId := strip beadId
  let closeReason := strip reason
  insist (issueId ≠ "") "close-bead-id-empty"
  insist (isSha256 expected) "close-expected-pre-show-sha256-invalid"
  insist (closeReason ≠ "") "close-reason-empty"
  let pre := (← showExact world adapter issueId 0).json
  let preHash ← canonicalAdmissionSha256 pre
  if preHash != expected || pre.value "status" != .str "in_progress" ||
      pre.value "assignee" != .str adapter.actor.text then
    let outcome := if pre.value "status" == .str "closed" then CloseOutcome.preclosedReplay else .closeLost
    return ⟨← closeReceipt issueId adapter.actor outcome closeReason preHash preHash none false, some pre⟩
  let result ← runBdStructured world adapter ["close", issueId, "--reason", closeReason, "--json"] 1
  reconcileClose world adapter issueId closeReason pre preHash result

end WorkOrchestration.Native.ClaimAdapters
