import WorkOrchestration.Native.Documents

/-!
# The activation ledger

The one-shot ledger of an activation: the replay that decides which lists of entries are a history, the
validation of a whole ledger, and the store that appends to it.
-/

namespace WorkOrchestration.Native.ActivationLedger

open Artifacts
open Artifacts.Json (hashable isOneOf)

def activationError (message : String) : PyError := ⟨.value, "NativeActivationLedgerError", message⟩

def require (condition : Bool) (message : String) : Except PyError Unit :=
  if condition then .ok () else .error (activationError message)

theorem require_ok {condition : Bool} {message : String} {result : Unit} :
    require condition message = .ok result ↔ condition = true := by
  unfold require
  split <;> simp_all

inductive Profile where
  | n1ReadOnly
  | n2ReadOnly
  | n1Mutable

namespace Profile

def name : Profile → String
  | n1ReadOnly => "n1-read-only"
  | n2ReadOnly => "n2-read-only"
  | n1Mutable => "n1-mutable"

def workers : Profile → List String
  | n1ReadOnly => ["read-only-0"]
  | n2ReadOnly => ["read-only-0", "read-only-1"]
  | n1Mutable => ["mutable-0"]

/-- `PROFILE_ROLES[profile]`. -/
def roles (profile : Profile) : List String := "calibration" :: profile.workers

/-- The profile that a value names. -/
def ofJson? : Json → Option Profile
  | .str text => [n1ReadOnly, n2ReadOnly, n1Mutable].find? (·.name = text)
  | _ => none

end Profile

def events : List String :=
  ["claim-acquired", "approval-consume-intent", "approval-verified", "activation-dispatch-intent",
    "allocation-intent", "thread-bound", "turn-intent", "turn-bound", "terminal"]

def entryFields : List String :=
  ["sequence", "event", "recorded_at", "role", "intent_id", "subject_id", "detail_sha256",
    "previous_entry_sha256", "entry_sha256"]

def ledgerFields : List String :=
  ["ledger_type", "version", "schema", "ledger_id", "profile", "plan_sha256", "claim_sha256",
    "action_sha256", "campaign_nonce", "expected_roles", "created_at", "entries",
    "head_entry_sha256", "ledger_sha256"]

variable (value : Json)

def canonicalActivationSha256 : Except PyError Json :=
  if value.encodable then .ok (canonicalSha256 value.canonical).json
  else .error (activationError "activation-value-not-canonical-json")

def isHexDigit (character : Char) : Bool :=
  ('0' ≤ character && character ≤ '9') || ('a' ≤ character && character ≤ 'f')

/-- `_is_uuid`: the text is a UUID as `str` spells it. -/
def isUuidText (text : String) : Bool :=
  text.length == 36 && text.toList.zipIdx.all fun entry =>
      if [8, 13, 18, 23].contains entry.2 then entry.1 == '-' else isHexDigit entry.1

/-- The UUID that a value spells. -/
def uuid? : Json → Option String
  | .str text => if isUuidText text then some text else none
  | _ => none

def isSha256 : Bool := (Digest.ofJson? value).isSome

def validateEntryShape (entry : Json) (sequence : Nat) : Except PyError Unit := do
  require (entry.hasExactly entryFields) "activation-ledger-entry-fields-invalid"
  require ((entry.value "sequence").equalsNat sequence) "activation-ledger-entry-header-invalid"
  hashable (entry.value "event")
  require (isOneOf events (entry.value "event")) "activation-ledger-entry-header-invalid"
  require (isSha256 (entry.value "detail_sha256")) "activation-ledger-entry-detail-sha256-invalid"
  require (isSha256 (entry.value "entry_sha256")) "activation-ledger-entry-entry-sha256-invalid"
  let expected ← canonicalActivationSha256 (entry.erase "entry_sha256")
  require (entry.value "entry_sha256" == expected) "activation-ledger-entry-sha256-mismatch"

inductive Phase where
  | new
  | claimed
  | approvalIntent
  | approvalVerified
  | allocating
  | calibrationTurning
  | workerTurning
  | dispatched
  | terminal
  deriving DecidableEq

structure PendingAllocation where
  role : String
  intentId : String

structure PendingTurn where
  role : String
  intentId : String
  threadId : String

structure Replay where
  phase : Phase
  headEntrySha256 : Json
  allocationIndex : Nat
  pendingAllocation : Option PendingAllocation
  threadByRole : List (String × String)
  turnIndex : Nat
  pendingTurn : Option PendingTurn
  terminal : Bool

namespace Replay

def initial : Replay := ⟨.new, .null, 0, none, [], 0, none, false⟩

/-- `thread_by_role.get(role)`. -/
def thread? (state : Replay) (role : String) : Option String :=
  (state.threadByRole.find? (·.1 = role)).map Prod.snd

end Replay

/-- What an entry says apart from its place in the chain. -/
structure Statement where
  role : Json
  intentId : Json
  subjectId : Json

def Statement.ofEntry (entry : Json) : Statement :=
  ⟨entry.value "role", entry.value "intent_id", entry.value "subject_id"⟩

/-- Nothing is named in the entry. -/
def Statement.isBare (statement : Statement) : Bool :=
  statement.role == .null && statement.intentId == .null && statement.subjectId == .null

def openingEvent (before after : Phase) (message : String) (state : Replay)
    (statement : Statement) : Except PyError Replay := do
  require (state.phase == before && statement.isBare) message
  return { state with phase := after }

def claimAcquired : Replay → Statement → Except PyError Replay :=
  openingEvent .new .claimed "activation-ledger-claim-sequence-invalid"

def approvalConsumeIntent : Replay → Statement → Except PyError Replay :=
  openingEvent .claimed .approvalIntent "activation-ledger-approval-intent-sequence-invalid"

def approvalVerified : Replay → Statement → Except PyError Replay :=
  openingEvent .approvalIntent .approvalVerified "activation-ledger-approval-sequence-invalid"

def activationDispatchIntent : Replay → Statement → Except PyError Replay :=
  openingEvent .approvalVerified .allocating "activation-ledger-dispatch-intent-sequence-invalid"

variable (roles : List String) (state : Replay) (statement : Statement)

def allocationIntent : Except PyError Replay :=
  let invalid := .error
    (activationError "activation-ledger-allocation-intent-sequence-invalid")
  match roles[state.allocationIndex]?, uuid? statement.intentId with
  | some role, some intentId =>
    if state.phase = .allocating ∧ state.pendingAllocation = none ∧ statement.role = .str role ∧
        statement.subjectId = .null then
      .ok { state with pendingAllocation := some ⟨role, intentId⟩ }
    else invalid
  | _, _ => invalid

/-- Once the last role has its thread the workers take their turns. -/
def threadBound : Except PyError Replay :=
  let invalid := .error (activationError "activation-ledger-thread-bind-sequence-invalid")
  match state.pendingAllocation, uuid? statement.subjectId with
  | some pending, some threadId =>
    if state.phase = .allocating ∧ statement.role = .str pending.role ∧
        statement.intentId = .str pending.intentId then
      .ok { state with
        threadByRole := (pending.role, threadId) :: state.threadByRole
        pendingAllocation := none
        allocationIndex := state.allocationIndex + 1
        phase :=
          if pending.role = "calibration" then .calibrationTurning
          else if state.allocationIndex + 1 = roles.length then .workerTurning
          else state.phase }
    else invalid
  | _, _ => invalid

def isTurning (phase : Phase) : Bool := phase == .calibrationTurning || phase == .workerTurning

/-- `str(value)`; no value of another type is spelled like a role or an identifier. -/
def spelled? : Json → Option String
  | .str text => some text
  | .null => some "None"
  | _ => none

/-- A turn can only be announced for the next role and on the thread it is bound to. -/
def turnIntent : Except PyError Replay :=
  let invalid := .error (activationError "activation-ledger-turn-intent-sequence-invalid")
  let expectedRole := (roles[state.turnIndex]?.map .str).getD .null
  match spelled? statement.role, uuid? statement.intentId, spelled? statement.subjectId with
  | some role, some intentId, some threadId =>
    if isTurning state.phase = true ∧ state.pendingTurn = none ∧ statement.role = expectedRole ∧
        statement.subjectId = ((state.thread? role).map .str).getD .null then
      .ok { state with pendingTurn := some ⟨role, intentId, threadId⟩ }
    else invalid
  | _, _, _ => invalid

def turnBound : Except PyError Replay :=
  let invalid := .error (activationError "activation-ledger-turn-bind-sequence-invalid")
  match state.pendingTurn, uuid? statement.subjectId with
  | some pending, some _ =>
    if isTurning state.phase = true ∧ spelled? statement.role = some pending.role ∧
        spelled? statement.intentId = some pending.intentId ∧
        state.thread? pending.role = some pending.threadId then
      .ok { state with
        pendingTurn := none
        turnIndex := state.turnIndex + 1
        phase :=
          if pending.role = "calibration" then .allocating
          else if state.turnIndex + 1 = roles.length then .dispatched
          else state.phase }
    else invalid
  | _, _ => invalid

def terminalEvent (state : Replay) (statement : Statement) : Except PyError Replay := do
  require (state.phase != .new && statement.role == .null && statement.intentId == .null)
    "activation-ledger-terminal-sequence-invalid"
  return { state with terminal := true, phase := .terminal }

/-- The transition that an event asks for; every other event has been refused before. -/
def advance (roles : List String) (state : Replay) (event : Json) (statement : Statement) :
    Except PyError Replay :=
  if event = .str "claim-acquired" then claimAcquired state statement
  else if event = .str "approval-consume-intent" then approvalConsumeIntent state statement
  else if event = .str "approval-verified" then approvalVerified state statement
  else if event = .str "activation-dispatch-intent" then activationDispatchIntent state statement
  else if event = .str "allocation-intent" then allocationIntent roles state statement
  else if event = .str "thread-bound" then threadBound roles state statement
  else if event = .str "turn-intent" then turnIntent roles state statement
  else if event = .str "turn-bound" then turnBound roles state statement
  else if event = .str "terminal" then terminalEvent state statement
  else .ok state

/-- One round of the loop in `_replay_entries`. -/
def replayEntry (roles : List String) (sequence : Nat) (state : Replay) (entry : Json) :
    Except PyError Replay := do
  validateEntryShape entry sequence
  require (entry.value "previous_entry_sha256" == state.headEntrySha256)
    "activation-ledger-entry-chain-invalid"
  require (!state.terminal) "activation-ledger-event-after-terminal"
  let after ← advance roles state (entry.value "event") (Statement.ofEntry entry)
  return { after with headEntrySha256 := entry.value "entry_sha256" }

def replayFrom (roles : List String) : Nat → Replay → List Json → Except PyError Replay
  | _, state, [] => .ok state
  | sequence, state, entry :: rest => do
      let after ← replayEntry roles sequence state entry
      replayFrom roles (sequence + 1) after rest

def replayEntries (entries : List Json) (roles : List String) : Except PyError Replay :=
  replayFrom roles 0 .initial entries

def checkLedger : Except PyError Unit := do
  require (value.hasExactly ledgerFields) "activation-ledger-fields-invalid"
  require (value.value "ledger_type" == .str "cwo-native-tool-activation-ledger" &&
    (value.value "version").equalsNat 1 &&
    value.value "schema" == .str "schemas/native-tool-activation-ledger.schema.json")
    "activation-ledger-header-invalid"
  require (uuid? (value.value "ledger_id")).isSome "activation-ledger-id-invalid"
  hashable (value.value "profile")
  let some profile := Profile.ofJson? (value.value "profile")
    | .error (activationError "activation-ledger-profile-invalid")
  require (value.value "expected_roles" == Json.strings profile.roles)
    "activation-ledger-roles-invalid"
  require (isSha256 (value.value "plan_sha256")) "activation-ledger-plan-sha256-invalid"
  require (isSha256 (value.value "claim_sha256")) "activation-ledger-claim-sha256-invalid"
  require (isSha256 (value.value "action_sha256")) "activation-ledger-action-sha256-invalid"
  require (uuid? (value.value "campaign_nonce")).isSome "activation-ledger-campaign-nonce-invalid"
  let some entries := (value.value "entries").elements?
    | .error (activationError "activation-ledger-entries-invalid")
  let replay ← replayEntries entries profile.roles
  require (value.value "head_entry_sha256" == replay.headEntrySha256)
    "activation-ledger-head-invalid"
  require (isSha256 (value.value "ledger_sha256")) "activation-ledger-sha256-mismatch"
  let expected ← canonicalActivationSha256 (value.erase "ledger_sha256")
  require (value.value "ledger_sha256" == expected) "activation-ledger-sha256-mismatch"

def validateActivationLedger : List String :=
  match checkLedger value with
  | .ok _ => []
  | .error error => [error.message]

def sealLedger : Except PyError Json := do
  let unsigned := value.erase "ledger_sha256"
  let digest ← canonicalActivationSha256 unsigned
  let result := unsigned.set "ledger_sha256" digest
  let errors := validateActivationLedger result
  require errors.isEmpty ("activation-ledger-invalid:" ++ ";".intercalate errors)
  return result

/-- What becomes of the file that replaces the ledger. -/
inductive Replacement where
  | done
  | failedBefore (error : PyError)
  | failedAfter (error : PyError)

/-- What the file system and the clock answer during one append. -/
structure World where
  lock : Except PyError Unit
  read : Except PyError Unit
  now : String
  freshUuid : String
  replaced : Replacement
  audited : Except PyError Unit

/-- The arguments of `append`. -/
structure Request where
  event : String
  role : Json
  intentId : Json
  subjectId : Json
  detail : Json
  recordedAt : Json

def Request.entry (request : Request) (now : String) (sequence : Nat) (head detailSha256 : Json) :
    Json :=
  .obj [("sequence", Json.nat sequence), ("event", .str request.event),
    ("recorded_at", if request.recordedAt.truthy then request.recordedAt else .str now),
    ("role", request.role), ("intent_id", request.intentId), ("subject_id", request.subjectId),
    ("detail_sha256", detailSha256), ("previous_entry_sha256", head)]

/-- The entry and the sealed ledger that `append` is about to write. -/
def prepare (world : World) (request : Request) (file : Json) : Except PyError (Json × Json) := do
  require (events.contains request.event) "activation-ledger-event-invalid"
  let detail := if request.detail.truthy then request.detail else .objEnd
  let detailSha256 ← canonicalActivationSha256 detail
  world.lock
  world.read
  let errors := validateActivationLedger file
  require errors.isEmpty ("activation-ledger-invalid:" ++ ";".intercalate errors)
  let some profile := Profile.ofJson? (file.value "profile")
    | .error (activationError "activation-ledger-profile-invalid")
  let some entries := (file.value "entries").elements?
    | .error (activationError "activation-ledger-entries-invalid")
  let unsigned := request.entry world.now entries.length (file.value "head_entry_sha256")
    detailSha256
  let entrySha256 ← canonicalActivationSha256 unsigned
  let entry := unsigned.set "entry_sha256" entrySha256
  let candidate := entries ++ [entry]
  let _ ← replayEntries candidate profile.roles
  let ledger := (file.set "entries" (.arr candidate)).set "head_entry_sha256" entrySha256
  return (entry, ← sealLedger ledger)

/-- `append`: what it returns or raises, and the ledger that it leaves in the file. -/
def append (world : World) (request : Request) (file : Json) : Except PyError Json × Json :=
  match prepare world request file with
  | .error error => (.error error, file)
  | .ok (entry, ledger) =>
    match world.replaced with
    | .failedBefore error => (.error error, file)
    | .failedAfter error => (.error error, ledger)
    | .done => (world.audited.map fun _ => entry, ledger)

inductive Method where
  | append (request : Request)
  | allocationIntent (role : Json)
  | bindThread (allocationIntentId role threadId : Json)
  | turnIntent (role threadId : Json) (prompt : String)
  | bindTurn (role turnIntentId turnId : Json)

def Method.request (method : Method) (freshUuid : String) : Request :=
  match method with
  | .append request => request
  | .allocationIntent role =>
    ⟨"allocation-intent", role, .str freshUuid, .null, .obj [("role", role)], .null⟩
  | .bindThread allocationIntentId role threadId =>
    ⟨"thread-bound", role, allocationIntentId, threadId, .obj [("thread_id", threadId)], .null⟩
  | .turnIntent role threadId prompt =>
    ⟨"turn-intent", role, .str freshUuid, threadId,
      .obj [("thread_id", threadId), ("prompt_sha256", (textSha256 prompt).json)], .null⟩
  | .bindTurn role turnIntentId turnId =>
    ⟨"turn-bound", role, turnIntentId, turnId, .obj [("turn_id", turnId)], .null⟩

def Method.call (method : Method) (world : World) (file : Json) : Except PyError Json × Json :=
  ActivationLedger.append world (method.request world.freshUuid) file

end WorkOrchestration.Native.ActivationLedger
