import WorkOrchestration.Lib.Programs
import WorkOrchestration.Native.OperatorApprovals
import WorkOrchestration.Native.ReplanningEvidence

/-!
# Replanning

The lifecycle of one work unit.  A call takes the present state, an event and what its caller
reports, and returns the next state, sealed with a receipt of what was decided.  Protected fields
change by approvals only, which an authorizer consumes in a state of its own.
-/

namespace WorkOrchestration.Native.Replanning

open Lib.Text Lib.Programs Artifacts Authority ProtectedChanges
open OperatorApprovals

/-- `AUTHORITY_LEVEL_RANK`. -/
inductive Level where
  | worker
  | pm
  | architect
  | operator

def Level.rank : Level → Nat
  | worker => 0
  | pm => 1
  | architect => 2
  | operator => 3

def Level.text : Level → String
  | worker => "worker"
  | pm => "pm"
  | architect => "architect"
  | operator => "operator"

/-- `ACTOR_AUTHORITY_LEVEL`. -/
def level? : ActorRole → Option Level
  | .operativeWorker => some .worker
  | .projectManager => some .pm
  | .architect => some .architect
  | .operator => some .operator
  | .critic => none
  | .supervisorPolicy => none

/-- What becomes of an `AuthorityProvenanceError` that is raised again as a `ValueError`. -/
def asValueError (error : PyError) : PyError :=
  if error.typeName = "AuthorityProvenanceError" then valueError error.message else error

/-- `require_minimum_authority`, its error raised as a `ValueError`. -/
def requireMinimumAuthority (authority : VerifiedAuthority) (minimum : Level) (action : String) :
    Except PyError Unit :=
  let role := authority.payload.actorRole
  match level? role with
  | none => .error (valueError (action ++ "-insufficient-authority:" ++ role.text))
  | some observed =>
    if observed.rank < minimum.rank then
      .error (valueError (action ++ "-insufficient-authority:" ++ observed.text))
    else .ok ()

/-- `EVENT_MINIMUM_AUTHORITY`. -/
def Event.minimumAuthority : Event → Level
  | accepted => .worker
  | dispatchStarted => .worker
  | needsReplan => .worker
  | exploration _ => .pm
  | workerCompaction => .architect
  | pmRefined => .pm
  | architectRefined => .architect
  | freshWorkerAssigned => .pm
  | completed => .worker
  | stop _ => .operator

structure PolicySnapshot where
  dispatchSoftCap : Nat
  maxPmReplans : Nat
  maxArchitectCycles : Nat
  maxCompactions : Nat
  liveReplayEnabled : Bool
  deriving DecidableEq

def PolicySnapshot.json (snapshot : PolicySnapshot) : Json :=
  .obj [("dispatch_soft_cap", .nat snapshot.dispatchSoftCap),
    ("max_pm_replans", .nat snapshot.maxPmReplans),
    ("max_architect_cycles", .nat snapshot.maxArchitectCycles),
    ("max_compactions", .nat snapshot.maxCompactions),
    ("live_replay_enabled", .bool snapshot.liveReplayEnabled)]

def Policy.snapshot (policy : Policy) : PolicySnapshot :=
  ⟨policy.dispatchSoftCap, policy.maxPmReplans, policy.maxArchitectCycles, policy.maxCompactions,
    policy.liveReplayEnabled⟩

/-- The fields of a state without the hash over them. -/
structure State where
  phase : Phase
  workUnitId : String
  beadId : String
  packetId : String
  requestedModel : String
  objective : String
  securityContext : String
  authority : Provenance
  modelMatch : Bool
  controlHealthy : Bool
  counters : Counters
  allowance : Allowance
  mutation : Mutation
  latches : Latches
  mainThread : MainThread
  reasonCodes : List String
  authorizations : List Json
  nextAction : String
  snapshot : PolicySnapshot
  receipt : Json
  deriving DecidableEq

def replanningStateType : String := "cwo-native-replanning-state"

def replanningReceiptType : String := "cwo-native-replanning-receipt"

def schemaPath : String := "schemas/native-replanning-state.schema.json"

variable (state : State)

/-- Everything but the hash of the state; the receipt is given apart. -/
def State.body (receipt : Json) : List (String × Json) :=
  [("result_type", .str replanningStateType), ("version", .int 3), ("schema", .str schemaPath),
    ("state", .str state.phase.text), ("work_unit_id", .str state.workUnitId),
    ("bead_id", .str state.beadId), ("packet_id", .str state.packetId),
    ("requested_model", .str state.requestedModel), ("objective", .str state.objective),
    ("security_context", .str state.securityContext),
    ("authority_provenance", state.authority.json), ("model_match", .bool state.modelMatch),
    ("control_healthy", .bool state.controlHealthy), ("counters", state.counters.json),
    ("aggregate_allowance", state.allowance.json), ("mutation", state.mutation.json),
    ("terminal_latches", state.latches.json), ("main_thread", state.mainThread.json),
    ("reason_codes", .strings state.reasonCodes),
    ("protected_change_authorizations", .arr state.authorizations),
    ("next_action", .str state.nextAction), ("policy_snapshot", state.snapshot.json),
    ("cwo_native_replanning_receipt", receipt)]

def State.json (stateSha256 : Json) : Json :=
  .obj (state.body state.receipt ++ [("state_sha256", stateSha256)])

/-- `_state_integrity_subject`. -/
def State.integritySubject : Json := .obj (state.body (state.receipt.erase "state_sha256"))

/-- `_remaining_allowance` of the tool calls and of the run time. -/
def State.remainingAllowance : Int × Int :=
  (state.allowance.toolCallsHard - state.counters.toolCallsUsed,
    state.allowance.runtimeSecondsHard - state.counters.runtimeSecondsUsed)

def State.remainingDispatchCapacity : Int :=
  state.allowance.dispatchSoftCap - state.counters.dispatches

def State.checkAggregateAllowance : List String :=
  (if state.remainingAllowance.1 < 0 then ["aggregate-allowance-exhausted"] else []) ++
    if state.remainingAllowance.2 < 0 then ["aggregate-allowance-exhausted"] else []

def State.reportedCounters : List (String × Json) :=
  [("dispatches", .nat state.counters.dispatches),
    ("tool_calls_used", .nat state.counters.toolCallsUsed),
    ("runtime_seconds_used", .nat state.counters.runtimeSecondsUsed),
    ("context_compactions", .nat state.counters.contextCompactions),
    ("pm_replans_used", .nat state.counters.pmReplansUsed),
    ("architect_cycles_used", .nat state.counters.architectCyclesUsed),
    ("tool_calls_remaining", .int (max 0 state.remainingAllowance.1)),
    ("runtime_seconds_remaining", .int (max 0 state.remainingAllowance.2)),
    ("dispatches_remaining", .int (max 0 state.remainingDispatchCapacity))]

def reasonRecordJson (record : ReasonRecord) : Json :=
  .obj [("reason", .str record.reason), ("authority_provenance", record.authorityProvenance.json),
    ("detected_by", .str record.detectedBy)]

/-- `_emit_receipt` of an event with this name. -/
def emitReceipt (before : Phase) (event : String) (authority : VerifiedAuthority)
    (decision : String) (state : State) : Except PyError Json := do
  let detectedBy : Name :=
    ⟨"native-replanning:" ++ event, Nonempty.append_right ⟨'n', by simp, by decide⟩ event⟩
  let records ← buildReasonRecords state.reasonCodes authority.payload detectedBy
  return .obj [("result_type", .str replanningReceiptType), ("version", .int 3),
    ("schema", .str schemaPath), ("state_before", .str before.text),
    ("state_after", .str state.phase.text), ("event", .str event),
    ("authority_provenance", authority.payload.json),
    ("reason_records", .arr (records.map reasonRecordJson)),
    ("protected_change_authorizations", .arr state.authorizations), ("decision", .str decision),
    ("reason_codes", .strings state.reasonCodes), ("work_unit_id", .str state.workUnitId),
    ("bead_id", .str state.beadId), ("packet_id", .str state.packetId),
    ("counters", .obj state.reportedCounters), ("aggregate", state.allowance.json),
    ("mutation", state.mutation.json), ("terminal_latches", state.latches.json),
    ("model_health", .obj [("exact_model", .bool state.modelMatch)]),
    ("control_health", .obj [("healthy", .bool state.controlHealthy)]),
    ("main_thread", state.mainThread.json), ("next_action", .str state.nextAction)]

/-- `_REPLANNING_RECEIPT_FIELDS`. -/
def receiptFields : List String :=
  ["result_type", "version", "schema", "state_before", "state_after", "event",
    "authority_provenance", "reason_records", "protected_change_authorizations", "decision",
    "reason_codes", "work_unit_id", "bead_id", "packet_id", "counters", "aggregate", "mutation",
    "terminal_latches", "model_health", "control_health", "main_thread", "next_action",
    "state_sha256"]

def require (condition : Bool) (message : String) : Except PyError Unit :=
  if condition then .ok () else .error (valueError ("malformed state: " ++ message))

def requireText (path : String) (value : Json) : Except PyError Unit := do
  let _ ← ensureNonemptyStr path value

/-- `left == right` of two documents. -/
def sameDocument (left right : Json) : Bool := decide (left.canonical = right.canonical)

/-- `_replanning_state_sha256`. -/
def State.sha256 : Except PyError Json := do
  let subject ← canonicalJsonObject "replanning-state" state.integritySubject
  canonicalAuthoritySha256 subject

def reasonRecordsValid (records : Json) : Bool :=
  match records.elements? with
  | none => false
  | some records =>
    records.length = state.reasonCodes.length && (records.zip state.reasonCodes).all fun entry =>
        entry.1.hasExactly ["reason", "authority_provenance", "detected_by"] &&
          entry.1.value "reason" = .str entry.2 &&
          sameDocument (entry.1.value "authority_provenance") state.authority.json &&
          nonemptyText (entry.1.value "detected_by")

/-- The receipt says what the state says. -/
def validateReceipt (stateSha256 : Json) : Except PyError Unit := do
  let receipt := state.receipt
  require (receipt.isObject && receipt.hasExactly receiptFields)
    "replanning receipt must be an object"
  require (receipt.value "result_type" = .str replanningReceiptType &&
    receipt.value "version" = .int 3 && receipt.value "schema" = .str schemaPath &&
    receipt.value "state_sha256" = stateSha256) "replanning receipt header mismatch"
  ["state_before", "state_after", "event", "decision"].forM fun field =>
    requireText ("state.receipt." ++ field) (receipt.value field)
  require (receipt.value "state_after" = .str state.phase.text)
    "replanning receipt state does not match"
  [("work_unit_id", state.workUnitId), ("bead_id", state.beadId), ("packet_id", state.packetId),
    ("next_action", state.nextAction)].forM fun entry =>
      require (receipt.value entry.1 = .str entry.2) ("replanning receipt " ++ entry.1 ++ " mismatch")
  require (sameDocument (receipt.value "authority_provenance") state.authority.json)
    "replanning receipt authority mismatch"
  require (receipt.value "reason_codes" = .strings state.reasonCodes)
    "replanning receipt reasons do not match"
  require (sameDocument (receipt.value "protected_change_authorizations") (.arr state.authorizations))
    "replanning receipt protected approvals do not match state"
  [("mutation", state.mutation.json), ("terminal_latches", state.latches.json),
    ("model_health", .obj [("exact_model", .bool state.modelMatch)]),
    ("control_health", .obj [("healthy", .bool state.controlHealthy)]),
    ("main_thread", state.mainThread.json)].forM fun entry =>
      require (sameDocument (receipt.value entry.1) entry.2)
        ("replanning receipt " ++ entry.1 ++ " mismatch")
  require (sameDocument (receipt.value "counters") (.obj state.reportedCounters))
    "replanning receipt counters mismatch"
  require (sameDocument (receipt.value "aggregate") state.allowance.json)
    "replanning receipt aggregate mismatch"
  require (reasonRecordsValid state (receipt.value "reason_records"))
    "replanning receipt reason records invalid"

variable (fromIsoformat : String → Parsed)

/-- The audits of the approvals by which a state was changed, from a position on. -/
def validateAuthorizations : Nat → List Json → List Json → Except PyError Unit
  | _, _, [] => .ok ()
  | index, seen, approval :: rest => do
      let errors ← validateOperatorApprovalAudit fromIsoformat approval
      require errors.isEmpty ("protected_change_authorizations[" ++ toString index ++ "] invalid: " ++
        joinWith ";" errors)
      require (!seen.contains (approval.value "nonce"))
        "protected change authorization nonce replayed"
      validateAuthorizations (index + 1) (approval.value "nonce" :: seen) rest

/-- `_validate_replanning_state` of a document that has the fields of a state. -/
def validateReplanningState (state : State) (stateSha256 : Json) : Except PyError Unit := do
  let _ ← (canonicalJsonObject "replanning-state" (state.json stateSha256)).mapError asValueError
  let sha256 ← state.sha256
  require (stateSha256 = sha256) "state_sha256 integrity mismatch"
  [("work_unit_id", state.workUnitId), ("bead_id", state.beadId), ("packet_id", state.packetId),
    ("requested_model", state.requestedModel), ("objective", state.objective),
    ("security_context", state.securityContext)].forM fun entry =>
      requireText ("state." ++ entry.1) (.str entry.2)
  require (state.mutation.tainted = state.latches.tainted) "tainted mutation/latch mismatch"
  let _ ← ensureStrItems "state.reason_codes" 0 (state.reasonCodes.map .str)
  let _ ← ensureNonemptyStr "state.next_action" (.str state.nextAction)
  require (validateAuthorityProvenance state.authority).isEmpty
    ("authority_provenance invalid: " ++ joinWith ";" (validateAuthorityProvenance state.authority))
  validateAuthorizations fromIsoformat 0 [] state.authorizations
  validateReceipt state stateSha256

/-- `VerifiedReplanningState`: a sealed state that has been validated. -/
structure VerifiedState where
  state : State
  stateSha256 : Json
  valid : validateReplanningState fromIsoformat state stateSha256 = .ok ()

def State.withHash (state : State) (stateSha256 : Json) : State :=
  { state with receipt := state.receipt.set "state_sha256" stateSha256 }

/-- The state as it is sealed, once it is known to be valid. -/
def sealValid (state : State) (stateSha256 : Json) : Except PyError (VerifiedState fromIsoformat) :=
  match valid : validateReplanningState fromIsoformat state stateSha256 with
  | .ok _ => .ok ⟨state, stateSha256, valid⟩
  | .error error => .error error

def mintSealedReplanningState (state : State) : Except PyError (VerifiedState fromIsoformat) := do
  let stateSha256 ← state.sha256
  sealValid fromIsoformat (state.withHash stateSha256) stateSha256

/-- `REPLANNING_BOOTSTRAP_FIELDS`. -/
def bootstrapFields : List String :=
  ["state", "work_unit_id", "bead_id", "packet_id", "requested_model", "objective",
    "security_context", "model_match", "control_healthy", "counters", "aggregate_allowance",
    "mutation", "terminal_latches", "contradictory_validation", "main_thread", "reason_codes",
    "next_action"]

def refuse (condition : Prop) [Decidable condition] (message : String) : Except PyError Unit :=
  if condition then .error (valueError message) else .ok ()

/-- `bootstrap_replanning_state` before the first state is sealed. -/
def bootstrapState (document : Json) (authority : VerifiedAuthority) (policy : Json) :
    Except PyError State := do
  let source ← (canonicalJsonObject "replanning-bootstrap" document).mapError asValueError
  let unknown := unknownFields bootstrapFields source
  refuse (unknown ≠ []) ("malformed payload: state has verifier-owned or unknown field(s) " ++
    joinWith "," unknown)
  requireMinimumAuthority authority .worker "replanning-bootstrap"
  let policy ← normalizeAutonomousPolicy policy
  refuse (getOr source "state" (.str "planned") ≠ .str "planned")
    "malformed bootstrap: state must be planned"
  let counters ← normalizeCounters "state.counters" (getOr source "counters" .objEnd)
  refuse (counters ≠ ⟨0, 0, 0, 0, 0, 0⟩) "malformed bootstrap: counters must all be zero"
  let allowance ← normalizeAllowance "state.aggregate_allowance" policy
    (getOr source "aggregate_allowance" source)
  let mutation ← normalizeMutation "state.mutation" (getOr source "mutation" .objEnd)
  refuse (mutation ≠ ⟨false, false⟩) "malformed bootstrap: mutation flags must be false"
  let contradictory ← ensureBool "state.contradictory_validation"
    (getOr source "contradictory_validation" (.bool false))
  let latches ← normalizeTerminalLatches "state.terminal_latches"
    (getOr source "terminal_latches" (Latches.json ⟨mutation.tainted, contradictory⟩))
  refuse (latches ≠ ⟨false, false⟩) "malformed bootstrap: terminal latches must be false"
  let mainThread ← normalizeMainThread "state.main_thread" policy .objEnd true
    (getOr source "main_thread" .objEnd)
  let text := fun field => ensureNonemptyStr ("state." ++ field) (source.value field)
  let workUnitId ← text "work_unit_id"
  let beadId ← text "bead_id"
  let packetId ← text "packet_id"
  let requestedModel ← text "requested_model"
  let objective ← text "objective"
  let securityContext ← text "security_context"
  let modelMatch ← ensureBool "state.model_match" (getOr source "model_match" (.bool true))
  let controlHealthy ← ensureBool "state.control_healthy"
    (getOr source "control_healthy" (.bool true))
  let reasonCodes ← ensureList "state.reason_codes" (getOr source "reason_codes" .arrEnd)
  refuse (modelMatch = false ∨ controlHealthy = false)
    "malformed bootstrap: model and control health must start true"
  refuse (reasonCodes ≠ []) "malformed bootstrap: reason_codes must be empty"
  refuse (getOr source "next_action" (.str "wait") ≠ .str "wait")
    "malformed bootstrap: next_action must be wait"
  let state : State :=
    { phase := .planned, workUnitId, beadId, packetId, requestedModel, objective, securityContext
      authority := authority.payload, modelMatch, controlHealthy, counters, allowance, mutation
      latches, mainThread, reasonCodes := [], authorizations := [], nextAction := "wait"
      snapshot := policy.snapshot, receipt := .objEnd }
  let receipt ← emitReceipt .planned "bootstrap" authority "initialized" state
  return { state with receipt }

/-- `bootstrap_replanning_state`; the lifecycle is registered afterwards. -/
def bootstrapReplanningState (document : Json) (authority : VerifiedAuthority) (policy : Json) :
    Except PyError (VerifiedState fromIsoformat) := do
  mintSealedReplanningState fromIsoformat (← bootstrapState document authority policy)

end WorkOrchestration.Native.Replanning
