import WorkOrchestration.Native.Supervision
import WorkOrchestration.Workspace.Baseline

/-!
# Precommit supervision

A fit prompt is sent to a worker that may only answer it. Every check reads the session log and the
workspace again, and a receipt is issued for a closed state.
-/

namespace WorkOrchestration.Native.Precommit

open Lib.Text Artifacts Session
open Supervision (iso elapsedMs)
open Workspace.Baseline

/-! ## The state -/

inductive Status where
  | created
  | armed
  | fitDispatched
  | completed
  | interruptPending
  | controlFailed
  | closed
  deriving DecidableEq

inductive FitDecision where
  | accept
  | pmRealignment
  | architectRealignment
  deriving DecidableEq

inductive Decision where
  | continue'
  | interrupt
  | reject
  | fit (decision : FitDecision)

inductive Outcome where
  | completed
  | interrupted
  | controlFailed
  deriving DecidableEq

inductive SemanticStatus where
  | pending
  | valid
  | invalid
  deriving DecidableEq

inductive ControlAction where
  | arm
  | nativeSendInput
  | dispatchMarked
  | deterministicFit
  | workerCompleted
  | interruptConfirmed
  | closeConfirmed
  | controlFailed
  deriving DecidableEq

def COMPLETION_ACTIONS : List ControlAction :=
  [.workerCompleted, .interruptConfirmed, .closeConfirmed, .controlFailed]

structure ControlReceipt where
  action : ControlAction
  controlTurnId : Option String
  submissionId : Option String
  at' : Int

/-- `boundary_sha256` stands for all bytes, and so for the byte offset and the tokens in them. -/
structure Boundary where
  recordCount : Nat
  boundarySha256 : Digest
  deriving DecidableEq

structure Polling where
  intervalMs : Int
  lagToleranceMs : Int
  armedAt : Option Int
  dispatchedAt : Option Int
  firstSuccessfulPollAt : Option Int
  lastSuccessfulPollAt : Option Int
  pollCount : Nat
  maxGapMs : Int
  latePollCount : Nat
  uninterrupted : Bool

structure Observed where
  functionCalls : Nat
  customToolCalls : Nat
  contextCompactions : Nat
  workspaceMutations : Nat
  firstForbiddenEvent : Option (String × Option Nat)
  forbiddenEvents : List String
  taskBoundaryObserved : Bool
  taskCompleteObserved : Bool

structure FitResult where
  decision : FitDecision
  toolCallsP50 : Int
  toolCallsP90 : Int
  runtimeSecondsP50 : Int
  runtimeSecondsP90 : Int

structure OwnerIdentity where
  pid : Nat
  startTimeTicks : Nat
  processGroupId : Nat
  sessionId : Nat
  bootIdSha256 : Digest
  executionHandle : String
  deriving DecidableEq

structure State where
  stateId : String
  stateFile : String
  packetId : String
  attemptNonce : String
  sessionId : String
  sessionFile : String
  workdir : String
  requestedModel : String
  attestedModel : String
  attestationSource : String
  ownerIdentity : OwnerIdentity
  workspaceBaseline : WorkspaceBaseline
  baseline : Boundary
  terminal : Option Boundary
  armToDispatchMaxMs : Int
  polling : Polling
  observed : Observed
  status : Status
  decision : Decision
  reasons : List String
  interruptRequested : Bool
  closureOutcome : Option Outcome
  finalResponseSha256 : Option Digest
  semanticStatus : SemanticStatus
  fitResult : Option FitResult
  controlReceipts : List ControlReceipt
  controlTurnId : Option String
  submissionId : Option String
  updatedAt : Int
  closedAt : Option Int

def TRUSTED_ATTESTATION_SOURCE : String := "trusted-control-plane-session-metadata"

/-- The section `precommit_supervision` of the policy. -/
structure Policy where
  authorizedModels : List String
  pollIntervalMs : Int
  pollLagToleranceMs : Int
  armToDispatchMaxMs : Int

/-! ## Processes -/

/-- What `/proc` shows of a process. -/
structure Process where
  startTimeTicks : Nat
  processGroupId : Nat
  sessionId : Nat
  deriving DecidableEq

/-- What the operating system shows: a live process whose record can be read, and the boot id. -/
structure Host where
  process : Nat → Except PyError Process
  bootId : Except PyError String

def captureOwnerIdentity (host : Host) (pid : Nat) (executionHandle : String) :
    Except PyError OwnerIdentity := do
  let process ← host.process pid
  let bootId ← host.bootId
  return ⟨pid, process.startTimeTicks, process.processGroupId, process.sessionId,
    textSha256 bootId, executionHandle⟩

def ownerIdentityMatches (host : Host) (identity : OwnerIdentity) : Bool :=
  match captureOwnerIdentity host identity.pid identity.executionHandle with
  | .ok actual => actual == identity
  | .error _ => false

/-! ## The session -/

def requireString (value field : String) : Except PyError String :=
  if strip value = "" then .error (valueError (field ++ " must be a non-empty string"))
  else .ok (strip value)

/-- The nonempty texts among values. -/
def spelled (values : List Json) : List String :=
  values.filterMap fun
    | .str text => if text = "" then none else some text
    | _ => none

/-- The identities in the payload of a `session_meta` record. -/
def metaIdentities (record : Json) : List String :=
  if record.value "type" = .str "session_meta" then
    spelled [(record.value "payload").value "id", (record.value "payload").value "session_id"]
  else []

def identityError (sessionId : String) (record : Json) : Option String :=
  if (spelled [record.value "session_id"]).any (· != sessionId) then
    some "session identity changed inside JSONL boundary"
  else if (metaIdentities record).any (· != sessionId) then
    some "session_meta identity does not match requested session"
  else none

variable (policy : Policy) (state : State) (records : List Json) (loads : String → Option Json)
  (evidence : Evidence) (controlTurnId : String)

def boundaryOf : Boundary :=
  ⟨records.length, canonicalSha256 (.arr records)⟩

/-- `capture_boundary`; `session` is what reading the file gives, one object for each line. -/
def captureBoundary (sessionId : String) (session : Except PyError (List Json)) :
    Except PyError (Boundary × List Json) := do
  let records ← session
  if records = [] then throw (valueError "session file has no complete records")
  match records.findSome? (identityError sessionId) with
  | some message => throw (valueError message)
  | none =>
    if records.all fun record =>
        (spelled [record.value "session_id"]).isEmpty && (metaIdentities record).isEmpty then
      throw (valueError "trusted session identity is missing from JSONL boundary")
    return (boundaryOf records, records)

/-- `assert_prefix_intact`. -/
def prefixIsIntact (baseline : Boundary) (session : Except PyError (List Json)) :
    Except PyError Unit := do
  let records ← session
  if records.length < baseline.recordCount then
    throw (valueError "session JSONL was truncated below the baseline byte offset")
  if canonicalSha256 (.arr (records.take baseline.recordCount)) ≠ baseline.boundarySha256 then
    throw (valueError "session JSONL prefix was rewritten after baseline capture")

def attestation (record : Json) : Option (String × Bool) :=
  (normalizeTurnContext record).bind fun context =>
    match context.value "model" with
    | .str model =>
      if strip model = "" then none
      else
        let source := context.value "attestation_source"
        let source := if source.truthy then source else context.value "attestationSource"
        some (strip model, source = .str TRUSTED_ATTESTATION_SOURCE)
    | _ => none

/-- `_trusted_models`: the models, and whether there are errors. -/
def trustedModels : List String × Bool :=
  let attested := records.filterMap attestation
  ((attested.filter (·.2)).map (·.1), attested.any fun entry => !entry.2)

def verifyExactAttestation (requestedModel : String) : Except PyError Unit :=
  let models := trustedModels records
  if models.2 then
    .error (valueError "model metadata is missing trusted control-plane attestation source")
  else if models.1 = [] then
    .error (valueError "trusted control-plane model attestation is missing")
  else if models.1.any (· != requestedModel) then
    .error (valueError
      "trusted control-plane model attestation does not exactly match requested model")
  else .ok ()

def recordForbidden (record : Json) : List String :=
  (if normalizeEventMsg record = some COMPACTION_EVENT then ["context-compaction"] else []) ++
    (normalizeResponseItems record).filterMap fun item =>
      if item.value "type" = .str "function_call" then some "function-call"
      else if item.value "type" = .str "custom_tool_call" then some "custom-tool-call"
      else none

def activity : Observed :=
  let forbidden := records.flatMap recordForbidden
  { functionCalls := forbidden.count "function-call"
    customToolCalls := forbidden.count "custom-tool-call"
    contextCompactions := forbidden.count "context-compaction"
    workspaceMutations := 0
    firstForbiddenEvent := records.zipIdx.findSome? fun entry =>
      (recordForbidden entry.1).head?.map fun kind => (kind, some entry.2)
    forbiddenEvents := forbidden.eraseDups
    taskBoundaryObserved := records.any fun record =>
      normalizeEventMsg record == some SEGMENT_START_EVENT || isUserBoundaryRecord record
    taskCompleteObserved := records.any fun record =>
      normalizeEventMsg record == some SEGMENT_END_EVENT }

/-- The text of one part of a message. -/
def partText : Json → String
  | .str text => text
  | part =>
    match if (part.value "text").truthy then part.value "text" else part.value "output_text" with
    | .str text => text
    | _ => ""

/-- `text.strip() or None`. -/
def stripped (text : String) : Option String := if strip text = "" then none else some (strip text)

def responseText (item : Json) : Option String :=
  if item.value "type" = .str "message" ∧ item.value "role" = .str "assistant" then
    match item.value "content" with
    | .str text => stripped text
    | content =>
      match content.elements? with
      | some parts => stripped (String.join (parts.map partText))
      | none => none
  else none

/-- `_final_response`: the last text of the assistant. -/
def finalResponse : Option String :=
  ((records.flatMap normalizeResponseItems).filterMap responseText).getLast?

def fitDecision? : Json → Option FitDecision
  | .str "accept" => some .accept
  | .str "pm-realignment" => some .pmRealignment
  | .str "architect-realignment" => some .architectRealignment
  | _ => none

def estimate (source : Json) (field : String) : Except PyError Int :=
  match source.value field with
  | .int value =>
    if value < 1 then
      .error (valueError ("fit response " ++ field ++ " must be a positive integer"))
    else .ok value
  | _ => .error (valueError ("fit response " ++ field ++ " must be a positive integer"))

/-- `parse_fit_result`; `loads` is `json.loads`, which gives nothing where it raises. -/
def parseFitResult (raw : String) : Except PyError FitResult := do
  match loads raw with
  | none => throw (valueError "fit response must be one JSON object")
  | some source =>
    if source.isObject = false then throw (valueError "fit response must be one JSON object")
    if source.hasExactly ["decision", "tool_calls_p50", "tool_calls_p90", "runtime_seconds_p50",
        "runtime_seconds_p90"] = false then
      throw (valueError
        "fit response fields must exactly match the decision and required p50/p90 fields")
    match fitDecision? (source.value "decision") with
    | none => throw (valueError "fit response decision is outside the allowed vocabulary")
    | some decision =>
      let toolCallsP50 ← estimate source "tool_calls_p50"
      let toolCallsP90 ← estimate source "tool_calls_p90"
      let runtimeSecondsP50 ← estimate source "runtime_seconds_p50"
      let runtimeSecondsP90 ← estimate source "runtime_seconds_p90"
      if toolCallsP90 < toolCallsP50 then
        throw (valueError "fit response tool_calls_p50 must be <= tool_calls_p90")
      if runtimeSecondsP90 < runtimeSecondsP50 then
        throw (valueError "fit response runtime_seconds_p50 must be <= runtime_seconds_p90")
      return ⟨decision, toolCallsP50, toolCallsP90, runtimeSecondsP50, runtimeSecondsP90⟩

/-! ## Operations -/

/-- What an operation finds around the state: the processes, the session file, and a capture of the
workspace, which also takes the baseline artifact. -/
structure Evidence where
  host : Host
  session : Except PyError (List Json)
  workspace : Except PyError WorkspaceBaseline

namespace State

def requireLiveOwnerIdentity : Except PyError Unit :=
  if ownerIdentityMatches evidence.host state.ownerIdentity then .ok ()
  else .error (valueError "control-plane process identity or topology changed")

def workspaceReport : Except PyError MutationReport := do
  let after ← evidence.workspace
  let report := compareWorkspaceBaseline state.workspaceBaseline after ["."]
  if report.incomplete then
    throw (valueError "workspace comparison failed or is incomplete")
  return report

def controlReceipt (action : ControlAction) (now : Int) : State :=
  { state with
    controlReceipts := state.controlReceipts ++
      [⟨action, state.controlTurnId, state.submissionId, iso now⟩] }

def requireControlTurn (value : String) : Except PyError Unit := do
  let controlTurn ← requireString value "control_turn_id"
  if state.controlTurnId ≠ some controlTurn then
    throw (valueError "control-turn identity does not match armed precommit state")

def setControlFailed (reason : String) (now : Int) : State :=
  { state with
    status := .controlFailed
    decision := .interrupt
    interruptRequested := true
    polling := { state.polling with uninterrupted := false }
    reasons := (state.reasons ++ [reason]).eraseDups
    updatedAt := iso now }

def armPrecommit (now : Int) :
    Except PyError State := do
  state.requireLiveOwnerIdentity evidence
  if state.status ≠ .created then throw (valueError "arm requires a created precommit state")
  let (boundary, records) ← captureBoundary state.sessionId evidence.session
  prefixIsIntact state.baseline evidence.session
  if state.baseline ≠ boundary then
    throw (valueError "session changed between precommit creation and arming")
  verifyExactAttestation records state.requestedModel
  let report ← state.workspaceReport evidence
  if report.mutationDetected then
    throw (valueError "workspace changed between precommit creation and arming")
  let turn ← requireString controlTurnId "control_turn_id"
  return { state with
    controlTurnId := some turn
    status := .armed
    polling := { state.polling with armedAt := some (iso now) }
    updatedAt := iso now : State }.controlReceipt .arm now

/-- The state of a dispatch, before the turn and the latency are looked at. -/
def dispatched (submissionId : String) (now : Int) : State :=
  { state with
    submissionId := some submissionId
    polling := { state.polling with dispatchedAt := some (iso now) }
    updatedAt := iso now }

def markFitDispatched (submissionId : String)
    (now : Int) : Except PyError State := do
  state.requireLiveOwnerIdentity evidence
  if state.status ≠ .armed then
    throw (valueError "mark-dispatched requires an armed precommit state")
  let supplied ← requireString controlTurnId "control_turn_id"
  let submission ← requireString submissionId "submission_id"
  let sent := state.dispatched submission now
  if state.controlTurnId ≠ some supplied then
    return sent.setControlFailed "control-turn-mismatch-after-native-send" now
  else if state.armToDispatchMaxMs < elapsedMs (state.polling.armedAt.getD now) now then
    return sent.setControlFailed "arm-to-dispatch-latency-exceeded" now
  else
    return ({ sent with status := .fitDispatched }.controlReceipt .nativeSendInput now).controlReceipt
      .dispatchMarked now

def allowedGapMs : Int := state.polling.intervalMs + state.polling.lagToleranceMs

def recordPoll (now : Int) : State :=
  let polling := state.polling
  match polling.lastSuccessfulPollAt.or polling.dispatchedAt with
  | none => state.setControlFailed "missing-dispatch-timestamp-before-poll" now
  | some reference =>
    let gap := elapsedMs reference now
    let seen := { polling with maxGapMs := max polling.maxGapMs gap }
    if state.allowedGapMs < gap then
      { state with
        polling := { seen with latePollCount := polling.latePollCount + 1 } : State
        }.setControlFailed "precommit-polling-continuity-lost" now
    else
      { state with
        polling := { seen with
          firstSuccessfulPollAt := polling.firstSuccessfulPollAt.or (some (iso now))
          lastSuccessfulPollAt := some (iso now)
          pollCount := polling.pollCount + 1 } }

/-- The activity of the worker, with what happened to the workspace. -/
def observe (report : MutationReport) : Observed :=
  let seen := activity records
  { seen with
    workspaceMutations := report.mutations.length
    forbiddenEvents :=
      (seen.forbiddenEvents ++ if report.mutationDetected then ["workspace-mutation"] else [])
        |>.eraseDups
    firstForbiddenEvent :=
      seen.firstForbiddenEvent.or
        (if report.mutationDetected then some ("workspace-mutation", none) else none) }

def complete (records : List Json) : State :=
  let response := (finalResponse records).getD ""
  let answered := { state with
    finalResponseSha256 := some (textSha256 response)
    status := .completed }
  match parseFitResult loads response with
  | .ok result =>
    { answered with
      fitResult := some result
      semanticStatus := .valid
      decision := .fit result.decision
      reasons := [] }
  | .error error =>
    { answered with
      fitResult := none
      semanticStatus := .invalid
      decision := .reject
      reasons := [error.message] }

/-- What a check makes of what it has read. -/
def judge (boundary : Boundary)
    (records : List Json) (report : MutationReport) : State :=
  let seen := observe records report
  let state := { state with observed := seen, terminal := some boundary }
  if state.status = .controlFailed then { state with interruptRequested := true }
  else if state.interruptRequested ∨ seen.forbiddenEvents ≠ [] then
    { state with
      status := .interruptPending
      decision := .interrupt
      interruptRequested := true
      reasons := if seen.forbiddenEvents ≠ [] then seen.forbiddenEvents else state.reasons }
  else if seen.taskCompleteObserved then state.complete loads records
  else { state with decision := .continue', reasons := [] }

/-- The part of a check that reads the session and the workspace. -/
def read :
    Except PyError State := do
  prefixIsIntact state.baseline evidence.session
  let (boundary, records) ← captureBoundary state.sessionId evidence.session
  let delta := records.drop state.baseline.recordCount
  let models := trustedModels delta
  if models.2 ∨ models.1.any (· != state.requestedModel) then
    throw (valueError "trusted model attestation changed during precommit fit")
  let report ← state.workspaceReport evidence
  return state.judge loads boundary delta report

/-- `except ValueError`: what could not be read fails the control. -/
def orControlFailed (now : Int) (computed : Except PyError State) :
    Except PyError State :=
  match computed with
  | .ok after => .ok after
  | .error error =>
    if error.kind = .value then .ok (state.setControlFailed error.message now) else .error error

/-- `check_precommit`, as far as the state goes. -/
def checkPrecommit (now : Int) : Except PyError State := do
  state.requireLiveOwnerIdentity evidence
  match state.requireControlTurn controlTurnId with
  | .error _ =>
    return state.setControlFailed "control-turn-mismatch-during-precommit-monitoring" now
  | .ok _ =>
    if state.status = .closed then return state
    if state.status ∉ [Status.fitDispatched, .completed, .interruptPending, .controlFailed] then
      throw (valueError "check requires a fit-dispatched precommit state")
    let polled := if state.status = .fitDispatched then state.recordPoll now else state
    let after ← polled.orControlFailed now (polled.read loads evidence)
    return { after with updatedAt := iso now }

def actions : List ControlAction := state.controlReceipts.map (·.action)

/-- The outcome of a close, or why the state cannot be closed. -/
def closing : Except PyError Outcome :=
  if state.status = .completed ∧ state.interruptRequested = false then
    if ControlAction.workerCompleted ∈ state.actions then .ok .completed
    else .error (valueError "clean close requires a worker-completed control receipt")
  else if state.status = .controlFailed then
    if ControlAction.interruptConfirmed ∈ state.actions then .ok .controlFailed
    else .error (valueError "control-failed close requires interrupt confirmation")
  else if ControlAction.interruptConfirmed ∈ state.actions then .ok .interrupted
  else .error (valueError "interrupted close requires interrupt confirmation")

/-- The state that a completion action makes of one that it is allowed for. -/
def received (action : ControlAction) (now : Int) : Except PyError State :=
  match action with
  | .workerCompleted =>
    if state.status ≠ .completed ∨ state.interruptRequested then
      .error (valueError "worker-completed requires unambiguous clean completion")
    else .ok (state.controlReceipt action now)
  | .interruptConfirmed =>
    if state.interruptRequested = false ∧
        state.status ∉ [Status.interruptPending, .controlFailed] then
      .error (valueError "interrupt-confirmed requires a prior interrupt request")
    else .ok ({ state with interruptRequested := true }.controlReceipt action now)
  | .controlFailed =>
    .ok ((state.setControlFailed "control-plane-reported-failure" now).controlReceipt action now)
  | .closeConfirmed => do
      let outcome ← state.closing
      return { state.controlReceipt action now with
        closureOutcome := some outcome
        status := .closed
        closedAt := some (iso now) }
  | _ => .error (valueError "unknown precommit control action")

def finalizePrecommit
    (action : ControlAction) (now : Int) : Except PyError State := do
  state.requireLiveOwnerIdentity evidence
  match state.requireControlTurn controlTurnId with
  | .error _ =>
    return state.setControlFailed "control-turn-mismatch-during-precommit-finalization" now
  | .ok _ =>
    if action ∉ COMPLETION_ACTIONS then
      throw (valueError "unknown precommit control action")
    if state.status = .closed then
      throw (valueError "closed precommit state cannot be reopened")
    let after ← state.received action now
    return { after with updatedAt := iso now }

end State

/-! ## Receipts -/

inductive Disposition where
  | accept
  | reject
  | quarantine

/-- A receipt; the fields that it copies are those of the state. -/
structure Receipt where
  state : State
  terminal : Boundary
  observed : Observed
  disposition : Disposition
  accepting : Bool

def expectedAccepting (observed : Observed) : Bool :=
  let deterministic := state.submissionId = some "deterministic-policy"
  let controls := [ControlAction.arm, .workerCompleted, .closeConfirmed] ++
    if deterministic then [] else [ControlAction.nativeSendInput, .dispatchMarked]
  state.closureOutcome = some .completed && state.semanticStatus = .valid &&
    (state.fitResult.map (·.decision)) = some .accept &&
    state.attestedModel = state.requestedModel &&
    policy.authorizedModels.contains state.requestedModel &&
    state.attestationSource = TRUSTED_ATTESTATION_SOURCE &&
    observed.functionCalls = 0 && observed.customToolCalls = 0 &&
    observed.contextCompactions = 0 && observed.workspaceMutations = 0 &&
    observed.forbiddenEvents = [] && state.polling.uninterrupted &&
    state.polling.latePollCount = 0 &&
    (deterministic || 1 ≤ state.polling.pollCount) &&
    controls.all (state.actions.contains ·)

/-- The checks of `validate_precommit_receipt` that an issued receipt can fail. -/
def validateReceipt (receipt : Receipt) : Except PyError Unit := do
  let state := receipt.state
  if state.controlTurnId.isNone then
    throw (valueError "invalid precommit receipt: control_turn_id must be a non-empty string")
  if state.submissionId.isNone then
    throw (valueError "invalid precommit receipt: submission_id must be a non-empty string")
  if policy.authorizedModels.contains state.requestedModel = false ∨
      state.attestedModel ≠ state.requestedModel then
    throw (valueError
      "invalid precommit receipt: precommit receipt does not bind an exact authorized model attestation")
  if state.submissionId = some "deterministic-policy" ∧ state.baseline ≠ receipt.terminal then
    throw (valueError
      "invalid precommit receipt: deterministic receipt requires equal zero-length boundaries")
  if state.submissionId = some "deterministic-policy" ∧
      receipt.observed.functionCalls + receipt.observed.customToolCalls +
        receipt.observed.contextCompactions + receipt.observed.workspaceMutations ≠ 0 then
    throw (valueError
      "invalid precommit receipt: deterministic receipt requires explicit zero observed activity")

/-- What the workspace adds to the observations when the receipt is issued. -/
def Observed.withReport (observed : Observed) (report : MutationReport) : Observed :=
  if report.mutationDetected then
    { observed with
      workspaceMutations := report.mutations.length
      forbiddenEvents := (observed.forbiddenEvents ++ ["workspace-mutation"]).eraseDups }
  else observed

def issuePrecommitReceipt :
    Except PyError Receipt := do
  state.requireLiveOwnerIdentity evidence
  if state.status ≠ .closed then
    throw (valueError "precommit receipt requires a closed state")
  let (current, _) ← captureBoundary state.sessionId evidence.session
  let terminal := state.terminal.getD current
  if state.closureOutcome = some .completed ∧ terminal ≠ current then
    throw (valueError "session changed after clean completion and before receipt issuance")
  let report ← state.workspaceReport evidence
  let observed := state.observed.withReport report
  let accepting := expectedAccepting policy state observed
  let receipt : Receipt :=
    { state
      terminal
      observed
      disposition :=
        if state.closureOutcome = some .completed then
          if accepting then .accept else .reject
        else .quarantine
      accepting }
  validateReceipt policy receipt
  return receipt

/-! ## Creation -/

/-- What a precommit is created for. -/
structure Request where
  stateId : String
  stateFile : String
  packetId : String
  attemptNonce : String
  sessionId : String
  sessionFile : String
  workdir : String
  requestedModel : String
  ownerPid : Nat
  executionHandle : String
  /-- The checks of the work plan, of its routing and prompt, and of the paths. -/
  admission : Except PyError Unit

/-- The state that a creation makes. -/
def State.initial (request : Request) (owner : OwnerIdentity)
    (baseline : Boundary) (workspace : WorkspaceBaseline) (now : Int) : State where
  stateId := request.stateId
  stateFile := request.stateFile
  packetId := request.packetId
  attemptNonce := request.attemptNonce
  sessionId := request.sessionId
  sessionFile := request.sessionFile
  workdir := request.workdir
  requestedModel := request.requestedModel
  attestedModel := request.requestedModel
  attestationSource := TRUSTED_ATTESTATION_SOURCE
  ownerIdentity := owner
  workspaceBaseline := workspace
  baseline
  terminal := none
  armToDispatchMaxMs := policy.armToDispatchMaxMs
  polling := ⟨policy.pollIntervalMs, policy.pollLagToleranceMs, none, none, none, none, 0, 0, 0,
    true⟩
  observed := ⟨0, 0, 0, 0, none, [], false, false⟩
  status := .created
  decision := .continue'
  reasons := []
  interruptRequested := false
  closureOutcome := none
  finalResponseSha256 := none
  semanticStatus := .pending
  fitResult := none
  controlReceipts := []
  controlTurnId := none
  submissionId := none
  updatedAt := iso now
  closedAt := none

/-- `create_precommit_state`, up to the registration. -/
def createPrecommitState (request : Request) (evidence : Evidence) (now : Int) :
    Except PyError State := do
  if policy.authorizedModels.contains request.requestedModel = false then
    throw (valueError "precommit requested model must be authorized by native operative policy")
  request.admission
  let (boundary, records) ← captureBoundary request.sessionId evidence.session
  verifyExactAttestation records request.requestedModel
  let owner ← captureOwnerIdentity evidence.host request.ownerPid request.executionHandle
  let workspace ← evidence.workspace
  if workspace.incomplete then
    throw (valueError "workspace baseline comparison is incomplete")
  return State.initial policy request owner boundary workspace now

end WorkOrchestration.Native.Precommit
