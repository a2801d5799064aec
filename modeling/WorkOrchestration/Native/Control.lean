import Mathlib.Data.List.Infix
import Mathlib.Data.List.Sort
import WorkOrchestration.Lib.Checks
import WorkOrchestration.Native.Artifacts

/-!
# Native control turns

One supervised worker segment as a cooperative machine. A step invokes at most one adapter callback; which
one is decided by the phase, and its reply decides the next phase. A run is determined by the operations
applied to the turn and the replies they receive.
-/

namespace WorkOrchestration.Native.Control

open Lib.Checks Lib.Text Artifacts

/-- The adapter callbacks of `REQUIRED_CALLBACKS` that a step invokes. -/
inductive Callback where
  | arm
  | sendInput
  | markDispatched
  | check
  | interrupt
  | close
  | finalize
  deriving DecidableEq

def Callback.text : Callback → String
  | arm => "arm"
  | sendInput => "send_input"
  | markDispatched => "mark_dispatched"
  | check => "check"
  | interrupt => "interrupt"
  | close => "close"
  | finalize => "finalize"

/-- The labels recorded in `actions`. -/
inductive Action where
  | arm
  | sendInput
  | markDispatched
  | check
  | finalizeWorkerCompleted
  | close
  | interrupt
  | finalizeInterruptConfirmed
  | finalizeCloseConfirmed
  | finalizeControlFailed
  deriving DecidableEq

namespace Action

def text : Action → String
  | arm => "arm"
  | sendInput => "send-input"
  | markDispatched => "mark-dispatched"
  | check => "check"
  | finalizeWorkerCompleted => "finalize:worker-completed"
  | close => "close"
  | interrupt => "interrupt"
  | finalizeInterruptConfirmed => "finalize:interrupt-confirmed"
  | finalizeCloseConfirmed => "finalize:close-confirmed"
  | finalizeControlFailed => "finalize:control-failed"

def callback : Action → Callback
  | arm => .arm
  | sendInput => .sendInput
  | markDispatched => .markDispatched
  | check => .check
  | finalizeWorkerCompleted => .finalize
  | close => .close
  | interrupt => .interrupt
  | finalizeInterruptConfirmed => .finalize
  | finalizeCloseConfirmed => .finalize
  | finalizeControlFailed => .finalize

end Action

/-- An entry of `decisions`: a check's verdict or an outer supervisor's request. -/
inductive Decision where
  | continue
  | warn
  | complete
  | interrupt
  | controlLost
  | requested (reason : String)
  deriving DecidableEq

def Decision.text : Decision → String
  | .continue => "continue"
  | warn => "warn"
  | complete => "complete"
  | interrupt => "interrupt"
  | controlLost => "control-lost"
  | requested reason => "interrupt:" ++ reason

/-- The phases of the cooperative machine. -/
inductive Phase where
  | start
  | arm
  | sendInput
  | markDispatched
  | check
  | waiting
  | finalizeComplete
  | waitingCloseComplete
  | closeComplete
  | interrupt
  | finalizeInterrupt
  | waitingCloseInterrupt
  | closeInterrupt
  | finalizeClose
  | finalizeControlFailed
  | terminal
  deriving DecidableEq

def Phase.text : Phase → String
  | start => "start"
  | arm => "arm"
  | sendInput => "send-input"
  | markDispatched => "mark-dispatched"
  | check => "check"
  | waiting => "waiting"
  | finalizeComplete => "finalize-complete"
  | waitingCloseComplete => "waiting-close-complete"
  | closeComplete => "close-complete"
  | interrupt => "interrupt"
  | finalizeInterrupt => "finalize-interrupt"
  | waitingCloseInterrupt => "waiting-close-interrupt"
  | closeInterrupt => "close-interrupt"
  | finalizeClose => "finalize-close"
  | finalizeControlFailed => "finalize-control-failed"
  | terminal => "terminal"

/-- The values of `terminal_state`. -/
inductive TerminalState where
  | completed
  | closed
  | controlFailed
  deriving DecidableEq

def TerminalState.text : TerminalState → String
  | completed => "completed"
  | closed => "closed"
  | controlFailed => "control-failed"

def allowedActions : List String :=
  ["arm", "send-input", "mark-dispatched", "check", "interrupt", "close", "finalize"]

def requiredCallbacks : List String :=
  ["arm", "send_input", "mark_dispatched", "check", "interrupt", "close", "finalize", "sleep"]

/-- `REQUIRED_CONTRACT_FIELDS`. -/
structure ControlContract where
  stateFile : String
  agentId : String
  controlTurnId : String
  taskSha256 : Digest
  pollIntervalMs : Int
  allowedActions : List String
  contractSha256 : Digest

/-- `_contract_payload`. -/
def ControlContract.payload (contract : ControlContract) : Json :=
  .obj [("contract_type", .str "cwo-native-control-turn-contract"), ("version", .int 1),
      ("state_file", .str contract.stateFile), ("agent_id", .str contract.agentId),
      ("control_turn_id", .str contract.controlTurnId), ("task_sha256", contract.taskSha256.json),
      ("poll_interval_ms", .int contract.pollIntervalMs),
      ("allowed_actions", .strings contract.allowedActions)]

def validateControlTurnContract (contract : ControlContract) : List String :=
  reject (¬ Nonempty contract.stateFile ∨ ¬ contract.stateFile.toList.head? = some '/')
    "invalid-state-file" ++
  reject (¬ Nonempty contract.agentId) "invalid-agent-id" ++
  reject (¬ Nonempty contract.controlTurnId) "invalid-control-turn-id" ++
  reject (contract.pollIntervalMs ≤ 0) "invalid-poll-interval-ms" ++
  reject (contract.allowedActions ≠ allowedActions) "invalid-allowed-actions" ++
  reject (contract.contractSha256 ≠ canonicalSha256 contract.payload) "contract-sha256-mismatch"

/-- A callback mapping: the name of each entry and whether it is callable. -/
abbrev CallbackTable := List (String × Bool)

def validateControlCallbacks (callbacks : CallbackTable) : List String :=
  let names := callbacks.map Prod.fst
  let forbidden := names.filter fun name => decide ("wait".toList <:+: (lower name).toList)
  let unknown := names.filter (· ∉ requiredCallbacks)
  let missing := requiredCallbacks.filter (· ∉ names)
  let invalid := requiredCallbacks.filter fun name => (name, false) ∈ callbacks
  reject (forbidden ≠ [])
    ("wait-callback-forbidden:" ++ joinWith "," (forbidden.insertionSort (· ≤ ·))) ++
  reject (unknown ≠ []) ("unknown-callbacks:" ++ joinWith "," (unknown.insertionSort (· ≤ ·))) ++
  reject (missing ≠ []) ("missing-callbacks:" ++ joinWith "," missing) ++
  reject (invalid ≠ []) ("noncallable-callbacks:" ++ joinWith "," invalid)

/-- The first field that holds visible text, trimmed. -/
def firstVisibleText (value : Json) : List String → Option String
  | [] => none
  | field :: rest =>
    match value.get? field with
    | some (.str text) =>
      if Nonempty text then some (strip text) else firstVisibleText value rest
    | _ => firstVisibleText value rest

def normalizeControlAcknowledgement (value : Json) : Except PyError (Option String) :=
  let unusable : Except PyError (Option String) :=
    .error (valueError "control callback acknowledgement must be text, mapping, or null")
  match value with
  | .null => .ok none
  | .str text => .ok (if Nonempty text then some (strip text) else none)
  | value =>
    if value.isObject then
      match firstVisibleText value
          ["ack", "acknowledgement", "status", "state", "control_action"] with
      | some text => .ok (some text)
      | none =>
        match value.get? "decision" with
        | some (.str text) => .ok (if Nonempty text then some (strip text) else none)
        | _ => unusable
    else unusable

def submissionId (value : Json) : Except PyError String :=
  let candidate := if value.isObject then (value.get? "submission_id").getD .null else value
  match candidate with
  | .str text =>
    if Nonempty text then .ok (strip text)
    else .error (valueError "send_input did not return a submission_id")
  | _ => .error (valueError "send_input did not return a submission_id")

/-- The words of `VALID_DECISIONS` and of `_DECISION_ALIASES`. -/
def decisionWords : List (String × Decision) :=
  [("continue", .continue), ("warn", .warn), ("complete", .complete), ("interrupt", .interrupt),
    ("control-lost", .controlLost), ("completed", .complete), ("worker-completed", .complete),
    ("task-complete", .complete)]

def normalizeDecision (text : String) : Option Decision :=
  decisionWords.lookup (replaceChar '_' '-' (lower (strip text)))

/-- The first of the fields that a mapping has, whatever its value. -/
def firstPresent (value : Json) : List String → Option Json
  | [] => none
  | field :: rest => (value.get? field).or (firstPresent value rest)

def decision (value : Json) : Except PyError Decision :=
  let invalid : Except PyError Decision := .error (valueError "check returned an invalid decision")
  if value = .null then .error (valueError "check returned missing decision evidence")
  else
    let candidate :=
      if value.isObject then
        firstPresent value ["decision", "control_action", "ack", "acknowledgement", "state"]
      else some value
    match candidate with
    | some (.str text) =>
      match normalizeDecision text with
      | some verdict => .ok verdict
      | none => invalid
    | _ => invalid

def deferredCloseRequested (value : Json) : Bool :=
  value.isObject && value.get? "close_wait_required" == some (.bool true)

/-- `RECEIPT_FIELDS`. -/
structure ControlReceipt where
  contractSha256 : Digest
  taskSha256 : Digest
  submissionId : Option String
  actions : List Action
  decisions : List Decision
  pollCount : Nat
  terminalState : TerminalState
  errors : List String

def ControlReceipt.json (receipt : ControlReceipt) : Json :=
  .obj [("receipt_type", .str "cwo-native-control-turn-receipt"), ("version", .int 1),
      ("contract_sha256", receipt.contractSha256.json), ("task_sha256", receipt.taskSha256.json),
      ("submission_id", .optional .str receipt.submissionId),
      ("actions", .strings (receipt.actions.map Action.text)),
      ("decisions", .strings (receipt.decisions.map Decision.text)),
      ("poll_count", .nat receipt.pollCount),
      ("terminal_state", .str receipt.terminalState.text), ("errors", .strings receipt.errors)]

def validDecisions : List String := ["continue", "warn", "complete", "interrupt", "control-lost"]

def ValidReceiptDecision (text : String) : Prop :=
  text ∈ validDecisions ∨
    "interrupt:".toList <+: text.toList ∧ removePrefix "interrupt:" text ≠ "" ∧
      removePrefix "interrupt:" text = strip (removePrefix "interrupt:" text)

instance (text : String) : Decidable (ValidReceiptDecision text) :=
  inferInstanceAs (Decidable (_ ∨ _ ∧ _ ∧ _))

/-- `validate_control_turn_receipt` without a contract. -/
def validateControlTurnReceipt (receipt : ControlReceipt) : List String :=
  reject (∃ submission ∈ receipt.submissionId, ¬ Nonempty submission)
    "control-receipt-submission-id-invalid" ++
  reject (∃ action ∈ receipt.actions, ¬ Nonempty action.text) "control-receipt-actions-invalid" ++
  reject (∃ decision ∈ receipt.decisions, ¬ ValidReceiptDecision decision.text)
    "control-receipt-decisions-invalid" ++
  reject (∃ error ∈ receipt.errors, ¬ Nonempty error) "control-receipt-errors-invalid"

/-- `NativeControlTurn`. -/
structure Turn where
  contract : ControlContract
  callbacks : CallbackTable
  started : Bool
  terminal : Bool
  phase : Phase
  waiting : Bool
  taskInput : Option String
  submissionId : Option String
  actions : List Action
  decisions : List Decision
  errors : List String
  pollCount : Nat
  terminalReceipt : Option ControlReceipt

namespace Turn

variable (turn : Turn)

/-- `NativeControlTurn.__init__`. -/
def create (contract : ControlContract) (callbacks : CallbackTable) : Turn where
  contract := contract
  callbacks := callbacks
  started := false
  terminal := false
  phase := .start
  waiting := false
  taskInput := none
  submissionId := none
  actions := []
  decisions := []
  errors := []
  pollCount := 0
  terminalReceipt := none

def receipt (terminalState : TerminalState) : ControlReceipt where
  contractSha256 := turn.contract.contractSha256
  taskSha256 := turn.contract.taskSha256
  submissionId := turn.submissionId
  actions := turn.actions
  decisions := turn.decisions
  pollCount := turn.pollCount
  terminalState := terminalState
  errors := turn.errors

def finish (terminalState : TerminalState) : Turn :=
  { turn with
    terminal := true
    waiting := false
    phase := .terminal
    terminalReceipt := some (turn.receipt terminalState) }

def recordCallbackFailure (error : PyError) : Turn :=
  { turn with
    errors := turn.errors ++ ["callback-failed:" ++ error.describe]
    waiting := false
    phase := .finalizeControlFailed }

variable (taskInput : Option String)

/-- The errors that `_start` finds in the task input and in the turn itself. -/
def startErrors : List String :=
  (match taskInput with
    | none => ["task-input-must-be-string"]
    | some task => reject (textSha256 task ≠ turn.contract.taskSha256) "task-sha256-mismatch") ++
  validateControlTurnContract turn.contract ++ validateControlCallbacks turn.callbacks

def start : Turn :=
  if turn.errors ++ turn.startErrors taskInput ≠ [] then
    { turn with errors := turn.errors ++ turn.startErrors taskInput }.finish .controlFailed
  else
    { turn with started := true, taskInput := taskInput, phase := .arm }

/-- The part of `step` that precedes the callback. -/
def begin : Turn :=
  if turn.terminal = true ∨ turn.started = true then turn else turn.start taskInput

/-- A callback invocation: its label and its arguments. -/
structure Call where
  action : Action
  arguments : List (String × Json)

/-- The arguments of the callbacks that are handed the supervision state file. -/
def stateArguments (rest : List (String × Json)) : List (String × Json) :=
  ("state_file", .str turn.contract.stateFile) ::
    ("control_turn_id", .str turn.contract.controlTurnId) :: rest

/-- `finalize` reports its control action both as label suffix and as argument. -/
def finalizeCall (action : Action) (controlAction : String) : Call :=
  ⟨action, turn.stateArguments [("control_action", .str controlAction)]⟩

/-- The callback a step invokes in the turn's phase, if it invokes one. -/
def call? : Option Call :=
  match turn.phase with
  | .arm => some ⟨.arm, turn.stateArguments []⟩
  | .sendInput =>
    some ⟨.sendInput, [("agent_id", .str turn.contract.agentId),
      ("message", .optional .str turn.taskInput)]⟩
  | .markDispatched =>
    some ⟨.markDispatched, turn.stateArguments
      [("submission_id", .optional .str turn.submissionId)]⟩
  | .check => some ⟨.check, turn.stateArguments []⟩
  | .finalizeComplete => some (turn.finalizeCall .finalizeWorkerCompleted "worker-completed")
  | .closeComplete => some ⟨.close, [("agent_id", .str turn.contract.agentId)]⟩
  | .interrupt =>
    -- `self._decisions[-1]` is evaluated before the callback and may not exist.
    turn.decisions.getLast?.map fun verdict =>
      ⟨.interrupt, [("agent_id", .str turn.contract.agentId),
        ("message", .str ("STOP: native supervisor decision " ++ verdict.text))]⟩
  | .finalizeInterrupt =>
    some (turn.finalizeCall .finalizeInterruptConfirmed "interrupt-confirmed")
  | .closeInterrupt => some ⟨.close, [("agent_id", .str turn.contract.agentId)]⟩
  | .finalizeClose => some (turn.finalizeCall .finalizeCloseConfirmed "close-confirmed")
  | .finalizeControlFailed => some (turn.finalizeCall .finalizeControlFailed "control-failed")
  | .start | .waiting | .waitingCloseComplete | .waitingCloseInterrupt | .terminal => none

/-- The callback the next step invokes: none on a terminal or waiting turn. -/
def pendingCall : Option Call :=
  if turn.terminal = true ∨ turn.waiting = true then none else turn.call?

/-- Go on in the phase, or wait for an archive that the adapter has deferred. -/
def deferOr (value : Json) (waitPhase : Phase) (proceed : Turn → Turn) : Turn :=
  if deferredCloseRequested value then { turn with phase := waitPhase, waiting := true }
  else proceed turn

/-- What the reply of a callback does in the phase that invoked it. -/
def accept (value : Json) : Except PyError Turn :=
  match turn.phase with
  | .arm => do
      let _ ← normalizeControlAcknowledgement value
      return { turn with phase := .sendInput }
  | .sendInput => do
      let submission ← Control.submissionId value
      return { turn with submissionId := some submission, phase := .markDispatched }
  | .markDispatched => do
      let _ ← normalizeControlAcknowledgement value
      return { turn with phase := .check }
  | .check => do
      let verdict ← decision value
      let turn := { turn with pollCount := turn.pollCount + 1, decisions := turn.decisions ++ [verdict] }
      match verdict with
      | .continue | .warn => return { turn with phase := .waiting, waiting := true }
      | .complete => return { turn with phase := .finalizeComplete }
      | _ => return { turn with phase := .interrupt }
  | .finalizeComplete => do
      let _ ← normalizeControlAcknowledgement value
      return turn.deferOr value .waitingCloseComplete fun turn => { turn with phase := .closeComplete }
  | .closeComplete => do
      let _ ← normalizeControlAcknowledgement value
      return turn.deferOr value .waitingCloseComplete fun turn => turn.finish .completed
  | .interrupt => do
      let _ ← normalizeControlAcknowledgement value
      return { turn with phase := .finalizeInterrupt }
  | .finalizeInterrupt => do
      let _ ← normalizeControlAcknowledgement value
      return turn.deferOr value .waitingCloseInterrupt fun turn =>
        { turn with phase := .closeInterrupt }
  | .closeInterrupt => do
      let _ ← normalizeControlAcknowledgement value
      return turn.deferOr value .waitingCloseInterrupt fun turn => { turn with phase := .finalizeClose }
  | .finalizeClose => do
      let _ ← normalizeControlAcknowledgement value
      return turn.finish .closed
  | .finalizeControlFailed => do
      let _ ← normalizeControlAcknowledgement value
      return turn.finish .controlFailed
  | .start | .waiting | .waitingCloseComplete | .waitingCloseInterrupt | .terminal => return turn

/-- The reply of a callback as the turn sees it: usable, or an exception. -/
def outcome : Reply → Except PyError Turn
  | .returned value => turn.accept value
  | .raised error => .error error

/-- An exception in the last finalization still ends the turn as control-failed. -/
def failed (error : PyError) : Turn :=
  if turn.phase = .finalizeControlFailed then
    { turn with
      errors := turn.errors ++ ["control-failed-receipt-failed:" ++ error.describe] }.finish
        .controlFailed
  else turn.recordCallbackFailure error

/-- `_invoke` records its label before it calls. -/
def labelled (call : Call) : Turn :=
  { turn with actions := turn.actions ++ [call.action] }

/--
The turn after the callback has replied, and the exception that escapes: only
one that is no `Exception` does, and it leaves the phase as it was.
-/
def answered (call : Call) (reply : Reply) : Turn × Option PyError :=
  match (turn.labelled call).outcome reply with
  | .ok next => (next, none)
  | .error error =>
    if error.isException then ((turn.labelled call).failed error, none)
    else (turn.labelled call, some error)

/-- `step` on a turn that has been started, or has failed to start. -/
def advance (reply : Reply) : Turn × Option PyError :=
  if turn.terminal = true ∨ turn.waiting = true then (turn, none)
  else
    match turn.call? with
    | some call => turn.answered call reply
    | none =>
      if turn.phase = .interrupt then
        (turn.recordCallbackFailure ⟨.other, "IndexError", "list index out of range"⟩, none)
      else
        (turn.recordCallbackFailure
          ⟨.other, "RuntimeError", "unknown cooperative phase: " ++ turn.phase.text⟩, none)

/-- `step`, for a task input that is not bound a second time. -/
def step (reply : Reply) : Turn × Option PyError :=
  if turn.terminal = true then (turn, none)
  else if turn.started = true ∧ taskInput ≠ none then
    (turn, some (valueError "task input is already bound to this control turn"))
  else (turn.begin taskInput).advance reply

/-- The callback that `step` invokes: none on a turn that a second task input would refuse. -/
def nextCall : Option Call :=
  if turn.terminal = true ∨ turn.started = true ∧ taskInput ≠ none then none
  else (turn.begin taskInput).pendingCall

def resumeAfterWait : Turn × Option PyError :=
  if turn.terminal = true then (turn, none)
  else if turn.waiting = false then (turn, some (valueError "control turn is not waiting"))
  else
    match turn.phase with
    | .waiting => ({ turn with waiting := false, phase := .check }, none)
    | .waitingCloseComplete => ({ turn with waiting := false, phase := .closeComplete }, none)
    | .waitingCloseInterrupt => ({ turn with waiting := false, phase := .closeInterrupt }, none)
    | _ =>
      ({ turn with waiting := false },
        some ⟨.other, "RuntimeError", "unknown cooperative wait phase"⟩)

/-- A request is recorded unless the last decision is the same request. -/
def recordRequest (reason : String) : Turn :=
  if turn.decisions.getLast? = some (.requested (strip reason)) then turn
  else { turn with decisions := turn.decisions ++ [.requested (strip reason)] }

/-- The turn is sent to its interrupt, whatever phase it was in. -/
def redirected (reason : String) : Turn :=
  { turn.recordRequest reason with waiting := false, phase := .interrupt }

def requestInterrupt (reason : String) : Turn × Option PyError :=
  if turn.terminal = true then (turn, none)
  else if turn.started = false then (turn, some (valueError "control turn has not started"))
  else if Nonempty reason then (turn.redirected reason, none)
  else (turn, some (valueError "interrupt reason must be a nonempty string"))

/-- The transitions by which a usable reply moves a turn on. -/
inductive Accepted (turn : Turn) : Turn → Prop where
  | armed (phase : turn.phase = .arm) : Accepted turn { turn with phase := .sendInput }
  | submitted (submission : String) (phase : turn.phase = .sendInput) :
      Accepted turn { turn with submissionId := some submission, phase := .markDispatched }
  | dispatched (phase : turn.phase = .markDispatched) : Accepted turn { turn with phase := .check }
  | continued (verdict : Decision) (goesOn : verdict = .continue ∨ verdict = .warn)
      (phase : turn.phase = .check) :
      Accepted turn { turn with
          pollCount := turn.pollCount + 1
          decisions := turn.decisions ++ [verdict]
          phase := .waiting
          waiting := true }
  | completed (phase : turn.phase = .check) : Accepted turn { turn with
          pollCount := turn.pollCount + 1
          decisions := turn.decisions ++ [.complete]
          phase := .finalizeComplete }
  | stopped (verdict : Decision) (stops : verdict = .interrupt ∨ verdict = .controlLost)
      (phase : turn.phase = .check) :
      Accepted turn { turn with
          pollCount := turn.pollCount + 1
          decisions := turn.decisions ++ [verdict]
          phase := .interrupt }
  | finalized (phase : turn.phase = .finalizeComplete) :
      Accepted turn { turn with phase := .closeComplete }
  | completeDeferred (phase : turn.phase = .finalizeComplete ∨ turn.phase = .closeComplete) :
      Accepted turn { turn with phase := .waitingCloseComplete, waiting := true }
  | closedComplete (phase : turn.phase = .closeComplete) : Accepted turn (turn.finish .completed)
  | interrupted (phase : turn.phase = .interrupt) :
      Accepted turn { turn with phase := .finalizeInterrupt }
  | confirmed (phase : turn.phase = .finalizeInterrupt) :
      Accepted turn { turn with phase := .closeInterrupt }
  | interruptDeferred (phase : turn.phase = .finalizeInterrupt ∨ turn.phase = .closeInterrupt) :
      Accepted turn { turn with phase := .waitingCloseInterrupt, waiting := true }
  | closedInterrupt (phase : turn.phase = .closeInterrupt) :
      Accepted turn { turn with phase := .finalizeClose }
  | closed (phase : turn.phase = .finalizeClose) : Accepted turn (turn.finish .closed)
  | controlFailed (phase : turn.phase = .finalizeControlFailed) :
      Accepted turn (turn.finish .controlFailed)

theorem decision_ne_requested {value : Json} {reason : String} :
    decision value ≠ .ok (.requested reason) := by
  intro returned
  have listed : ∀ text, normalizeDecision text ≠ some (.requested reason) := by
    intro text found
    obtain ⟨before, after, split, _⟩ := List.lookup_eq_some_iff.mp found
    have member : Decision.requested reason ∈ decisionWords.map Prod.snd := by simp [split]
    simp [decisionWords] at member
  unfold decision at returned
  split at returned
  · cases returned
  · simp only at returned
    split at returned
    · split at returned
      · rename_i verdict found
        cases returned
        exact listed _ found
      · cases returned
    · cases returned

variable {turn} {call : Call}

/-- A usable reply makes exactly one of the listed transitions. -/
theorem accepted_of_accept {next : Turn} {value : Json}
    (pending : turn.call? = some call) (usable : turn.accept value = .ok next) :
    Accepted turn next := by
  unfold accept at usable
  cases phase : turn.phase <;> rw [phase] at usable
  case start | waiting | waitingCloseComplete | waitingCloseInterrupt | terminal =>
    simp [call?, phase] at pending
  case arm =>
    obtain ⟨_, _, done⟩ := bind_ok usable
    cases done
    exact .armed phase
  case sendInput =>
    obtain ⟨submission, _, done⟩ := bind_ok usable
    cases done
    exact .submitted submission phase
  case markDispatched =>
    obtain ⟨_, _, done⟩ := bind_ok usable
    cases done
    exact .dispatched phase
  case check =>
    obtain ⟨verdict, decided, rest⟩ := bind_ok usable
    cases verdict with
    | requested reason => exact absurd decided decision_ne_requested
    | «continue» | warn => cases rest; exact .continued _ (by simp) phase
    | complete => cases rest; exact .completed phase
    | interrupt | controlLost => cases rest; exact .stopped _ (by simp) phase
  case finalizeComplete =>
    obtain ⟨_, _, done⟩ := bind_ok usable
    cases done
    unfold deferOr
    split
    · exact .completeDeferred (.inl phase)
    · exact .finalized phase
  case closeComplete =>
    obtain ⟨_, _, done⟩ := bind_ok usable
    cases done
    unfold deferOr
    split
    · exact .completeDeferred (.inr phase)
    · exact .closedComplete phase
  case interrupt =>
    obtain ⟨_, _, done⟩ := bind_ok usable
    cases done
    exact .interrupted phase
  case finalizeInterrupt =>
    obtain ⟨_, _, done⟩ := bind_ok usable
    cases done
    unfold deferOr
    split
    · exact .interruptDeferred (.inl phase)
    · exact .confirmed phase
  case closeInterrupt =>
    obtain ⟨_, _, done⟩ := bind_ok usable
    cases done
    unfold deferOr
    split
    · exact .interruptDeferred (.inr phase)
    · exact .closedInterrupt phase
  case finalizeClose =>
    obtain ⟨_, _, done⟩ := bind_ok usable
    cases done
    exact .closed phase
  case finalizeControlFailed =>
    obtain ⟨_, _, done⟩ := bind_ok usable
    cases done
    exact .controlFailed phase

@[simp]
theorem labelled_phase (turn : Turn) (call : Call) : (turn.labelled call).phase = turn.phase := rfl

/-- The ways in which a pending callback is answered. -/
inductive Answered (turn : Turn) (call : Call) : Turn × Option PyError → Prop where
  | accepted (next : Turn) (moves : (turn.labelled call).Accepted next) :
      Answered turn call (next, none)
  | failed (error : PyError) (caught : error.isException = true) :
      Answered turn call ((turn.labelled call).failed error, none)
  | escaped (error : PyError) (uncaught : error.isException = false) :
      Answered turn call (turn.labelled call, some error)

theorem answered_cases (pending : turn.call? = some call) (reply : Reply) :
    Answered turn call (turn.answered call reply) := by
  have stillPending : (turn.labelled call).call? = some call := pending
  unfold answered
  split
  · rename_i next usable
    cases reply with
    | raised error => cases usable
    | returned value => exact .accepted next (accepted_of_accept stillPending usable)
  · rename_i error unusable
    split
    · rename_i caught
      exact .failed error caught
    · rename_i uncaught
      exact .escaped error (by simpa using uncaught)

/-- The ways in which a step advances a turn; the last two are not reachable. -/
inductive Advanced (turn : Turn) : Turn × Option PyError → Prop where
  | idle (resting : turn.terminal = true ∨ turn.waiting = true) : Advanced turn (turn, none)
  | called (call : Call) (result : Turn × Option PyError) (pending : turn.pendingCall = some call)
      (answer : Answered turn call result) : Advanced turn result
  | lost (error : PyError) (active : turn.terminal = false ∧ turn.waiting = false)
      (noCall : turn.call? = none) : Advanced turn (turn.recordCallbackFailure error, none)

theorem advance_cases (turn : Turn) (reply : Reply) : Advanced turn (turn.advance reply) := by
  unfold advance
  split
  · rename_i resting
    exact .idle resting
  · rename_i active
    split
    · rename_i call called
      have pending : turn.pendingCall = some call := by
        rw [pendingCall, if_neg active, called]
      exact .called call _ pending (answered_cases called reply)
    · rename_i noCall
      have running : turn.terminal = false ∧ turn.waiting = false := by simpa using active
      split
      · exact .lost _ running noCall
      · exact .lost _ running noCall

theorem step_eq_advance {taskInput : Option String} (running : turn.terminal = false)
    (unbound : turn.started = true → taskInput = none) (reply : Reply) :
    turn.step taskInput reply = (turn.begin taskInput).advance reply := by
  have firstBinding : ¬ (turn.started = true ∧ taskInput ≠ none) := fun both =>
    both.2 (unbound both.1)
  rw [step, if_neg (by simp [running]), if_neg firstBinding]

theorem step_cases (turn : Turn) (taskInput : Option String) (reply : Reply) :
    (turn.step taskInput reply).1 = turn ∨
      turn.step taskInput reply = (turn.begin taskInput).advance reply := by
  unfold step
  split_ifs
  · exact .inl rfl
  · exact .inl rfl
  · exact .inr rfl

theorem requestInterrupt_cases (turn : Turn) (reason : String) :
    (turn.requestInterrupt reason).1 = turn ∨ turn.terminal = false ∧ turn.started = true ∧
        turn.requestInterrupt reason = (turn.redirected reason, none) := by
  unfold requestInterrupt
  split_ifs with terminal unstarted
  · exact .inl rfl
  · exact .inl rfl
  · exact .inr ⟨by simpa using terminal, by simpa using unstarted, rfl⟩
  · exact .inl rfl

theorem requestInterrupt_of_started {reason : String} (running : turn.terminal = false)
    (started : turn.started = true) (visible : Nonempty reason) :
    turn.requestInterrupt reason = (turn.redirected reason, none) := by
  rw [requestInterrupt, if_neg (by simp [running]), if_neg (by simp [started]), if_pos visible]

theorem recordRequest_cases (turn : Turn) (reason : String) : turn.recordRequest reason = turn ∨
      turn.recordRequest reason =
        { turn with decisions := turn.decisions ++ [.requested (strip reason)] } := by
  unfold recordRequest
  split
  · exact .inl rfl
  · exact .inr rfl

@[simp]
theorem redirected_errors (turn : Turn) (reason : String) :
    (turn.redirected reason).errors = turn.errors := by
  rcases recordRequest_cases turn reason with same | same <;> simp [redirected, same]

@[simp]
theorem redirected_terminalReceipt (turn : Turn) (reason : String) :
    (turn.redirected reason).terminalReceipt = turn.terminalReceipt := by
  rcases recordRequest_cases turn reason with same | same <;> simp [redirected, same]

@[simp]
theorem redirected_phase (turn : Turn) (reason : String) :
    (turn.redirected reason).phase = .interrupt :=
  rfl

theorem pendingCall_eq_some (pending : turn.pendingCall = some call) :
    turn.terminal = false ∧ turn.waiting = false ∧ turn.call? = some call := by
  unfold pendingCall at pending
  split at pending
  · cases pending
  · rename_i active
    have running : turn.terminal = false ∧ turn.waiting = false := by simpa using active
    exact ⟨running.1, running.2, pending⟩

end Turn

/-- The values of `status` in a progress report. -/
inductive ProgressStatus where
  | pending
  | running
  | waiting
  | terminal
  deriving DecidableEq

/-- A terminal receipt, or the short one given to a child that was never admitted. -/
inductive TerminalReport where
  | control (receipt : ControlReceipt)
  | abandoned (errors : List String)

namespace TerminalReport

def terminalState : TerminalReport → TerminalState
  | control receipt => receipt.terminalState
  | abandoned _ => .controlFailed

def json : TerminalReport → Json
  | control receipt => receipt.json
  | abandoned errors =>
    .obj [("terminal_state", .str "control-failed"), ("errors", .strings errors)]

end TerminalReport

/-- `_progress`, without the poll interval in seconds. -/
structure Progress where
  status : ProgressStatus
  phase : Phase
  waitRequired : Bool
  receipt : Option TerminalReport

def Turn.progress (turn : Turn) : Progress where
  status := if turn.terminal then .terminal else if turn.waiting then .waiting else .running
  phase := turn.phase
  waitRequired := turn.waiting
  receipt := turn.terminalReceipt.map .control

end WorkOrchestration.Native.Control
