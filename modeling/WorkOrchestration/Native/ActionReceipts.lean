import Mathlib.Data.List.Sort
import Mathlib.Data.List.Dedup
import WorkOrchestration.Native.ToolCalls
import WorkOrchestration.Native.ValueEquality

/-!
# Action receipts

What a worker did, one receipt for every tool call of its log.  Outputs and structured patch events
are joined to the calls by their call ids; what belongs to no call gets a receipt of its own.
-/

namespace WorkOrchestration.Native.ActionReceipts

open Lib.Text Artifacts ToolCalls
open ValueEquality (equal)

/-- `str` of values that are no text, `json.loads`, and the regular expressions: the exit codes in an
output, interrupted commands, rejected patches, the body of a completed script, and the tool and the
arguments of a wrapper. -/
structure Readers where
  render : Json → String
  loads : String → Option Json
  exitCodes : String → List Int
  execInterrupted : String → Bool
  verificationFailed : String → Bool
  completedBody : String → Option String
  execSource : String → Option (String × String)

inductive Transport where
  | direct
  | namespacedExec
  deriving DecidableEq

/-- An item with its place in the log. -/
structure Entry where
  recordIndex : Nat
  itemIndex : Nat
  record : Json
  item : Json

def Entry.order (entry : Entry) : Nat := entry.recordIndex * 1000 + entry.itemIndex

/-- All items of a log, in order. -/
def entries (records : List Json) : List Entry :=
  records.zipIdx.flatMap fun record =>
    (eventItems record.1).zipIdx.map fun item => ⟨record.2, item.2, record.1, item.1⟩

/-- The first true value; `""` without one. -/
def firstTruthy (values : List Json) : Json := (values.find? (·.truthy)).getD (.str "")

variable (readers : Readers) (event : PatchEvent) (tool : String) (transport : Transport)
  (item : Json)

def spell : Json → String
  | .str text => text
  | value => readers.render value

/-- The stripped call id of an item, `or None`. -/
def callId? : Option String :=
  let text := strip (spell readers
    (firstTruthy [item.value "call_id", item.value "callId", item.value "id"]))
  if text = "" then none else some text

/-- `item_type.endswith("output")`. -/
def isOutput : Bool := endsWith (itemKind item) "output"

def trustedToolName : String :=
  if itemKind item ∈ STANDARD_TOOL_CALL_TYPES then
    spell readers
      (firstTruthy [item.value "name", item.value "tool", item.value "tool_name", .str "unknown"])
  else if itemKind item = "" then "unknown"
  else itemKind item

def argumentValue (payload : Json) : Json :=
  match ["arguments", "input", "args", "command", "cmd"].findSome? (payload.get? ·) with
  | none => .objEnd
  | some (.str text) => (readers.loads text).getD (.str text)
  | some value => value

def commandFromArguments : Json → String
  | .str text => strip text
  | arguments =>
    (["command", "cmd", "code", "input"].findSome? fun key =>
      match arguments.value key with
      | .str text => if strip text = "" then none else some (strip text)
      | _ => none).getD ""

def isText : Json → Bool
  | .str text => text != ""
  | _ => false

/-- `isinstance(value, int) and not isinstance(value, bool) and value > 0`. -/
def isPositive : Json → Bool
  | .int value => decide (0 < value)
  | _ => false

/-- The checks of the arguments that `decode_namespaced_exec_source` makes. -/
def argumentsAreValid (arguments : Json) : Bool :=
  let optional := fun (field : String) (holds : Json → Bool) => (arguments.get? field).all holds
  if tool = "apply_patch" then isText arguments
  else
    arguments.isObject &&
      (if tool = "exec_command" then
        arguments.keys.all
            (["cmd", "workdir", "tty", "yield_time_ms", "max_output_tokens"].contains ·) &&
          optional "tty" (fun value => value = .bool true || value = .bool false) &&
          isText (arguments.value "cmd") && isText (arguments.value "workdir")
      else
        arguments.keys.all
            (["session_id", "chars", "yield_time_ms", "max_output_tokens"].contains ·) &&
          isPositive (arguments.value "session_id") &&
          optional "chars" (fun value => value = .str "" || isText value)) &&
      optional "yield_time_ms" isPositive && optional "max_output_tokens" isPositive

/-- `decode_namespaced_exec_source`: the nested tool and its arguments. -/
def decodeNamespacedExecSource (source : Json) : Option (String × Json) :=
  match source with
  | .str text =>
    (readers.execSource text).bind fun parts =>
      (readers.loads parts.2).bind fun arguments =>
        if argumentsAreValid parts.1 arguments then some (parts.1, arguments) else none
  | _ => none

/-- What ends a line for `splitlines`. -/
def isLineBreak (character : Char) : Bool :=
  [0x0A, 0x0B, 0x0C, 0x0D, 0x1C, 0x1D, 0x1E, 0x85, 0x2028, 0x2029].contains character.toNat

/-- `text.splitlines()`, up to empty lines. -/
def linesOf (text : String) : List String :=
  (text.toList.splitOnP isLineBreak).map String.ofList

/-- `_patch_target_paths(command, include_move_targets=False)`. -/
def patchTargetPaths (command : String) : List String :=
  if "*** Begin Patch\n".toList.isPrefixOf command.toList then
    let headers := ["*** Add File: ", "*** Delete File: ", "*** Update File: "]
    let targets := (linesOf command).filterMap fun line =>
      (headers.find? fun header => header.toList.isPrefixOf line.toList).map fun header =>
        strip (removePrefix header line)
    ((targets.filter fun target => target ≠ "" ∧ '\x00' ∉ target.toList).dedup).insertionSort
      (· ≤ ·)
  else []

structure Call where
  entry : Entry
  key : String
  tool : String
  arguments : Json
  command : String
  namespaced : Bool

def Call.order (call : Call) : Nat := call.entry.order

def anonymousKey (order : Nat) : String := "__anonymous_" ++ toString order

/-- The tool and the arguments of a wrapped call. -/
def nestedCall : Option (String × Json) :=
  if transport = .namespacedExec ∧ itemKind item ∈ ["custom_tool_call", "customtoolcall"] ∧
      trustedToolName readers item = "exec" then
    decodeNamespacedExecSource readers (item.value "input")
  else none

def callOf (entry : Entry) : Call :=
  let key := (callId? readers entry.item).getD (anonymousKey entry.order)
  match nestedCall readers transport entry.item with
  | some nested => ⟨entry, key, nested.1, nested.2, commandFromArguments nested.2, true⟩
  | none =>
    let arguments := argumentValue readers entry.item
    ⟨entry, key, trustedToolName readers entry.item, arguments, commandFromArguments arguments,
      false⟩

structure Output where
  key : String
  entry : Entry

def unpairedKey (order : Nat) : String := "__unpaired_" ++ toString order

def outputOf (entry : Entry) : Output where
  key := (callId? readers entry.item).getD (unpairedKey entry.order)
  entry

structure PatchEvent where
  recordIndex : Nat
  item : Json
  turnId : Json
  key : String
  callIdPresent : Bool
  deriving DecidableEq

def PatchEvent.order : Nat := event.recordIndex * 1000

def missingKey (order : Nat) : String := "__missing_" ++ toString order

/-- The stripped call id of a patch event, `or None`. -/
def eventCallId? (payload : Json) : Option String :=
  let text := strip (spell readers (firstTruthy [payload.value "call_id", payload.value "callId"]))
  if text = "" then none else some text

def patchApplyEvents (records : List Json) : List PatchEvent :=
  records.zipIdx.filterMap fun record =>
    let payload := record.1.value "payload"
    if record.1.value "type" = .str "event_msg" ∧ payload.value "type" = .str "patch_apply_end" then
      some
        { recordIndex := record.2
          item := payload
          turnId :=
            if (payload.value "turn_id").truthy then payload.value "turn_id"
            else payload.value "turnId"
          key := (eventCallId? readers payload).getD (missingKey (record.2 * 1000))
          callIdPresent := (eventCallId? readers payload).isSome }
    else none

/-- What is collected from the records. -/
structure Log where
  calls : List Call
  outputs : List Output
  patchEvents : List PatchEvent

def Log.of (records : List Json) : Log :=
  let events := (entries records).filter fun entry =>
    isToolCallItem entry.item || isToolOutputItem entry.item
  { calls := (events.filter fun entry => !isOutput entry.item).map (callOf readers transport)
    outputs := (events.filter fun entry => isOutput entry.item).map (outputOf readers)
    patchEvents := patchApplyEvents readers records }

variable (segment : Option String)

/-- `segment_id is None or event.get("turn_id") == segment_id`. -/
def inSegment (event : PatchEvent) : Bool :=
  segment.all fun id => event.turnId = .str id

/-- The targets of a patch event, unless one cannot be trusted. -/
def observedTargets : Option (List String) :=
  let targets := ((event.item.value "changes").keys.map (replaceChar '\\' '/')).dedup
  let isUnsafe := fun (target : String) => target = "" || target.toList.contains '\x00' ||
    (target.toList.splitOnP (· == '/')).any fun part => part = ['.'] || part = ['.', '.']
  if targets = [] ∨ targets.any isUnsafe then none else some targets

/-- The targets of the patch that a call applies. -/
def expectedTargets (call : Call) : List String :=
  ((patchTargetPaths call.command).map fun target =>
    removePrefix "./" (replaceChar '\\' '/' target)).dedup

/-- Every expected target is observed at one path, and nothing else is. -/
def targetsMatch (expected observed : List String) : Bool :=
  let found := fun (target : String) =>
    observed.filter fun path => path = target || endsWith path ("/" ++ target)
  observed.length = expected.length && expected.all (fun target => (found target).length = 1) &&
    (expected.flatMap found).dedup.length = observed.length

namespace Log

variable (log : Log) (segment : Option String)

def callCount (key : String) : Nat := log.calls.countP (·.key = key)

def outputsFor (key : String) : List Output := log.outputs.filter (·.key = key)

def eventsFor (key : String) : List PatchEvent := log.patchEvents.filter (·.key = key)

variable (call : Call)

/-- The patch events that a wrapped call may have caused. -/
def candidates : List PatchEvent :=
  let outputs := log.outputsFor call.key
  let expected := expectedTargets call
  if call.namespaced = false ∨ call.tool ≠ "apply_patch" ∨ log.callCount call.key ≠ 1 ∨
      1 < outputs.length ∨ expected = [] then []
  else
    log.patchEvents.filter fun event =>
      log.callCount event.key = 0 && (log.eventsFor event.key).length = 1 && event.callIdPresent &&
        decide (call.order < event.order) &&
        outputs.head?.all (fun output => decide (event.order < output.entry.order)) &&
        inSegment segment event &&
        (observedTargets event).any fun observed => targetsMatch expected observed

/-- The patch event of a wrapped call, when the two have only each other. -/
def nestedEvent : Option PatchEvent :=
  match log.candidates segment call with
  | [event] =>
    if log.calls.countP (fun other => (log.candidates segment other).contains event) = 1 then
      some event
    else none
  | _ => none

/-- `consumed_patch_events`. -/
def isConsumed (event : PatchEvent) : Bool :=
  log.calls.any fun call => log.nestedEvent segment call = some event

def outputOf? : Option Output := (log.outputsFor call.key).head?

/-- `all_patch_events`. -/
def allEvents : List PatchEvent :=
  log.eventsFor call.key ++ (log.nestedEvent segment call).toList

/-- `valid_patch_events`. -/
def validEvents : List PatchEvent :=
  if call.tool = "apply_patch" then
    (log.allEvents segment call).filter fun event =>
      (log.outputOf? call).any (fun output =>
        decide (call.order < event.order) && decide (event.order < output.entry.order)) &&
        inSegment segment event
  else []

/-- `pending_nested_patch_event`. -/
def pendingNested : Bool :=
  call.namespaced && call.tool = "apply_patch" && (log.outputOf? call).isNone &&
    (log.nestedEvent segment call).isSome && (log.allEvents segment call).length = 1

/-- `pending_direct_patch_event`. -/
def pendingDirect : Bool :=
  !call.namespaced && call.tool = "apply_patch" && (log.outputOf? call).isNone &&
    (log.allEvents segment call).length = 1 &&
    (log.allEvents segment call).all fun event =>
      decide (call.order < event.order) && inSegment segment event

/-- `invalid_patch_event`. -/
def invalidEvent : Bool :=
  log.allEvents segment call ≠ [] &&
    (call.tool ≠ "apply_patch" ||
      ((log.validEvents segment call).length ≠ (log.allEvents segment call).length &&
        !log.pendingNested segment call && !log.pendingDirect segment call))

/-- The first value of `ambiguous`. -/
def isAmbiguous : Bool :=
  decide (1 < log.callCount call.key) || decide (1 < (log.outputsFor call.key).length) ||
    decide (1 < (log.validEvents segment call).length) || log.invalidEvent segment call

end Log

/-- `typed_result.kind`. -/
inductive ResultKind where
  | pairedSuccess
  | pairedFailure
  | pairedUnknown
  | pairedInterrupted
  | pairedInputError
  | pairedPending
  | pairedDeferred
  | ambiguous
  | unpairedCall
  | unpairedOutput
  deriving DecidableEq

/-- What an output says: the kind, the exit code, a conflict, and the session of an operation. -/
structure Result where
  kind : ResultKind
  exitCode : Option Int
  conflict : Bool
  sessionId : Option Int

def unknownResult (conflict : Bool) : Result := ⟨.pairedUnknown, none, conflict, none⟩

def ofExitCode (exitCode : Int) (sessionId : Option Int) : Result :=
  ⟨if exitCode = 0 then .pairedSuccess else .pairedFailure, some exitCode, false, sessionId⟩

def outputText : String :=
  match item.value "output" with
  | .str text => text
  | output =>
    let isPart := fun (part : Json) => part.isObject && part.hasExactly ["type", "text"] &&
      (part.value "type").isOneOf ["input_text", "inputText"] &&
      (match part.value "text" with
        | .str _ => true
        | _ => false)
    match output.elements? with
    | some parts =>
      if parts.all isPart then
        String.join (parts.map fun part =>
          match part.value "text" with
          | .str text => text
          | _ => "")
      else ""
    | none => ""

def explicitOutputExitCode : Option Int × Bool :=
  let explicit :=
    match item.value "exit_code" with
    | .int value => [value]
    | _ => []
  let observed := explicit ++ readers.exitCodes (outputText item)
  let errorPresent := item.value "error" ∉ [Json.null, .bool false, .int 0, .str ""]
  if errorPresent ∧ 0 ∈ observed then (none, true)
  else if 1 < observed.dedup.length then (none, true)
  else
    match observed with
    | code :: _ => (some code, false)
    | [] => (if errorPresent then some 1 else none, false)

def EXEC_COMMAND_CREATE_PROCESS_ENOENT : String :=
  "exec_command failed: CreateProcess \x7b message: \"Rejected(\\\"Failed to create unified exec process: No such file or directory (os error 2)\\\")\" \x7d"

def APPLY_PATCH_FAILURE_PREFIX : String := "apply_patch verification failed:"

def eventResult (failureText : Bool) (exitCode : Option Int) : Result :=
  let success := event.item.value "success" = .bool true ∧
    event.item.value "status" = .str "completed"
  let failure := event.item.value "success" = .bool false ∨
    (event.item.value "status").isOneOf ["failed", "error", "cancelled"] = true
  if success ∧ (failureText = true ∨ exitCode.getD 0 ≠ 0) then unknownResult true
  else if failure ∧ exitCode = some 0 then unknownResult true
  else if success then ⟨.pairedSuccess, some 0, false, none⟩
  else if failure then ⟨.pairedFailure, some (exitCode.getD 1), false, none⟩
  else ⟨.pairedUnknown, exitCode, false, none⟩

def pairedToolResult
    (patchEvents : List PatchEvent) : Result :=
  let found := explicitOutputExitCode readers item
  let exitCode := found.1
  let text := outputText item
  if found.2 then unknownResult true
  else if tool = "exec_command" ∧ readers.execInterrupted text = true then
    if exitCode.isSome then unknownResult true else ⟨.pairedInterrupted, none, false, none⟩
  else if tool = "exec_command" ∧ text = EXEC_COMMAND_CREATE_PROCESS_ENOENT then
    if exitCode.isSome then unknownResult true else ⟨.pairedInputError, none, false, none⟩
  else if tool = "apply_patch" then
    let failureText := APPLY_PATCH_FAILURE_PREFIX.toList.isPrefixOf text.toList
    match patchEvents with
    | _ :: _ :: _ => unknownResult true
    | [event] => eventResult event failureText exitCode
    | [] =>
      if failureText then
        if exitCode = some 0 then unknownResult true
        else ⟨.pairedFailure, some (exitCode.getD 1), false, none⟩
      else if exitCode.getD 0 ≠ 0 then ⟨.pairedFailure, exitCode, false, none⟩
      else ⟨.pairedUnknown, exitCode, false, none⟩
  else
    match exitCode with
    | none => unknownResult false
    | some code => ofExitCode code none

def NAMESPACED_EXEC_RESULT_FIELDS : List String :=
  ["chunk_id", "exit_code", "original_token_count", "output", "session_id", "wall_time_seconds"]

/-- The result in the projected object of a wrapped command. -/
def nestedResult (nested : Json) : Result :=
  match nested.value "output" with
  | .str nestedOutput =>
    let session := nested.value "session_id"
    if session ≠ .null ∧ isPositive session = false then unknownResult true
    else
      let sessionId :=
        match session with
        | .int value => some value
        | _ => none
      match nested.value "exit_code" with
      | .int code => ofExitCode code sessionId
      | .null =>
        if readers.execInterrupted nestedOutput then ⟨.pairedInterrupted, none, false, none⟩
        else if tool ∈ ["exec_command", "write_stdin"] ∧ sessionId.isSome then
          ⟨.pairedPending, none, false, sessionId⟩
        else unknownResult false
      | _ => unknownResult true
  | _ => unknownResult false

def pairedNamespacedExecResult : Result :=
  let rendered := outputText item
  if tool = "apply_patch" ∧ readers.verificationFailed rendered = true then
    let found := explicitOutputExitCode readers item
    if found.2 = true ∨ found.1.isSome ∨ (item.get? "exit_code").isSome then unknownResult true
    else ⟨.pairedFailure, none, false, none⟩
  else if tool = "exec_command" ∧ readers.execInterrupted rendered = true then
    ⟨.pairedInterrupted, none, false, none⟩
  else
    match (readers.completedBody rendered).bind readers.loads with
    | none => unknownResult false
    | some nested =>
      if tool = "apply_patch" then
        if nested = .objEnd then ⟨.pairedSuccess, some 0, false, none⟩ else unknownResult false
      else if nested.isObject = true ∧
          nested.keys.all (NAMESPACED_EXEC_RESULT_FIELDS.contains ·) = true then
        nestedResult readers tool nested
      else unknownResult false

/-- What a receipt is made for. -/
inductive Source where
  | call (call : Call)
  | output (output : Output)
  | patch (event : PatchEvent)

inductive PairingStatus where
  | paired
  | unpaired
  | ambiguous
  deriving DecidableEq

/-- A receipt; hashes, texts and paths that are copied from the arguments are left out. -/
structure Receipt where
  source : Source
  sequence : Nat
  tool : String
  callId : Option String
  kind : ResultKind
  outputPresent : Bool
  exitCode : Json
  pairingStatus : PairingStatus
  operationSessionId : Json

def Source.order : Source → Nat
  | .call made => made.order
  | .output found => found.entry.order
  | .patch event => event.order

def startsWith (text front : String) : Bool := front.toList.isPrefixOf text.toList

/-- The conflicts of a wrapped patch with the structured events. -/
def patchConflict (log : Log) (call : Call)
    (output : Output) (result : Result) : Bool :=
  let valid := log.validEvents segment call
  if result.kind = .pairedFailure ∧ result.exitCode = none ∧ result.sessionId = none ∧
      readers.verificationFailed (outputText output.entry.item) = true then
    log.allEvents segment call ≠ [] || log.patchEvents.any fun event =>
      decide (call.order < event.order) && decide (event.order < output.entry.order)
  else
    valid.length ≠ 1 || (result.kind = .pairedSuccess && !valid.all fun event =>
      event.item.value "success" = .bool true && event.item.value "status" = .str "completed")

def callResult (log : Log) (call : Call) : Result :=
  if log.pendingDirect segment call then ⟨.pairedPending, none, false, none⟩
  else
    match log.outputOf? call with
    | none => ⟨.unpairedCall, none, false, none⟩
    | some output =>
      if call.namespaced then
        let result := pairedNamespacedExecResult readers call.tool output.entry.item
        { result with
          conflict := result.conflict || (call.tool = "apply_patch" &&
            patchConflict readers segment log call output result) }
      else
        pairedToolResult readers call.tool output.entry.item (log.validEvents segment call)

def argumentSessionId (call : Call) : Json :=
  if call.tool = "write_stdin" then call.arguments.value "session_id" else .null

def callReceipt (log : Log) (call : Call) : Receipt :=
  let result :=
    if log.isAmbiguous segment call then ⟨.ambiguous, none, false, none⟩
    else callResult readers segment log call
  let session := Json.optional .int result.sessionId
  let ambiguous := log.isAmbiguous segment call || result.conflict ||
    (result.sessionId.isSome && argumentSessionId call ≠ .null && session ≠ argumentSessionId call)
  { source := .call call
    sequence := 0
    tool := call.tool
    callId := if startsWith call.key "__anonymous_" then none else some call.key
    kind := if ambiguous then .ambiguous else result.kind
    outputPresent := (log.outputOf? call).isSome
    exitCode := if ambiguous then .null else Json.optional .int result.exitCode
    pairingStatus :=
      if ambiguous then .ambiguous else if (log.outputOf? call).isSome then .paired else .unpaired
    operationSessionId :=
      if result.sessionId.isSome then session else argumentSessionId call }

def outputReceipt (output : Output) : Receipt where
  source := .output output
  sequence := 0
  tool := "unknown"
  callId := if startsWith output.key "__unpaired_" then none else some output.key
  kind := .unpairedOutput
  outputPresent := true
  exitCode :=
    match output.entry.item.value "exit_code" with
    | .int value => .int value
    | .bool value => .bool value
    | _ => .null
  pairingStatus := .unpaired
  operationSessionId := .null

def patchReceipt : Receipt where
  source := .patch event
  sequence := 0
  tool := "unknown"
  callId := some event.key
  kind := .unpairedOutput
  outputPresent := true
  exitCode :=
    if event.item.value "success" = .bool true then .int 0
    else if event.item.value "success" = .bool false then .int 1
    else .null
  pairingStatus := .unpaired
  operationSessionId := .null

/-- The values of a dictionary that collects entries under their keys, sorted by their first orders. -/
def groups {α : Type} (key : α → String) (order : α → Nat) (entries : List α) : List (List α) :=
  ((entries.map key).eraseDups.map fun name => entries.filter (key · = name)).insertionSort
    fun left right => (left.head?.map order).getD 0 ≤ (right.head?.map order).getD 0

def number (receipts : List Receipt) : List Receipt :=
  receipts.zipIdx.map fun entry => { entry.1 with sequence := entry.2 }

/-- A pending operation whose session a later receipt finishes. -/
def deferPending : List Receipt → List Receipt
  | [] => []
  | receipt :: later =>
    let resolved := receipt.kind = .pairedPending && later.any fun other =>
      other.tool = "write_stdin" && equal other.operationSessionId receipt.operationSessionId &&
        [ResultKind.pairedSuccess, .pairedFailure].contains other.kind
    (if resolved then { receipt with kind := .pairedDeferred } else receipt) :: deferPending later

/-- By order, and among equals by sequence. -/
def Precedes (left right : Receipt) : Prop :=
  left.source.order < right.source.order ∨
    left.source.order = right.source.order ∧ left.sequence ≤ right.sequence

instance (left right : Receipt) : Decidable (Precedes left right) :=
  inferInstanceAs (Decidable (_ ∨ _))

def normalizeActionReceipts
    (records : List Json) : List Receipt :=
  let log := Log.of readers transport records
  let calls := log.calls.insertionSort fun left right =>
    left.order < right.order ∨ left.order = right.order ∧ left.key ≤ right.key
  let outputs := (groups Output.key (·.entry.order) log.outputs).flatten.filter fun output =>
    log.callCount output.key = 0
  let events := (groups PatchEvent.key PatchEvent.order log.patchEvents).flatten.filter fun event =>
    log.callCount event.key = 0 && !log.isConsumed segment event
  let receipts := number (calls.map (callReceipt readers segment log) ++ outputs.map outputReceipt ++
    events.map patchReceipt)
  number (deferPending (receipts.insertionSort Precedes))

end WorkOrchestration.Native.ActionReceipts
