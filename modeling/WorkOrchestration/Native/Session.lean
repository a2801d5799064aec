import WorkOrchestration.Native.Documents

/-!
# Native worker sessions

A session log is a list of JSON records.  Task boundaries divide it into segments; the usage of a
worker is that of the last segment that did any work.
-/

namespace WorkOrchestration.Native.Session

open Lib.Text Artifacts

def SEGMENT_START_EVENT : String := "task_started"
def SEGMENT_END_EVENT : String := "task_complete"
def COMPACTION_EVENT : String := "context_compacted"

/-- `_error`. -/
def sessionError (message : String) : PyError := ⟨.base, "SystemExit", message⟩

def coerceModel : Json → Option String
  | .str text => if strip text = "" then none else some (strip text)
  | _ => none

variable (readers : Readers) (record : Json)

def normalizeRecordPayload : Option Json :=
  match record.value "payload" with
  | .str text => some (.obj [("_raw", .str text)])
  | payload => if payload.isObject then some payload else none

def normalizeEventMsg : Option String :=
  let ofPayload :=
    if coerceModel (record.value "type") = some "event_msg" then
      (normalizeRecordPayload record).bind fun payload =>
        ((coerceModel (payload.value "event_msg")).or (coerceModel (payload.value "event"))).or
          ((coerceModel (payload.value "type")).or (coerceModel (payload.value "_raw")))
    else none
  ofPayload.or (coerceModel (record.value "event_msg"))

def normalizeTurnContext : Option Json :=
  if coerceModel (record.value "type") = some "turn_context" then normalizeRecordPayload record
  else if (record.value "turn_context").isObject then some (record.value "turn_context")
  else none

/-- `_normalize_segment_model`: the models that a record attests. -/
def recordModels : List String :=
  ((normalizeTurnContext record).bind fun context =>
    (coerceModel (context.value "model")).or (coerceModel (context.value "attested_model"))).toList

def normalizeResponseItems : List Json :=
  let payload :=
    if coerceModel (record.value "type") = some "response_item" then record.value "payload" else .null
  let items := if payload = .null then record.value "response_item" else payload
  match items.elements? with
  | some elements => elements.filter Json.isObject
  | none => if items.isObject then [items] else []

def isUserBoundaryRecord : Bool :=
  match normalizeResponseItems record with
  | [] => false
  | first :: _ =>
    coerceModel (first.value "type") = some "message" &&
      coerceModel (first.value "role") = some "user"

/-- What reads texts: `parse_iso_timestamp`, in microseconds, `_loads_json_dict`, and the tokens that `shlex`
makes of a command, with the shell's operators as tokens of their own. -/
structure Readers where
  parseIsoTimestamp : Json → Except PyError Int
  loadsJsonDict : String → Option Json
  shellTokens : String → Option (List String)

/-! ## Runs of the whole test suite -/

def extractStringField (payload : Json) (keys : List String) : Option String :=
  if payload.isObject then keys.findSome? fun key => coerceModel (payload.value key) else none

def commandKeys : List String := ["command", "cmd", "code", "input", "arguments"]

/-- What one candidate of `_extract_command` says. -/
def Readers.command (readers : Readers) (candidate : Json) : Option String :=
  (extractStringField candidate commandKeys).or
    ((coerceModel candidate).map fun clean =>
      let parsed :=
        if clean.toList.head?.any (['\x7b', '['].contains ·) then readers.loadsJsonDict clean else none
      (parsed.bind (extractStringField · commandKeys)).getD clean)

def Readers.extractCommand (readers : Readers) (payload : Json) : Option String :=
  let arguments := payload.value "arguments"
  let inner :=
    match arguments with
    | .str text =>
      match readers.loadsJsonDict text with
      | some parsed => parsed :: ["command", "code", "cmd", "input"].map parsed.value ++ [arguments]
      | none => [arguments]
    | _ =>
      if arguments.isObject then
        [arguments, arguments.value "command", arguments.value "cmd",
          Json.optional .str (extractStringField arguments ["code", "input"])]
      else []
  if payload.isObject then
    (["command", "cmd", "code", "input"].map payload.value ++ inner).findSome? readers.command
  else none

/-- What follows the first occurrence of a word. -/
def after? (word : String) (arguments : List String) : Option (List String) :=
  if word ∈ arguments then some ((arguments.dropWhile (· ≠ word)).drop 1) else none

/-- `Path(text).as_posix()`, less the root. -/
def asPosix (text : String) : List Char :=
  List.intercalate ['/'] ((text.toList.splitOnP (· = '/')).filter fun part => part ≠ [] ∧ part ≠ ['.'])

def isFullSuiteArgs : List String → Bool
  | [] => false
  | interpreter :: arguments =>
    let named := (interpreter.toList.reverse.takeWhile (· ≠ '/')).reverse
    if ["python", "python3"].any (·.toList == named) then
      if arguments.head?.any fun script =>
          "scripts/run_parallel_unittest.py".toList.isSuffixOf (asPosix script) then
        match after? "--start-directory" (arguments.drop 1) with
        | some rest => rest.head? == some "tests"
        | none => true
      else
        match after? "-m" arguments with
        | some ("unittest" :: rest) =>
          match after? "discover" rest with
          | some rest => (rest.zip (rest.drop 1)).contains ("-s", "tests")
          | none => false
        | _ => false
    else false

def isOperator (token : String) : Bool :=
  token ≠ "" && token.toList.all (";&|\n".toList.contains ·)

def Readers.countFullSuiteCommands (readers : Readers) (command : String) : Nat :=
  match readers.shellTokens command with
  | some tokens => (tokens.splitOnP isOperator).countP isFullSuiteArgs
  | none => 0

def Readers.fullSuiteCommands (readers : Readers) (item : Json) : Nat :=
  readers.countFullSuiteCommands ((readers.extractCommand item).getD "")

structure Counts where
  toolCalls : Nat
  contextCompactions : Nat
  fullSuiteRuns : Nat
  deriving DecidableEq

namespace Counts

def zero : Counts := ⟨0, 0, 0⟩

def add (left right : Counts) : Counts where
  toolCalls := left.toolCalls + right.toolCalls
  contextCompactions := left.contextCompactions + right.contextCompactions
  fullSuiteRuns := left.fullSuiteRuns + right.fullSuiteRuns

def sum (counts : List Counts) : Counts := counts.foldr add zero

end Counts

/-- `response_item.get("type") or response_item.get("name")`. -/
def itemType (item : Json) : Json :=
  if (item.value "type").truthy then item.value "type" else item.value "name"

def itemCounts (event : Option String) (item : Json) : Counts :=
  if (itemType item).isOneOf ["function_call", "custom_tool_call"] then
    ⟨1, 0, readers.fullSuiteCommands item⟩
  else if event = some "response_event" ∧ item.value "name" = .str "Shell" then
    ⟨0, 0, readers.fullSuiteCommands item⟩
  else .zero

def recordCounts : Counts :=
  let event := normalizeEventMsg record
  (Counts.sum ((normalizeResponseItems record).map (itemCounts readers event))).add
    ⟨0, if event = some COMPACTION_EVENT then 1 else 0, 0⟩

/-- A segment that has been closed; its runtime is in microseconds. -/
structure Segment where
  counts : Counts
  records : Nat
  models : List String
  complete : Bool
  runtime : Int
  deriving DecidableEq

/-- A segment that is still open. -/
structure OpenSegment where
  counts : Counts
  records : Nat
  models : List String
  start : Int

/-- `_close_segment` and `_segment_runtime_seconds`. -/
def OpenSegment.close (segment : OpenSegment) (complete : Bool) (endTs : Int) : Segment where
  counts := segment.counts
  records := segment.records
  models := segment.models
  complete := complete
  runtime := max 0 (endTs - segment.start)

/-- The state of the loop over the records. -/
structure Scan where
  segments : List Segment
  openSegment : Option OpenSegment
  previousTs : Option Int

/-- The record begins a segment: by its event, or as a message of the user where no record of the log
has such an event. -/
def isBoundary (hasExplicitSegments : Bool) (record : Json) : Bool :=
  (!hasExplicitSegments && isUserBoundaryRecord record) ||
    normalizeEventMsg record == some SEGMENT_START_EVENT

/-- One round of the loop. -/
def Scan.advance (hasExplicitSegments : Bool) (scan : Scan) (record : Json) (ts : Int) : Scan :=
  if isBoundary hasExplicitSegments record then
    -- A segment that is open ends with the record before this one.
    { segments := scan.segments ++
        (scan.openSegment.map (·.close false (scan.previousTs.getD ts))).toList
      openSegment := some ⟨.zero, 1, recordModels record, ts⟩
      previousTs := some ts }
  else match scan.openSegment with
    | none => scan
    | some segment =>
      let counted : OpenSegment :=
        { segment with
          counts := segment.counts.add (recordCounts readers record)
          records := segment.records + 1
          models := segment.models ++ recordModels record }
      if normalizeEventMsg record = some SEGMENT_END_EVENT then
        { segments := scan.segments ++ [counted.close true ts]
          openSegment := none
          previousTs := some ts }
      else { scan with openSegment := some counted, previousTs := some ts }

def Scan.start : Scan := ⟨[], none, none⟩

def hasExplicitSegments (records : List Json) : Bool :=
  records.any fun record =>
    record.isObject && normalizeEventMsg record == some SEGMENT_START_EVENT

/-- The records that are objects, with their timestamps. -/
def stamped (readers : Readers) : List Json → Except PyError (List (Json × Int))
  | [] => .ok []
  | record :: rest =>
    if record.isObject then do
      let ts ← readers.parseIsoTimestamp (record.value "timestamp")
      let entries ← stamped readers rest
      return (record, ts) :: entries
    else stamped readers rest

/-- The loop over the records. -/
def scanned (hasExplicitSegments : Bool) (entries : List (Json × Int)) : Scan :=
  entries.foldl (fun scan entry => scan.advance readers hasExplicitSegments entry.1 entry.2) .start

/-- The segments of a log, the last of which may be open yet. -/
def Scan.finish (scan : Scan) (now : Int) : List Segment :=
  scan.segments ++ (scan.openSegment.map (·.close false now)).toList

/-- `_is_operative_segment`. -/
def Segment.isOperative (segment : Segment) : Bool :=
  segment.records != 0 && (segment.counts.toolCalls != 0 ||
    segment.counts.contextCompactions != 0 || segment.counts.fullSuiteRuns != 0)

/-- Where the selected segment stands: the last operative one, or else the last. -/
def selectedIndex (segments : List Segment) : Nat :=
  (segments.length - 1) - (segments.reverse.findIdx? Segment.isOperative).getD 0

/-- The segment attests no model, or another one than was requested: its status is
`model-mismatch`. -/
def Segment.modelMismatch (requestedModel : String) (segment : Segment) : Bool :=
  segment.models.isEmpty || segment.models.any (· ≠ requestedModel)

/-- The hard limits of a segment; times are in microseconds. -/
structure Budget where
  toolCallsSoft : Nat
  toolCallsHard : Nat
  runtimeSoft : Int
  runtimeHard : Int
  maxCompactions : Nat
  maxFullSuiteRuns : Nat

/-- `hard_stop_reasons`, sorted. -/
def Segment.hardStopReasons (budget : Budget) (requestedModel : String) (segment : Segment) :
    List String :=
  (if budget.maxCompactions < segment.counts.contextCompactions then ["max_compactions"] else []) ++
  (if budget.maxFullSuiteRuns < segment.counts.fullSuiteRuns then ["max_full_suite_runs"] else []) ++
  (if segment.models.isEmpty then ["missing-attestation"] else []) ++
  (if segment.models.any (· ≠ requestedModel) then ["model-mismatch"] else []) ++
  (if budget.runtimeHard < segment.runtime then ["runtime_seconds_hard"] else []) ++
  (if budget.toolCallsHard < segment.counts.toolCalls then ["tool_calls_hard"] else [])

/-- What `_evaluate_records` returns of the usage. -/
structure Evaluation where
  segments : List Segment
  aggregate : Counts
  selected : Segment
  deriving DecidableEq

def evaluateRecords (records : List Json) (now : Int) :
    Except PyError Evaluation := do
  if records = [] then throw (sessionError "session has no records")
  let entries ← stamped readers records
  let segments := (scanned readers (hasExplicitSegments records) entries).finish now
  match segments[selectedIndex segments]? with
  | some selected => return ⟨segments, Counts.sum (segments.map Segment.counts), selected⟩
  | none => throw (sessionError "session has no task boundary records")

end WorkOrchestration.Native.Session
