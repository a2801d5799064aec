import Mathlib.Data.Finset.Card
import WorkOrchestration.Audit.Log
import WorkOrchestration.Lib.Runs

/-!
# Dispatch quotas

The used count of a quota is folded out of the audit log each time a program asks for it.  Packets are
reserved when they are built and consumed when they are dispatched; a program asks first, then deals
with the provider, and appends its event last.
-/

namespace WorkOrchestration.Audit.Quota

open Native.Artifacts

/-- The values of `quota_event_type`. -/
inductive QuotaEventType where
  | externalManualDispatch
  | localWorkerDispatch
  deriving DecidableEq

/-- The fields of an event that the quota has to do with. -/
structure Event where
  eventType : String
  quotaEventType : Option QuotaEventType
  quotaStage : Option String
  dispatchId : Option String
  beadId : Option String
  epicId : Option String
  executorExternal : Bool
  packetSha256 : Option String
  telemetryStatus : Option String
  status : Option String
  failureStage : Option String
  shareUrlPresent : Bool
  responseChars : Option Nat
  deriving DecidableEq

/-- `sanitize_audit_event`: texts are shortened, and a top-level status is not kept. -/
def sanitizeAuditEvent (event : Event) : Event :=
  { event with
    dispatchId := event.dispatchId.bind shortText
    beadId := event.beadId.bind shortText
    epicId := event.epicId.bind shortText
    packetSha256 := event.packetSha256.bind shortText
    telemetryStatus := event.telemetryStatus.bind shortText
    status := none
    failureStage := event.failureStage.bind shortText }

/-- `event_hash`, as what it was taken of: the event and the hash of the event before it. -/
inductive EventHash where
  | first (event : Event)
  | next (previous : EventHash) (event : Event)
  deriving DecidableEq

structure AuditEvent extends Event where
  eventHash : EventHash

/-- `artifact_hash` of an event that names the hash of the last one. -/
def artifactHash (previous : Option EventHash) (event : Event) : EventHash :=
  match previous with
  | none => .first event
  | some hash => .next hash event

def recordAuditEvent (event : Event) (log : List AuditEvent) : List AuditEvent :=
  let enriched := sanitizeAuditEvent event
  log ++ [{ enriched with
    eventHash := artifactHash (log.getLast?.map AuditEvent.eventHash) enriched }]

/-- `value or ...` for a text. -/
def given (text : Option String) : Option String := text.filter (· != "")

/-- A text, or the event hash that stands in for one. -/
inductive Label where
  | text (value : String)
  | hash (value : EventHash)
  deriving DecidableEq

namespace AuditEvent

def dispatchLabel (event : AuditEvent) : Label :=
  match given event.dispatchId with
  | some dispatchId => .text dispatchId
  | none => .hash event.eventHash

def packetLabel (event : AuditEvent) : Label :=
  match given event.packetSha256 with
  | some packetSha256 => .text packetSha256
  | none => .hash event.eventHash

end AuditEvent

def Event.isReserved (event : Event) : Bool :=
  event.quotaStage == some "reserved" || event.eventType == "packet_built"

def preSubmitStages : List String :=
  ["browser-start", "page-load", "prompt-ready", "model-selection", "model-confirmation",
    "prompt-submit"]

def isPreSubmissionBrowserFailure (event : Event) : Bool :=
  event.eventType == "chatgpt_browser_dispatch" &&
    Lib.Text.lower (((given event.telemetryStatus).orElse fun _ => given event.status).getD "")
      == "failed" &&
    preSubmitStages.contains (Lib.Text.lower ((given event.failureStage).getD "")) &&
    !event.shareUrlPresent && (event.responseChars == none || event.responseChars == some 0)

/-- The arguments of `count_audit_events`. -/
structure Query where
  eventType : QuotaEventType
  epicId : Option String
  executorExternal : Bool
  ignoreReservedDispatchId : Option String
  ignoreReservedPacketSha256 : Option String

namespace Query

variable (query : Query)

def sameEpic (event : Event) : Bool :=
  match query.epicId with
  | none => event.epicId == none || event.epicId == some ""
  | some epicId => event.epicId == some epicId

def concerns (event : Event) : Bool :=
  event.quotaEventType == some query.eventType && query.sameEpic event &&
    event.executorExternal == query.executorExternal

/-- Whether the asking program's own reservation is passed by. -/
def ignores (event : AuditEvent) : Bool :=
  match given query.ignoreReservedDispatchId with
  | none => false
  | some dispatchId =>
    event.dispatchLabel == .text dispatchId &&
      (query.ignoreReservedPacketSha256 == none ||
        query.ignoreReservedPacketSha256 == some (event.packetSha256.getD ""))

def reserves (event : AuditEvent) : Bool :=
  query.concerns event.toEvent && event.isReserved && !query.ignores event

def consumes (event : Event) : Bool :=
  query.concerns event && !event.isReserved && !isPreSubmissionBrowserFailure event

end Query

structure Tally where
  reserved : Finset (Label × Label)
  consumedReserved : Finset (Label × Label)
  consumedEvents : Finset EventHash

/-- What the loop of `count_audit_events` does with an event. -/
def Tally.take (query : Query) (tally : Tally) (event : AuditEvent) : Tally :=
  if query.concerns event.toEvent = false then tally
  else if event.isReserved then
    if query.ignores event then tally
    else { tally with
      reserved := insert (event.dispatchLabel, event.packetLabel) tally.reserved }
  else if isPreSubmissionBrowserFailure event.toEvent then tally
  else
    { tally with
      consumedEvents := insert event.eventHash tally.consumedEvents
      consumedReserved :=
        match given event.packetSha256 with
        | some packetSha256 =>
          insert (event.dispatchLabel, .text packetSha256) tally.consumedReserved
        | none => tally.consumedReserved }

def countAuditEvents (query : Query) (log : List AuditEvent) : Nat :=
  let tally := log.foldl (Tally.take query) ⟨∅, ∅, ∅⟩
  tally.consumedEvents.card + (tally.reserved \ tally.consumedReserved).card

/-- `quota_policy`. -/
structure Controls where
  externalManualDispatchesPerEpic : Int
  localWorkerDispatchesPerEpic : Int

structure Executor where
  external : Bool
  dispatchMode : String

def localModes : List String := ["local_openai_compatible", "local_secure_review"]

def Executor.isLocal (executor : Executor) : Bool := localModes.contains executor.dispatchMode

def QuotaEventType.external : QuotaEventType → Bool
  | .externalManualDispatch => true
  | .localWorkerDispatch => false

def QuotaEventType.quotaKey : QuotaEventType → String
  | .externalManualDispatch => "external_manual_dispatches_per_epic"
  | .localWorkerDispatch => "local_worker_dispatches_per_epic"

variable (controls : Controls)

def Controls.limit : QuotaEventType → Int
  | .externalManualDispatch => controls.externalManualDispatchesPerEpic
  | .localWorkerDispatch => controls.localWorkerDispatchesPerEpic

def quotaEventType (executor : Executor) (route : String) : Option QuotaEventType :=
  if executor.external then some .externalManualDispatch
  else if route == "local-worker" || executor.isLocal then some .localWorkerDispatch
  else none

structure QuotaInfo where
  quotaChecked : Bool
  quotaEventType : Option QuotaEventType
  quotaLimit : Option Int
  quotaRemaining : Option Int
  executorExternal : Bool

def enforceContractingQuota (log : List AuditEvent) (epicId : Option String)
    (executor : Executor) (route : String) (dispatchId packetSha256 : Option String) :
    Except PyError QuotaInfo :=
  match quotaEventType executor route with
  | none => .ok ⟨false, none, none, none, executor.external⟩
  | some eventType =>
    let limit := controls.limit eventType
    if limit ≤ 0 then
      .error (systemExit ("quota " ++ eventType.quotaKey ++ " is not configured"))
    else
      let used := countAuditEvents
        ⟨eventType, epicId, executor.external, dispatchId, packetSha256⟩ log
      if limit - used ≤ 0 then
        .error (systemExit (eventType.quotaKey ++ " exhausted for " ++
          (given epicId).getD "global" ++ ": used " ++ toString used ++ " of " ++
          toString limit))
      else .ok ⟨true, some eventType, some limit, some (limit - used - 1), executor.external⟩

def requirePacketBuildAudit (log : List AuditEvent) (dispatchId : String) (beadId : Option String)
    (packetSha256 : String) : Except PyError Unit :=
  if log.any fun event => event.eventType == "packet_built" &&
      event.dispatchId == some dispatchId && (beadId == none || event.beadId == beadId) &&
      event.packetSha256 == some packetSha256 then .ok ()
  else .error (systemExit ("packet dispatch requires a matching packet_built audit event " ++
    "for dispatch_id=" ++ dispatchId ++ " packet_sha256=" ++ packetSha256))

/-- A contractor packet that `require_valid_contractor_packet` has accepted: its executor is external,
and its hash is a digest, which stays as it is in the log. -/
structure Packet where
  dispatchId : String
  beadId : Option String
  epicId : Option String
  executor : Executor
  external : executor.external = true
  packetSha256 : String
  digest : shortText packetSha256 = some packetSha256

def Packet.requireLinked (packet : Packet) (log : List AuditEvent) (allowUnlinkedPacket : Bool) :
    Except PyError Unit :=
  if allowUnlinkedPacket then .ok ()
  else requirePacketBuildAudit log packet.dispatchId packet.beadId packet.packetSha256

/-- What a program is started for. -/
inductive Request where
  | build (effectiveEpicId : Option String) (executor : Executor)
      (external : executor.external = true) (beadId : Option String) (dispatchId : String)
  | dispatch (packet : Packet) (epic : Option String) (allowUnlinkedPacket : Bool)
  | browser (packet : Packet) (allowUnlinkedPacket : Bool)
  | task (epic : Option String) (executor : Executor) (route : String) (beadId : Option String)
      (dispatchId : String) (executeLocal : Bool)

/-- `packet.get("epic_id") or args.epic`. -/
def Packet.epicOr (packet : Packet) (epic : Option String) : Option String :=
  (given packet.epicId).orElse fun _ => epic

namespace Request

/-- The epic whose quota is asked for. -/
def epicId : Request → Option String
  | .build effectiveEpicId _ _ _ _ => effectiveEpicId
  | .dispatch packet epic _ => packet.epicOr epic
  | .browser packet _ => packet.epicId
  | .task epic _ _ _ _ _ => epic

def executor : Request → Executor
  | .build _ executor _ _ _ => executor
  | .dispatch packet _ _ => packet.executor
  | .browser packet _ => packet.executor
  | .task _ executor _ _ _ _ => executor

def route : Request → String
  | .task _ _ route _ _ _ => route
  | _ => "external-contract"

def quotaEventType (request : Request) : Option QuotaEventType :=
  Quota.quotaEventType request.executor request.route

/-- What a program does before it deals with a provider or builds its packet. -/
def admission (log : List AuditEvent) : Request → Except PyError QuotaInfo
  | .build effectiveEpicId executor _ _ dispatchId =>
    enforceContractingQuota controls log effectiveEpicId executor "external-contract"
      (some dispatchId) none
  | .dispatch packet epic allowUnlinkedPacket => do
      packet.requireLinked log allowUnlinkedPacket
      enforceContractingQuota controls log (packet.epicOr epic) packet.executor
        "external-contract" (some packet.dispatchId) (some packet.packetSha256)
  | .browser packet allowUnlinkedPacket => do
      packet.requireLinked log allowUnlinkedPacket
      enforceContractingQuota controls log packet.epicId packet.executor "external-contract"
        (some packet.dispatchId) (some packet.packetSha256)
  | .task epic executor route _ dispatchId _ =>
    enforceContractingQuota controls log epic executor route (some dispatchId) none

/-- A local request is posted, or a prompt submitted, before the event is recorded. -/
def contactsFirst : Request → Bool
  | .build .. => false
  | .dispatch .. => false
  | .browser .. => true
  | .task _ executor _ _ _ executeLocal => executeLocal && executor.isLocal

/-- The event itself is the preparation of an external dispatch. -/
def preparesExternal : Request → Bool
  | .build .. => false
  | .dispatch .. => true
  | .browser .. => false
  | .task _ executor _ _ _ executeLocal => executor.external && !executeLocal

end Request

/-- How the program got on. -/
inductive Outcome where
  | built (packetSha256 : String)
  | prepared
  | completed (shareUrlPresent : Bool) (responseChars : Option Nat)
  | failed (failureStage : String) (shareUrlPresent : Bool) (responseChars : Option Nat)

/-- A program between its question and the end of its run. -/
structure Process where
  request : Request
  quotaInfo : QuotaInfo
  contacted : Bool

/-- The stages at which `run` can fail before the prompt is submitted. -/
def stagesBefore : List String :=
  ["page-load", "prompt-ready", "model-selection", "model-confirmation", "prompt-submit"]

/-- The stages at which it can fail afterwards; the click that submits can time out. -/
def stagesAfter : List String := ["prompt-submit", "response-wait", "share-link"]

/-- The event that a program records. -/
def Process.event (process : Process) (outcome : Outcome) : Option Event :=
  let base : Event :=
    { eventType := "dispatch_prepared"
      quotaEventType := process.quotaInfo.quotaEventType
      quotaStage := some "consumed"
      dispatchId := none
      beadId := none
      epicId := process.request.epicId
      executorExternal := process.quotaInfo.executorExternal
      packetSha256 := none
      telemetryStatus := some "prepared"
      status := none
      failureStage := none
      shareUrlPresent := false
      responseChars := none }
  match process.request, outcome with
  | .build _ _ _ beadId dispatchId, .built packetSha256 =>
    some { base with
      eventType := "packet_built"
      quotaStage := some "reserved"
      dispatchId := some dispatchId
      beadId := beadId
      packetSha256 := some packetSha256
      telemetryStatus := some "completed" }
  | .dispatch packet _ _, .prepared =>
    some { base with
      dispatchId := some packet.dispatchId
      beadId := packet.beadId
      packetSha256 := some packet.packetSha256 }
  | .browser packet _, .completed shareUrlPresent responseChars =>
    if process.contacted then
      some { base with
        eventType := "chatgpt_browser_dispatch"
        executorExternal := true
        dispatchId := some packet.dispatchId
        beadId := packet.beadId
        packetSha256 := some packet.packetSha256
        telemetryStatus := some "completed"
        status := some "completed"
        shareUrlPresent := shareUrlPresent
        responseChars := responseChars }
    else none
  | .browser packet _, .failed failureStage shareUrlPresent responseChars =>
    if (process.contacted && stagesAfter.contains failureStage) ||
        (!process.contacted && stagesBefore.contains failureStage && !shareUrlPresent &&
          responseChars == some 0) then
      some { base with
        eventType := "chatgpt_browser_dispatch"
        executorExternal := true
        dispatchId := some packet.dispatchId
        beadId := packet.beadId
        packetSha256 := some packet.packetSha256
        telemetryStatus := some "failed"
        status := some "failed"
        failureStage := some failureStage
        shareUrlPresent := shareUrlPresent
        responseChars := responseChars }
    else none
  | .task _ _ _ beadId dispatchId executeLocal, .prepared =>
    if executeLocal then none
    else some { base with dispatchId := some dispatchId, beadId := beadId }
  | .task _ _ _ beadId dispatchId _, .completed _ responseChars =>
    if process.contacted then
      some { base with
        dispatchId := some dispatchId
        beadId := beadId
        telemetryStatus := some "completed"
        responseChars := responseChars }
    else none
  | _, _ => none

/-- A quota of an epic. -/
structure Scope where
  eventType : QuotaEventType
  epicId : Option String
  deriving DecidableEq

def Process.scope (process : Process) : Option Scope :=
  process.request.quotaEventType.map fun eventType => ⟨eventType, process.request.epicId⟩

/-- The question without a reservation of one's own. -/
def Scope.query (scope : Scope) : Query :=
  ⟨scope.eventType, scope.epicId, scope.eventType.external, none, none⟩

def used (scope : Scope) (log : List AuditEvent) : Nat := countAuditEvents scope.query log

/-- The log, the programs under way, and what an observer notes: the scopes of the dispatches that
reached their provider, and those of them whose program ended without an event that counts. -/
structure System where
  log : List AuditEvent
  processes : List Process
  contacts : List Scope
  lost : List Scope

def System.start : System := ⟨[], [], [], []⟩

inductive Action where
  | begins (request : Request)
  | contacts (process : Nat)
  | records (process : Nat) (outcome : Outcome)
  | ends (process : Nat)
  | other (event : Event)

/-- Whether the recorded event is counted where the program asked. -/
def Process.counted (process : Process) (event : Event) : Bool :=
  match process.scope with
  | none => false
  | some scope => scope.query.consumes (sanitizeAuditEvent event)

/-- A step, or nothing where the action is not possible. -/
def System.step (system : System) : Action → Option System
  | .begins request =>
    match request.admission controls system.log with
    | .error _ => some system
    | .ok quotaInfo =>
      some { system with processes := system.processes ++ [⟨request, quotaInfo, false⟩] }
  | .contacts index => do
      let process ← system.processes[index]?
      if process.contacted || !process.request.contactsFirst then none
      else some { system with
        processes := system.processes.set index { process with contacted := true }
        contacts := system.contacts ++ process.scope.toList }
  | .records index outcome => do
      let process ← system.processes[index]?
      let event ← process.event outcome
      let reached := process.contacted || process.request.preparesExternal
      some
        { log := recordAuditEvent event system.log
          processes := system.processes.eraseIdx index
          contacts :=
            if process.request.preparesExternal then system.contacts ++ process.scope.toList
            else system.contacts
          lost :=
            if reached && !process.counted event then system.lost ++ process.scope.toList
            else system.lost }
  | .ends index => do
      let process ← system.processes[index]?
      some { system with
        processes := system.processes.eraseIdx index
        lost := if process.contacted then system.lost ++ process.scope.toList else system.lost }
  | .other event =>
    if event.quotaEventType = none then
      some { system with log := recordAuditEvent event system.log }
    else none

structure Step where
  before : System
  action : Action
  after : System

/-- The steps of the possible ones among the actions. -/
def run (controls : Controls) (system : System) : List Action → List Step
  | [] => []
  | action :: rest =>
    match system.step controls action with
    | none => run controls system rest
    | some after => ⟨system, action, after⟩ :: run controls after rest

end WorkOrchestration.Audit.Quota
