import WorkOrchestration.Audit.QuotaKept

/-!
# Quotas over runs

What keeps the dispatches of an epic within the limit in every interleaving of the programs, and two
short runs in which the limit is passed.
-/

namespace WorkOrchestration.Audit.Quota

open List Lib.Runs
open Lib.Text (Nonempty)
open Native.Artifacts
open Option (bind_eq_some_iff bind_some)

/-! ## The check -/

theorem external_of_quotaEventType {executor : Executor} {route : String} {eventType : QuotaEventType}
    (kind : quotaEventType executor route = some eventType) :
    executor.external = eventType.external := by
  unfold quotaEventType at kind
  split at kind
  · rename_i external
    cases kind
    exact external
  · rename_i inside
    split at kind
    · cases kind
      exact Bool.not_eq_true _ ▸ inside
    · cases kind

variable {controls : Controls} {log : List AuditEvent} {epicId : Option String} {info : QuotaInfo}

theorem enforceContractingQuota_ok (chained : Chained log)
    {executor : Executor} {route : String} {dispatchId packetSha256 : Option String}
    (passed : enforceContractingQuota controls log epicId executor route dispatchId packetSha256 =
      .ok info) :
    info.quotaEventType = quotaEventType executor route ∧
      info.executorExternal = executor.external ∧
      ∀ eventType, quotaEventType executor route = some eventType →
        ((Scope.query ⟨eventType, epicId⟩).consumed log : Int) < controls.limit eventType := by
  unfold enforceContractingQuota at passed
  cases kind : quotaEventType executor route with
  | none =>
    rw [kind] at passed
    cases passed
    exact ⟨rfl, rfl, fun _ absent => by cases absent⟩
  | some eventType =>
    rw [kind] at passed
    dsimp only at passed
    split at passed
    · cases passed
    · split at passed
      · cases passed
      · rename_i room
        cases passed
        refine ⟨rfl, rfl, fun other same => ?_⟩
        cases same
        rw [countAuditEvents_eq chained] at room
        have same : (Query.mk eventType epicId executor.external dispatchId packetSha256).consumed log =
            (Scope.query ⟨eventType, epicId⟩).consumed log := by
          rw [external_of_quotaEventType kind]
          rfl
        omega

namespace Request

def scope (request : Request) : Option Scope :=
  request.quotaEventType.map fun eventType => ⟨eventType, request.epicId⟩

def mayContact (request : Request) : Bool := request.contactsFirst || request.preparesExternal

theorem admission_ok (chained : Chained log) {request : Request}
    (admitted : request.admission controls log = .ok info) :
    info.quotaEventType = request.quotaEventType ∧
      info.executorExternal = request.executor.external ∧
      ∀ scope, request.scope = some scope →
        (scope.query.consumed log : Int) < controls.limit scope.eventType := by
  have asked : ∃ dispatchId packetSha256,
      enforceContractingQuota controls log request.epicId request.executor request.route dispatchId
        packetSha256 = .ok info := by
    cases request with
    | build | task => exact ⟨_, _, admitted⟩
    | dispatch | browser =>
      obtain ⟨_, _, asked⟩ := bind_ok admitted
      exact ⟨_, _, asked⟩
  obtain ⟨_, _, asked⟩ := asked
  obtain ⟨kind, external, room⟩ := enforceContractingQuota_ok chained asked
  refine ⟨kind, external, fun scope same => ?_⟩
  obtain ⟨eventType, found, rfl⟩ := Option.map_eq_some_iff.mp same
  exact room eventType found

theorem not_preparesExternal {request : Request} (first : request.contactsFirst = true) :
    request.preparesExternal = false := by
  cases request with
  | task epic executor route beadId dispatchId executeLocal =>
    have executes : executeLocal = true := (Bool.and_eq_true _ _ ▸ first).1
    rw [executes]
    exact Bool.and_false _
  | dispatch => cases first
  | _ => rfl

end Request

/-! ## What the log does not show -/

namespace Process

/-- The program can still reach its provider. -/
def waits (scope : Scope) (process : Process) : Bool :=
  process.scope == some scope && process.request.mayContact && !process.contacted

/-- The program has reached it and has not ended. -/
def reached (scope : Scope) (process : Process) : Bool :=
  process.scope == some scope && process.contacted

end Process

namespace System

def waiting (scope : Scope) (system : System) : Nat := system.processes.countP (Process.waits scope)

def reached (scope : Scope) (system : System) : Nat := system.processes.countP (Process.reached scope)

/-- The dispatches of a scope that passed their check and that the log does not show. -/
def unshown (scope : Scope) (system : System) : Nat :=
  system.waiting scope + system.reached scope + system.lost.count scope

/-- There are none, or the consuming events leave room for them and one more. -/
def Room (controls : Controls) (scope : Scope) (system : System) : Prop :=
  system.unshown scope = 0 ∨
    ((scope.query.consumed system.log + system.unshown scope : Nat) : Int) <
      controls.limit scope.eventType

instance (controls : Controls) (scope : Scope) (system : System) :
    Decidable (system.Room controls scope) :=
  inferInstanceAs (Decidable (_ ∨ _))

/-- What every step keeps. -/
structure Kept (controls : Controls) (system : System) : Prop where
  chained : Chained system.log
  contactsFirst : ∀ process ∈ system.processes,
    process.contacted = true → process.request.contactsFirst = true
  asked : ∀ process ∈ system.processes,
    process.quotaInfo.quotaEventType = process.request.quotaEventType ∧
      process.quotaInfo.executorExternal = process.request.executor.external
  bounded : ∀ scope,
    system.contacts.count scope + system.waiting scope ≤ (controls.limit scope.eventType).toNat
  shown : ∀ scope, system.contacts.count scope ≤
    scope.query.consumed system.log + system.reached scope + system.lost.count scope

theorem kept_start (controls : Controls) : System.start.Kept controls where
  chained := chained_nil
  contactsFirst := fun _ absent => absurd absent not_mem_nil
  asked := fun _ absent => absurd absent not_mem_nil
  bounded := fun _ => Nat.zero_le _
  shown := fun _ => Nat.zero_le _

end System

/-! ## One step -/

theorem exists_split {α : Type} {items : List α} {index : Nat} {item : α}
    (found : items[index]? = some item) :
    ∃ front back, items = front ++ item :: back ∧ items.eraseIdx index = front ++ back ∧
      ∀ other, items.set index other = front ++ other :: back := by
  induction items generalizing index with
  | nil => cases found
  | cons first rest ih =>
    cases index with
    | zero =>
      cases found
      exact ⟨[], rest, rfl, rfl, fun _ => rfl⟩
    | succ index =>
      obtain ⟨front, back, whole, erased, set⟩ := ih found
      refine ⟨first :: front, back, ?_, ?_, fun other => ?_⟩
      · rw [whole, cons_append]
      · rw [eraseIdx_cons_succ, erased, cons_append]
      · rw [set_cons_succ, set, cons_append]

theorem count_toList (found : Option Scope) (scope : Scope) :
    found.toList.count scope = if found = some scope then 1 else 0 := by
  cases found with
  | none => rfl
  | some other =>
    rw [Option.toList_some, count_singleton]
    simp

namespace System

variable {system : System} {front back : List Process} {process : Process}

section

variable (kept : system.Kept controls)

include kept

theorem Kept.begins {request : Request}
    (admitted : request.admission controls system.log = .ok info)
    (room : request.mayContact = true → ∀ scope, request.scope = some scope →
      system.Room controls scope) :
    Kept controls { system with processes := system.processes ++ [⟨request, info, false⟩] } := by
  obtain ⟨kind, external, below⟩ := request.admission_ok kept.chained admitted
  refine ⟨kept.chained, ?_, ?_, fun scope => ?_, fun scope => ?_⟩
  · rintro other member contacted
    rcases mem_append.mp member with member | member
    · exact kept.contactsFirst other member contacted
    · rw [mem_singleton.mp member] at contacted
      cases contacted
  · intro other member
    rcases mem_append.mp member with member | member
    · exact kept.asked other member
    · rw [mem_singleton.mp member]
      exact ⟨kind, external⟩
  · have bounded := kept.bounded scope
    have shown := kept.shown scope
    change system.contacts.count scope + List.countP _ (_ ++ _) ≤ _
    rw [countP_append, countP_singleton]
    change system.contacts.count scope + (system.waiting scope + _) ≤ _
    split
    · rename_i waits
      simp only [Process.waits, Bool.and_eq_true, beq_iff_eq] at waits
      have here : request.scope = some scope := waits.1.1
      have limit := below scope here
      rcases room waits.1.2 scope here with none' | left
      · unfold unshown at none'
        omega
      · unfold unshown at left
        omega
    · omega
  · have shown := kept.shown scope
    change system.contacts.count scope ≤
      scope.query.consumed system.log + List.countP _ (_ ++ _) + system.lost.count scope
    rw [countP_append]
    change _ ≤ _ + (system.reached scope + _) + _
    omega

theorem Kept.contacts
    (processes : system.processes = front ++ process :: back) (fresh : process.contacted = false)
    (first : process.request.contactsFirst = true) :
    Kept controls { system with
      processes := front ++ { process with contacted := true } :: back
      contacts := system.contacts ++ process.scope.toList } := by
  have split : ∀ other ∈ front ++ { process with contacted := true } :: back,
      other = { process with contacted := true } ∨ other ∈ system.processes := by
    intro other member
    rw [processes]
    simp only [mem_append, mem_cons] at member ⊢
    tauto
  have there : process ∈ system.processes := processes ▸ by simp
  refine ⟨kept.chained, ?_, ?_, fun scope => ?_, fun scope => ?_⟩
  · intro other member contacted
    rcases split other member with rfl | member
    · exact first
    · exact kept.contactsFirst other member contacted
  · intro other member
    rcases split other member with rfl | member
    · exact kept.asked process there
    · exact kept.asked other member
  · have bounded := kept.bounded scope
    have before : process.waits scope = (process.scope == some scope) := by
      simp [Process.waits, Request.mayContact, first, fresh]
    have after : ({ process with contacted := true } : Process).waits scope = false := by
      simp [Process.waits]
    simp only [waiting, processes, countP_append, countP_cons, before] at bounded
    simp only [waiting, countP_append, countP_cons, count_append, count_toList, after]
    simp only [beq_iff_eq] at bounded
    rw [if_neg Bool.false_ne_true]
    omega
  · have shown := kept.shown scope
    have before : process.reached scope = false := by simp [Process.reached, fresh]
    have after : ({ process with contacted := true } : Process).reached scope =
        (process.scope == some scope) := by simp [Process.reached, Process.scope]
    simp only [reached, processes, countP_append, countP_cons, before] at shown
    simp only [reached, countP_append, countP_cons, count_append, count_toList, after,
      beq_iff_eq]
    rw [if_neg Bool.false_ne_true] at shown
    omega

theorem Kept.without (processes : system.processes = front ++ process :: back) :
    (∀ other ∈ front ++ back, other.contacted = true → other.request.contactsFirst = true) ∧
      ∀ other ∈ front ++ back,
        other.quotaInfo.quotaEventType = other.request.quotaEventType ∧
          other.quotaInfo.executorExternal = other.request.executor.external := by
  have there : ∀ other ∈ front ++ back, other ∈ system.processes := by
    intro other member
    rw [processes]
    simp only [mem_append] at member ⊢
    tauto
  exact ⟨fun other member => kept.contactsFirst other (there other member),
    fun other member => kept.asked other (there other member)⟩

theorem Kept.records (event : Event)
    (processes : system.processes = front ++ process :: back) :
    Kept controls
      { log := recordAuditEvent event system.log
        processes := front ++ back
        contacts :=
          if process.request.preparesExternal then system.contacts ++ process.scope.toList
          else system.contacts
        lost :=
          if (process.contacted || process.request.preparesExternal) && !process.counted event then
            system.lost ++ process.scope.toList
          else system.lost } := by
  obtain ⟨contactsFirst, asked⟩ := kept.without processes
  have exclusive : process.contacted = true → process.request.preparesExternal = false :=
    fun contacted => Request.not_preparesExternal
      (kept.contactsFirst process (processes ▸ by simp) contacted)
  refine ⟨kept.chained.record event, contactsFirst, asked, fun scope => ?_, fun scope => ?_⟩
  · have bounded := kept.bounded scope
    simp only [waiting, processes, countP_append, countP_cons] at bounded
    simp only [waiting, countP_append]
    cases prepares : process.request.preparesExternal with
    | false =>
      rw [if_neg Bool.false_ne_true]
      omega
    | true =>
      have fresh : process.contacted = false := by
        cases contacted : process.contacted with
        | false => rfl
        | true => rw [exclusive contacted] at prepares; cases prepares
      have before : process.waits scope = (process.scope == some scope) := by
        simp [Process.waits, Request.mayContact, prepares, fresh]
      rw [if_pos rfl, count_append, count_toList]
      simp only [before, beq_iff_eq] at bounded
      omega
  · have shown := kept.shown scope
    simp only [reached, processes, countP_append, countP_cons] at shown
    simp only [reached, countP_append, consumed_record]
    by_cases here : process.scope = some scope
    · have counted : process.counted event = scope.query.consumes (sanitizeAuditEvent event) := by
        unfold Process.counted
        rw [here]
      have before : process.reached scope = process.contacted := by simp [Process.reached, here]
      rw [before] at shown
      cases contacted : process.contacted with
      | true =>
        rw [contacted, if_pos rfl] at shown
        rw [exclusive contacted, counted]
        cases scope.query.consumes (sanitizeAuditEvent event) with
        | true =>
          simp
          omega
        | false =>
          simp [here]
          omega
      | false =>
        rw [contacted, if_neg Bool.false_ne_true] at shown
        rw [counted]
        cases process.request.preparesExternal with
        | true =>
          cases scope.query.consumes (sanitizeAuditEvent event) with
          | true | false =>
            simp [here]
            omega
        | false =>
          simp
          omega
    · have elsewhere : ∀ (counted : Bool) (scopes : List Scope),
          (if counted then scopes ++ process.scope.toList else scopes).count scope =
            scopes.count scope := by
        intro counted scopes
        cases counted with
        | true => rw [if_pos rfl, count_append, count_toList, if_neg here, Nat.add_zero]
        | false => rfl
      rw [elsewhere, elsewhere]
      have before : process.reached scope = false := by simp [Process.reached, here]
      rw [before, if_neg Bool.false_ne_true] at shown
      omega

theorem Kept.ends (processes : system.processes = front ++ process :: back) :
    Kept controls { system with
      processes := front ++ back
      lost :=
        if process.contacted then system.lost ++ process.scope.toList else system.lost } := by
  obtain ⟨contactsFirst, asked⟩ := kept.without processes
  refine ⟨kept.chained, contactsFirst, asked, fun scope => ?_, fun scope => ?_⟩
  · have bounded := kept.bounded scope
    simp only [waiting, processes, countP_append, countP_cons] at bounded
    simp only [waiting, countP_append]
    omega
  · have shown := kept.shown scope
    simp only [reached, processes, countP_append, countP_cons, Process.reached] at shown
    simp only [reached, countP_append]
    cases contacted : process.contacted with
    | true =>
      rw [if_pos rfl, count_append, count_toList]
      simp only [contacted, Bool.and_true, beq_iff_eq] at shown
      omega
    | false =>
      simp only [contacted, Bool.and_false, Bool.false_eq_true, if_false] at shown ⊢
      omega

theorem Kept.other (event : Event) :
    Kept controls { system with log := recordAuditEvent event system.log } := by
  refine ⟨kept.chained.record event, kept.contactsFirst, kept.asked, kept.bounded, fun scope => ?_⟩
  have shown := kept.shown scope
  have grows := consumed_record scope.query event system.log
  change system.contacts.count scope ≤ scope.query.consumed (recordAuditEvent event system.log) +
    system.reached scope + system.lost.count scope
  omega

end

/-! ## Runs that meet the condition -/

end System

namespace Request

def packet? : Request → Option Packet
  | .dispatch packet _ _ => some packet
  | .browser packet _ => some packet
  | _ => none

end Request

/-- A check passes only with room for the dispatches that the log does not show, and a packet that is
dispatched has a dispatch id with more than white space in it and is charged to its own epic. -/
def Step.Meets (controls : Controls) (step : Step) : Prop :=
  match step.action with
  | .begins request =>
    request.mayContact = true → ∀ scope ∈ request.scope, step.before.Room controls scope
  | .records index _ =>
    ∀ process ∈ step.before.processes[index]?, ∀ packet ∈ process.request.packet?,
      Nonempty packet.dispatchId ∧
        process.request.epicId.bind shortText = packet.epicId.bind shortText
  | _ => True

instance (controls : Controls) : (step : Step) → Decidable (step.Meets controls)
  | ⟨before, .begins request, _⟩ =>
    inferInstanceAs (Decidable (request.mayContact = true →
      ∀ scope ∈ request.scope, before.Room controls scope))
  | ⟨before, .records index _, _⟩ =>
    inferInstanceAs (Decidable (∀ process ∈ before.processes[index]?,
      ∀ packet ∈ process.request.packet?, Nonempty packet.dispatchId ∧
        process.request.epicId.bind shortText = packet.epicId.bind shortText))
  | ⟨_, .contacts _, _⟩ => .isTrue True.intro
  | ⟨_, .ends _, _⟩ => .isTrue True.intro
  | ⟨_, .other _, _⟩ => .isTrue True.intro

theorem System.Kept.step {system after : System} (kept : system.Kept controls) {action : Action}
    (stepped : system.step controls action = some after)
    (meets : Step.Meets controls ⟨system, action, after⟩) : after.Kept controls := by
  cases action with
  | begins request =>
    unfold System.step at stepped
    cases admitted : request.admission controls system.log with
    | error error =>
      simp only [admitted, Option.some.injEq] at stepped
      exact stepped ▸ kept
    | ok info =>
      simp only [admitted, Option.some.injEq] at stepped
      exact stepped ▸ kept.begins admitted fun may scope same => meets may scope same
  | contacts index =>
    obtain ⟨process, found, stepped⟩ := bind_eq_some_iff.mp stepped
    obtain ⟨front, back, whole, _, set⟩ := exists_split found
    split at stepped
    · cases stepped
    · rename_i able
      simp only [Bool.or_eq_true, Bool.not_eq_true', not_or, Bool.not_eq_true,
        Bool.not_eq_false] at able
      simp only [Option.some.injEq] at stepped
      rw [← stepped, set]
      exact kept.contacts whole able.1 able.2
  | records index outcome =>
    obtain ⟨process, found, stepped⟩ := bind_eq_some_iff.mp stepped
    obtain ⟨event, _, stepped⟩ := bind_eq_some_iff.mp stepped
    obtain ⟨front, back, whole, erased, _⟩ := exists_split found
    simp only [Option.some.injEq] at stepped
    rw [← stepped, erased]
    exact kept.records event whole
  | ends index =>
    obtain ⟨process, found, stepped⟩ := bind_eq_some_iff.mp stepped
    obtain ⟨front, back, whole, erased, _⟩ := exists_split found
    simp only [Option.some.injEq] at stepped
    rw [← stepped, erased]
    exact kept.ends whole
  | other event =>
    unfold System.step at stepped
    dsimp only at stepped
    split at stepped
    · simp only [Option.some.injEq] at stepped
      exact stepped ▸ kept.other event
    · cases stepped

variable {actions : List Action}

theorem run_taken {system : System} :
    ∀ step ∈ run controls system actions, step.before.step controls step.action = some step.after := by
  induction actions generalizing system with
  | nil => exact fun _ absent => absurd absent not_mem_nil
  | cons action rest ih =>
    intro step member
    unfold run at member
    split at member
    · exact ih step member
    · rename_i after taken
      rcases mem_cons.mp member with rfl | member
      · exact taken
      · exact ih step member

theorem run_linked {system : System} :
    Linked Step.before Step.after system (run controls system actions) := by
  induction actions generalizing system with
  | nil => exact True.intro
  | cons action rest ih =>
    unfold run
    split
    · exact ih
    · exact ⟨rfl, ih⟩

theorem run_kept (meets : ∀ step ∈ run controls .start actions, step.Meets controls) :
    ∀ step ∈ run controls .start actions, step.before.Kept controls ∧ step.after.Kept controls :=
  run_linked.invariant (fun step member kept => kept.step (run_taken step member) (meets step member))
    (System.kept_start controls)

/-! ## Packets -/

/-- The log holds the reservation of a packet. -/
def Reserved (packet : Packet) (log : List AuditEvent) : Prop :=
  ∃ event ∈ log, event.eventType = "packet_built" ∧
    event.quotaEventType = some .externalManualDispatch ∧ event.executorExternal = true ∧
    event.epicId = packet.epicId.bind shortText ∧
    event.dispatchId = shortText packet.dispatchId ∧ event.packetSha256 = some packet.packetSha256

/-- The log holds an event that consumes a packet. -/
def Consumed (packet : Packet) (log : List AuditEvent) : Prop :=
  ∃ event ∈ log, event.isReserved = false ∧ isPreSubmissionBrowserFailure event.toEvent = false ∧
    event.dispatchId = shortText packet.dispatchId ∧ event.packetSha256 = some packet.packetSha256

structure Dispatches (packet : Packet) (epicId : Option String) (event : Event) : Prop where
  eventType : event.eventType ≠ "packet_built"
  quotaStage : event.quotaStage = some "consumed"
  quotaEventType : event.quotaEventType = some .externalManualDispatch
  executorExternal : event.executorExternal = true
  epicId : event.epicId = epicId
  dispatchId : event.dispatchId = some packet.dispatchId
  packetSha256 : event.packetSha256 = some packet.packetSha256

variable {packet : Packet} {event : Event}

theorem Dispatches.not_isReserved
    (dispatches : Dispatches packet epicId event) : event.isReserved = false := by
  unfold Event.isReserved
  rw [dispatches.quotaStage, Bool.or_eq_false_iff]
  exact ⟨by decide, beq_false_of_ne dispatches.eventType⟩

variable {process : Process}

theorem Process.event_dispatches {outcome : Outcome}
    (dispatched : process.request.packet? = some packet)
    (kind : process.quotaInfo.quotaEventType = process.request.quotaEventType)
    (external : process.quotaInfo.executorExternal = process.request.executor.external)
    (recorded : process.event outcome = some event) :
    Dispatches packet process.request.epicId event := by
  obtain ⟨request, info, contacted⟩ := process
  have outside : ∀ packet' : Packet, quotaEventType packet'.executor "external-contract" =
      some .externalManualDispatch := fun packet' => if_pos packet'.external
  cases request with
  | dispatch packet' epic allowUnlinkedPacket =>
    cases dispatched
    have charged := kind.trans (outside packet)
    have flagged := external.trans packet.external
    cases outcome with
    | prepared =>
      cases recorded
      exact ⟨by simp, rfl, charged, flagged, rfl, rfl, rfl⟩
    | _ => cases recorded
  | browser packet' allowUnlinkedPacket =>
    cases dispatched
    have charged := kind.trans (outside packet)
    cases outcome with
    | completed | failed =>
      unfold Process.event at recorded
      dsimp only at recorded
      split at recorded
      · cases recorded
        exact ⟨by simp, rfl, charged, rfl, rfl, rfl, rfl⟩
      · cases recorded
    | _ => cases recorded
  | _ => cases dispatched

theorem given_of_shortText {text short : String} (kept : shortText text = some short) :
    given (some short) = some short := by
  simp [given, shortText_ne_empty kept]

theorem shortText_of_nonempty {text : String} (nonempty : Nonempty text) :
    ∃ short, shortText text = some short := by
  unfold shortText
  rw [if_neg nonempty.strip.ne_empty]
  dsimp only
  split
  · exact ⟨_, rfl⟩
  · exact ⟨_, rfl⟩

theorem labels_of_texts {event : AuditEvent} {dispatchId packetSha256 : String}
    (dispatch : given event.dispatchId = some dispatchId)
    (packet : given event.packetSha256 = some packetSha256) :
    event.labels = (.text dispatchId, .text packetSha256) := by
  unfold AuditEvent.labels AuditEvent.dispatchLabel
  rw [dispatch, packetLabel_of_given packet]

theorem texts_of_labels {event : AuditEvent} {dispatchId packetSha256 : String}
    (same : event.labels = (.text dispatchId, .text packetSha256)) :
    event.dispatchId = some dispatchId ∧ event.packetSha256 = some packetSha256 := by
  have first : event.dispatchLabel = .text dispatchId := congrArg Prod.fst same
  have second : event.packetLabel = .text packetSha256 := congrArg Prod.snd same
  unfold AuditEvent.dispatchLabel at first
  unfold AuditEvent.packetLabel at second
  have left : ∀ {text : Option String} {value : String}, given text = some value →
      text = some value := fun {_ _} found => (Option.filter_eq_some_iff.mp found).1
  constructor
  · split at first
    · rename_i found
      cases first
      exact left found
    · cases first
  · split at second
    · rename_i found
      cases second
      exact left found
    · cases second

/-- The first consumption of a reserved packet changes no used count. -/
theorem used_of_first (chained : Chained log)
    (dispatches : Dispatches packet epicId event)
    (submitted : isPreSubmissionBrowserFailure (sanitizeAuditEvent event) = false)
    (nonempty : Nonempty packet.dispatchId)
    (own : epicId.bind shortText = packet.epicId.bind shortText) (reserved : Reserved packet log)
    (first : ¬ Consumed packet log) (scope : Scope) :
    used scope (recordAuditEvent event log) = used scope log := by
  obtain ⟨dispatchId, short⟩ := shortText_of_nonempty nonempty
  have labelled : (recorded event log).labels = (.text dispatchId, .text packet.packetSha256) := by
    refine labels_of_texts ?_ ?_
    · change given (event.dispatchId.bind shortText) = _
      rw [dispatches.dispatchId, bind_some, short]
      exact given_of_shortText short
    · change given (event.packetSha256.bind shortText) = _
      rw [dispatches.packetSha256, bind_some, packet.digest]
      exact given_of_shortText packet.digest
  have plain : (sanitizeAuditEvent event).isReserved = false := dispatches.not_isReserved
  cases concerned : scope.query.concerns (sanitizeAuditEvent event) with
  | false => exact countAuditEvents_record_of_blind chained (.inl concerned)
  | true =>
    refine countAuditEvents_record_of_first chained ?_ ?_ ?_ ?_
    · simp [Query.consumes, concerned, plain, submitted]
    · change (given (event.packetSha256.bind shortText)).isSome = true
      rw [dispatches.packetSha256, bind_some, packet.digest,
        given_of_shortText packet.digest]
      rfl
    · obtain ⟨reservation, member, built, kind, external, epic, named, hashed⟩ := reserved
      rw [short] at named
      refine mem_reservedPackets.mpr ⟨reservation, member, ?_, ?_⟩
      · have alike : scope.query.concerns reservation.toEvent =
            scope.query.concerns (sanitizeAuditEvent event) := by
          have sameEpic : reservation.epicId = (sanitizeAuditEvent event).epicId := by
            change _ = event.epicId.bind shortText
            rw [epic, dispatches.epicId, own]
          have sameKind : reservation.quotaEventType =
              (sanitizeAuditEvent event).quotaEventType := kind.trans dispatches.quotaEventType.symm
          have sameFlag : reservation.executorExternal =
              (sanitizeAuditEvent event).executorExternal :=
            external.trans dispatches.executorExternal.symm
          unfold Query.concerns Query.sameEpic
          rw [sameEpic, sameKind, sameFlag]
        have isReserved : reservation.isReserved = true := by
          simp [Event.isReserved, built]
        unfold Query.reserves
        rw [alike, concerned, isReserved]
        rfl
      · rw [labelled]
        refine labels_of_texts ?_ ?_
        · rw [named]
          exact given_of_shortText short
        · rw [hashed]
          exact given_of_shortText packet.digest
    · rw [labelled]
      intro member
      obtain ⟨earlier, inside, consumes, same⟩ := mem_consumedPackets.mp member
      obtain ⟨named, hashed⟩ := texts_of_labels same
      simp only [Query.consumesPacket, Query.consumes, Bool.and_eq_true, Bool.not_eq_true'] at consumes
      exact first ⟨earlier, inside, consumes.1.1.2, consumes.1.2, named.trans short.symm, hashed⟩

namespace Step

/-- The step records that a packet was dispatched. -/
def Consumes (packet : Packet) (step : Step) : Prop :=
  ∃ index outcome process event, step.action = .records index outcome ∧
    step.before.processes[index]? = some process ∧ process.request.packet? = some packet ∧
    process.event outcome = some event ∧
    isPreSubmissionBrowserFailure (sanitizeAuditEvent event) = false

/-- The step records that a browser dispatch failed before it submitted its prompt. -/
def FailsBeforeSubmission (step : Step) : Prop :=
  ∃ index failureStage shareUrlPresent responseChars process packet allowUnlinkedPacket,
    step.action = .records index (.failed failureStage shareUrlPresent responseChars) ∧
    step.before.processes[index]? = some process ∧
    process.request = .browser packet allowUnlinkedPacket ∧ process.contacted = false

/-- What the quota promises of a step. -/
structure Right (controls : Controls) (step : Step) : Prop where
  within : ∀ scope,
    step.after.contacts.count scope ≤ (controls.limit scope.eventType).toNat
  once : ∀ scope, used scope step.after.log = scope.query.consumed step.after.log +
    (scope.query.reservedPackets step.after.log \ scope.query.consumedPackets step.after.log).card
  first : ∀ packet, step.Consumes packet → Reserved packet step.before.log →
    ¬ Consumed packet step.before.log → ∀ scope, used scope step.after.log = used scope step.before.log
  failed : step.FailsBeforeSubmission → ∀ scope,
    used scope step.after.log = used scope step.before.log

end Step

/-- Every step of the run is as the quota promises. -/
def Orderly (controls : Controls) (actions : List Action) : Prop :=
  ∀ step ∈ run controls .start actions, step.Right controls

theorem log_of_records {system after : System} {index : Nat} {outcome : Outcome}
    (found : system.processes[index]? = some process)
    (recorded : process.event outcome = some event)
    (stepped : system.step controls (.records index outcome) = some after) :
    after.log = recordAuditEvent event system.log := by
  unfold System.step at stepped
  simp only [found, recorded, Option.bind_eq_bind, bind_some, Option.some.injEq] at stepped
  rw [← stepped]

theorem isPreSubmissionBrowserFailure_sanitized {allowUnlinkedPacket shareUrlPresent : Bool}
    {failureStage : String} {responseChars : Option Nat}
    (asked : process.request = .browser packet allowUnlinkedPacket)
    (fresh : process.contacted = false)
    (recorded : process.event (.failed failureStage shareUrlPresent responseChars) = some event) :
    isPreSubmissionBrowserFailure (sanitizeAuditEvent event) = true := by
  unfold Process.event at recorded
  rw [asked] at recorded
  dsimp only at recorded
  rw [fresh] at recorded
  split at recorded
  · rename_i early
    simp only [Bool.false_and, Bool.not_false, Bool.true_and, Bool.false_or, Bool.and_eq_true,
      Bool.not_eq_true', beq_iff_eq] at early
    obtain ⟨⟨stage, unshared⟩, silent⟩ := early
    cases recorded
    have kept : shortText failureStage = some failureStage ∧
        preSubmitStages.contains (Lib.Text.lower ((given (some failureStage)).getD "")) = true := by
      have every : ∀ stage ∈ stagesBefore, shortText stage = some stage ∧
          preSubmitStages.contains (Lib.Text.lower ((given (some stage)).getD "")) = true := by
        decide
      exact every failureStage (contains_iff_mem.mp stage)
    have status : Lib.Text.lower (((given (shortText "failed")).orElse fun _ =>
        given none).getD "") == "failed" := by decide
    simp only [isPreSubmissionBrowserFailure, sanitizeAuditEvent, bind_some, kept.1, kept.2,
      status, unshared, silent, Bool.true_and, Bool.not_false, beq_self_eq_true, Bool.or_true]
  · cases recorded

/-- With room for what the log does not show, every run keeps its dispatches within the limit; reserved
packets count once, until they are consumed, and what was not submitted does not count. -/
theorem dispatches_within_limit (controls : Controls) (actions : List Action)
    (meets : ∀ step ∈ run controls .start actions, step.Meets controls) :
    Orderly controls actions := by
  intro step member
  obtain ⟨before, after⟩ := run_kept meets step member
  have stepped := run_taken step member
  refine ⟨fun scope => ?_, fun scope => countAuditEvents_eq after.chained, ?_, ?_⟩
  · exact le_of_add_le_left (after.bounded scope)
  · rintro packet ⟨index, outcome, process, event, action, found, dispatched, recorded, submitted⟩
      reserved first scope
    rw [action] at stepped
    have condition := meets step member
    unfold Step.Meets at condition
    rw [action] at condition
    obtain ⟨nonempty, own⟩ := condition process found packet dispatched
    obtain ⟨kind, external⟩ := before.asked process (mem_of_getElem? found)
    rw [log_of_records found recorded stepped]
    exact used_of_first before.chained (process.event_dispatches dispatched kind external recorded)
      submitted nonempty own reserved first scope
  · rintro ⟨index, failureStage, shareUrlPresent, responseChars, process, packet,
      allowUnlinkedPacket, action, found, asked, fresh⟩ scope
    rw [action] at stepped
    obtain ⟨process', found', taken⟩ := bind_eq_some_iff.mp stepped
    cases found.symm.trans found'
    obtain ⟨event, recorded, _⟩ := bind_eq_some_iff.mp taken
    obtain ⟨kind, external⟩ := before.asked process (mem_of_getElem? found)
    have dispatches : Dispatches packet process.request.epicId event :=
      process.event_dispatches (by rw [asked]; rfl) kind external recorded
    rw [log_of_records found recorded stepped]
    exact countAuditEvents_record_of_blind before.chained
      (.inr ⟨dispatches.not_isReserved, isPreSubmissionBrowserFailure_sanitized asked fresh recorded⟩)

def sampleControls : Controls := ⟨1, 1⟩

def sampleLocal : Executor := ⟨false, "local_openai_compatible"⟩

def sampleTask (dispatchId : String) : Request :=
  .task (some "epic-1") sampleLocal "local-worker" none dispatchId true

def samplePacket : Packet where
  dispatchId := "dispatch-1"
  beadId := some "bead-1"
  epicId := some "epic-1"
  executor := ⟨true, "manual_ui"⟩
  external := rfl
  packetSha256 := "5f70"
  digest := by decide

/-- A packet is built and dispatched, and a local request is posted and recorded. -/
def sampleActions : List Action :=
  [.begins (.build (some "epic-1") ⟨true, "manual_ui"⟩ rfl (some "bead-1") "dispatch-1"),
    .records 0 (.built "5f70"), .begins (.dispatch samplePacket none false), .records 0 .prepared,
    .begins (sampleTask "dispatch-2"), .contacts 0, .records 0 (.completed false (some 12))]

theorem dispatches_within_limit_sample : Orderly sampleControls sampleActions :=
  dispatches_within_limit sampleControls sampleActions (by decide)

/-- A local request is posted, its program stops on the answer, and another one is posted. -/
def uncountedPost : List Action :=
  [.begins (sampleTask "dispatch-1"), .contacts 0, .ends 0, .begins (sampleTask "dispatch-2"),
    .contacts 0]

theorem post_uncounted : ¬ Orderly sampleControls uncountedPost := by
  intro orderly
  have exceeded : ∃ step ∈ run sampleControls .start uncountedPost,
      (sampleControls.limit .localWorkerDispatch).toNat <
        step.after.contacts.count ⟨.localWorkerDispatch, some "epic-1"⟩ := by decide
  obtain ⟨step, member, passed⟩ := exceeded
  exact absurd ((orderly step member).within ⟨.localWorkerDispatch, some "epic-1"⟩)
    (Nat.not_le.mpr passed)

/-- Two programs check before either of them records. -/
example : ∃ step ∈ run sampleControls .start
    [.begins (sampleTask "dispatch-1"), .begins (sampleTask "dispatch-2"), .contacts 0, .contacts 1],
    step.after.contacts.length = 2 := by decide

/-- Of the programs that have passed their check, those that have reached a provider and those that
still can are within the limit together, and the log shows every contact but those of programs that
are running or have stopped. -/
theorem contacts_shown (controls : Controls) (actions : List Action)
    (meets : ∀ step ∈ run controls .start actions, step.Meets controls) :
    ∀ step ∈ run controls .start actions, step.after.Kept controls :=
  fun step member => (run_kept meets step member).2

theorem contacts_shown_sample : run sampleControls .start sampleActions ≠ [] ∧
    ∀ step ∈ run sampleControls .start sampleActions, step.after.Kept sampleControls :=
  ⟨by decide, contacts_shown sampleControls sampleActions (by decide)⟩

end WorkOrchestration.Audit.Quota
