import WorkOrchestration.Audit.Quota
import WorkOrchestration.Lib.HashChain

/-!
# When quotas are kept

The used count is the number of consuming events and of reserved packets that none of them is about.
A dispatch that passed its check and that the log does not show yet, or never will, is missing from it.
-/

namespace WorkOrchestration.Audit.Quota

open List Lib.Runs Lib

def AuditEvent.labels (event : AuditEvent) : Label × Label := (event.dispatchLabel, event.packetLabel)

namespace Query

variable (query : Query)

def consumesPacket (event : AuditEvent) : Bool :=
  query.consumes event.toEvent && (given event.packetSha256).isSome

variable (log : List AuditEvent)

def reservedPackets : Finset (Label × Label) :=
  ((log.filter query.reserves).map AuditEvent.labels).toFinset

def consumedPackets : Finset (Label × Label) :=
  ((log.filter query.consumesPacket).map AuditEvent.labels).toFinset

def consumedEvents : Finset EventHash :=
  ((log.filter fun event => query.consumes event.toEvent).map AuditEvent.eventHash).toFinset

def consumed : Nat := log.countP fun event => query.consumes event.toEvent

end Query

variable {query : Query} {log : List AuditEvent} {event : AuditEvent}

theorem mem_reservedPackets {labels : Label × Label} : labels ∈ query.reservedPackets log ↔
      ∃ event ∈ log, query.reserves event = true ∧ event.labels = labels := by
  simp [Query.reservedPackets, and_assoc]

theorem mem_consumedPackets {labels : Label × Label} : labels ∈ query.consumedPackets log ↔
      ∃ event ∈ log, query.consumesPacket event = true ∧ event.labels = labels := by
  simp [Query.consumedPackets, and_assoc]

theorem packetLabel_of_given {packetSha256 : String}
    (found : given event.packetSha256 = some packetSha256) :
    event.packetLabel = .text packetSha256 := by
  unfold AuditEvent.packetLabel
  rw [found]

/-- What one event adds to each of the three sets. -/
theorem Tally.take_eq (tally : Tally) : tally.take query event =
      ⟨tally.reserved ∪ query.reservedPackets [event],
        tally.consumedReserved ∪ query.consumedPackets [event],
        tally.consumedEvents ∪ query.consumedEvents [event]⟩ := by
  unfold Tally.take Query.reservedPackets Query.consumedPackets Query.consumedEvents
  by_cases concerned : query.concerns event.toEvent = true
  · by_cases reserved : event.isReserved = true
    · by_cases ignored : query.ignores event = true
      · simp [Query.reserves, Query.consumesPacket, Query.consumes, concerned, reserved, ignored]
      · simp [Query.reserves, Query.consumesPacket, Query.consumes, concerned, reserved, ignored,
          AuditEvent.labels, Finset.union_comm _ {_}]
    · by_cases failed : isPreSubmissionBrowserFailure event.toEvent = true
      · simp [Query.reserves, Query.consumesPacket, Query.consumes, concerned, reserved, failed]
      · cases found : given event.packetSha256 with
        | none =>
          simp [Query.reserves, Query.consumesPacket, Query.consumes, concerned, reserved, failed,
            found, Finset.union_comm _ {_}]
        | some packetSha256 =>
          simp [Query.reserves, Query.consumesPacket, Query.consumes, concerned, reserved, failed,
            found, AuditEvent.labels, packetLabel_of_given found, Finset.union_comm _ {_}]
  · simp [Query.reserves, Query.consumesPacket, Query.consumes, concerned]

theorem reservedPackets_append (log later : List AuditEvent) :
    query.reservedPackets (log ++ later) = query.reservedPackets log ∪ query.reservedPackets later := by
  simp [Query.reservedPackets]

theorem consumedPackets_append (log later : List AuditEvent) :
    query.consumedPackets (log ++ later) = query.consumedPackets log ∪ query.consumedPackets later := by
  simp [Query.consumedPackets]

theorem consumedEvents_append (log later : List AuditEvent) :
    query.consumedEvents (log ++ later) = query.consumedEvents log ∪ query.consumedEvents later := by
  simp [Query.consumedEvents]

theorem foldl_take (tally : Tally) : log.foldl (Tally.take query) tally =
      ⟨tally.reserved ∪ query.reservedPackets log, tally.consumedReserved ∪ query.consumedPackets log,
        tally.consumedEvents ∪ query.consumedEvents log⟩ := by
  induction log generalizing tally with
  | nil => simp [Query.reservedPackets, Query.consumedPackets, Query.consumedEvents]
  | cons event rest ih =>
    rw [foldl_cons, ih, Tally.take_eq, show event :: rest = [event] ++ rest from rfl,
      reservedPackets_append, consumedPackets_append, consumedEvents_append]
    simp only [Finset.union_assoc]

namespace EventHash

def previous : EventHash → Option EventHash
  | .first _ => none
  | .next hash _ => some hash

end EventHash

/-- Every event names the hash of the event before it. -/
def Chained (log : List AuditEvent) : Prop :=
  HashChain.Linked AuditEvent.eventHash (fun event => event.eventHash.previous) none log

theorem chained_nil : Chained [] := True.intro

theorem Chained.record (chained : Chained log) (event : Event) :
    Chained (recordAuditEvent event log) := by
  refine HashChain.linked_concat.mpr ⟨chained, ?_⟩
  unfold HashChain.head
  cases log.getLast? with
  | none | some => rfl

theorem Chained.nodup (chained : Chained log) : (log.map AuditEvent.eventHash).Nodup :=
  HashChain.nodup_of_linked (fun _ _ same => congrArg EventHash.previous same) chained

theorem countAuditEvents_eq (chained : Chained log) : countAuditEvents query log =
      query.consumed log + (query.reservedPackets log \ query.consumedPackets log).card := by
  unfold countAuditEvents
  rw [foldl_take]
  have distinct : ((log.filter fun event => query.consumes event.toEvent).map
      AuditEvent.eventHash).Nodup :=
    chained.nodup.sublist (filter_sublist.map _)
  have counted : (query.consumedEvents log).card = query.consumed log := by
    unfold Query.consumedEvents Query.consumed
    rw [toFinset_card_of_nodup distinct, length_map, countP_eq_length_filter]
  simp only [Finset.empty_union, counted]

/-- The event at the end of the log once `event` is recorded. -/
def recorded (event : Event) (log : List AuditEvent) : AuditEvent :=
  { sanitizeAuditEvent event with
    eventHash := artifactHash (log.getLast?.map AuditEvent.eventHash) (sanitizeAuditEvent event) }

theorem recordAuditEvent_eq (event : Event) (log : List AuditEvent) :
    recordAuditEvent event log = log ++ [recorded event log] := rfl

theorem consumed_record (query : Query) (event : Event) (log : List AuditEvent) :
    query.consumed (recordAuditEvent event log) =
      query.consumed log + if query.consumes (sanitizeAuditEvent event) then 1 else 0 := by
  unfold Query.consumed
  rw [recordAuditEvent_eq, countP_append, countP_singleton]
  rfl

/-- An event that neither reserves nor consumes leaves the count alone. -/
theorem countAuditEvents_record_of_blind (chained : Chained log) {event : Event}
    (idle : query.concerns (sanitizeAuditEvent event) = false ∨
      (event.isReserved = false ∧ isPreSubmissionBrowserFailure (sanitizeAuditEvent event) = true)) :
    countAuditEvents query (recordAuditEvent event log) = countAuditEvents query log := by
  have unreserved : query.reserves (recorded event log) = false := by
    change (query.concerns (sanitizeAuditEvent event) && event.isReserved && _) = false
    rcases idle with apart | ⟨plain, _⟩
    · rw [apart]; rfl
    · rw [plain, Bool.and_false, Bool.false_and]
  have unconsumed : query.consumes (sanitizeAuditEvent event) = false := by
    unfold Query.consumes
    rcases idle with apart | ⟨_, failed⟩
    · rw [apart]; rfl
    · rw [failed, Bool.not_true, Bool.and_false]
  have packetless : query.consumesPacket (recorded event log) = false := by
    change (query.consumes (sanitizeAuditEvent event) && _) = false
    rw [unconsumed]; rfl
  rw [countAuditEvents_eq (chained.record event), countAuditEvents_eq chained, consumed_record,
    unconsumed, recordAuditEvent_eq, reservedPackets_append, consumedPackets_append]
  simp [Query.reservedPackets, Query.consumedPackets, unreserved, packetless]

/-- The first event that consumes a reserved packet takes over its place in the count. -/
theorem countAuditEvents_record_of_first (chained : Chained log) {event : Event}
    (consumes : query.consumes (sanitizeAuditEvent event) = true)
    (about : (given (sanitizeAuditEvent event).packetSha256).isSome = true)
    (reserved : (recorded event log).labels ∈ query.reservedPackets log)
    (first : (recorded event log).labels ∉ query.consumedPackets log) :
    countAuditEvents query (recordAuditEvent event log) = countAuditEvents query log := by
  have consumption : query.consumesPacket (recorded event log) = true := by
    change (query.consumes (sanitizeAuditEvent event) && _) = true
    rw [consumes]
    exact about
  have unreserved : query.reserves (recorded event log) = false := by
    unfold Query.consumes at consumes
    simp only [Bool.and_eq_true, Bool.not_eq_true'] at consumes
    change (_ && (sanitizeAuditEvent event).isReserved && _) = false
    rw [consumes.1.2, Bool.and_false, Bool.false_and]
  have here : (recorded event log).labels ∈
      query.reservedPackets log \ query.consumedPackets log := Finset.mem_sdiff.mpr ⟨reserved, first⟩
  have taken : query.consumedPackets [recorded event log] = {(recorded event log).labels} := by
    simp [Query.consumedPackets, consumption]
  have none' : query.reservedPackets [recorded event log] = ∅ := by
    simp [Query.reservedPackets, unreserved]
  have smaller : query.reservedPackets log \
      (query.consumedPackets log ∪ {(recorded event log).labels}) =
      (query.reservedPackets log \ query.consumedPackets log).erase (recorded event log).labels := by
    rw [Finset.union_comm, ← Finset.insert_eq, Finset.sdiff_insert]
  have positive := Finset.card_pos.mpr ⟨_, here⟩
  rw [countAuditEvents_eq (chained.record event), countAuditEvents_eq chained, consumed_record,
    if_pos consumes, recordAuditEvent_eq, reservedPackets_append, consumedPackets_append, taken, none',
    Finset.union_empty, smaller, Finset.card_erase_of_mem here]
  omega

end WorkOrchestration.Audit.Quota
