import WorkOrchestration.Audit.Chain
import WorkOrchestration.Native.LiveLedgerIndex

/-!
# Appending to the live ledger

`_append` checks one entry against an overlay of its trusted index, records the audit
event of the entry, writes the ledger and commits the overlay.  A full validation of
the ledger that it writes accepts it exactly when that one check does.
-/

namespace WorkOrchestration.Native.LiveLedger

open Lib.Checks Lib.HashChain Lib.Text Audit Artifacts
open Artifacts.Json (equalsNat hashable isOneOf)
open ActivationLedger (isHexDigit isSha256 isUuidText uuid?)
open Json (int nat)

/-- The fields that a caller of `_append` sets; the others are `None`. -/
structure Fields where
  event : Json := .null
  role : Json := .null
  ordinal : Json := .null
  allocationIntentId : Json := .null
  threadId : Json := .null
  turnIntentId : Json := .null
  turnId : Json := .null
  evidenceSha256 : Json := .null
  outcome : Json := .null

def Fields.unsigned (fields : Fields) (sequence : Nat) (head : Json) : Json :=
  .obj [("sequence", nat sequence), ("event", fields.event), ("role", fields.role),
    ("ordinal", fields.ordinal), ("allocation_intent_id", fields.allocationIntentId),
    ("thread_id", fields.threadId), ("turn_intent_id", fields.turnIntentId),
    ("turn_id", fields.turnId), ("evidence_sha256", fields.evidenceSha256),
    ("outcome", fields.outcome), ("previous_entry_sha256", head), ("audit_event_hash", .null)]

/-- The entry with its hash and the hash of its audit event, `None` before that is known. -/
def Fields.entry (fields : Fields) (sequence : Nat) (head entrySha256 auditHash : Json) : Json :=
  ((fields.unsigned sequence head).set "entry_sha256" entrySha256).set "audit_event_hash" auditHash

section

variable (fields : Fields) (sequence : Nat) (head entrySha256 auditHash : Json)

theorem hasExactly_entry :
    (fields.entry sequence head entrySha256 auditHash).hasExactly entryFields = true := rfl

theorem isDict_unsigned : (fields.unsigned sequence head).isDict = true := rfl

theorem unanchored_entry : unanchored (fields.entry sequence head entrySha256 auditHash) =
      unanchored ((fields.unsigned sequence head).set "entry_sha256" entrySha256) :=
  unanchored_set (Json.isDict_set (isDict_unsigned fields sequence head) _ _) _

end

def auditEvent (ledger entry : Json) (sequence : Nat) : Event where
  fields :=
    [("event_type", .str "native_live_allocation_ledger_entry"),
      ("bead_id", (ledger.value "bindings").value "bead_id"),
      ("dispatch_id", ledger.value "ledger_id"),
      ("packet_sha256", entry.value "entry_sha256"),
      ("phase", entry.value "event"),
      ("role", if (entry.value "role").truthy then entry.value "role" else .str "ledger"),
      ("completion_state", entry.value "outcome"),
      ("validation_lineage_attempt", nat sequence),
      ("telemetry_target_event_hash", entry.value "previous_entry_sha256")]
  distinct := by
    simp only [List.map_cons, List.map_nil]
    decide

/-- The check that an append makes before it writes: the errors, the entry and the overlay. -/
def checkAppend (spell : Json → String) (ledgerId : Json) (count : Nat) (head : Json)
    (base : SemanticIndex) (fields : Fields) :
    Except PyError (List String × Json × SemanticCandidate) := do
  let sequence := count + 1
  let unsigned := fields.unsigned sequence head
  let entry := unsigned.set "entry_sha256" (← entrySha256 unsigned)
  let check : AuditCheck := ⟨ledgerId, none, false, false⟩
  let (errors, next, candidate) ← validateEntryTransition spell check sequence head base.clone entry
  return (errors ++
    reject (1 < candidate.view.certificationCount) "ledger-certification-binding-duplicate" ++
    reject (next ≠ entry.value "entry_sha256") "ledger-head-mismatch", entry, candidate)

/-- The ledger with one more entry. -/
def extend (ledger entry : Json) (sequence : Nat) : Except PyError Json := do
  let entries := (ledger.value "entries").elements?.getD []
  let updated := ((ledger.set "sequence" (nat sequence)).set "entries"
    (.arr (entries ++ [entry]))).set "head_entry_sha256" (entry.value "entry_sha256")
  return updated.set "state_sha256" (← stateSha256 updated)

/-- What can raise in the check of an entry, and the hash that the entry should have. -/
def entryGate (entry : Json) : Except PyError Json := do
  hashable (entry.value "event")
  let expected ← entrySha256 entry
  outcomeHashable entry
  return expected

variable {spell : Json → String}

theorem validateEntryTransition_eq {σ : Type} [LedgerIndex σ]
    {check : AuditCheck} {number : Nat} {previous : Json} {index : σ} {entry : Json}
    (exact : entry.hasExactly entryFields = true) :
    validateEntryTransition spell check number previous index entry =
      (entryGate entry).map fun expected =>
        let asked := effect spell (LedgerIndex.view index) number entry
        (chainErrors number previous expected entry ++ auditErrors check number entry ++ asked.errors,
          if isSha256 (entry.value "entry_sha256") then entry.value "entry_sha256" else .null,
          asked.updates.foldl LedgerIndex.update index) := by
  unfold validateEntryTransition entryGate
  rw [exact]
  cases hashable (entry.value "event") with
  | error error => rfl
  | ok event =>
    cases entrySha256 entry with
    | error error => rfl
    | ok expected =>
      cases outcomeHashable entry with
      | error | ok => rfl

theorem entryGate_congr {first second : Json} (same : unanchored first = unanchored second)
    (body : entrySha256 first = entrySha256 second) : entryGate first = entryGate second := by
  have value : ∀ field, field ≠ "audit_event_hash" → first.value field = second.value field := by
    intro field other
    rw [← value_unanchored other, same, value_unanchored other]
  unfold entryGate outcomeHashable
  rw [value "event" (by decide), body, value "outcome" (by decide), ← roleOrdinalValid_unanchored,
    same, roleOrdinalValid_unanchored]

section

variable {spell : Json → String} {ledgerId : Json} {audits : List Json} {verify : Bool}

theorem validateEntries_append (front back : List Json) (number : Nat) (previous : Json)
    (index : SemanticIndex) :
    validateEntries spell ledgerId audits verify number previous index (front ++ back) = (do
      let (errors, head, after) ← validateEntries spell ledgerId audits verify number previous index
        front
      let (later, final, last) ← validateEntries spell ledgerId audits verify
        (number + front.length) head after back
      return (errors ++ later, final, last)) := by
  induction front generalizing number previous index with
  | nil =>
    rw [List.nil_append, List.length_nil]
    change _ = (validateEntries spell ledgerId audits verify number previous index back >>= _)
    cases validateEntries spell ledgerId audits verify number previous index back with
    | error | ok => rfl
  | cons entry rest ih =>
    rw [List.cons_append, validateEntries, validateEntries]
    cases validateEntryTransition spell ⟨ledgerId, audits[number - 1]?, true, verify⟩ number
        previous index entry with
    | error error => rfl
    | ok result =>
      obtain ⟨errors, next, after⟩ := result
      have numbers : number + (entry :: rest).length = number + 1 + rest.length := by
        rw [List.length_cons]
        omega
      change (validateEntries _ _ _ _ _ _ _ _ >>= _) = _
      rw [ih, numbers]
      change _ = ((validateEntries _ _ _ _ _ _ _ _ >>= _) >>= _)
      cases validateEntries spell ledgerId audits verify (number + 1) next after rest with
      | error error => rfl
      | ok result =>
        obtain ⟨middle, head, final⟩ := result
        change ((validateEntries _ _ _ _ _ _ _ _ >>= _) >>= _) =
          (validateEntries _ _ _ _ _ _ _ _ >>= _)
        cases validateEntries spell ledgerId audits verify (number + 1 + rest.length) head final
            back with
        | error error => rfl
        | ok result =>
          simp [List.append_assoc]

theorem validateEntries_audits (more entries : List Json) {number : Nat} {previous : Json}
    {index : SemanticIndex} (started : 1 ≤ number)
    (covered : number - 1 + entries.length ≤ audits.length) :
    validateEntries spell ledgerId (audits ++ more) verify number previous index entries =
      validateEntries spell ledgerId audits verify number previous index entries := by
  induction entries generalizing number previous index with
  | nil => rfl
  | cons entry rest ih =>
    rw [List.length_cons] at covered
    have own : (audits ++ more)[number - 1]? = audits[number - 1]? :=
      List.getElem?_append_left (by omega)
    rw [validateEntries, validateEntries, own]
    cases validateEntryTransition spell ⟨ledgerId, audits[number - 1]?, true, verify⟩ number
        previous index entry with
    | error error => rfl
    | ok result =>
      change (validateEntries _ _ _ _ _ _ _ _ >>= _) = (validateEntries _ _ _ _ _ _ _ _ >>= _)
      rw [ih (by omega) (by omega)]

end

/-- The conditions under which a full validation reports no error. -/
structure Accepted (spell : Json → String) (ledger : Json) (lines : List Line)
    (entries audits : List Json) (index : SemanticIndex) : Prop where
  fields : ledger.hasExactly ledgerFields = true
  hashableVersion : hashable (ledger.value "version") = .ok ()
  version : headerVersion ledger ≠ .unknown
  ledgerId : (uuid? (ledger.value "ledger_id")).isSome = true
  bindings : validateBindings (headerVersion ledger) (ledger.value "bindings") = []
  entries_eq : (ledger.value "entries").elements? = some entries
  sequence : ledger.value "sequence" = nat entries.length
  audits_eq : readAuditChain none lines = .ok (some audits)
  auditCount : audits.length = entries.length
  head : validateEntries spell (ledger.value "ledger_id") audits true 1 .null ⟨.empty⟩ entries =
    .ok ([], ledger.value "head_entry_sha256", index)
  certification : index.view.certificationCount ≤ 1
  state : stateSha256 ledger = .ok (ledger.value "state_sha256")

theorem sequenceCount?_eq_some {sequence : Json} {count : Nat} :
    sequenceCount? sequence = some count ↔ sequence = nat count := by
  cases sequence with
  | int value =>
    change (if 0 ≤ value then some value.toNat else none) = some count ↔
      int value = int count
    by_cases negative : 0 ≤ value
    · rw [if_pos negative]
      simp only [Option.some.injEq, int.injEq]
      omega
    · rw [if_neg negative]
      simp only [reduceCtorEq, int.injEq, false_iff]
      omega
  | _ => simp [sequenceCount?, nat]

variable {lines : List Line} {audits : List Json}

theorem loadAuditEvents_ok : loadAuditEvents (some ⟨lines, true⟩) = .ok (audits, []) ↔
      readAuditChain none lines = .ok (some audits) := by
  unfold loadAuditEvents
  simp only [Bool.true_eq_false, and_false]
  cases readAuditChain none lines with
  | error error =>
    constructor
    · intro loaded
      cases loaded
    · intro loaded
      cases loaded
  | ok chain =>
    cases chain with
    | none =>
      constructor
      · intro loaded
        cases loaded
      · intro loaded
        cases loaded
    | some events =>
      constructor
      · intro loaded
        cases loaded
        rfl
      · intro loaded
        cases loaded
        rfl

theorem accepted_of_validate {ledger : Json} {validated : Validated}
    (checked : validateWithIndex spell ledger (some ⟨lines, true⟩) = .ok validated)
    (clean : validated.errors = []) :
    ∃ entries audits, Accepted spell ledger lines entries audits validated.index := by
  unfold validateWithIndex at checked
  by_cases fields : ledger.hasExactly ledgerFields = true
  · rw [fields] at checked
    obtain ⟨_, hashableVersion, checked⟩ := bind_ok checked
    obtain ⟨⟨audits, auditErrors⟩, loaded, checked⟩ := bind_ok checked
    obtain ⟨⟨entryErrors, head, index⟩, walked, checked⟩ := bind_ok checked
    obtain ⟨expectedState, state, checked⟩ := bind_ok checked
    cases checked
    have none := sortedSet_eq_nil.mp clean
    simp only [ledgerErrors, List.append_eq_nil_iff, reject_eq_nil, not_not, ne_eq, not_lt,
      Option.map_some, Option.any_some, decide_eq_true_eq, Bool.not_eq_false] at none
    obtain ⟨⟨⟨⟨⟨⟨⟨⟨⟨⟨⟨version, ledgerId⟩, bindings⟩, _⟩, entriesEq⟩, counted⟩, noAudit⟩, audited⟩,
      noEntry⟩, certification⟩, headEq⟩, stateEq⟩ := none
    obtain ⟨entries, found⟩ := Option.ne_none_iff_exists'.mp entriesEq
    rw [found] at walked counted audited
    subst noAudit noEntry
    refine ⟨entries, audits, fields, hashableVersion, version, ledgerId, bindings, found, ?_, ?_,
      audited, ?_, certification, ?_⟩
    · exact sequenceCount?_eq_some.mp counted
    · exact loadAuditEvents_ok.mp loaded
    · rw [headEq]
      exact walked
    · rw [stateEq]
      exact state
  · rw [Bool.not_eq_true] at fields
    rw [fields] at checked
    cases checked
    cases clean

theorem Accepted.validate {ledger : Json} {entries : List Json}
    {index : SemanticIndex} (accepted : Accepted spell ledger lines entries audits index) :
    validateWithIndex spell ledger (some ⟨lines, true⟩) = .ok ⟨[], index, audits, entries.length⟩ := by
  have clean : ledgerErrors ledger (some audits) [] [] (ledger.value "head_entry_sha256")
      (ledger.value "state_sha256") index = [] := by
    simp only [ledgerErrors, List.append_eq_nil_iff, reject_eq_nil, not_not, ne_eq, not_lt,
      Option.any_some, decide_eq_true_eq, Bool.not_eq_false, accepted.entries_eq, accepted.bindings,
      accepted.auditCount, accepted.certification, accepted.version, accepted.ledgerId,
      sequenceCount?_eq_some.mpr accepted.sequence]
    simp
  unfold validateWithIndex
  rw [accepted.fields, accepted.hashableVersion, loadAuditEvents_ok.mpr accepted.audits_eq]
  rw [accepted.entries_eq]
  change (validateEntries _ _ _ true _ _ _ entries >>= _) = _
  rw [accepted.head]
  rw [accepted.state]
  change Except.ok _ = _
  rw [Option.map_some, clean, sortedSet_eq_nil.mpr rfl]
  rfl

def auditHead (previous : Option Json) (audits : List Json) : Option Json :=
  head (fun event : Json => event.value "event_hash") previous audits

variable {previous : Option Json}

section

variable (read : readAuditChain previous lines = .ok (some audits))

include read

theorem readAuditChain_concat {event : Json} (isObject : event.isObject = true)
    (hashed : Hashed event)
    (linked : event.value "previous_event_hash" = (auditHead previous audits).getD .null) :
    readAuditChain previous (lines ++ [.document event]) = .ok (some (audits ++ [event])) := by
  induction lines generalizing previous audits with
  | nil =>
    cases read
    have links : (event.value "previous_event_hash" == previous.getD .null) = true :=
      beq_iff_eq.mpr linked
    have own : (event.value "event_hash" == auditEventPayloadHash event) = true :=
      beq_iff_eq.mpr hashed
    rw [List.nil_append, readAuditChain]
    simp only [isObject, own, links]
    rfl
  | cons line rest ih =>
    cases line with
    | blank => exact ih read linked
    | malformed reason => cases read
    | refused error =>
      unfold readAuditChain at read
      split at read <;> cases read
    | document first =>
      rw [List.cons_append]
      unfold readAuditChain at read ⊢
      dsimp only at read ⊢
      split at read
      · rename_i valid
        rw [if_pos valid]
        obtain ⟨later, readLater, done⟩ := bind_ok read
        cases later with
        | none => cases done
        | some later =>
          cases done
          have chained := ih readLater (by
            rw [linked]
            unfold auditHead
            rw [head_cons])
          rw [chained]
          rfl
      · cases read

theorem iterAuditEvents_of_chain (auditFile : String) (number : Nat) :
    iterAuditEvents auditFile number lines = .ok audits := by
  induction lines generalizing previous audits number with
  | nil =>
    cases read
    rfl
  | cons line rest ih =>
    cases line with
    | blank => exact ih read _
    | malformed reason => cases read
    | refused error =>
      unfold readAuditChain at read
      split at read <;> cases read
    | document first =>
      unfold readAuditChain at read
      dsimp only at read
      split at read
      · rename_i valid
        obtain ⟨later, readLater, done⟩ := bind_ok read
        cases later with
        | none => cases done
        | some later =>
          cases done
          simp only [Bool.and_eq_true] at valid
          rw [iterAuditEvents, if_pos valid.1.1, ih readLater]
          rfl
      · cases read

theorem hashed_of_chain : ∀ event ∈ audits, Hashed event := by
  induction lines generalizing previous audits with
  | nil =>
    cases read
    simp
  | cons line rest ih =>
    cases line with
    | blank => exact ih read
    | malformed reason => cases read
    | refused error =>
      unfold readAuditChain at read
      split at read <;> cases read
    | document first =>
      unfold readAuditChain at read
      dsimp only at read
      split at read
      · rename_i valid
        obtain ⟨later, readLater, done⟩ := bind_ok read
        cases later with
        | none => cases done
        | some later =>
          cases done
          simp only [Bool.and_eq_true, beq_iff_eq] at valid
          intro event member
          rcases List.mem_cons.mp member with rfl | deeper
          · exact valid.1.2
          · exact ih readLater event deeper
      · cases read

end

theorem get?_auditEvent_absent (ledger entry : Json) (sequence : Nat) :
    (auditEvent ledger entry sequence).get? "previous_event_hash" = none := rfl

/-- What the recorder appends for an entry continues the audit chain. -/
theorem readAuditChain_recorded {spell : Json → Except PyError String} {auditFile : String}
    {ledger entry enriched : Json} {sequence : Nat} {timestamp : String} {platform : Platform}
    {after : List Line} (read : readAuditChain none lines = .ok (some audits))
    (recorded : recordAuditEvent spell auditFile
      ⟨auditEvent ledger entry sequence, timestamp, platform⟩ lines = .ok (enriched, after)) :
    ∃ sanitized mode, sanitizeAuditEvent spell (auditEvent ledger entry sequence) = .ok sanitized ∧
      let event := written (enrich mode timestamp (previousEventHash audits) sanitized)
      enriched.value "event_hash" = event.value "event_hash" ∧ Hashed event ∧
        readAuditChain none after = .ok (some (audits ++ [event])) := by
  obtain ⟨mode, prior, sanitized, _, iterated, kept, payload, shape, _, enrichedEq, afterEq⟩ :=
    recordAuditEvent_ok recorded
  have same : prior = audits := by
    rw [iterAuditEvents_of_chain read] at iterated
    exact (Except.ok.inj iterated).symm
  subst same
  refine ⟨sanitized, mode, kept, ?_⟩
  rw [← shape]
  have unhashed : payload.get? "event_hash" = none := by
    rw [shape]
    exact get?_event_hash_enrich _ _ _ _
  have hashed : Hashed (written payload) := by
    apply hashed_written _ unhashed
    rw [shape]
    exact isDict_enrich (isDict_sanitizeAuditEvent kept)
  refine ⟨?_, hashed, ?_⟩
  · rw [value_event_hash_written, enrichedEq, Json.value, Json.get?_set, if_pos rfl]
    rfl
  · have unnamed : sanitized.get? "previous_event_hash" = none := by
      have field := @get?_sanitizeAuditEvent _ _ _ "previous_event_hash" kept (by decide)
      rw [get?_auditEvent_absent] at field
      exact (Except.ok.inj field).symm
    have link : (written payload).value "previous_event_hash" = (auditHead none prior).getD .null := by
      have field : (written payload).get? "previous_event_hash" =
          (payload.get? "previous_event_hash").map Json.canonical := by
        unfold written
        rw [Json.get?_canonical, Json.get?_set, if_neg (by decide)]
      unfold Json.value
      rw [field, shape, get?_enrich, unnamed]
      unfold auditHead head previousEventHash
      cases last : prior.getLast? with
      | none => rfl
      | some event =>
        have own : event.value "event_hash" = auditEventPayloadHash event :=
          hashed_of_chain read event (List.mem_of_getLast? last)
        simp only [own]
        rfl
    rw [afterEq, enrichedEq]
    exact readAuditChain_concat read (isObject_written payload) hashed link

theorem solid_of_isUuidText {text : String} (uuid : isUuidText text = true) :
    (∀ character ∈ text.toList, isSpace character = false) ∧ text ≠ "" ∧ text.length ≤ 240 := by
  simp only [isUuidText, Bool.and_eq_true, beq_iff_eq] at uuid
  obtain ⟨length, digits⟩ := uuid
  refine ⟨?_, ?_, by omega⟩
  · intro character member
    obtain ⟨index, found⟩ := List.getElem?_of_mem member
    have digit := List.all_eq_true.mp digits (character, index)
      (List.mem_zipIdx_iff_getElem?.mpr found)
    split at digit
    · have hyphen : character = '-' := by simpa using digit
      subst hyphen
      decide
    · simp only [isHexDigit, Bool.or_eq_true, Bool.and_eq_true, decide_eq_true_eq] at digit
      have bounds : 48 ≤ character.toNat ∧ character.toNat ≤ 57 ∨
          97 ≤ character.toNat ∧ character.toNat ≤ 102 := by
        rcases digit with ⟨low, high⟩ | ⟨low, high⟩
        · exact .inl ⟨low, high⟩
        · exact .inr ⟨low, high⟩
      unfold isSpace
      simp only [Bool.or_eq_false_iff, Bool.and_eq_false_iff, decide_eq_false_iff_not,
        beq_eq_false_iff_ne]
      omega
  · rintro rfl
    simp at length

theorem uuid?_eq_some {value : Json} {text : String} (spelled : uuid? value = some text) :
    value = .str text ∧ isUuidText text = true := by
  cases value with
  | str other =>
    unfold uuid? at spelled
    dsimp only at spelled
    split at spelled
    · rename_i uuid
      cases spelled
      exact ⟨rfl, uuid⟩
    · cases spelled
  | _ => cases spelled

theorem isOneOf_eq_true {texts : List String} {value : Json} (member : isOneOf texts value = true) :
    ∃ text ∈ texts, value = .str text := by
  cases value with
  | str text => exact ⟨text, by simpa [isOneOf] using member, rfl⟩
  | _ => cases member

theorem isSha256_eq_true {value : Json} (digest : isSha256 value = true) :
    ∃ preimage, value = .sha256 preimage := by
  cases value with
  | sha256 preimage => exact ⟨preimage, rfl⟩
  | _ => cases digest

variable {spell : Json → Except PyError String} {ledger entry sanitized : Json} {sequence : Nat}

theorem value_recorded {key : String} {value : Json}
    (kept : sanitizeAuditEvent spell (auditEvent ledger entry sequence) = .ok sanitized)
    (mode timestamp : String) (previousHash : Json)
    (plain : key ∉ ["timestamp", "audit_lock_mode", "previous_event_hash", "event_hash"])
    (other : key ≠ "total_tokens")
    (given : (auditEvent ledger entry sequence).get? key = some value)
    (left : sanitizeField spell key value = .ok (some value)) (flat : value.canonical = value) :
    (written (enrich mode timestamp previousHash sanitized)).value key = value := by
  have field := get?_sanitizeAuditEvent kept other
  rw [given] at field
  dsimp only at field
  rw [left] at field
  unfold Json.value
  rw [get?_written_enrich _ _ _ _ plain, ← Except.ok.inj field]
  exact flat

theorem solid_of_mem_events {event : String} (member : event ∈ events) :
    (∀ character ∈ event.toList, isSpace character = false) ∧ event ≠ "" ∧ event.length ≤ 240 := by
  have all : ∀ name ∈ events, name.toList.all (!isSpace ·) = true ∧ name ≠ "" ∧
      name.length ≤ 240 := by decide +kernel
  exact ⟨solid_of_all (all event member).1, (all event member).2⟩

theorem auditAnchorMatches_recorded
    (kept : sanitizeAuditEvent spell (auditEvent ledger entry sequence) = .ok sanitized)
    (mode timestamp : String) (previousHash : Json)
    (ledgerId : (uuid? (ledger.value "ledger_id")).isSome = true)
    (event : isOneOf events (entry.value "event") = true)
    (digest : isSha256 (entry.value "entry_sha256") = true) {anchored : Json}
    (same : unanchored anchored = unanchored entry)
    (anchor : anchored.value "audit_event_hash" =
      (written (enrich mode timestamp previousHash sanitized)).value "event_hash") :
    auditAnchorMatches (some (written (enrich mode timestamp previousHash sanitized))) anchored
      (ledger.value "ledger_id") sequence = true := by
  have value : ∀ field, field ≠ "audit_event_hash" → anchored.value field = entry.value field := by
    intro field other
    rw [← value_unanchored other, same, value_unanchored other]
  obtain ⟨uuid, spelled⟩ := Option.isSome_iff_exists.mp ledgerId
  obtain ⟨identity, isUuid⟩ := uuid?_eq_some spelled
  obtain ⟨name, member, named⟩ := isOneOf_eq_true event
  obtain ⟨preimage, hashed⟩ := isSha256_eq_true digest
  have field (key : String) {value : Json} := @value_recorded spell ledger entry sanitized sequence
    key value kept mode timestamp previousHash
  have eventType := field "event_type" (by decide) (by decide) rfl (by
    rw [sanitizeField_auditString _ _ (by decide +kernel) (by decide +kernel)]
    exact normalizeShortText_of_solid spell (solid_of_all (by decide)) (by decide) (by decide)) rfl
  have dispatch := field "dispatch_id" (by decide) (by decide) rfl (by
    rw [sanitizeField_auditString _ _ (by decide +kernel) (by decide +kernel), identity]
    obtain ⟨solid, nonempty, short⟩ := solid_of_isUuidText isUuid
    exact normalizeShortText_of_solid spell solid nonempty short) (by rw [identity]; rfl)
  have packet := field "packet_sha256" (by decide) (by decide) rfl (by
    rw [sanitizeField_auditString _ _ (by decide +kernel) (by decide +kernel), hashed]
    rfl) (by rw [hashed]; rfl)
  have phase := field "phase" (by decide) (by decide) rfl (by
    rw [named]
    obtain ⟨solid, nonempty, short⟩ := solid_of_mem_events member
    exact normalizeShortText_of_solid spell solid nonempty short) (by rw [named]; rfl)
  have attempt := field "validation_lineage_attempt" (by decide) (by decide) rfl (by
    change Except.ok (normalizeNonnegativeNumber (int sequence)) = _
    simp [normalizeNonnegativeNumber, nat]) rfl
  unfold auditAnchorMatches
  simp only [eventType, dispatch, packet, phase, attempt, anchor, value "event" (by decide),
    value "entry_sha256" (by decide), nat, equalsNat, beq_self_eq_true, Bool.and_self]

end WorkOrchestration.Native.LiveLedger
