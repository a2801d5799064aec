import WorkOrchestration.Audit.Sanitizer
import WorkOrchestration.Lib.Checks

/-!
# The audit log

The file to which `record_audit_event` appends one line for each event and the
verification that walks over it.  A line is what the JSON reader makes of it.
-/

namespace WorkOrchestration.Audit

open Lib.Checks Native.Artifacts
open Native.Artifacts.Json (isOneOf)

/-- What `json.dumps` raises for a value, if it refuses it. -/
def unwritable? : Json → Option PyError
  | .int value => if Json.digitLimit ≤ value.natAbs then some digitsError else none
  | .item head tail => (unwritable? head).orElse fun _ => unwritable? tail
  | .field _ value rest => (unwritable? value).orElse fun _ => unwritable? rest
  | .bytes _ => some ⟨.type, "TypeError", "Object of type bytes is not JSON serializable"⟩
  | .foreign typeName =>
    some ⟨.type, "TypeError", "Object of type " ++ typeName ++ " is not JSON serializable"⟩
  | _ => none

/-- `json.dumps` writes the value. -/
def Writable (value : Json) : Prop := unwritable? value = none

instance (value : Json) : Decidable (Writable value) :=
  inferInstanceAs (Decidable (unwritable? value = none))

@[simp]
theorem writable_item {head tail : Json} :
    Writable (.item head tail) ↔ Writable head ∧ Writable tail := by
  simp [Writable, unwritable?]

@[simp]
theorem writable_field {key : String} {value rest : Json} :
    Writable (.field key value rest) ↔ Writable value ∧ Writable rest := by
  simp [Writable, unwritable?]

@[simp]
theorem writable_str (text : String) : Writable (.str text) := rfl

@[simp]
theorem writable_sha256 (preimage : Json) : Writable (.sha256 preimage) := rfl

@[simp]
theorem writable_objEnd : Writable .objEnd := rfl

theorem writable_insertField {key : String} {value document : Json} :
    Writable (Json.insertField key value document) ↔ Writable value ∧ Writable document := by
  induction document with
  | field name old rest _ ih =>
    unfold Json.insertField
    split
    · simp
    · rw [writable_field, writable_field]
      tauto
  | _ => simp [Json.insertField]

@[simp]
theorem writable_canonical {value : Json} : Writable value.canonical ↔ Writable value := by
  induction value with
  | item head tail ihHead ihTail => rw [Json.canonical, writable_item, writable_item, ihHead, ihTail]
  | field key value rest ihValue ihRest =>
    rw [Json.canonical, writable_insertField, writable_field, ihValue, ihRest]
  | _ => rfl

variable {document : Json}

section

variable (writable : Writable document)

include writable

theorem Writable.set (key : String) {value : Json}
    (added : Writable value) : Writable (document.set key value) := by
  induction document with
  | field name old rest _ ih =>
    obtain ⟨first, later⟩ := writable_field.mp writable
    unfold Json.set
    split
    · exact writable_field.mpr ⟨added, later⟩
    · exact writable_field.mpr ⟨first, ih later⟩
  | _ => exact writable_field.mpr ⟨added, rfl⟩

theorem Writable.setDefault (key : String) {value : Json}
    (added : Writable value) : Writable (document.setDefault key value) := by
  unfold Json.setDefault
  split
  · exact writable
  · exact writable.set key added

theorem Writable.of_get? {key : String} {value : Json}
    (found : document.get? key = some value) : Writable value := by
  induction document with
  | field name old rest _ ih =>
    obtain ⟨first, later⟩ := writable_field.mp writable
    unfold Json.get? at found
    split at found
    · cases found
      exact first
    · exact ih later found
  | _ => cases found

theorem Writable.erase (key : String) :
    Writable (document.erase key) := by
  induction document with
  | field name old rest _ ih =>
    obtain ⟨first, later⟩ := writable_field.mp writable
    unfold Json.erase
    split
    · exact ih later
    · exact writable_field.mpr ⟨first, ih later⟩
  | _ => exact writable

omit writable in
theorem writable_arr {items : List Json} :
    Writable (.arr items) ↔ ∀ item ∈ items, Writable item := by
  induction items with
  | nil =>
    constructor
    · intro _ item member
      cases member
    · intro _
      rfl
  | cons item rest ih =>
    change Writable (.item item (.arr rest)) ↔ _
    rw [writable_item, ih, List.forall_mem_cons]

theorem writable_elements {items : List Json}
    (found : document.elements? = some items) : ∀ item ∈ items, Writable item := by
  induction document generalizing items with
  | arrEnd =>
    cases found
    simp
  | item first rest _ ih =>
    obtain ⟨here, later⟩ := writable_item.mp writable
    obtain ⟨others, foundLater, rfl⟩ := Option.map_eq_some_iff.mp found
    exact List.forall_mem_cons.mpr ⟨here, ih later foundLater⟩
  | _ => cases found

end

/-- A default makes a dictionary neither more nor less writable. -/
theorem writable_setDefault (dictionary : document.isDict = true) (key : String) {value : Json}
    (added : Writable value) :
    Writable (document.setDefault key value) ↔ Writable document := by
  constructor
  · intro whole
    unfold Json.setDefault at whole
    cases present : document.get? key with
    | some old =>
      rw [present] at whole
      exact whole
    | none =>
      rw [present] at whole
      induction document with
      | field name old rest _ ih =>
        have other : name ≠ key := by
          rintro rfl
          simp [Json.get?] at present
        have absent : rest.get? key = none := by simpa [Json.get?, other] using present
        rw [Json.set, if_neg other, writable_field] at whole
        exact writable_field.mpr ⟨whole.1, ih dictionary whole.2 absent⟩
      | objEnd => rfl
      | _ => cases dictionary
  · intro writable
    exact writable.setDefault key added

/-- `json.dumps(value, sort_keys=True)`, as the document that the text spells. -/
def dumps (value : Json) : Except PyError Json :=
  match unwritable? value.canonical with
  | some error => .error error
  | none => .ok value.canonical

theorem dumps_ok
    {value text : Json} : dumps value = .ok text ↔ Writable value ∧ text = value.canonical := by
  have same := @writable_canonical value
  unfold Writable at same
  unfold dumps Writable
  rw [← same]
  cases unwritable? value.canonical with
  | none => simp [eq_comm]
  | some error => simp

/--
A line of the file: blank, text that is no JSON and why, text on which the reader
fails with another exception, or a document.
-/
inductive Line where
  | blank
  | malformed (reason : String)
  | refused (error : PyError)
  | document (value : Json)

def systemExit (message : String) : PyError := ⟨.base, "SystemExit", message⟩

/-- `iter_audit_events` in its strict mode. -/
def iterAuditEvents (auditFile : String) : Nat → List Line → Except PyError (List Json)
  | _, [] => .ok []
  | number, .blank :: rest => iterAuditEvents auditFile (number + 1) rest
  | number, .malformed reason :: _ =>
    .error (systemExit
      (auditFile ++ ": line " ++ toString number ++ ": invalid audit JSON: " ++ reason))
  | _, .refused error :: _ => .error error
  | number, .document value :: rest =>
    if value.isObject then (iterAuditEvents auditFile (number + 1) rest).map (value :: ·)
    else
      .error (systemExit
        (auditFile ++ ": line " ++ toString number ++ ": audit event is not an object"))

/-- Whether the platform can lock files and whether the process insists on it. -/
structure Platform where
  fcntl : Bool
  requireLock : Bool

/-- `acquire_audit_lock`: the mode under which the lock is held. -/
def acquireAuditLock (platform : Platform) : Except PyError String :=
  if platform.fcntl then .ok "posix-flock"
  else if platform.requireLock then
    .error (systemExit
      "audit locking is unavailable on this platform and CWO_AUDIT_REQUIRE_LOCK is set")
  else .ok "unsupported"

/-- One call of `record_audit_event` and the time at which it is made. -/
structure Call where
  event : Event
  timestamp : String
  platform : Platform

/-- The event without its own hash. -/
def enrich (mode timestamp : String) (previousHash sanitized : Json) : Json :=
  let stamped := (sanitized.setDefault "timestamp" (.str timestamp)).setDefault "audit_lock_mode"
    (.str mode)
  let linked :=
    if previousHash.truthy then stamped.setDefault "previous_event_hash" previousHash else stamped
  linked.erase "event_hash"

def previousEventHash (events : List Json) : Json :=
  match events.getLast? with
  | none => .null
  | some event => event.value "event_hash"

/-- `record_audit_event`: the event that it returns and the file that it leaves. -/
def recordAuditEvent (spell : Json → Except PyError String) (auditFile : String) (call : Call)
    (lines : List Line) : Except PyError (Json × List Line) := do
  let mode ← acquireAuditLock call.platform
  let prior ← iterAuditEvents auditFile 1 lines
  let sanitized ← sanitizeAuditEvent spell call.event
  let payload := enrich mode call.timestamp (previousEventHash prior) sanitized
  let text ← dumps payload
  let enriched := payload.set "event_hash" (canonicalSha256 text).json
  let line ← dumps enriched
  return (enriched, lines ++ [.document line])

def auditEventPayloadHash (event : Json) : Json :=
  (canonicalSha256 (event.erase "event_hash").canonical).json

/-- The part of the report on one event, read after an event with the given hash. -/
def eventErrors (number : Nat) (previousHash event : Json) : List String :=
  let line := "line " ++ toString number
  let expectedPrevious := event.value "previous_event_hash"
  reject (event.value "event_hash" ≠ auditEventPayloadHash event)
    (line ++ ": event_hash mismatch") ++
  (if previousHash.truthy = true ∧ expectedPrevious = .null then
      [line ++ ": previous_event_hash missing"]
    else
      reject (previousHash.truthy = true ∧ expectedPrevious ≠ previousHash)
        (line ++ ": previous_event_hash mismatch")) ++
  reject (previousHash.truthy = false ∧ expectedPrevious.truthy = true)
    (line ++ ": first event unexpectedly has previous_event_hash")

/-- Whether the event counts as unlinked. -/
def isUnlinked (previousHash event : Json) : Bool :=
  previousHash.truthy && event.value "previous_event_hash" == .null

structure Report where
  errors : List String
  eventCount : Nat
  unlinkedEventCount : Nat
  lastEventHash : Json

def Report.valid (report : Report) : Bool := report.errors.isEmpty

/-- The walk over the lines from one of them on. -/
def verifyLines : Nat → Json → List Line → Except PyError Report
  | _, previousHash, [] => .ok ⟨[], 0, 0, previousHash⟩
  | number, previousHash, .blank :: rest => verifyLines (number + 1) previousHash rest
  | number, previousHash, .malformed reason :: rest => do
      let report ← verifyLines (number + 1) previousHash rest
      let error := "line " ++ toString number ++ ": invalid JSON: " ++ reason
      return { report with errors := error :: report.errors }
  | _, _, .refused error :: _ => .error error
  | number, previousHash, .document event :: rest =>
    if event.isObject then do
      let report ← verifyLines (number + 1) (event.value "event_hash") rest
      return {
        errors := eventErrors number previousHash event ++ report.errors
        eventCount := report.eventCount + 1
        unlinkedEventCount := report.unlinkedEventCount + (isUnlinked previousHash event).toNat
        lastEventHash := report.lastEventHash }
    else do
      let report ← verifyLines (number + 1) previousHash rest
      let error := "line " ++ toString number ++ ": event is not an object"
      return { report with errors := error :: report.errors }

def verifyAuditLog (lines : List Line) : Except PyError Report := verifyLines 1 .null lines

variable {spell : Json → Except PyError String}

theorem recordAuditEvent_ok {auditFile : String}
    {call : Call} {lines after : List Line} {enriched : Json}
    (recorded : recordAuditEvent spell auditFile call lines = .ok (enriched, after)) :
    ∃ mode prior sanitized, acquireAuditLock call.platform = .ok mode ∧
      iterAuditEvents auditFile 1 lines = .ok prior ∧
      sanitizeAuditEvent spell call.event = .ok sanitized ∧
      ∃ payload, payload = enrich mode call.timestamp (previousEventHash prior) sanitized ∧
        Writable payload ∧
        enriched = payload.set "event_hash" (canonicalSha256 payload.canonical).json ∧
        after = lines ++ [.document enriched.canonical] := by
  unfold recordAuditEvent at recorded
  cases locked : acquireAuditLock call.platform with
  | error error =>
    rw [locked] at recorded
    cases recorded
  | ok mode =>
    cases read : iterAuditEvents auditFile 1 lines with
    | error error =>
      rw [locked, read] at recorded
      cases recorded
    | ok prior =>
      cases kept : sanitizeAuditEvent spell call.event with
      | error error =>
        rw [locked, read, kept] at recorded
        cases recorded
      | ok sanitized =>
        rw [locked, read, kept] at recorded
        refine ⟨mode, prior, sanitized, rfl, rfl, rfl, _, rfl, ?_⟩
        change (dumps _ >>= _) = _ at recorded
        generalize enrich mode call.timestamp (previousEventHash prior) sanitized = payload
          at recorded ⊢
        cases written : dumps payload with
        | error error =>
          rw [written] at recorded
          cases recorded
        | ok text =>
          rw [written] at recorded
          obtain ⟨writable, rfl⟩ := dumps_ok.mp written
          change (dumps _ >>= _) = _ at recorded
          generalize (payload.set "event_hash" (canonicalSha256 payload.canonical).json) =
            whole at recorded ⊢
          cases line : dumps whole with
          | error error =>
            rw [line] at recorded
            cases recorded
          | ok text =>
            rw [line] at recorded
            cases recorded
            obtain ⟨_, rfl⟩ := dumps_ok.mp line
            exact ⟨writable, rfl, rfl⟩

/-- The payload can be written when what is kept of the event besides its hash can. -/
theorem writable_enrich {mode timestamp : String} {previousHash sanitized : Json}
    (dictionary : sanitized.isDict = true) (named : Writable previousHash) :
    Writable (enrich mode timestamp previousHash sanitized) ↔
      Writable (sanitized.erase "event_hash") := by
  have erased := Json.isDict_erase dictionary "event_hash"
  have stamped : Writable (((sanitized.erase "event_hash").setDefault "timestamp"
      (.str timestamp)).setDefault "audit_lock_mode" (.str mode)) ↔
      Writable (sanitized.erase "event_hash") := by
    rw [writable_setDefault (Json.isDict_setDefault erased _ _) _ (writable_str mode),
      writable_setDefault erased _ (writable_str timestamp)]
  unfold enrich
  dsimp only
  by_cases linked : previousHash.truthy = true
  · rw [if_pos linked, Json.erase_setDefault_of_ne (by decide),
      Json.erase_setDefault_of_ne (by decide), Json.erase_setDefault_of_ne (by decide),
      writable_setDefault _ _ named, stamped]
    exact Json.isDict_setDefault (Json.isDict_setDefault erased _ _) _ _
  · rw [if_neg linked, Json.erase_setDefault_of_ne (by decide),
      Json.erase_setDefault_of_ne (by decide), stamped]

theorem recordAuditEvent_of_writable {auditFile : String}
    {call : Call} {lines : List Line} {mode : String} {prior : List Json} {sanitized : Json}
    (locked : acquireAuditLock call.platform = .ok mode)
    (read : iterAuditEvents auditFile 1 lines = .ok prior)
    (kept : sanitizeAuditEvent spell call.event = .ok sanitized)
    (writable : Writable (enrich mode call.timestamp (previousEventHash prior) sanitized)) :
    ∃ enriched after, recordAuditEvent spell auditFile call lines = .ok (enriched, after) := by
  unfold recordAuditEvent
  rw [locked, read, kept]
  change ∃ enriched after, (dumps _ >>= _) = _
  generalize enrich mode call.timestamp (previousEventHash prior) sanitized = payload at writable ⊢
  rw [dumps_ok.mpr ⟨writable, rfl⟩]
  change ∃ enriched after, (dumps _ >>= _) = _
  have whole := writable.set "event_hash" (writable_sha256 payload.canonical)
  change Writable (payload.set "event_hash" (canonicalSha256 payload.canonical).json) at whole
  rw [dumps_ok.mpr ⟨whole, rfl⟩]
  exact ⟨_, _, rfl⟩

/-- A text or `None`. -/
def isPlain : Json → Bool
  | .null => true
  | .str _ => true
  | .sha256 _ => true
  | _ => false

/-- What is kept of a field, if anything, can be written. -/
def KeepsWritable (outcome : Except PyError (Option Json)) : Prop :=
  ∃ kept, outcome = .ok kept ∧ ∀ left ∈ kept, Writable left

theorem keepsWritable_none : KeepsWritable (.ok none) := ⟨none, rfl, by simp⟩

theorem KeepsWritable.ite {condition : Prop} [Decidable condition]
    {first second : Except PyError (Option Json)} (one : KeepsWritable first)
    (other : KeepsWritable second) : KeepsWritable (if condition then first else second) := by
  split
  · exact one
  · exact other

section

variable {spell : Json → Except PyError String} {value : Json}

theorem keepsWritable_shortText (plain : isPlain value = true) :
    KeepsWritable (normalizeShortText spell value) := by
  cases value with
  | null => exact keepsWritable_none
  | sha256 preimage => exact ⟨some (.sha256 preimage), rfl, by simp⟩
  | str text =>
    refine ⟨(shortText text).map .str, rfl, ?_⟩
    intro left kept
    obtain ⟨short, _, rfl⟩ := Option.map_eq_some_iff.mp kept
    rfl
  | _ => cases plain

theorem keepsWritable_callCategory (plain : isPlain value = true) :
    KeepsWritable (.ok (if isOneOf callCategories value then some value else none)) := by
  refine ⟨_, rfl, ?_⟩
  intro left kept
  split at kept
  · cases kept
    cases value with
    | null | str | sha256 => rfl
    | _ => cases plain
  · cases kept

/-- Whatever the field is called, a text or `None` in it does no harm. -/
theorem keepsWritable_sanitizeField (key : String) (plain : isPlain value = true) :
    KeepsWritable (sanitizeField spell key value) := by
  have none := keepsWritable_none
  have short := @keepsWritable_shortText spell _ plain
  have category := keepsWritable_callCategory plain
  have blank := keepsWritable_none
  have others : KeepsWritable (normalizeFiniteNumber value) ∧
      KeepsWritable (.ok (normalizeNonnegativeNumber value)) ∧
      KeepsWritable (sanitizeNullableShortText spell value) ∧
      KeepsWritable (sanitizeTelemetryUsage value) ∧ KeepsWritable (sanitizeGraphCounters value) ∧
      KeepsWritable (.ok (sanitizeFlag value)) ∧ KeepsWritable (sanitizeTexts spell value) ∧
      KeepsWritable (sanitizeWorkspaceMutation spell value) ∧
      KeepsWritable (sanitizeArtifactValidation spell value) ∧
      KeepsWritable (sanitizeNativePoolSummary spell value) := by
    cases value with
    | null =>
      exact ⟨blank, blank, blank, blank, blank, blank, blank, blank, blank, blank⟩
    | str | sha256 =>
      exact ⟨blank, blank, short, blank, blank, blank, blank, blank, blank, blank⟩
    | _ => cases plain
  obtain ⟨finite, number, nullable, usage, counters, flag, texts, mutation, artifact, pool⟩ := others
  repeat
    apply KeepsWritable.ite
    · assumption
  exact keepsWritable_none

end

theorem exists_sanitizeFields {fields : List (String × Json)}
    (kept : ∀ entry ∈ fields, KeepsWritable (sanitizeField spell entry.1 entry.2)) {start : Json}
    (writable : Writable start) :
    ∃ sanitized, sanitizeFields spell fields start = .ok sanitized ∧ Writable sanitized := by
  induction fields generalizing start with
  | nil => exact ⟨start, rfl, writable⟩
  | cons entry rest ih =>
    obtain ⟨⟨left, sanitizes, small⟩, later⟩ := List.forall_mem_cons.mp kept
    unfold sanitizeFields
    rw [sanitizes]
    cases left with
    | none => exact ih later writable
    | some value => exact ih later (writable.set _ (small value rfl))

theorem exists_sanitizeAuditEvent {event : Event}
    (kept : ∀ entry ∈ event.fields, KeepsWritable (sanitizeField spell entry.1 entry.2))
    (untotalled : event.get? "input_tokens" = none) :
    ∃ sanitized, sanitizeAuditEvent spell event = .ok sanitized ∧ Writable sanitized := by
  obtain ⟨document, fields, writable⟩ := @exists_sanitizeFields _ _ kept .objEnd rfl
  refine ⟨document, ?_, writable⟩
  have absent := @get?_sanitizeFields _ _ _ "input_tokens" fields
  rw [untotalled] at absent
  unfold sanitizeAuditEvent
  rw [fields]
  change withTotalTokens document = _
  unfold withTotalTokens
  rw [← Except.ok.inj absent]
  cases document.get? "total_tokens" with
  | none | some => rfl

end WorkOrchestration.Audit
