import WorkOrchestration.Audit.Log
import WorkOrchestration.Lib.HashChain

/-!
# What a verified log is

`verify_audit_log` accepts exactly the files whose events carry their own hash and
name the hash of the event before them.
-/

namespace WorkOrchestration.Audit

open List Lib.Checks Lib.HashChain Native.Artifacts

/-- The events of a file in which every line is blank or an event. -/
def documents : List Line → Option (List Json)
  | [] => some []
  | .blank :: rest => documents rest
  | .document value :: rest => if value.isObject then (documents rest).map (value :: ·) else none
  | _ => none

/-- The event carries the hash of the rest of it. -/
def Hashed (event : Json) : Prop := event.value "event_hash" = auditEventPayloadHash event

/-- The event before this one, as far as this one names it. -/
def previousLink (event : Json) : Option Json :=
  if (event.value "previous_event_hash").truthy then
    some (event.value "previous_event_hash").canonical
  else none

/-- No event is reported, the first of them read after an event with the given hash. -/
def Verified : Json → List Json → Prop
  | _, [] => True
  | previousHash, event :: rest =>
    (∀ number, eventErrors number previousHash event = []) ∧
      Verified (event.value "event_hash") rest

variable {previousHash : Json}

theorem eventErrors_eq_nil {number : Nat} {event : Json} :
    eventErrors number previousHash event = [] ↔ Hashed event ∧
        (previousHash.truthy = true → event.value "previous_event_hash" = previousHash) ∧
        (previousHash.truthy = false → (event.value "previous_event_hash").truthy = false) := by
  unfold eventErrors Hashed
  simp only [append_eq_nil_iff, reject_eq_nil, not_not, not_and, Bool.not_eq_true, and_assoc]
  constructor
  · rintro ⟨hashed, linked, first⟩
    refine ⟨hashed, ?_, first⟩
    intro named
    by_cases missing : event.value "previous_event_hash" = .null
    · rw [if_pos ⟨named, missing⟩] at linked
      cases linked
    · rw [if_neg (fun both => missing both.2)] at linked
      simpa [named] using linked
  · rintro ⟨hashed, linked, first⟩
    refine ⟨hashed, ?_, first⟩
    by_cases named : previousHash.truthy = true
    · have same := linked named
      have present : event.value "previous_event_hash" ≠ .null := by
        intro missing
        rw [← same, missing] at named
        cases named
      rw [if_neg (fun both => present both.2)]
      simp [same]
    · simp [named]

variable {lines : List Line}

/-- Without a line that the reader fails on, the verification returns a report. -/
theorem exists_report (readable : ∀ error, Line.refused error ∉ lines) (number : Nat)
    (previousHash : Json) :
    ∃ report, verifyLines number previousHash lines = .ok report := by
  induction lines generalizing number previousHash with
  | nil => exact ⟨_, rfl⟩
  | cons line rest ih =>
    have later : ∀ error, Line.refused error ∉ rest :=
      fun error member => readable error (mem_cons_of_mem _ member)
    cases line with
    | blank => exact ih later _ _
    | malformed reason =>
      obtain ⟨report, walked⟩ := ih later (number + 1) previousHash
      rw [verifyLines, walked]
      exact ⟨_, rfl⟩
    | refused error => exact absurd mem_cons_self (readable error)
    | document event =>
      unfold verifyLines
      split
      · obtain ⟨report, walked⟩ := ih later (number + 1) (event.value "event_hash")
        rw [walked]
        exact ⟨_, rfl⟩
      · obtain ⟨report, walked⟩ := ih later (number + 1) previousHash
        rw [walked]
        exact ⟨_, rfl⟩

theorem verifyLines_refused {front back : List Line} {error : PyError}
    (readable : ∀ other, Line.refused other ∉ front) (number : Nat) (previousHash : Json) :
    verifyLines number previousHash (front ++ .refused error :: back) = .error error := by
  induction front generalizing number previousHash with
  | nil => rfl
  | cons line rest ih =>
    have later : ∀ other, Line.refused other ∉ rest :=
      fun other member => readable other (mem_cons_of_mem _ member)
    cases line with
    | blank => exact ih later _ _
    | malformed reason =>
      rw [cons_append, verifyLines, ih later]
      rfl
    | refused other => exact absurd mem_cons_self (readable other)
    | document event =>
      rw [cons_append, verifyLines]
      split
      · rw [ih later]
        rfl
      · rw [ih later]
        rfl

/-- What a report without errors says about the file. -/
theorem verifyLines_valid {number : Nat} {report : Report}
    (walked : verifyLines number previousHash lines = .ok report) (valid : report.errors = []) :
    ∃ events, documents lines = some events ∧ Verified previousHash events ∧
      report.eventCount = events.length ∧ report.unlinkedEventCount = 0 := by
  induction lines generalizing number previousHash report with
  | nil =>
    cases walked
    exact ⟨[], rfl, trivial, rfl, rfl⟩
  | cons line rest ih =>
    cases line with
    | blank => exact ih walked valid
    | malformed reason =>
      rw [verifyLines] at walked
      generalize verifyLines (number + 1) previousHash rest = later at walked
      cases later with
      | error error => cases walked
      | ok later =>
        cases walked
        cases valid
    | refused error => cases walked
    | document event =>
      unfold verifyLines at walked
      split at walked
      · rename_i isObject
        cases later : verifyLines (number + 1) (event.value "event_hash") rest with
        | error error =>
          rw [later] at walked
          cases walked
        | ok after =>
          rw [later] at walked
          cases walked
          obtain ⟨here, valid⟩ := append_eq_nil_iff.mp valid
          obtain ⟨events, read, verified, count, unlinked⟩ := ih later valid
          have accepted := eventErrors_eq_nil.mp here
          refine ⟨event :: events, ?_, ?_, ?_, ?_⟩
          · rw [documents, if_pos isObject, read]
            rfl
          · exact ⟨fun number => eventErrors_eq_nil.mpr accepted, verified⟩
          · simp [count]
          · have linked : isUnlinked previousHash event = false := by
              unfold isUnlinked
              by_cases named : previousHash.truthy = true
              · have same := accepted.2.1 named
                have present : event.value "previous_event_hash" ≠ .null := by
                  intro missing
                  rw [← same, missing] at named
                  cases named
                simp [present]
              · simp [named]
            simp [unlinked, linked]
      · generalize verifyLines (number + 1) previousHash rest = later at walked
        cases later with
        | error error => cases walked
        | ok later =>
          cases walked
          cases valid

theorem verifyLines_of_verified {events : List Json} (read : documents lines = some events)
    (verified : Verified previousHash events) (number : Nat) :
    ∃ report, verifyLines number previousHash lines = .ok report ∧ report.errors = [] := by
  induction lines generalizing number previousHash events with
  | nil => exact ⟨_, rfl, rfl⟩
  | cons line rest ih =>
    cases line with
    | blank => exact ih read verified _
    | malformed | refused => cases read
    | document event =>
      unfold documents at read
      split at read
      · rename_i isObject
        obtain ⟨later, readLater, rfl⟩ := Option.map_eq_some_iff.mp read
        obtain ⟨report, walked, valid⟩ := ih readLater verified.2 (number + 1)
        unfold verifyLines
        rw [if_pos isObject, walked]
        refine ⟨_, rfl, ?_⟩
        exact append_eq_nil_iff.mpr ⟨verified.1 number, valid⟩
      · cases read

/-- The link that an event after one with the given hash has to have. -/
def expectedLink (previousHash : Json) : Option Json :=
  if previousHash.truthy then some previousHash else none

theorem verified_iff_linked {events : List Json}
    (first : previousHash.truthy = false ∨ ∃ preimage, previousHash = .sha256 preimage) :
    Verified previousHash events ↔ (∀ event ∈ events, Hashed event) ∧
        Linked auditEventPayloadHash previousLink (expectedLink previousHash) events := by
  induction events generalizing previousHash with
  | nil => simp [Verified, Linked]
  | cons event rest ih =>
    have accepted : (∀ number, eventErrors number previousHash event = []) ↔
        Hashed event ∧ previousLink event = expectedLink previousHash := by
      constructor
      · intro clean
        obtain ⟨hashed, linked, unlinked⟩ := eventErrors_eq_nil.mp (clean 0)
        refine ⟨hashed, ?_⟩
        unfold previousLink expectedLink
        rcases first with none | ⟨preimage, rfl⟩
        · rw [unlinked none, none]
          rfl
        · rw [linked rfl]
          rfl
      · rintro ⟨hashed, linked⟩ number
        refine eventErrors_eq_nil.mpr ⟨hashed, ?_, ?_⟩
        · intro named
          rcases first with none | ⟨preimage, rfl⟩
          · rw [none] at named
            cases named
          · unfold previousLink expectedLink at linked
            split at linked
            · have written := Option.some.inj linked
              exact Json.eq_sha256_of_canonical written
            · cases linked
        · intro none
          unfold previousLink expectedLink at linked
          rw [none] at linked
          split at linked
          · cases linked
          · rename_i unlinked
            simpa using unlinked
    rw [Verified, accepted]
    constructor
    · rintro ⟨⟨hashed, linked⟩, verified⟩
      have named : event.value "event_hash" = auditEventPayloadHash event := hashed
      rw [named] at verified
      obtain ⟨allHashed, chained⟩ := (ih (.inr ⟨_, rfl⟩)).mp verified
      refine ⟨?_, linked, chained⟩
      exact forall_mem_cons.mpr ⟨hashed, allHashed⟩
    · rintro ⟨allHashed, linked, chained⟩
      have hashed := allHashed event mem_cons_self
      have named : event.value "event_hash" = auditEventPayloadHash event := hashed
      refine ⟨⟨hashed, linked⟩, ?_⟩
      rw [named]
      apply (ih (.inr ⟨_, rfl⟩)).mpr
      exact ⟨fun other later => allHashed other (mem_cons_of_mem _ later), chained⟩

/-- The files that `verify_audit_log` reports as valid. -/
def Chained (events : List Json) : Prop :=
  (∀ event ∈ events, Hashed event) ∧ Linked auditEventPayloadHash previousLink none events

theorem verifyAuditLog_valid_iff :
    (∃ report, verifyAuditLog lines = .ok report ∧ report.valid = true) ↔
      ∃ events, documents lines = some events ∧ Chained events := by
  have chain : ∀ events, Verified .null events ↔ Chained events :=
    fun events => verified_iff_linked (.inl rfl)
  constructor
  · rintro ⟨report, walked, valid⟩
    have empty : report.errors = [] := isEmpty_iff.mp valid
    obtain ⟨events, read, verified, _, _⟩ := verifyLines_valid walked empty
    exact ⟨events, read, (chain events).mp verified⟩
  · rintro ⟨events, read, chained⟩
    obtain ⟨report, walked, valid⟩ := verifyLines_of_verified read ((chain events).mpr chained) 1
    exact ⟨report, walked, isEmpty_iff.mpr valid⟩

/-- The hash of an event fixes the event before it. -/
theorem payloadHash_binding : Binding auditEventPayloadHash previousLink := by
  intro left right same
  have written : (left.erase "event_hash").canonical = (right.erase "event_hash").canonical := by
    simpa [auditEventPayloadHash, canonicalSha256, Digest.json] using same
  have fields := congrArg (Json.get? "previous_event_hash") written
  have values : (left.value "previous_event_hash").canonical =
      (right.value "previous_event_hash").canonical := by
    unfold Json.value
    cases first : left.get? "previous_event_hash" with
    | none =>
      cases second : right.get? "previous_event_hash" with
      | none => rfl
      | some value => simp [first, second] at fields
    | some value =>
      cases second : right.get? "previous_event_hash" with
      | none => simp [first, second] at fields
      | some other => simpa [first, second] using fields
  unfold previousLink
  rw [← Json.truthy_canonical, ← Json.truthy_canonical (right.value _), values]

/-- Events with the same own hash and the same hash of the rest have the same fields. -/
theorem sameFields_of_hashed {left right : Json} (hashedLeft : Hashed left)
    (hashedRight : Hashed right) (same : auditEventPayloadHash left = auditEventPayloadHash right) :
    Json.SameFields left right := by
  intro key
  have written : (left.erase "event_hash").canonical = (right.erase "event_hash").canonical := by
    simpa [auditEventPayloadHash, canonicalSha256, Digest.json] using same
  by_cases own : key = "event_hash"
  · subst own
    have present : ∀ event, Hashed event →
        event.get? "event_hash" = some (auditEventPayloadHash event) := by
      intro event hashed
      unfold Hashed Json.value at hashed
      cases found : event.get? "event_hash" with
      | none =>
        rw [found] at hashed
        cases hashed
      | some value =>
        rw [found] at hashed
        exact congrArg some hashed
    rw [present left hashedLeft, present right hashedRight, same]
  · have fields := congrArg (Json.get? key) written
    simpa [Json.get?_canonical, Json.get?_erase, Ne.symm own] using fields

theorem sanitizeField_previous (spell : Json → Except PyError String) (value : Json) :
    sanitizeField spell "previous_event_hash" value = normalizeShortText spell value :=
  sanitizeField_auditString spell value (by decide +kernel) (by decide +kernel)

theorem truthy_of_sanitized_previous {spell : Json → Except PyError String} {event : Event}
    {sanitized named : Json} (kept : sanitizeAuditEvent spell event = .ok sanitized)
    (found : sanitized.get? "previous_event_hash" = some named) : named.truthy = true := by
  have field := @get?_sanitizeAuditEvent _ _ _ "previous_event_hash" kept (by decide)
  rw [found] at field
  cases given : event.get? "previous_event_hash" with
  | none =>
    rw [given] at field
    cases field
  | some value =>
    rw [given] at field
    dsimp only at field
    rw [sanitizeField_previous] at field
    exact truthy_of_normalizeShortText field

theorem get?_enrich (mode timestamp : String) (previousHash sanitized : Json) :
    (enrich mode timestamp previousHash sanitized).get? "previous_event_hash" =
      if previousHash.truthy = true ∧ sanitized.get? "previous_event_hash" = none then
        some previousHash
      else sanitized.get? "previous_event_hash" := by
  unfold enrich
  by_cases named : previousHash.truthy = true
  · simp [named, Json.get?_setDefault]
  · simp [named, Json.get?_setDefault]

theorem get?_event_hash_enrich (mode timestamp : String) (previousHash sanitized : Json) :
    (enrich mode timestamp previousHash sanitized).get? "event_hash" = none := by
  unfold enrich
  simp

variable (payload : Json)

/-- The event as it stands in the file. -/
def written : Json := (payload.set "event_hash" (canonicalSha256 payload.canonical).json).canonical

theorem isObject_written : (written payload).isObject = true :=
  Json.isObject_canonical (Json.isObject_set payload _ _)

theorem value_event_hash_written :
    (written payload).value "event_hash" = (canonicalSha256 payload.canonical).json := by
  unfold written Json.value
  rw [Json.get?_canonical, Json.get?_set]
  rfl

theorem hashed_written {payload : Json} (dictionary : payload.isDict = true)
    (unhashed : payload.get? "event_hash" = none) : Hashed (written payload) := by
  have rest : (written payload).erase "event_hash" = payload.canonical := by
    unfold written
    rw [← Json.canonical_erase, Json.erase_set dictionary, Json.erase_of_absent unhashed]
  unfold Hashed auditEventPayloadHash
  rw [value_event_hash_written, rest, Json.canonical_idem]

theorem previousLink_written : previousLink (written payload) =
      ((payload.get? "previous_event_hash").filter Json.truthy).map Json.canonical := by
  have field : (written payload).get? "previous_event_hash" =
      (payload.get? "previous_event_hash").map Json.canonical := by
    unfold written
    rw [Json.get?_canonical, Json.get?_set, if_neg (by decide)]
  unfold previousLink Json.value
  rw [field]
  cases payload.get? "previous_event_hash" with
  | none => rfl
  | some named =>
    by_cases truthy : named.truthy = true
    · simp [truthy]
    · simp [truthy]

theorem isDict_enrich {mode timestamp : String} {sanitized : Json}
    (dictionary : sanitized.isDict = true) :
    (enrich mode timestamp previousHash sanitized).isDict = true := by
  have stamped := Json.isDict_setDefault (Json.isDict_setDefault dictionary "timestamp"
    (.str timestamp)) "audit_lock_mode" (.str mode)
  apply Json.isDict_erase
  split
  · exact Json.isDict_setDefault stamped _ _
  · exact stamped

theorem get?_written_enrich {key : String} (mode timestamp : String) (previousHash sanitized : Json)
    (other : key ∉ ["timestamp", "audit_lock_mode", "previous_event_hash", "event_hash"]) :
    (written (enrich mode timestamp previousHash sanitized)).get? key =
      (sanitized.get? key).map Json.canonical := by
  simp only [mem_cons, not_mem_nil, or_false, not_or] at other
  obtain ⟨first, second, third, fourth⟩ := other
  have kept : (enrich mode timestamp previousHash sanitized).get? key = sanitized.get? key := by
    unfold enrich
    dsimp only
    rw [Json.get?_erase, if_neg (Ne.symm fourth)]
    split
    · simp [Json.get?_setDefault, Ne.symm first, Ne.symm second, Ne.symm third]
    · simp [Json.get?_setDefault, Ne.symm first, Ne.symm second]
  unfold written
  rw [Json.get?_canonical, Json.get?_set, if_neg (Ne.symm fourth), kept]

end WorkOrchestration.Audit
