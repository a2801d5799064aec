import WorkOrchestration.Audit.Chain

/-!
# When the recorded chain verifies

`record_audit_event` puts its link into an event with `setdefault`, after the
sanitizer has let a caller's `previous_event_hash` through.  So the file verifies,
and shows what is done to it later, exactly when no caller names another event than
the last one of the file.
-/

namespace WorkOrchestration.Audit

open Lib.HashChain Native.Artifacts
open List (cons_append length_append map_cons map_eq_cons_iff mem_append mem_append_right mem_cons mem_cons_self mem_singleton)

/-- Every line is an event that carries its hash. -/
structure Recorded (lines : List Line) (events : List Json) : Prop where
  lines_eq : lines = events.map .document
  isObject : ∀ event ∈ events, event.isObject = true
  hashed : ∀ event ∈ events, Hashed event

variable {events : List Json}

theorem documents_map (objects : ∀ event ∈ events, event.isObject = true) :
    documents (events.map .document) = some events := by
  induction events with
  | nil => rfl
  | cons event rest ih =>
    have later := ih (List.forall_mem_cons.mp objects).2
    rw [map_cons, documents, if_pos (objects event mem_cons_self), later]
    rfl

theorem iterAuditEvents_map (objects : ∀ event ∈ events, event.isObject = true) (auditFile : String)
    (number : Nat) :
    iterAuditEvents auditFile number (events.map .document) = .ok events := by
  induction events generalizing number with
  | nil => rfl
  | cons event rest ih =>
    have later := ih (List.forall_mem_cons.mp objects).2 (number + 1)
    rw [map_cons, iterAuditEvents, if_pos (objects event mem_cons_self), later]
    rfl

variable {lines : List Line}

theorem Recorded.documents_eq (recorded : Recorded lines events) :
    documents lines = some events := by
  rw [recorded.lines_eq]
  exact documents_map recorded.isObject

/-- The hash that the next event names, or none at the beginning of a file. -/
def lastEventHash (lines : List Line) : Option Json :=
  match lines.getLast? with
  | some (.document event) => some (event.value "event_hash")
  | _ => none

section

variable (recorded : Recorded lines events)

include recorded

theorem Recorded.head_eq : head auditEventPayloadHash none events = lastEventHash lines := by
  rw [recorded.lines_eq]
  unfold head lastEventHash
  rw [List.getLast?_map]
  cases last : events.getLast? with
  | none => rfl
  | some event =>
    have hashed := recorded.hashed event (List.mem_of_getLast? last)
    exact congrArg some hashed.symm

theorem Recorded.previousEventHash_eq :
    previousEventHash events = (lastEventHash lines).getD .null := by
  rw [recorded.lines_eq]
  unfold previousEventHash lastEventHash
  rw [List.getLast?_map]
  cases events.getLast? with
  | none | some => rfl

theorem Recorded.lastEventHash_cases :
    lastEventHash lines = none ∨ ∃ preimage, lastEventHash lines = some (.sha256 preimage) := by
  rw [← recorded.head_eq]
  unfold head
  cases events.getLast? with
  | none => exact .inl rfl
  | some event => exact .inr ⟨_, rfl⟩

end

/-- A caller's link survives as the sanitizer leaves it, and is the file's own or none. -/
def NamesLastEvent (lines : List Line) (sanitized : Json) : Prop :=
  sanitized.get? "previous_event_hash" = none ∨
    sanitized.get? "previous_event_hash" = lastEventHash lines

variable {spell : Json → Except PyError String}

/-- The event continues the chain exactly when no other event is named in it. -/
theorem previousLink_enrich {event : Event} {sanitized : Json} {mode timestamp : String}
    (recorded : Recorded lines events) (kept : sanitizeAuditEvent spell event = .ok sanitized) :
    previousLink (written (enrich mode timestamp (previousEventHash events) sanitized)) =
        head auditEventPayloadHash none events ↔
      NamesLastEvent lines sanitized := by
  rw [previousLink_written, get?_enrich, recorded.head_eq, recorded.previousEventHash_eq]
  unfold NamesLastEvent
  cases found : sanitized.get? "previous_event_hash" with
  | none =>
    rcases recorded.lastEventHash_cases with first | ⟨preimage, last⟩
    · simp [first, Json.truthy]
    · simp [last, Json.truthy, Json.canonical]
  | some named =>
    have truthy := truthy_of_sanitized_previous kept found
    rw [if_neg (by simp), Option.filter_some, if_pos truthy]
    rcases recorded.lastEventHash_cases with first | ⟨preimage, last⟩
    · simp [first]
    · rw [last]
      constructor
      · intro same
        have spelled := Json.eq_sha256_of_canonical (Option.some.inj same)
        exact .inr (congrArg some spelled)
      · rintro (none | same)
        · cases none
        · rw [Option.some.inj same]
          rfl

/-- The file after one more call; a call that raises leaves it as it was. -/
def recordStep (spell : Json → Except PyError String) (auditFile : String) (lines : List Line)
    (call : Call) : List Line :=
  match recordAuditEvent spell auditFile call lines with
  | .ok (_, after) => after
  | .error _ => lines

/-- The file that calls leave of an absent one. -/
def recordAll (spell : Json → Except PyError String) (auditFile : String) (calls : List Call) :
    List Line :=
  calls.foldl (recordStep spell auditFile) []

theorem recordAll_concat (spell : Json → Except PyError String) (auditFile : String)
    (calls : List Call) (call : Call) :
    recordAll spell auditFile (calls ++ [call]) =
      recordStep spell auditFile (recordAll spell auditFile calls) call := by
  rw [recordAll, List.foldl_append]
  rfl

/-- What one call does to a file of recorded events. -/
theorem recordStep_cases {auditFile : String} {call : Call} (recorded : Recorded lines events) :
    recordStep spell auditFile lines call = lines ∧
        (∀ enriched after, recordAuditEvent spell auditFile call lines ≠ .ok (enriched, after)) ∨
      ∃ mode sanitized, acquireAuditLock call.platform = .ok mode ∧
        sanitizeAuditEvent spell call.event = .ok sanitized ∧
        ∃ payload, payload = enrich mode call.timestamp (previousEventHash events) sanitized ∧
          Writable payload ∧
          recordStep spell auditFile lines call = lines ++ [.document (written payload)] ∧
          Recorded (recordStep spell auditFile lines call) (events ++ [written payload]) := by
  cases outcome : recordAuditEvent spell auditFile call lines with
  | error error =>
    refine .inl ⟨by rw [recordStep, outcome], ?_⟩
    intro enriched after returned
    cases returned
  | ok result =>
    obtain ⟨mode, prior, sanitized, locked, read, kept, payload, shape, writable, added, file⟩ :=
      recordAuditEvent_ok outcome
    have same : prior = events := by
      have whole := iterAuditEvents_map recorded.isObject auditFile 1
      rw [← recorded.lines_eq, read] at whole
      exact Except.ok.inj whole
    subst same
    have step : recordStep spell auditFile lines call = lines ++ [.document (written payload)] := by
      rw [recordStep, outcome]
      exact file.trans (by rw [added]; rfl)
    refine .inr ⟨mode, sanitized, locked, kept, payload, shape, writable, step, ?_⟩
    have dictionary : payload.isDict = true := by
      rw [shape]
      exact isDict_enrich (isDict_sanitizeAuditEvent kept)
    have unhashed : payload.get? "event_hash" = none := by
      rw [shape]
      exact get?_event_hash_enrich _ _ _ _
    constructor
    · rw [step, recorded.lines_eq, List.map_append]
      rfl
    · intro event member
      rcases mem_append.mp member with before | last
      · exact recorded.isObject event before
      · rw [mem_singleton.mp last]
        exact isObject_written payload
    · intro event member
      rcases mem_append.mp member with before | last
      · exact recorded.hashed event before
      · rw [mem_singleton.mp last]
        exact hashed_written dictionary unhashed

theorem exists_recorded (spell : Json → Except PyError String) (auditFile : String)
    (calls : List Call) :
    ∃ events, Recorded (recordAll spell auditFile calls) events ∧ events.length ≤ calls.length := by
  induction calls using List.reverseRecOn with
  | nil => exact ⟨[], ⟨rfl, by simp, by simp⟩, le_rfl⟩
  | append_singleton calls call ih =>
    obtain ⟨events, recorded, shorter⟩ := ih
    rw [recordAll_concat]
    rcases @recordStep_cases _ _ spell auditFile call recorded with
      ⟨unchanged, _⟩ | ⟨_, _, _, _, payload, _, _, _, extended⟩
    · rw [unchanged]
      refine ⟨events, recorded, ?_⟩
      rw [length_append]
      omega
    · refine ⟨_, extended, ?_⟩
      rw [length_append, length_append]
      exact Nat.add_le_add_right shorter 1

/--
The call gets the lock, what is left of its event can be written, and it names no
event other than the last one of the file.
-/
def Proper (spell : Json → Except PyError String) (lines : List Line) (call : Call) : Prop :=
  (∃ mode, acquireAuditLock call.platform = .ok mode) ∧
    ∃ sanitized, sanitizeAuditEvent spell call.event = .ok sanitized ∧
      Writable (sanitized.erase "event_hash") ∧ NamesLastEvent lines sanitized

/-- Every call of a sequence meets the condition in the file that it finds. -/
def AllProper (spell : Json → Except PyError String) (auditFile : String) (calls : List Call) :
    Prop :=
  ∀ front call back, calls = front ++ call :: back →
    Proper spell (recordAll spell auditFile front) call

theorem allProper_concat {auditFile : String} {calls : List Call} {call : Call} :
    AllProper spell auditFile (calls ++ [call]) ↔
      AllProper spell auditFile calls ∧ Proper spell (recordAll spell auditFile calls) call := by
  constructor
  · intro proper
    refine ⟨?_, proper calls call [] rfl⟩
    intro front other back split
    exact proper front other (back ++ [call]) (by rw [split, List.append_assoc, cons_append])
  · rintro ⟨before, last⟩ front other back split
    rcases List.eq_nil_or_concat back with rfl | ⟨back, final, rfl⟩
    · obtain ⟨rfl, same⟩ := List.append_inj' split rfl
      cases same
      exact last
    · have shape : calls ++ [call] = (front ++ other :: back) ++ [final] := by
        rw [split, List.append_assoc, cons_append, List.concat_eq_append]
      obtain ⟨shorter, _⟩ := List.append_inj' shape rfl
      exact before front other back shorter

theorem writable_previousEventHash (recorded : Recorded lines events) :
    Writable (previousEventHash events) := by
  rw [recorded.previousEventHash_eq]
  rcases recorded.lastEventHash_cases with first | ⟨preimage, last⟩
  · rw [first]
    rfl
  · rw [last]
    rfl

/-- The file is reported as valid, with one linked event for each call. -/
def Verifies (lines : List Line) (count : Nat) : Prop :=
  ∃ report, verifyAuditLog lines = .ok report ∧ report.valid = true ∧
    report.eventCount = count ∧ report.unlinkedEventCount = 0

theorem Recorded.verifies_iff {count : Nat} (recorded : Recorded lines events) :
    Verifies lines count ↔ Chained events ∧ events.length = count := by
  constructor
  · rintro ⟨report, walked, valid, counted, _⟩
    obtain ⟨others, read, verified, length, _⟩ :=
      verifyLines_valid walked (List.isEmpty_iff.mp valid)
    rw [recorded.documents_eq] at read
    cases read
    exact ⟨(verified_iff_linked (.inl rfl)).mp verified, length.symm.trans counted⟩
  · rintro ⟨chained, length⟩
    obtain ⟨report, walked, valid⟩ :=
      verifyAuditLog_valid_iff.mpr ⟨events, recorded.documents_eq, chained⟩
    obtain ⟨others, read, _, counted, unlinked⟩ :=
      verifyLines_valid walked (List.isEmpty_iff.mp valid)
    rw [recorded.documents_eq] at read
    cases read
    exact ⟨report, walked, valid, counted.trans length, unlinked⟩

theorem chained_concat {event : Json} (hashed : Hashed event) : Chained (events ++ [event]) ↔
      Chained events ∧ previousLink event = head auditEventPayloadHash none events := by
  unfold Chained
  rw [linked_concat]
  constructor
  · rintro ⟨allHashed, linked, last⟩
    exact ⟨⟨fun other member => allHashed other (List.mem_append_left _ member), linked⟩, last⟩
  · rintro ⟨⟨allHashed, linked⟩, last⟩
    refine ⟨?_, linked, last⟩
    intro other member
    rcases mem_append.mp member with before | final
    · exact allHashed other before
    · rw [mem_singleton.mp final]
      exact hashed

/-- The file verifies as long as every call meets the condition. -/
theorem verifies_recordAll (spell : Json → Except PyError String) (auditFile : String)
    (calls : List Call) :
    Verifies (recordAll spell auditFile calls) calls.length ↔ AllProper spell auditFile calls := by
  induction calls using List.reverseRecOn with
  | nil =>
    have empty : Recorded (recordAll spell auditFile []) [] := ⟨rfl, by simp, by simp⟩
    rw [empty.verifies_iff]
    constructor
    · rintro _ front call back split
      cases front <;> cases split
    · intro _
      exact ⟨⟨by simp, trivial⟩, rfl⟩
  | append_singleton calls call ih =>
    obtain ⟨events, recorded, shorter⟩ := exists_recorded spell auditFile calls
    rw [recorded.verifies_iff] at ih
    rw [allProper_concat, ← ih, recordAll_concat, length_append, List.length_singleton]
    rcases @recordStep_cases _ _ spell auditFile call recorded with
      ⟨unchanged, refused⟩ |
        ⟨mode, sanitized, locked, kept, payload, shape, writable, step, extended⟩
    · rw [unchanged, recorded.verifies_iff]
      constructor
      · omega
      · rintro ⟨_, ⟨mode, locked⟩, sanitized, kept, writable, _⟩
        have whole := iterAuditEvents_map recorded.isObject auditFile 1
        rw [← recorded.lines_eq] at whole
        have payload := (@writable_enrich mode call.timestamp _ _
          (isDict_sanitizeAuditEvent kept) (writable_previousEventHash recorded)).mpr writable
        obtain ⟨enriched, after, returned⟩ := recordAuditEvent_of_writable locked whole kept payload
        exact absurd returned (refused enriched after)
    · have hashed : Hashed (written payload) := by
        apply extended.hashed
        exact mem_append_right _ mem_cons_self
      have link := @previousLink_enrich _ _ _ _ _ mode call.timestamp recorded kept
      rw [← shape] at link
      rw [extended.verifies_iff, chained_concat hashed, link, length_append,
        List.length_singleton]
      constructor
      · rintro ⟨⟨chained, names⟩, length⟩
        have payloadWritable := writable
        rw [shape, writable_enrich (isDict_sanitizeAuditEvent kept)
          (writable_previousEventHash recorded)] at payloadWritable
        exact ⟨⟨chained, by omega⟩, ⟨mode, locked⟩, sanitized, kept, payloadWritable, names⟩
      · rintro ⟨⟨chained, length⟩, _, other, keptOther, _, names⟩
        rw [kept] at keptOther
        cases keptOther
        exact ⟨⟨chained, names⟩, by omega⟩

/-- Two lines say the same: they are the same text or documents with the same fields. -/
def SameContent : Line → Line → Prop
  | .document left, .document right => Json.SameFields left right
  | left, right => left = right

def ReportsInvalid (lines : List Line) : Prop :=
  ∃ report, verifyAuditLog lines = .ok report ∧ report.valid = false

/--
What verification makes of a file to which something was done in front of its last line.  It reports every
change but a line on which the reader of documents raises; there it raises as well, and reports nothing.
-/
structure TamperEvident (lines : List Line) : Prop where
  dropped : ∀ front line next back, lines = front ++ line :: next :: back →
    ReportsInvalid (front ++ next :: back)
  swapped : ∀ front first middle second back, lines = front ++ first :: (middle ++ second :: back) →
      ReportsInvalid (front ++ second :: (middle ++ first :: back))
  rewritten : ∀ front line other next back, lines = front ++ line :: next :: back →
    ¬ SameContent line other → (∀ error, other ≠ .refused error) →
      ReportsInvalid (front ++ other :: next :: back)
  refused : ∀ front line error next back, lines = front ++ line :: next :: back →
    verifyAuditLog (front ++ .refused error :: next :: back) = .error error

theorem reportsInvalid (readable : ∀ error, Line.refused error ∉ lines)
    (unchained : ∀ events, documents lines = some events → ¬ Chained events) :
    ReportsInvalid lines := by
  obtain ⟨report, walked⟩ := exists_report readable 1 .null
  refine ⟨report, walked, ?_⟩
  cases valid : report.valid with
  | false => rfl
  | true =>
    obtain ⟨events, read, chained⟩ := verifyAuditLog_valid_iff.mp ⟨report, walked, valid⟩
    exact absurd chained (unchained events read)

theorem not_refused_of_map (error : PyError) : Line.refused error ∉ events.map Line.document := by
  intro member
  obtain ⟨_, _, same⟩ := List.mem_map.mp member
  cases same

theorem documents_append {front back : List Line} {before : List Json}
    (read : documents front = some before) :
    documents (front ++ back) = (documents back).map (before ++ ·) := by
  induction front generalizing before with
  | nil =>
    cases read
    simp
  | cons line rest ih =>
    cases line with
    | blank => exact ih read
    | malformed | refused => cases read
    | document event =>
      unfold documents at read
      split at read
      · rename_i isObject
        obtain ⟨later, readLater, rfl⟩ := Option.map_eq_some_iff.mp read
        rw [cons_append, documents, if_pos isObject, ih readLater, Option.map_map]
        rfl
      · cases read

theorem Recorded.split {front back : List Line} {line : Line} (recorded : Recorded lines events)
    (shape : lines = front ++ line :: back) :
    ∃ before event after, events = before ++ event :: after ∧ front = before.map .document ∧
      line = .document event ∧ back = after.map .document := by
  rw [recorded.lines_eq] at shape
  obtain ⟨before, rest, rfl, rfl, tail⟩ := List.map_eq_append_iff.mp shape
  obtain ⟨event, after, rfl, rfl, rfl⟩ := map_eq_cons_iff.mp tail
  exact ⟨before, event, after, rfl, rfl, rfl, rfl⟩

theorem reportsInvalid_of_map (objects : ∀ event ∈ events, event.isObject = true)
    (unchained : ¬ Chained events) :
    ReportsInvalid (events.map .document) := by
  apply reportsInvalid not_refused_of_map
  intro others read
  rw [documents_map objects] at read
  cases read
  exact unchained

section

variable {lines : List Line} {events : List Json} (recorded : Recorded lines events)
  (chained : Chained events)

include recorded chained

variable {front : List Line}

theorem reportsInvalid_of_dropped {back : List Line} {line next : Line}
    (shape : lines = front ++ line :: next :: back) : ReportsInvalid (front ++ next :: back) := by
  obtain ⟨before, event, rest, rfl, rfl, rfl, tail⟩ := recorded.split shape
  obtain ⟨following, after, rfl, rfl, rfl⟩ := map_eq_cons_iff.mp tail.symm
  have broken := not_linked_of_dropped payloadHash_binding chained.2
  rw [← map_cons, ← List.map_append]
  apply reportsInvalid_of_map
  · intro other member
    apply recorded.isObject
    rcases mem_append.mp member with first | later
    · exact List.mem_append_left _ first
    · exact mem_append_right _ (List.mem_cons_of_mem _ later)
  · rintro ⟨_, linked⟩
    exact broken linked

theorem reportsInvalid_of_swapped {middle back : List Line} {first second : Line}
    (shape : lines = front ++ first :: (middle ++ second :: back)) :
    ReportsInvalid (front ++ second :: (middle ++ first :: back)) := by
  obtain ⟨before, event, rest, rfl, rfl, rfl, tail⟩ := recorded.split shape
  obtain ⟨between, others, rfl, rfl, ending⟩ := List.map_eq_append_iff.mp tail.symm
  obtain ⟨final, after, rfl, rfl, rfl⟩ := map_eq_cons_iff.mp ending
  have broken := not_linked_of_swapped payloadHash_binding chained.2
  have shuffled : (before ++ final :: (between ++ event :: after)).map Line.document =
      before.map .document ++ .document final :: (between.map .document ++
        .document event :: after.map .document) := by simp
  rw [← shuffled]
  apply reportsInvalid_of_map
  · intro other member
    apply recorded.isObject
    simp only [mem_append, mem_cons] at member ⊢
    tauto
  · rintro ⟨_, linked⟩
    exact broken linked

theorem reportsInvalid_of_rewritten {back : List Line} {line other next : Line}
    (shape : lines = front ++ line :: next :: back) (changed : ¬ SameContent line other)
    (readable : ∀ error, other ≠ .refused error) :
    ReportsInvalid (front ++ other :: next :: back) := by
  have dropped := reportsInvalid_of_dropped recorded chained shape
  obtain ⟨before, event, rest, rfl, rfl, rfl, tail⟩ := recorded.split shape
  have objects : ∀ event ∈ before, event.isObject = true := by
    intro other member
    exact recorded.isObject other (List.mem_append_left _ member)
  have walked : ∀ error, Line.refused error ∉ before.map .document ++ other :: next :: back := by
    intro error member
    rcases mem_append.mp member with first | member
    · exact not_refused_of_map error first
    · rcases mem_cons.mp member with same | member
      · exact readable error same.symm
      · rw [tail] at member
        exact not_refused_of_map error member
  apply reportsInvalid walked
  intro others read chain
  rw [documents_append (documents_map objects)] at read
  cases other with
  | blank =>
    -- a blank line is skipped, as if the line had been dropped
    rw [← documents_append (documents_map objects), documents_append (documents_map objects),
      documents, ← documents_append (documents_map objects)] at read
    obtain ⟨report, verified, invalid⟩ := dropped
    obtain ⟨other, same, valid⟩ := verifyAuditLog_valid_iff.mpr ⟨others, read, chain⟩
    rw [verified] at same
    cases same
    rw [invalid] at valid
    cases valid
  | malformed | refused => cases read
  | document value =>
    obtain ⟨following, after, rfl, rfl, rfl⟩ := map_eq_cons_iff.mp tail.symm
    unfold documents at read
    split at read
    · have later : documents (.document following :: after.map .document) =
          some (following :: after) := by
        rw [← map_cons]
        apply documents_map
        intro other member
        apply recorded.isObject
        exact mem_append_right _ (List.mem_cons_of_mem _ member)
      rw [later] at read
      cases read
      have digests := digest_eq_of_rewritten chained.2 chain.2
      apply changed
      apply sameFields_of_hashed
      · exact chained.1 event (mem_append_right _ mem_cons_self)
      · exact chain.1 value (mem_append_right _ mem_cons_self)
      · exact digests.symm
    · cases read

theorem tamperEvident : TamperEvident lines where
  dropped _ _ _ _ shape := reportsInvalid_of_dropped recorded chained shape
  swapped _ _ _ _ _ shape := reportsInvalid_of_swapped recorded chained shape
  rewritten _ _ _ _ _ shape changed readable :=
    reportsInvalid_of_rewritten recorded chained shape changed readable
  refused front line error next back shape := by
    obtain ⟨before, event, rest, _, rfl, _, _⟩ := recorded.split shape
    exact verifyLines_refused not_refused_of_map 1 .null

end

/--
After any calls on an absent file the log verifies, with one event for each call, and
shows every change in front of its last line, exactly when every call gets the lock,
leaves something that can be written and names no event but the last of the file.
-/
theorem recorded_chain_verifies_iff (spell : Json → Except PyError String) (auditFile : String)
    (calls : List Call) :
    (Verifies (recordAll spell auditFile calls) calls.length ∧
        TamperEvident (recordAll spell auditFile calls)) ↔
      AllProper spell auditFile calls := by
  constructor
  · rintro ⟨verifies, _⟩
    exact (verifies_recordAll spell auditFile calls).mp verifies
  · intro proper
    have verifies := (verifies_recordAll spell auditFile calls).mpr proper
    obtain ⟨events, recorded, _⟩ := exists_recorded spell auditFile calls
    obtain ⟨chained, _⟩ := recorded.verifies_iff.mp verifies
    exact ⟨verifies, tamperEvident recorded chained⟩

/-- An event of a caller that names a predecessor of its own. -/
def forgedLink : Event := ⟨[("previous_event_hash", .str "genesis")], by decide⟩

/-- The first event of a file may not name a predecessor, and the recorder writes one that does. -/
theorem forged_link_breaks_chain :
    ¬ ∀ (spell : Json → Except PyError String) (auditFile : String) (calls : List Call),
      Verifies (recordAll spell auditFile calls) calls.length ∧
        TamperEvident (recordAll spell auditFile calls) := by
  intro claimed
  have run := claimed (fun _ => .ok "") "audit.jsonl"
    [⟨forgedLink, "2026-01-01T00:00:00Z", ⟨true, false⟩⟩]
  obtain ⟨report, verified, valid, _⟩ := run.1
  have reported : (verifyAuditLog (recordAll (fun _ => .ok "") "audit.jsonl"
      [⟨forgedLink, "2026-01-01T00:00:00Z", ⟨true, false⟩⟩])).toOption.map Report.valid =
        some false := by decide +kernel
  rw [verified] at reported
  have invalid := Option.some.inj reported
  rw [valid] at invalid
  cases invalid

end WorkOrchestration.Audit
