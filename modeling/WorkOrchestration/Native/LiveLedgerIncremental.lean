import WorkOrchestration.Native.LiveLedgerStore

/-!
# Incremental appends

An append checks one entry on an overlay of an index that a full validation has
built.  The check accepts what a full validation of the extended ledger accepts, the
committed overlay answers as the rebuilt index does, up to the audit hash of the new
entry, and a failed append leaves the index alone.
-/

namespace WorkOrchestration.Native.LiveLedger

open List Lib.Checks Lib.Programs Audit Artifacts

/-- The entry as the overlay indexes it, before its audit event is recorded. -/
def unhashed (entry : Json) : Json := entry.set "audit_event_hash" .null

/-- The same answer, or the new entry without and with its audit hash. -/
def SameAnswer (entry : Json) (committed rebuilt : Option Json) : Prop :=
  committed = rebuilt ∨ committed = some (unhashed entry) ∧ rebuilt = some entry

/-- Two indices agree on every query, up to the audit hash of the new entry. -/
structure Agrees (entry : Json) (committed rebuilt : View) : Prop where
  allocationIntent : ∀ id, SameAnswer entry (committed.allocationIntent id) (rebuilt.allocationIntent id)
  threadBinding : ∀ id, SameAnswer entry (committed.threadBinding id) (rebuilt.threadBinding id)
  turnIntent : ∀ id, SameAnswer entry (committed.turnIntent id) (rebuilt.turnIntent id)
  roleSeen : committed.roleSeen = rebuilt.roleSeen
  latestTurnIntentId : committed.latestTurnIntentId = rebuilt.latestTurnIntentId
  turnBound : committed.turnBound = rebuilt.turnBound
  turnIntentResolved : committed.turnIntentResolved = rebuilt.turnIntentResolved
  latestTurnId : committed.latestTurnId = rebuilt.latestTurnId
  lifecycleSeen : committed.lifecycleSeen = rebuilt.lifecycleSeen
  lifecycleKindSeen : committed.lifecycleKindSeen = rebuilt.lifecycleKindSeen
  certificationCount : committed.certificationCount = rebuilt.certificationCount

/-- The same update, with the new entry without and with its audit hash. -/
inductive Anchors (entry : Json) : Update → Update → Prop where
  | same (change : Update) : Anchors entry change change
  | allocationIntent (allocationId role : Json) :
      Anchors entry (.addAllocationIntent allocationId role (unhashed entry))
        (.addAllocationIntent allocationId role entry)
  | threadBinding (threadId : Json) :
      Anchors entry (.addThreadBinding threadId (unhashed entry)) (.addThreadBinding threadId entry)
  | turnIntent (turnIntentId threadId : Json) :
      Anchors entry (.addTurnIntent turnIntentId threadId (unhashed entry))
        (.addTurnIntent turnIntentId threadId entry)

theorem SameAnswer.refl (entry : Json) (answer : Option Json) : SameAnswer entry answer answer :=
  .inl rfl

theorem SameAnswer.appended (entry : Json) :
    SameAnswer entry (some (unhashed entry)) (some entry) :=
  .inr ⟨rfl, rfl⟩

variable {entry : Json}

theorem SameAnswer.ite {condition : Prop} [Decidable condition]
    {first second third fourth : Option Json} (one : SameAnswer entry first second)
    (other : SameAnswer entry third fourth) :
    SameAnswer entry (if condition then first else third) (if condition then second else fourth) := by
  split
  · exact one
  · exact other

theorem Agrees.refl (entry : Json) (view : View) : Agrees entry view view :=
  ⟨fun _ => .refl _ _, fun _ => .refl _ _, fun _ => .refl _ _, rfl, rfl, rfl, rfl, rfl, rfl, rfl, rfl⟩

theorem Agrees.update {committed rebuilt : View} (agrees : Agrees entry committed rebuilt)
    {left right : Update} (anchors : Anchors entry left right) :
    Agrees entry (committed.update left) (rebuilt.update right) := by
  obtain ⟨allocation, thread, intent, role, latestIntent, bound, resolved, latest, seen, kind, count⟩ :=
    agrees
  cases anchors with
  | same =>
    cases left with
    | addAllocationIntent allocationId roleName other =>
      exact ⟨fun id => (SameAnswer.refl _ _).ite (allocation id), thread, intent,
        by simp only [View.update, role], latestIntent, bound, resolved, latest, seen, kind, count⟩
    | addThreadBinding threadId other =>
      exact ⟨allocation, fun id => (SameAnswer.refl _ _).ite (thread id), intent, role,
        latestIntent, bound, resolved, latest, seen, kind, count⟩
    | addTurnIntent turnIntentId threadId other =>
      exact ⟨allocation, thread, fun id => (SameAnswer.refl _ _).ite (intent id), role,
        by simp only [View.update, latestIntent], bound, resolved, latest, seen, kind, count⟩
    | resolveTurnIntent turnIntentId =>
      exact ⟨allocation, thread, intent, role, latestIntent, bound,
        by simp only [View.update, resolved], latest, seen, kind, count⟩
    | addBoundTurn turnIntentId turnId threadId =>
      exact ⟨allocation, thread, intent, role, latestIntent, by simp only [View.update, bound],
        by simp only [View.update, resolved], by simp only [View.update, latest], seen, kind, count⟩
    | addLifecycle event threadId outcome =>
      exact ⟨allocation, thread, intent, role, latestIntent, bound, resolved, latest,
        by simp only [View.update, seen], by simp only [View.update, kind], count⟩
    | incrementCertification =>
      exact ⟨allocation, thread, intent, role, latestIntent, bound, resolved, latest, seen, kind,
        by simp only [View.update, count]⟩
  | allocationIntent allocationId roleName =>
    exact ⟨fun id => (SameAnswer.appended _).ite (allocation id), thread, intent,
      by simp only [View.update, role], latestIntent, bound, resolved, latest, seen, kind, count⟩
  | threadBinding threadId =>
    exact ⟨allocation, fun id => (SameAnswer.appended _).ite (thread id), intent, role,
      latestIntent, bound, resolved, latest, seen, kind, count⟩
  | turnIntent turnIntentId threadId =>
    exact ⟨allocation, thread, fun id => (SameAnswer.appended _).ite (intent id), role,
      by simp only [View.update, latestIntent], bound, resolved, latest, seen, kind, count⟩

theorem Agrees.updates {committed rebuilt : View} (agrees : Agrees entry committed rebuilt)
    {left right : List Update} (anchors : List.Forall₂ (Anchors entry) left right) :
    Agrees entry (committed.updates left) (rebuilt.updates right) := by
  induction anchors generalizing committed rebuilt with
  | nil => exact agrees
  | cons first _ ih => exact ih (agrees.update first)

def Update.entry? : Update → Option Json
  | .addAllocationIntent _ _ entry => some entry
  | .addThreadBinding _ entry => some entry
  | .addTurnIntent _ _ entry => some entry
  | _ => none

theorem entry?_effect {spell : Json → String} {view : View} {number : Nat} {change : Update}
    (member : change ∈ (effect spell view number entry).updates) :
    change.entry? = none ∨ change.entry? = some entry := by
  unfold effect at member
  dsimp only at member
  split at member
  · simp only [certificationBound, mem_singleton] at member
    rw [member]
    exact .inl rfl
  split at member
  · cases member
  split at member
  · unfold allocationIntentEffect at member
    dsimp only at member
    split at member
    · rw [mem_singleton.mp member]
      exact .inr rfl
    · cases member
  split at member
  · unfold threadBoundEffect at member
    dsimp only at member
    split at member
    · rw [mem_singleton.mp member]
      exact .inr rfl
    · cases member
  split at member
  · unfold turnIntentEffect at member
    dsimp only at member
    split at member
    · rw [mem_singleton.mp member]
      exact .inr rfl
    · cases member
  split at member
  · unfold turnBoundEffect at member
    dsimp only at member
    split at member
    · rw [mem_singleton.mp member]
      exact .inl rfl
    · cases member
  split at member
  · left
    rcases mem_append.mp member with resolves | records
    · split at resolves
      · rw [mem_singleton.mp resolves]
        rfl
      · cases resolves
    · split at records
      · rw [mem_singleton.mp records]
        rfl
      · cases records
  · cases member

theorem anchors_of_unanchored {left right : Update} (same : left.unanchored = right.unanchored)
    (leftEntry : left.entry? = none ∨ left.entry? = some (unhashed entry))
    (rightEntry : right.entry? = none ∨ right.entry? = some entry) : Anchors entry left right := by
  cases left with
  | addAllocationIntent allocationId role other =>
    cases right with
    | addAllocationIntent id name another =>
      obtain ⟨rfl, rfl, _⟩ := Update.addAllocationIntent.inj same
      obtain rfl := Option.some.inj (leftEntry.resolve_left (by simp [Update.entry?]))
      obtain rfl := Option.some.inj (rightEntry.resolve_left (by simp [Update.entry?]))
      exact .allocationIntent _ _
    | _ => cases same
  | addThreadBinding threadId other =>
    cases right with
    | addThreadBinding id another =>
      obtain ⟨rfl, _⟩ := Update.addThreadBinding.inj same
      obtain rfl := Option.some.inj (leftEntry.resolve_left (by simp [Update.entry?]))
      obtain rfl := Option.some.inj (rightEntry.resolve_left (by simp [Update.entry?]))
      exact .threadBinding _
    | _ => cases same
  | addTurnIntent turnIntentId threadId other =>
    cases right with
    | addTurnIntent id thread another =>
      obtain ⟨rfl, rfl, _⟩ := Update.addTurnIntent.inj same
      obtain rfl := Option.some.inj (leftEntry.resolve_left (by simp [Update.entry?]))
      obtain rfl := Option.some.inj (rightEntry.resolve_left (by simp [Update.entry?]))
      exact .turnIntent _ _
    | _ => cases same
  | _ =>
    cases right
    all_goals first | (cases same; exact .same _) | cases same

theorem forall₂_anchors {left right : List Update}
    (same : left.map Update.unanchored = right.map Update.unanchored)
    (leftEntries : ∀ change ∈ left, change.entry? = none ∨ change.entry? = some (unhashed entry))
    (rightEntries : ∀ change ∈ right, change.entry? = none ∨ change.entry? = some entry) :
    List.Forall₂ (Anchors entry) left right := by
  induction left generalizing right with
  | nil =>
    cases right with
    | nil => exact .nil
    | cons other others => cases same
  | cons change rest ih =>
    cases right with
    | nil => cases same
    | cons other others =>
      obtain ⟨head, tail⟩ := List.cons.inj same
      obtain ⟨leftHead, leftTail⟩ := forall_mem_cons.mp leftEntries
      obtain ⟨rightHead, rightTail⟩ := forall_mem_cons.mp rightEntries
      exact .cons (anchors_of_unanchored head leftHead rightHead) (ih tail leftTail rightTail)

section

variable {spell : Json → String}

/-- The check of an append reports no error. -/
def ChecksClean (spell : Json → String) (ledger : Json) (base : SemanticIndex) (fields : Fields) :
    Prop :=
  ∃ entry candidate, checkAppend spell (ledger.value "ledger_id") (entriesOf ledger).length
    (ledger.value "head_entry_sha256") base fields = .ok ([], entry, candidate)

/-- A full validation finds no error in the files, and builds this index. -/
def Validates (spell : Json → String) (ledger : Json) (audit : AuditBytes) (index : SemanticIndex) :
    Prop :=
  ∃ validated, validateWithIndex spell ledger (some audit) = .ok validated ∧
    validated.errors = [] ∧ validated.index = index

/-- The ledger and the audit file with one more entry are accepted. -/
def Revalidates (spell : Json → String) (recording : Recording) (ledger : Json) (lines : List Line)
    (fields : Fields) : Prop :=
  ∃ next after index, extended recording ledger lines fields = .ok (next, after) ∧
    Validates spell next ⟨after, true⟩ index

/-- An accepted audit file is empty or ends with a line break. -/
theorem validates_terminated {ledger : Json} {audit : AuditBytes} {index : SemanticIndex}
    (validates : Validates spell ledger audit index) :
    Validates spell ledger ⟨audit.lines, true⟩ index := by
  obtain ⟨lines, terminated⟩ := audit
  obtain ⟨validated, checked, clean, rfl⟩ := validates
  cases terminated with
  | true => exact ⟨validated, checked, clean, rfl⟩
  | false =>
    cases lines with
    | nil => exact ⟨validated, checked, clean, rfl⟩
    | cons line rest =>
      unfold validateWithIndex at checked
      by_cases fields : ledger.hasExactly ledgerFields = true
      · rw [fields] at checked
        obtain ⟨_, _, checked⟩ := bind_ok checked
        obtain ⟨⟨audits, auditErrors⟩, loaded, checked⟩ := bind_ok checked
        obtain ⟨⟨entryErrors, head, walked⟩, _, checked⟩ := bind_ok checked
        obtain ⟨expected, _, checked⟩ := bind_ok checked
        cases checked
        have broken : auditErrors = ["ledger-audit-chain-invalid"] := by
          cases loaded
          rfl
        have none := sortedSet_eq_nil.mp clean
        simp only [ledgerErrors, append_eq_nil_iff] at none
        obtain ⟨⟨⟨⟨⟨⟨_, quiet⟩, _⟩, _⟩, _⟩, _⟩, _⟩ := none
        rw [broken] at quiet
        cases quiet
      · rw [Bool.not_eq_true] at fields
        rw [fields] at checked
        cases checked
        cases clean

theorem accepted_of_validates {ledger : Json} {lines : List Line} {index : SemanticIndex}
    (validates : Validates spell ledger ⟨lines, true⟩ index) :
    ∃ entries audits, Accepted spell ledger lines entries audits index ∧ entriesOf ledger = entries := by
  obtain ⟨validated, checked, clean, rfl⟩ := validates
  obtain ⟨entries, audits, accepted⟩ := accepted_of_validate checked clean
  refine ⟨entries, audits, accepted, ?_⟩
  unfold entriesOf
  rw [accepted.entries_eq]
  rfl

/-- What a store has committed is what a restart rebuilds, up to the hash of the new entry. -/
theorem agrees_of_appended {surroundings : Surroundings} {fields : Fields} {before after : Store}
    {entry : Json} (validates : Validates spell before.ledger ⟨before.audit, true⟩ before.object)
    (appended : Appended spell surroundings fields before entry after) :
    ∃ index, Validates spell after.ledger ⟨after.audit, true⟩ index ∧
      Agrees entry after.object.view index.view := by
  rcases appended with rfl | committed
  · exact ⟨_, validates, .refl _ _⟩
  have trustworthy : Trustworthy spell before := by
    obtain ⟨validated, checked, clean, same⟩ := validates
    refine ⟨validated, checked, clean, ?_⟩
    rw [same]
    exact rfl
  obtain ⟨later, checkedLater, cleanLater, _⟩ := trustworthy.append (.inr committed)
  refine ⟨later.index, ⟨later, checkedLater, cleanLater, rfl⟩, ?_⟩
  obtain ⟨trusted, unanchored, candidate, known, checked, committed⟩ := committed
  obtain ⟨entries, audits, accepted, old⟩ := accepted_of_validates validates
  obtain ⟨_, _, _, _, _, _, matched⟩ := known
  obtain ⟨_, ledgerId, count, head, _⟩ := coordinatesMatch_ok matched
  rw [old] at count
  rw [ledgerId, count, head] at checked
  obtain ⟨digest, hashed, rfl, _, _, _, rfl, _⟩ := checkAppend_clean.mp checked
  obtain ⟨audit, recorded, rfl, written⟩ := committed.recorded
  rw [count] at recorded written
  obtain ⟨_, _, _, _, _, read⟩ := readAuditChain_recorded accepted.audits_eq recorded
  have rebuilt := (validate_extended accepted hashed written read).mp ⟨checkedLater, cleanLater⟩
  obtain ⟨_, _, _, _, _, laterEq⟩ := rebuilt
  rw [laterEq, committed.object, SemanticCandidate.view_commit, SemanticCandidate.view_updates,
    SemanticIndex.view_clone, SemanticIndex.view_updates]
  refine (Agrees.refl _ _).updates ?_
  have similar : Similar before.object.view before.object.view := rfl
  have same := congrArg Effect.updates (@effect_anchoredEntry spell before.ledger entries _ _ fields
    similar digest (audit.value "event_hash"))
  exact forall₂_anchors same (fun _ => entry?_effect) fun _ => entry?_effect

/--
The check of an append accepts the entries with which a full validation accepts the
extended ledger; what a successful append has committed is what a restart rebuilds,
apart from the audit hash of the new entry; a failed append leaves the index alone.
-/
theorem incremental_append_revalidates {ledger : Json} {audit : AuditBytes} {index : SemanticIndex}
    (validates : Validates spell ledger audit index) (fields : Fields) :
    (∀ recording, ChecksClean spell ledger index fields ↔
      Revalidates spell recording ledger audit.lines fields) ∧
    (∀ surroundings guards store entry after, store.ledger = ledger → store.audit = audit.lines →
      store.object = index → append spell surroundings guards fields store = .ok entry after →
      ∃ rebuilt, Validates spell after.ledger ⟨after.audit, true⟩ rebuilt ∧
        Agrees entry after.object.view rebuilt.view) ∧
    ∀ surroundings guards store error after,
      append spell surroundings guards fields store = .error error after →
        after.object = store.object := by
  have complete := validates_terminated validates
  refine ⟨?_, ?_, ?_⟩
  · intro recording
    obtain ⟨entries, audits, accepted, old⟩ := accepted_of_validates complete
    unfold ChecksClean Revalidates
    rw [old]
    have similar : Similar index.view index.view := rfl
    rw [@checked_iff_validated _ _ _ _ _ _ _ recording _ accepted similar]
    constructor
    · rintro ⟨next, after, validated, extension, checked, clean⟩
      exact ⟨next, after, _, extension, validated, checked, clean, rfl⟩
    · rintro ⟨next, after, _, extension, validated, checked, clean, _⟩
      exact ⟨next, after, validated, extension, checked, clean⟩
  · intro surroundings guards store entry after ledgerEq auditEq objectEq returned
    have ends := (@triple_append spell surroundings guards fields store).ends store rfl
    rw [returned] at ends
    subst ledgerEq objectEq
    rw [← auditEq] at complete
    exact agrees_of_appended complete ends
  · intro surroundings guards store error after raised
    have ends := (@triple_append spell surroundings guards fields store).ends store rfl
    rw [raised] at ends
    exact ends.1

end

def sampleUuid : Json := .str "00000000-0000-4000-8000-000000000001"

def sampleBindings : Json :=
  let digest := Json.sha256 (.str "document")
  .obj [("bead_id", .str "bead-1"), ("authorization_id", sampleUuid),
    ("authorization_raw_sha256", digest), ("authorization_canonical_sha256", digest),
    ("campaign_nonce", sampleUuid), ("live_generation", .int 4), ("predecessor_generation", .int 3),
    ("checkpoint_commit", .str "0123456789abcdef0123456789abcdef01234567"),
    ("guarded_primary_diff_sha256", digest), ("predecessor_containment_sha256", digest),
    ("pre_mutation_steering_receipt_sha256", digest), ("pre_live_steering_receipt_sha256", digest),
    ("certification_policy_sha256", digest),
    ("controller_identity", .obj [("pid", .int 1), ("start_ticks", .int 1),
      ("boot_id_sha256", digest)]),
    ("connection_epoch_sha256", digest),
    ("retention_class", .str "private-local-until-bead-closure"),
    ("expected_roles", Json.strings expectedRoles)]

def sampleState : Json :=
  .obj [("ledger_type", .str "cwo-native-live-allocation-ledger:v1"), ("version", .int 1),
    ("schema", .str "schemas/native-live-allocation-ledger.schema.json"),
    ("ledger_id", sampleUuid), ("bindings", sampleBindings), ("sequence", .int 0),
    ("entries", .arrEnd), ("head_entry_sha256", .null)]

def sampleLedger : Json :=
  sampleState.set "state_sha256"
    (.sha256 (.obj [("cwo:native-live-allocation-ledger-state:v1", sampleState.canonical)]))

def sampleIntent : Fields where
  event := .str "allocation-intent"
  role := .str "capability-calibration"
  ordinal := .int 0
  allocationIntentId := sampleUuid
  outcome := .str "pending"

def sampleSpelling : Json → String := fun _ => "value"

def sampleRecording : Recording where
  spell _ := .ok "value"
  auditFile := "audit.jsonl"
  timestamp := "2026-01-01T00:00:00Z"
  requireLock := true

theorem validates_sampleLedger : Validates sampleSpelling sampleLedger ⟨[], true⟩ ⟨.empty⟩ := by
  have accepted : Accepted sampleSpelling sampleLedger [] [] [] ⟨.empty⟩ := by
    refine ⟨?_, ?_, ?_, ?_, ?_, ?_, ?_, rfl, rfl, rfl, ?_, ?_⟩
    all_goals decide +kernel
  exact ⟨_, accepted.validate, rfl, rfl⟩

/-- The thread that is bound to that intent. -/
def sampleThread : Fields where
  event := .str "thread-bound"
  role := .str "capability-calibration"
  ordinal := .int 0
  allocationIntentId := sampleUuid
  threadId := .str "00000000-0000-4000-8000-000000000002"
  outcome := .str "bound"

/--
What the checks report of the intent, of the ledger that it extends and of the thread behind it, and whether
the committed and the rebuilt index answer differently for the intent.
-/
def sampleAnswers : Except PyError (List String × List String × List String × Bool) := do
  let (errors, _, candidate) ← checkAppend sampleSpelling (sampleLedger.value "ledger_id")
    (entriesOf sampleLedger).length (sampleLedger.value "head_entry_sha256") ⟨.empty⟩ sampleIntent
  let (next, after) ← extended sampleRecording sampleLedger [] sampleIntent
  let validated ← validateWithIndex sampleSpelling next (some ⟨after, true⟩)
  let (later, _, _) ← checkAppend sampleSpelling (next.value "ledger_id") (entriesOf next).length
    (next.value "head_entry_sha256") validated.index sampleThread
  return (errors, validated.errors, later, candidate.commit.view.allocationIntent sampleUuid ≠
    validated.index.view.allocationIntent sampleUuid)

theorem sample_answers : sampleAnswers = .ok ([], [], [], true) := by decide +kernel

/-- The intent of the sample is accepted on both paths, and so is the thread on the ledger that holds it. -/
theorem incremental_append_sample : ∃ next after index,
    Validates sampleSpelling next ⟨after, true⟩ index ∧
      (ChecksClean sampleSpelling sampleLedger ⟨.empty⟩ sampleIntent ∧
        Revalidates sampleSpelling sampleRecording sampleLedger [] sampleIntent) ∧
      ChecksClean sampleSpelling next index sampleThread ∧
        Revalidates sampleSpelling sampleRecording next after sampleThread := by
  have answers := sample_answers
  unfold sampleAnswers at answers
  obtain ⟨⟨errors, entry, candidate⟩, checked, answers⟩ := bind_ok answers
  obtain ⟨⟨next, after⟩, extension, answers⟩ := bind_ok answers
  obtain ⟨validated, rebuilt, answers⟩ := bind_ok answers
  obtain ⟨⟨later, entry', candidate'⟩, checked', answers⟩ := bind_ok answers
  have parts := Except.ok.inj answers
  simp only [Prod.mk.injEq] at parts
  obtain ⟨rfl, clean, rfl, _⟩ := parts
  have validates : Validates sampleSpelling next ⟨after, true⟩ validated.index :=
    ⟨validated, rebuilt, clean, rfl⟩
  have first : ChecksClean sampleSpelling sampleLedger ⟨.empty⟩ sampleIntent := ⟨entry, candidate, checked⟩
  have second : ChecksClean sampleSpelling next validated.index sampleThread :=
    ⟨entry', candidate', checked'⟩
  exact ⟨next, after, _, validates,
    ⟨first, ((incremental_append_revalidates validates_sampleLedger sampleIntent).1
      sampleRecording).mp first⟩,
    second, ((incremental_append_revalidates validates sampleThread).1 sampleRecording).mp second⟩

/-- The committed index holds the new entry without the hash that a restart reads with it. -/
theorem committed_entry_lacks_audit_hash : ∃ entry candidate next after rebuilt,
      Validates sampleSpelling sampleLedger ⟨[], true⟩ ⟨.empty⟩ ∧
      checkAppend sampleSpelling (sampleLedger.value "ledger_id") (entriesOf sampleLedger).length
        (sampleLedger.value "head_entry_sha256") ⟨.empty⟩ sampleIntent =
          .ok ([], entry, candidate) ∧
      extended sampleRecording sampleLedger [] sampleIntent = .ok (next, after) ∧
      Validates sampleSpelling next ⟨after, true⟩ rebuilt ∧
      candidate.commit.view.allocationIntent sampleUuid ≠ rebuilt.view.allocationIntent sampleUuid := by
  have answers := sample_answers
  unfold sampleAnswers at answers
  obtain ⟨⟨errors, entry, candidate⟩, checked, answers⟩ := bind_ok answers
  obtain ⟨⟨next, after⟩, extension, answers⟩ := bind_ok answers
  obtain ⟨validated, rebuilt, answers⟩ := bind_ok answers
  obtain ⟨_, _, answers⟩ := bind_ok answers
  have parts := Except.ok.inj answers
  simp only [Prod.mk.injEq, decide_eq_true_eq] at parts
  obtain ⟨rfl, clean, _, differs⟩ := parts
  exact ⟨entry, candidate, next, after, validated.index, validates_sampleLedger, checked, extension,
    ⟨validated, rebuilt, clean, rfl⟩, differs⟩

end WorkOrchestration.Native.LiveLedger
