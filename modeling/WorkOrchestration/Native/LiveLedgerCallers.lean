import WorkOrchestration.Native.LiveLedgerIncremental
import WorkOrchestration.Native.LiveLedgerUniqueness

/-!
# Any number of callers

Every section of every caller keeps the answers of the store in step with its
ledger, and every prepared append knows what its own check has seen.  As long as
nothing that competes with it is appended in between, the ledger stays unique in
every respect.
-/

namespace WorkOrchestration.Native.LiveLedger

open List Lib.Checks Lib.Programs Audit Artifacts
open Artifacts.Json (hashable isOneOf)
open Triple (cleanup get_bind ofExcept)

/-! ## The ledger file -/

variable {ledger : Json}

/-- Validations and openings leave the ledger file alone. -/
theorem triple_fullValidate_ledger {spell : Json → String} {surroundings : Surroundings}
    {failure : String} :
    Triple (fun current => current.ledger = ledger) (fullValidate spell surroundings failure)
      (fun _ after => after.ledger = ledger) (fun after => after.ledger = ledger) := by
  have stay {α : Type} (result : Except PyError α) :
      Triple (fun current : Store => current.ledger = ledger) (ofExcept result)
        (fun _ current => current.ledger = ledger) (fun current => current.ledger = ledger) :=
    ofExcept (fun _ _ _ same => same) fun _ same => same
  refine cleanup (get_bind fun current same => ?_) (Triple.modify fun _ same => same)
  refine Triple.bind ((stay _).consequence (fun _ equal => by rw [equal]; exact same)
    (fun _ _ => id) fun _ => id) fun ledgerFile => ?_
  refine Triple.bind (stay _) fun auditFile => ?_
  refine Triple.bind (stay _) fun validated => ?_
  refine Triple.bind ((triple_demand _ _).consequence (fun _ => id) (fun _ _ holds => holds.1)
    fun _ => id) fun _ => ?_
  refine Triple.bind (stay _) fun proofs => ?_
  refine Triple.bind (stay _) fun _ => ?_
  refine Triple.bind ?_ fun _ => Triple.pure fun _ same => same
  exact Triple.bind (stay _) fun _ => Triple.modify fun _ same => same

theorem upkeep_ledger {spell : Json → String} {surroundings : Surroundings}
    (call : Upkeep) :
    Triple (fun current => current.ledger = ledger) (call.call.program spell surroundings)
      (fun _ after => after.ledger = ledger) (fun after => after.ledger = ledger) := by
  have disarms {fail : Store → Prop} : Triple (fun current : Store => current.ledger = ledger) disarm
      (fun _ after => after.ledger = ledger) fail :=
    Triple.modify fun _ same => same
  have validation : Triple (fun current => current.ledger = ledger)
      (fullValidation spell surroundings) (fun _ after => after.ledger = ledger)
      (fun after => after.ledger = ledger) :=
    Triple.bind (ofExcept (fun _ _ _ same => same) fun _ same => same)
      fun (_ : Unit) => triple_fullValidate_ledger
  cases call with
  | openStore => exact Triple.bind disarms fun _ => validation
  | fullValidation => exact validation
  | closeStore =>
    refine Triple.bind (cleanup validation disarms) fun state => ?_
    exact Triple.bind disarms fun _ => Triple.pure fun _ same => same

/-- A store whose index, when it is armed, answers for exactly the entries of its ledger. -/
structure Kept (spell : Json → String) (store : Store) (view : View) : Prop where
  walks : Walks spell (entriesOf store.ledger) view
  records : Records spell (entriesOf store.ledger) view
  linked : Linked spell (entriesOf store.ledger)
  unique : Unique (entriesOf store.ledger)
  armed : store.indexed = true →
    store.ledger.hasExactly ledgerFields = true ∧ Similar store.object.view view

section

variable {spell : Json → String} {store after : Store} {view : View}

theorem Kept.of_ledger (kept : Kept spell store view) (same : after.ledger = store.ledger)
    (armed : after.indexed = true →
      after.ledger.hasExactly ledgerFields = true ∧ Similar after.object.view view) :
    Kept spell after view := by
  obtain ⟨walks, records, linked, unique, _⟩ := kept
  rw [← same] at walks records linked unique
  exact ⟨walks, records, linked, unique, armed⟩

theorem Kept.of_disarmed (kept : Kept spell store view) (same : after.ledger = store.ledger)
    (disarmed : after.indexed = false) : Kept spell after view := by
  refine kept.of_ledger same fun armed => ?_
  rw [disarmed] at armed
  cases armed

theorem Kept.of_trustworthy (kept : Kept spell store view) (same : after.ledger = store.ledger)
    (trustworthy : Trustworthy spell after) : Kept spell after view := by
  refine kept.of_ledger same fun _ => ?_
  obtain ⟨validated, valid, clean, similar⟩ := trustworthy
  obtain ⟨entries, audits, accepted⟩ := accepted_of_validate valid clean
  have walked := walks_of_validateEntries accepted.head
  have old : entriesOf after.ledger = entries := by
    unfold entriesOf
    rw [accepted.entries_eq]
    rfl
  have walks := kept.walks
  rw [← same, old] at walks
  rw [walks.deterministic walked]
  exact ⟨accepted.fields, similar⟩

/-- Opening, validating and closing. -/
theorem Kept.upkeep {surroundings : Surroundings} (call : Upkeep) :
    Triple (fun current => Kept spell current view) (call.call.program spell surroundings)
      (fun _ after => Kept spell after view) (fun after => Kept spell after view) := by
  have disarms {fail : Store → Prop} :
      Triple (fun current => Kept spell current view) disarm (fun _ after => Kept spell after view)
        fail :=
    Triple.modify fun _ kept => kept.of_disarmed rfl rfl
  have validates (failure : String) :
      Triple (fun current => Kept spell current view) (fullValidate spell surroundings failure)
        (fun _ after => Kept spell after view) (fun after => Kept spell after view) := by
    refine Triple.of_state fun current kept => ?_
    refine (triple_fullValidate.and triple_fullValidate_ledger).consequence
      (fun _ same => ⟨same, congrArg Store.ledger same⟩) ?_ ?_
    · rintro _ after ⟨trustworthy, same⟩
      exact kept.of_trustworthy same trustworthy
    · rintro after ⟨disarmed, same⟩
      exact kept.of_disarmed same disarmed
  have validation : Triple (fun current => Kept spell current view)
      (fullValidation spell surroundings) (fun _ after => Kept spell after view)
      (fun after => Kept spell after view) :=
    Triple.bind (ofExcept (fun _ _ _ kept => kept) fun _ kept => kept)
      fun (_ : Unit) => validates "ledger-invalid"
  cases call with
  | openStore => exact Triple.bind disarms fun _ => validation
  | fullValidation => exact validation
  | closeStore =>
    refine Triple.bind (cleanup validation disarms) fun state => ?_
    exact Triple.bind disarms fun _ => Triple.pure fun _ kept => kept

end

/-! ## What an append adds -/

/-- Fields that are texts in the entries where a reader relies on it. -/
structure Fields.Texts (fields : Fields) : Prop where
  allocation : fields.event = .str "thread-bound" → isText fields.allocationIntentId = true
  thread : fields.event = .str "turn-intent" ∨
    isOneOf ["interrupt-observed", "archive-observed", "containment-audited"] fields.event = true →
      isText fields.threadId = true

/-- Nothing that competes with the fields has been appended since they were checked. -/
structure Uncontested (entries : List Json) (checkedAt : Nat) (fields : Fields) : Prop where
  thread : fields.event = .str "thread-bound" → ∀ other ∈ entries, isEvent "thread-bound" other →
    other.value "allocation_intent_id" ≠ fields.allocationIntentId
  turnIntent : fields.event = .str "turn-intent" → ∀ other ∈ entries.drop checkedAt,
    isEvent "turn-intent" other → other.value "thread_id" ≠ fields.threadId
  lifecycle : fields.event = .str "interrupt-observed" ∨ fields.event = .str "archive-observed" →
    ∀ other ∈ entries.drop checkedAt, other.value "event" = fields.event →
      other.value "thread_id" = fields.threadId → other.value "outcome" ≠ fields.outcome

/-- What the check of an append has seen of the entries that were there. -/
structure Checked (entries : List Json) (checkedAt : Nat) (fields : Fields) : Prop where
  texts : fields.Texts
  turnIntent : fields.event = .str "turn-intent" → ∀ other ∈ entries.take checkedAt,
    isEvent "turn-intent" other → other.value "thread_id" ≠ fields.threadId
  lifecycle : fields.event = .str "interrupt-observed" ∨ fields.event = .str "archive-observed" →
    ∀ other ∈ entries.take checkedAt, other.value "event" = fields.event →
      other.value "thread_id" = fields.threadId → other.value "outcome" ≠ fields.outcome

instance (entries : List Json) (checkedAt : Nat) (fields : Fields) :
    Decidable (Uncontested entries checkedAt fields) :=
  decidable_of_iff
    ((fields.event = .str "thread-bound" → ∀ other ∈ entries, isEvent "thread-bound" other →
        other.value "allocation_intent_id" ≠ fields.allocationIntentId) ∧
      (fields.event = .str "turn-intent" → ∀ other ∈ entries.drop checkedAt,
        isEvent "turn-intent" other → other.value "thread_id" ≠ fields.threadId) ∧
      (fields.event = .str "interrupt-observed" ∨ fields.event = .str "archive-observed" →
        ∀ other ∈ entries.drop checkedAt, other.value "event" = fields.event →
          other.value "thread_id" = fields.threadId → other.value "outcome" ≠ fields.outcome))
    ⟨fun parts => ⟨parts.1, parts.2.1, parts.2.2⟩,
      fun free => ⟨free.thread, free.turnIntent, free.lifecycle⟩⟩

/-- A section that appends nothing, or what nothing has competed with. -/
def Stage.Uncontested (entries : List Json) : Stage → Prop
  | .appends _ checkedAt _ fields => LiveLedger.Uncontested entries checkedAt fields
  | _ => True

instance (entries : List Json) : DecidablePred (Stage.Uncontested entries)
  | .appends _ checkedAt _ fields =>
    inferInstanceAs (Decidable (LiveLedger.Uncontested entries checkedAt fields))
  | .reads _ => isTrue trivial
  | .checksResolved .. => isTrue trivial

section

variable {spell : Json → String} {entries : List Json} {checkedAt : Nat} {fields : Fields}

theorem Checked.undone (checked : Checked entries checkedAt fields)
    (uncontested : Uncontested entries checkedAt fields) {sequence : Nat}
    {head digest auditHash : Json} :
    Undone entries (fields.entry sequence head digest auditHash) := by
  have everywhere {property : Json → Prop} (before : ∀ other ∈ entries.take checkedAt, property other)
      (since : ∀ other ∈ entries.drop checkedAt, property other) : ∀ other ∈ entries, property other := by
    intro other member
    rw [← take_append_drop checkedAt entries] at member
    exact (mem_append.mp member).elim (before other) (since other)
  constructor
  · exact uncontested.thread
  · intro event
    exact everywhere (checked.turnIntent event) (uncontested.turnIntent event)
  · intro event
    exact everywhere (checked.lifecycle event) (uncontested.lifecycle event)

theorem Fields.Texts.entry (texts : fields.Texts) {sequence : Nat} {head digest auditHash : Json} :
    LiveLedger.Texts (fields.entry sequence head digest auditHash) :=
  ⟨texts.allocation, texts.thread⟩

/-- A store with one more entry, which was checked against the index. -/
theorem Kept.extend {store after : Store} {view : View} {ledgerId head unanchored hash : Json}
    {candidate : SemanticCandidate} (kept : Kept spell store view) (armed : store.indexed = true)
    (prepared : Checked (entriesOf store.ledger) checkedAt fields)
    (uncontested : Uncontested (entriesOf store.ledger) checkedAt fields)
    (checked : checkAppend spell ledgerId (entriesOf store.ledger).length head store.object fields =
      .ok ([], unanchored, candidate))
    (extension : LiveLedger.extend store.ledger (unanchored.set "audit_event_hash" hash)
      ((entriesOf store.ledger).length + 1) = .ok after.ledger)
    (later : after.indexed = false ∨ after.object = candidate.commit) :
    ∃ next, Kept spell after next ∧
      entriesOf after.ledger = entriesOf store.ledger ++ [unanchored.set "audit_event_hash" hash] := by
  obtain ⟨exact, similar⟩ := kept.armed armed
  obtain ⟨digest, hashed, rfl, gate, event, clean, rfl, certification⟩ := checkAppend_clean.mp checked
  obtain ⟨exactLater, _, found, _⟩ := extend_ok exact extension
  have entries_eq : entriesOf after.ledger = entriesOf store.ledger ++
      [fields.entry ((entriesOf store.ledger).length + 1) head digest hash] := by
    unfold entriesOf at found ⊢
    rw [found]
    rfl
  -- the index and the walk differ in audit hashes only, and so do the two entries
  have bare : LiveLedger.unanchored
      (fields.entry ((entriesOf store.ledger).length + 1) head digest .null) = LiveLedger.unanchored
          (fields.entry ((entriesOf store.ledger).length + 1) head digest hash) := by
    rw [unanchored_entry, unanchored_entry]
  have same := effect_similar similar bare spell ((entriesOf store.ledger).length + 1)
  have cleanLater := (errors_of_unanchored same).symm.trans clean
  have after_similar : Similar ((effect spell store.object.view
      ((entriesOf store.ledger).length + 1)
        (fields.entry ((entriesOf store.ledger).length + 1) head digest .null)).updates.foldl
          SemanticCandidate.update store.object.clone).view
      (view.updates (effect spell view ((entriesOf store.ledger).length + 1)
        (fields.entry ((entriesOf store.ledger).length + 1) head digest hash)).updates) := by
    rw [SemanticCandidate.view_updates, SemanticIndex.view_clone]
    exact similar.updates (congrArg Effect.updates same)
  rw [after_similar.certificationCount] at certification
  have texts := @Fields.Texts.entry _ prepared.texts ((entriesOf store.ledger).length + 1) head digest
    hash
  have adds := adds_of_clean texts event cleanLater
  refine ⟨view.updates (effect spell view ((entriesOf store.ledger).length + 1)
    (fields.entry ((entriesOf store.ledger).length + 1) head digest hash)).updates,
    ⟨?_, ?_, ?_, ?_, ?_⟩, entries_eq⟩
  · rw [entries_eq]
    exact kept.walks.snoc event cleanLater
  · rw [entries_eq]
    exact kept.records.snoc adds
  · rw [entries_eq]
    exact linked_snoc kept.records kept.linked texts cleanLater
  · rw [entries_eq]
    exact kept.unique.snoc kept.records kept.linked texts (prepared.undone uncontested) cleanLater
      certification
  · intro armedLater
    rcases later with disarmed | committed
    · rw [disarmed] at armedLater
      cases armedLater
    · rw [committed, SemanticCandidate.view_commit]
      exact ⟨exactLater, after_similar⟩

end

/-! ## What a check has seen -/

section

variable {spell : Json → String} {entries : List Json} {view : View} {index : SemanticIndex}

variable {left right : View}

section

variable (similar : Similar left right)

include similar

theorem Similar.lifecycleSeen : left.lifecycleSeen = right.lifecycleSeen := by
  have seen : left.unanchored.lifecycleSeen = right.unanchored.lifecycleSeen := by
    rw [show left.unanchored = right.unanchored from similar]
  exact seen

theorem Similar.latestTurnIntentId : left.latestTurnIntentId = right.latestTurnIntentId := by
  have latest : left.unanchored.latestTurnIntentId = right.unanchored.latestTurnIntentId := by
    rw [show left.unanchored = right.unanchored from similar]
  exact latest

theorem Similar.threadBinding {id found : Json} (bound : left.threadBinding id = some found) :
    ∃ other, right.threadBinding id = some other := by
  have same : left.unanchored.threadBinding id = right.unanchored.threadBinding id := by
    rw [show left.unanchored = right.unanchored from similar]
  change (left.threadBinding id).map unanchored = (right.threadBinding id).map unanchored at same
  rw [bound] at same
  cases other : right.threadBinding id with
  | none =>
    rw [other] at same
    cases same
  | some binding => exact ⟨binding, rfl⟩

theorem Similar.allocationIntent {id found : Json} (bound : left.allocationIntent id = some found) :
    ∃ other, right.allocationIntent id = some other := by
  have same : left.unanchored.allocationIntent id = right.unanchored.allocationIntent id := by
    rw [show left.unanchored = right.unanchored from similar]
  change (left.allocationIntent id).map unanchored = (right.allocationIntent id).map unanchored at same
  rw [bound] at same
  cases other : right.allocationIntent id with
  | none =>
    rw [other] at same
    cases same
  | some intent => exact ⟨intent, rfl⟩

end

theorem threadBinding_ok {threadId binding latestIntent latestTurn : Json}
    (records : Records spell entries view) (similar : Similar index.view view)
    (asked : threadBinding index threadId = .ok (binding, latestIntent, latestTurn)) :
    isText threadId = true ∧ (latestIntent = .null → view.latestTurnIntentId threadId = none) := by
  obtain ⟨_, _, asked⟩ := bind_ok asked
  cases found : index.view.threadBinding threadId with
  | none =>
    rw [found] at asked
    cases asked
  | some bound =>
    rw [found] at asked
    cases asked
    obtain ⟨other, known⟩ := similar.threadBinding found
    refine ⟨(records.threadBinding threadId other known).2.2.2, ?_⟩
    rw [similar.latestTurnIntentId]
    intro missing
    cases latest : view.latestTurnIntentId threadId with
    | none => rfl
    | some value =>
      rw [latest] at missing
      rw [show value = .null from missing] at latest
      exact (records.latestPresent threadId latest).elim

end

/-- What a caller can rely on in its next section. -/
def Prepared (entries : List Json) : Stage → Prop
  | .reads operation => operation.begin = .ok (.reads operation)
  | .checksResolved threadId _ _ _ _ _ => isText threadId = true
  | .appends _ checkedAt _ fields => checkedAt ≤ entries.length ∧ Checked entries checkedAt fields

theorem Prepared.append {entries : List Json} {stage : Stage} (prepared : Prepared entries stage)
    (more : List Json) : Prepared (entries ++ more) stage := by
  cases stage with
  | reads | checksResolved => exact prepared
  | appends operation checkedAt guards fields =>
    obtain ⟨bounded, checked⟩ := prepared
    refine ⟨by rw [length_append]; omega, checked.texts, ?_, ?_⟩
    · rw [take_append_of_le_length bounded]
      exact checked.turnIntent
    · rw [take_append_of_le_length bounded]
      exact checked.lifecycle

variable {fields : Fields}

theorem prepared_of_event {entries : List Json} {operation : Operation} {checkedAt : Nat}
    {guards : Guards} (bounded : checkedAt ≤ entries.length) (texts : fields.Texts)
    (notIntent : fields.event ≠ .str "turn-intent")
    (notInterrupt : fields.event ≠ .str "interrupt-observed")
    (notArchive : fields.event ≠ .str "archive-observed") :
    Prepared entries (.appends operation checkedAt guards fields) :=
  ⟨bounded, texts, fun event => (notIntent event).elim,
    fun event => (event.elim notInterrupt notArchive).elim⟩

theorem texts_of_thread (thread : isText fields.threadId = true)
    (other : fields.event ≠ .str "thread-bound") : fields.Texts :=
  ⟨fun event => (other event).elim, fun _ => thread⟩

section

variable {spell : Json → String} {entries : List Json} {view : View} {index : SemanticIndex}

theorem prepared_of_begin {operation : Operation} {stage : Stage}
    (begins : operation.begin = .ok stage) : Prepared entries stage := by
  cases operation with
  | allocationIntent | bindCertification =>
    simp only [Operation.begin] at begins
    split at begins
    · cases begins
      exact prepared_of_event (Nat.zero_le _) ⟨by simp, by simp [isOneOf]⟩
        (by simp) (by simp) (by simp)
    · cases begins
  | bindThread | turnIntent | bindTurn =>
    cases begins
    rfl
  | resolveTurnIntentAbsent threadId turnIntentId proofSha256 verifier =>
    have original := begins
    obtain ⟨_, _, begins⟩ := bind_ok begins
    cases begins
    exact original
  | recordLifecycle threadId event outcome =>
    have original := begins
    obtain ⟨_, _, begins⟩ := bind_ok begins
    split at begins
    · cases begins
      exact original
    · cases begins
  | recordContainmentAudit threadId outcome evidenceSha256 =>
    have original := begins
    simp only [Operation.begin] at begins
    split at begins
    · cases begins
    · obtain ⟨_, _, begins⟩ := bind_ok begins
      split at begins
      · cases begins
        exact original
      · cases begins

/-- The first section of an operation checks what its append relies on. -/
theorem prepared_of_read {operation : Operation} {next : Option Stage}
    (records : Records spell entries view) (similar : Similar index.view view)
    (begun : operation.begin = .ok (.reads operation))
    (answered : operation.read entries.length index = .ok next) :
    ∀ stage, next = some stage → Prepared entries stage := by
  rintro stage rfl
  cases operation with
  | allocationIntent | bindCertification => cases answered
  | bindThread allocationIntentId threadId =>
    obtain ⟨_, _, answered⟩ := bind_ok answered
    cases found : index.view.allocationIntent allocationIntentId with
    | none =>
      rw [found] at answered
      cases answered
    | some intent =>
      rw [found] at answered
      cases answered
      obtain ⟨other, known⟩ := similar.allocationIntent found
      exact prepared_of_event le_rfl
        ⟨fun _ => (records.allocationIntent _ _ known).2.2.2, by simp [isOneOf]⟩
        (by simp) (by simp) (by simp)
  | turnIntent threadId turnIntentId =>
    obtain ⟨⟨binding, latestIntent, latestTurn⟩, asked, answered⟩ := bind_ok answered
    obtain ⟨text, fresh⟩ := threadBinding_ok records similar asked
    dsimp only at answered
    split at answered
    · cases answered
    · rename_i first
      cases answered
      refine ⟨le_rfl, texts_of_thread text (by simp [boundFields]), ?_, ?_⟩
      · rintro _ other member event rfl
        rw [take_length] at member
        exact records.latestTurnIntentId other member event (fresh (not_not.mp first))
      · simp [boundFields]
  | bindTurn threadId turnIntentId turnId =>
    obtain ⟨⟨binding, latestIntent, latestTurn⟩, asked, answered⟩ := bind_ok answered
    cases answered
    exact (threadBinding_ok records similar asked).1
  | resolveTurnIntentAbsent threadId turnIntentId proofSha256 verifier =>
    obtain ⟨⟨binding, latestIntent, latestTurn⟩, asked, answered⟩ := bind_ok answered
    obtain ⟨proof, _, answered⟩ := bind_ok answered
    split at answered
    · cases answered
    · cases answered
      exact prepared_of_event le_rfl
        (texts_of_thread (threadBinding_ok records similar asked).1 (by simp [boundFields]))
        (by simp [boundFields]) (by simp [boundFields]) (by simp [boundFields])
  | recordLifecycle threadId event outcome =>
    obtain ⟨⟨binding, latestIntent, latestTurn⟩, asked, answered⟩ := bind_ok answered
    obtain ⟨_, _, answered⟩ := bind_ok answered
    split at answered
    · cases answered
    · rename_i unseen
      cases answered
      obtain ⟨_, _, begun⟩ := bind_ok begun
      split at begun
      · rename_i kind
        obtain ⟨name, member, rfl⟩ := isOneOf_eq_true kind
        simp only [mem_cons, not_mem_nil, or_false] at member
        refine ⟨le_rfl, texts_of_thread (threadBinding_ok records similar asked).1 ?_, ?_, ?_⟩
        · rcases member with rfl | rfl <;> simp [boundFields]
        · rcases member with rfl | rfl <;> simp [boundFields]
        · intro _ other inside sameEvent sameThread sameOutcome
          rw [take_length] at inside
          have lifecycle : IsLifecycle other := by
            unfold IsLifecycle
            rw [sameEvent]
            rcases member with rfl | rfl <;> rfl
          have seen := records.lifecycleSeen other inside lifecycle
          rw [sameEvent, sameThread, sameOutcome, ← similar.lifecycleSeen] at seen
          exact unseen seen
      · cases begun
  | recordContainmentAudit threadId outcome evidenceSha256 =>
    obtain ⟨⟨binding, latestIntent, latestTurn⟩, asked, answered⟩ := bind_ok answered
    obtain ⟨evidence, _, answered⟩ := bind_ok answered
    cases answered
    exact prepared_of_event le_rfl
      (texts_of_thread (threadBinding_ok records similar asked).1 (by simp [boundFields]))
      (by simp [boundFields]) (by simp [boundFields]) (by simp [boundFields])

end

/-! ## Sections -/

section

variable {spell : Json → String} {surroundings : Surroundings} {store : Store}

theorem triple_requireTrusted_disarms :
    Triple (fun current => current = store) (requireTrusted surroundings) (fun _ _ => True)
      (fun after => after = store ∨ after.indexed = false) := by
  refine get_bind fun current same => ?_
  split
  · refine cleanup Triple.trivial ?_
    exact Triple.modify fun _ _ => .inr rfl
  · exact Triple.throw fun later equal => .inl (equal.trans same)

/-- A section that reads changes nothing, or disarms the store. -/
theorem triple_lockedRead {α : Type} {ask : Nat → SemanticIndex → Except PyError α} :
    Triple (fun current => current = store) (lockedRead surroundings ask)
      (fun value after => after = store ∧ store.indexed = true ∧
        ask (entriesOf store.ledger).length store.object = .ok value)
      (fun after => after = store ∨ after.indexed = false ∧ after.ledger = store.ledger) := by
  refine Triple.bind (m := fun _ current => current = store)
    (ofExcept (fun _ _ _ same => same) fun _ same => .inl same) fun _ => ?_
  refine Triple.bind (m := fun answer current => current = store ∧ answer.1 = store.ledger ∧
    store.indexed = true) ?_ fun answer => ?_
  · have trusts : Triple (fun current => current = store) (requireTrusted surroundings)
        (fun answer current => current = store ∧ answer.1 = store.ledger ∧
          Known surroundings store answer.2.1) (Unchanged store) :=
      triple_requireTrusted fun _ => id
    have disarms : Triple (fun current => current = store) (requireTrusted surroundings)
        (fun _ _ => True) (fun after => after = store ∨ after.indexed = false) :=
      triple_requireTrusted_disarms
    refine (trusts.and disarms).consequence (fun _ same => ⟨same, same⟩) ?_ ?_
    · rintro answer after ⟨⟨same, state, known⟩, _⟩
      exact ⟨same, state, known.2.1⟩
    · rintro after ⟨unchanged, same | disarmed⟩
      · exact .inl same
      · exact .inr ⟨disarmed, unchanged.2⟩
  · obtain ⟨state, trusted, tail⟩ := answer
    refine get_bind fun current holds => ?_
    obtain ⟨rfl, same, armed⟩ := holds
    subst same
    exact ofExcept (fun value asked later equal => ⟨equal, armed, asked⟩)
      fun later equal => .inl equal

/-- What a section leaves of the store and its ledger. -/
def Advanced (spell : Json → String) (store after : Store) : Prop :=
  (∃ view, Kept spell after view) ∧ ∃ more, entriesOf after.ledger = entriesOf store.ledger ++ more

variable {view : View}

variable (kept : Kept spell store view)

include kept

variable {after : Store}

theorem advanced_of_read
    (ends : after = store ∨ after.indexed = false ∧ after.ledger = store.ledger) :
    Advanced spell store after := by
  rcases ends with rfl | ⟨disarmed, same⟩
  · exact ⟨⟨view, kept⟩, [], (append_nil _).symm⟩
  · exact ⟨⟨view, kept.of_disarmed same disarmed⟩, [], by rw [same, append_nil]⟩

theorem advanced_of_lengthened {checkedAt : Nat}
    (prepared : Checked (entriesOf store.ledger) checkedAt fields)
    (uncontested : Uncontested (entriesOf store.ledger) checkedAt fields)
    (disarmed : after.indexed = false)
    (lengthened : Lengthened spell surroundings fields store after) :
    Advanced spell store after := by
  rcases lengthened with same | ⟨trusted, unanchored, candidate, hash, known, checked, extension⟩
  · exact ⟨⟨view, kept.of_disarmed same disarmed⟩, [], by rw [same, append_nil]⟩
  · obtain ⟨_, armed, _, _, _, _, matched⟩ := known
    obtain ⟨_, _, count, _⟩ := coordinatesMatch_ok matched
    rw [count] at checked extension
    obtain ⟨next, keptNext, entries⟩ :=
      kept.extend armed prepared uncontested checked extension (.inl disarmed)
    exact ⟨⟨next, keptNext⟩, _, entries⟩

theorem advanced_of_appended {checkedAt : Nat}
    (prepared : Checked (entriesOf store.ledger) checkedAt fields)
    (uncontested : Uncontested (entriesOf store.ledger) checkedAt fields)
    {entry : Json} (appended : Appended spell surroundings fields store entry after) :
    Advanced spell store after := by
  rcases appended with rfl | ⟨trusted, unanchored, candidate, known, checked, committed⟩
  · exact ⟨⟨view, kept⟩, [], (append_nil _).symm⟩
  · obtain ⟨_, armed, _, _, _, _, matched⟩ := known
    obtain ⟨_, _, count, _⟩ := coordinatesMatch_ok matched
    obtain ⟨audit, _, rfl, extension⟩ := committed.recorded
    rw [count] at checked extension
    obtain ⟨next, keptNext, entries⟩ :=
      kept.extend armed prepared uncontested checked extension (.inr committed.object)
    exact ⟨⟨next, keptNext⟩, _, entries⟩

theorem advanced_section {stage : Stage} (prepared : Prepared (entriesOf store.ledger) stage)
    (uncontested : stage.Uncontested (entriesOf store.ledger)) :
    Triple (fun current => current = store) (stage.program spell surroundings)
      (fun next after => Advanced spell store after ∧
        ∀ later, next = some later → Prepared (entriesOf after.ledger) later)
      (Advanced spell store) := by
  cases stage with
  | reads operation =>
    unfold Stage.program
    refine triple_lockedRead.consequence (fun _ => id) ?_ fun _ => advanced_of_read kept
    rintro next after ⟨rfl, armed, answered⟩
    refine ⟨advanced_of_read kept (.inl rfl), ?_⟩
    exact prepared_of_read kept.records (kept.armed armed).2 prepared answered
  | checksResolved threadId turnIntentId turnId binding latestIntent latestTurn =>
    unfold Stage.program
    refine triple_lockedRead.consequence (fun _ => id) ?_ fun _ => advanced_of_read kept
    rintro next after ⟨rfl, armed, answered⟩
    refine ⟨advanced_of_read kept (.inl rfl), ?_⟩
    obtain ⟨_, _, answered⟩ := bind_ok answered
    split at answered
    · cases answered
    · cases answered
      rintro later ⟨⟩
      exact prepared_of_event le_rfl (texts_of_thread prepared (by simp [boundFields]))
        (by simp [boundFields]) (by simp [boundFields]) (by simp [boundFields])
  | appends operation checkedAt guards fields =>
    refine Triple.bind (m := fun _ => Advanced spell store) ?_ fun _ =>
      Triple.pure fun after advanced => ⟨advanced, by simp⟩
    refine triple_append.consequence (fun _ => id) ?_ ?_
    · intro entry after appended
      exact advanced_of_appended kept prepared.2 uncontested appended
    · rintro after ⟨object, disarmed | rfl, lengthened⟩
      · exact advanced_of_lengthened kept prepared.2 uncontested disarmed lengthened
      · exact advanced_of_read kept (.inl rfl)

end

/-! ## Histories -/

/-- The caller whose turn it is appends nothing that another append has competed with. -/
def System.Undisturbed (system : System) : Move → Prop
  | .lockedSection caller _ =>
    ∀ stage ∈ system.callers caller, stage.Uncontested (entriesOf system.store.ledger)
  | _ => True

instance (system : System) : DecidablePred system.Undisturbed
  | .lockedSection caller _ => inferInstanceAs (Decidable (∀ stage ∈ system.callers caller,
      stage.Uncontested (entriesOf system.store.ledger)))
  | .begin _ _ => isTrue trivial
  | .upkeep _ _ => isTrue trivial

/-- No move of the run appends what another one has competed with. -/
def UndisturbedRun (spell : Json → String) (system : System) : List Move → Prop
  | [] => True
  | move :: rest => system.Undisturbed move ∧ UndisturbedRun spell (system.move spell move) rest

instance decidableUndisturbedRun (spell : Json → String) (system : System) :
    DecidablePred (UndisturbedRun spell system) :=
  fun moves =>
    match moves with
    | [] => isTrue trivial
    | move :: rest =>
      have : Decidable (UndisturbedRun spell (system.move spell move) rest) :=
        decidableUndisturbedRun spell (system.move spell move) rest
      inferInstanceAs (Decidable (_ ∧ _))

/-- The store answers for its ledger, and every caller can rely on what it has seen. -/
structure Orderly (spell : Json → String) (system : System) : Prop where
  kept : ∃ view, Kept spell system.store view
  prepared : ∀ caller stage, system.callers caller = some stage →
    Prepared (entriesOf system.store.ledger) stage

section

variable {spell : Json → String} {system : System}

theorem orderly_initial {audit : List Line} (fresh : entriesOf ledger = []) :
    Orderly spell (System.initial ledger audit) := by
  refine ⟨⟨(SemanticIndex.mk .empty).view, ?_⟩, ?_⟩
  · refine ⟨?_, ?_, ?_, ?_, ?_⟩
    · change Walks spell (entriesOf ledger) _
      rw [fresh]
      exact .nil
    · change Records spell (entriesOf ledger) _
      rw [fresh]
      exact records_nil
    · change Linked spell (entriesOf ledger)
      rw [fresh]
      constructor
      all_goals simp
    · change Unique (entriesOf ledger)
      rw [fresh]
      constructor
      all_goals simp [AtMostOne]
    · rintro ⟨⟩
  · rintro caller stage ⟨⟩

variable (orderly : Orderly spell system)

include orderly

theorem Orderly.moved {store : Store} {caller : Nat} {next : Option Stage}
    (advanced : Advanced spell system.store store)
    (prepared : ∀ later, next = some later → Prepared (entriesOf store.ledger) later) :
    Orderly spell ⟨store, Function.update system.callers caller next⟩ := by
  obtain ⟨kept, more, entries⟩ := advanced
  refine ⟨kept, ?_⟩
  intro other stage busy
  change Function.update system.callers caller next other = some stage at busy
  by_cases same : other = caller
  · subst same
    rw [Function.update_self] at busy
    exact prepared stage busy
  · rw [Function.update_of_ne same] at busy
    rw [entries]
    exact (orderly.prepared other stage busy).append more

theorem Orderly.move {move : Move}
    (undisturbed : system.Undisturbed move) : Orderly spell (system.move spell move) := by
  obtain ⟨view, kept⟩ := orderly.kept
  cases move with
  | begin caller operation =>
    unfold System.move
    dsimp only
    split
    · rename_i stage _ begins
      exact orderly.moved ⟨⟨view, kept⟩, [], (append_nil _).symm⟩
        fun later same => by cases same; exact prepared_of_begin begins
    · exact orderly
  | lockedSection caller surroundings =>
    unfold System.move
    dsimp only
    cases busy : system.callers caller with
    | none => exact orderly
    | some stage =>
      have ends := (@advanced_section _ surroundings _ _ kept _
        (orderly.prepared caller stage busy) (undisturbed stage busy)).ends system.store rfl
      revert ends
      dsimp only
      cases stage.program spell surroundings system.store with
      | ok next after => exact fun ends => orderly.moved ends.1 ends.2
      | error error after => exact fun ends => orderly.moved ends fun _ none => by cases none
  | upkeep surroundings call =>
    have ends := ((@Kept.upkeep _ _ surroundings call).and
      (upkeep_ledger call)).ends system.store ⟨kept, rfl⟩
    have after : Kept spell (StoreCall.next spell system.store (surroundings, call.call)) view ∧
        (StoreCall.next spell system.store (surroundings, call.call)).ledger =
          system.store.ledger := by
      unfold StoreCall.next
      revert ends
      cases call.call.program spell surroundings system.store with
      | ok | error => exact id
    refine ⟨⟨view, after.1⟩, ?_⟩
    intro other stage busy
    change Prepared (entriesOf (StoreCall.next _ _ _).ledger) stage
    rw [after.2]
    exact orderly.prepared other stage busy

theorem Orderly.run {moves : List Move}
    (undisturbed : UndisturbedRun spell system moves) : Orderly spell (system.run spell moves) := by
  induction moves generalizing system with
  | nil => exact orderly
  | cons move rest ih => exact ih (orderly.move undisturbed.1) undisturbed.2

end

/-! ## Allocations -/

/--
In every run in which no append of a caller is preceded by one that competes with it,
the ledger is unique in every respect.
-/
theorem allocations_unique {spell : Json → String} {ledger : Json} (audit : List Line)
    {moves : List Move} (fresh : entriesOf ledger = [])
    (undisturbed : UndisturbedRun spell (System.initial ledger audit) moves) :
    Unique (entriesOf ((System.initial ledger audit).run spell moves).store.ledger) := by
  obtain ⟨view, kept⟩ := ((orderly_initial fresh).run undisturbed).kept
  exact kept.unique

/-- Files that change with every append, and operations that do not fail. -/
def sampleSurroundings (appended : Nat) : Surroundings where
  lock := .ok ()
  readLedger := .ok ⟨1, 1, appended, appended, appended⟩
  readAudit := .ok ⟨1, 2, appended, appended, appended⟩
  proofIdentity _ := .error (ledgerError "absence-proof-missing")
  absenceProofs := .ok []
  guardedProofIdentity := .error (ledgerError "absence-proof-missing")
  recording := sampleRecording
  recordFault := .none
  chmodAudit := .ok ()
  readAuditAgain := .ok ⟨1, 2, appended + 1, appended + 1, appended + 1⟩
  textSize _ := 1
  writeFault := .none
  ledgerIdentity := .ok ⟨1, 1, appended + 1, appended + 1, appended + 1⟩
  stable := .ok ()

/-- One caller opens the store and intends an allocation. -/
def sampleMoves : List Move :=
  [.upkeep (sampleSurroundings 0) .openStore,
    .begin 0 (.allocationIntent (.str "capability-calibration") sampleUuid),
    .lockedSection 0 (sampleSurroundings 0)]

/-- The same caller binds one thread to the intent, and then another one. -/
def sampleRebinding : List Move :=
  sampleMoves ++ [.begin 0 (.bindThread sampleUuid (.str "thread-a")),
    .lockedSection 0 (sampleSurroundings 1), .lockedSection 0 (sampleSurroundings 1),
    .begin 0 (.bindThread sampleUuid (.str "thread-b")),
    .lockedSection 0 (sampleSurroundings 2), .lockedSection 0 (sampleSurroundings 2)]

/-- Two callers intend an allocation each; the first binds its thread while the second is about to. -/
def sampleTogether : List Move :=
  let otherUuid := Json.str "00000000-0000-4000-8000-000000000002"
  sampleMoves ++ [.begin 1 (.allocationIntent (.str "read-only-0") otherUuid),
    .lockedSection 1 (sampleSurroundings 1),
    .begin 0 (.bindThread sampleUuid (.str "thread-a")),
    .begin 1 (.bindThread otherUuid (.str "thread-b")),
    .lockedSection 1 (sampleSurroundings 2), .lockedSection 0 (sampleSurroundings 2),
    .lockedSection 0 (sampleSurroundings 2)]

def sampleEnd : System := (System.initial sampleLedger []).run sampleSpelling sampleTogether

theorem fresh_sampleLedger : entriesOf sampleLedger = [] := by decide +kernel

theorem sampleTogether_runs : ((entriesOf sampleEnd.store.ledger).length = 3 ∧
    (sampleEnd.callers 1).isSome = true) ∧
      UndisturbedRun sampleSpelling (System.initial sampleLedger []) sampleTogether := by
  decide +kernel

theorem allocations_unique_sample : (entriesOf sampleEnd.store.ledger).length = 3 ∧
    Unique (entriesOf sampleEnd.store.ledger) :=
  ⟨sampleTogether_runs.1.1, allocations_unique [] fresh_sampleLedger sampleTogether_runs.2⟩

/-- The store lets both bindings of one allocation intent pass. -/
theorem intent_bound_twice : ¬ Unique (entriesOf
      ((System.initial sampleLedger []).run sampleSpelling sampleRebinding).store.ledger) := by
  intro unique
  have once := unique.threadOfIntent sampleUuid
  unfold AtMostOne at once
  revert once
  decide +kernel

end WorkOrchestration.Native.LiveLedger
