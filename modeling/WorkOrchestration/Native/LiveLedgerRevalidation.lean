import WorkOrchestration.Native.LiveLedgerAppend

/-!
# Full validation of an extended ledger

The ledger that an append would write, whatever its check says, and what a full
validation finds in it.
-/

namespace WorkOrchestration.Native.LiveLedger

open List Lib.Checks Lib.HashChain Lib.Text Audit Artifacts
open Artifacts.Json (equalsNat hashable isOneOf)
open ActivationLedger (isHexDigit isSha256 isUuidText uuid?)
open Json (hasExactly_set int nat value_set)
open SemanticCandidate (update view_commit view_updates)

/-! ## The extended ledger -/

/-- What the recorder of audit events gets from its surroundings; the lock is always there. -/
structure Recording where
  spell : Json → Except PyError String
  auditFile : String
  timestamp : String
  requireLock : Bool

def entriesOf (ledger : Json) : List Json := (ledger.value "entries").elements?.getD []

/-- `record_audit_event` for an entry. -/
def Recording.record (recording : Recording) (ledger entry : Json) (sequence : Nat)
    (lines : List Line) : Except PyError (Json × List Line) :=
  recordAuditEvent recording.spell recording.auditFile
    ⟨auditEvent ledger entry sequence, recording.timestamp, ⟨true, recording.requireLock⟩⟩ lines

/-- The ledger and the audit file with one more entry, whatever the check of the entry says. -/
def extended (recording : Recording) (ledger : Json) (lines : List Line) (fields : Fields) :
    Except PyError (Json × List Line) := do
  let sequence := (entriesOf ledger).length + 1
  let unsigned := fields.unsigned sequence (ledger.value "head_entry_sha256")
  let entry := unsigned.set "entry_sha256" (← entrySha256 unsigned)
  let (audit, after) ← recording.record ledger entry sequence lines
  let next ← extend ledger (entry.set "audit_event_hash" (audit.value "event_hash")) sequence
  return (next, after)

theorem domainSha256_ok {domain : String} {value digest : Json} :
    domainSha256 domain value = .ok digest ↔
      Writable value ∧ digest = .sha256 (.obj [("cwo:" ++ domain ++ ":v1", value.canonical)]) := by
  unfold domainSha256
  constructor
  · intro hashed
    obtain ⟨text, written, hashed⟩ := bind_ok hashed
    obtain ⟨writable, rfl⟩ := dumps_ok.mp written
    cases hashed
    exact ⟨writable, rfl⟩
  · rintro ⟨writable, rfl⟩
    rw [dumps_ok.mpr ⟨writable, rfl⟩]
    rfl

theorem isSha256_of_entrySha256 {entry digest : Json} (hashed : entrySha256 entry = .ok digest) :
    isSha256 digest = true := by
  obtain ⟨_, rfl⟩ := domainSha256_ok.mp hashed
  rfl

/-! ## The check of an append -/

theorem entrySha256_entry (fields : Fields) (sequence : Nat) (head digest auditHash : Json) :
    entrySha256 (fields.entry sequence head digest auditHash) =
      entrySha256 (fields.unsigned sequence head) := rfl

variable {fields : Fields}

theorem chainErrors_entry {sequence : Nat} {head digest auditHash : Json} :
    chainErrors sequence head digest (fields.entry sequence head digest auditHash) = [] ↔
      isOneOf events fields.event = true := by
  have event : (fields.entry sequence head digest auditHash).value "event" = fields.event := rfl
  have number : (fields.entry sequence head digest auditHash).value "sequence" =
      nat sequence := rfl
  have previous : (fields.entry sequence head digest auditHash).value "previous_entry_sha256" =
      head := rfl
  have own : (fields.entry sequence head digest auditHash).value "entry_sha256" = digest := rfl
  unfold chainErrors
  rw [event, number, previous, own]
  simp [nat, equalsNat]

variable {spell : Json → String} {head : Json} {ledgerId : Json}

/-- The check as a function of the hash of the entry and of what can raise. -/
theorem checkAppend_eq {count : Nat}
    {base : SemanticIndex} :
    checkAppend spell ledgerId count head base fields =
      (entrySha256 (fields.unsigned (count + 1) head)).bind fun digest =>
        let entry := fields.entry (count + 1) head digest .null
        (entryGate entry).map fun expected =>
          let asked := effect spell base.view (count + 1) entry
          let candidate := asked.updates.foldl update base.clone
          (chainErrors (count + 1) head expected entry ++ asked.errors ++
            reject (1 < candidate.view.certificationCount)
              "ledger-certification-binding-duplicate" ++
            reject ((if isSha256 digest then digest else .null) ≠ digest) "ledger-head-mismatch",
            entry, candidate) := by
  have view : LedgerIndex.view base.clone = base.view := base.view_clone
  unfold checkAppend
  dsimp only
  cases entrySha256 (fields.unsigned (count + 1) head) with
  | error error => rfl
  | ok digest =>
    have digestOwn : (fields.entry (count + 1) head digest .null).value "entry_sha256" = digest := rfl
    have quiet : auditErrors ⟨ledgerId, none, false, false⟩ (count + 1)
        (fields.entry (count + 1) head digest .null) = [] := rfl
    change (validateEntryTransition _ _ _ _ _ (fields.entry (count + 1) head digest .null) >>= _) = _
    rw [validateEntryTransition_eq (hasExactly_entry fields (count + 1) head digest .null), view,
      quiet]
    change _ = Except.map _ (entryGate (fields.entry (count + 1) head digest .null))
    cases entryGate (fields.entry (count + 1) head digest .null) with
    | error error => rfl
    | ok expected =>
      simp only [append_nil]
      rfl

/-- When the check on an overlay reports no error. -/
theorem checkAppend_clean {count : Nat}
    {base : SemanticIndex} {entry : Json} {candidate : SemanticCandidate} :
    checkAppend spell ledgerId count head base fields = .ok ([], entry, candidate) ↔
      ∃ digest, entrySha256 (fields.unsigned (count + 1) head) = .ok digest ∧
        entry = fields.entry (count + 1) head digest .null ∧
        entryGate entry = .ok digest ∧ isOneOf events fields.event = true ∧
        (effect spell base.view (count + 1) entry).errors = [] ∧
        candidate = (effect spell base.view (count + 1) entry).updates.foldl
          update base.clone ∧
        candidate.view.certificationCount ≤ 1 := by
  rw [checkAppend_eq]
  cases hashed : entrySha256 (fields.unsigned (count + 1) head) with
  | error error =>
    constructor
    · intro checked
      cases checked
    · rintro ⟨digest, other, _⟩
      cases other
  | ok digest =>
    change Except.map _ (entryGate (fields.entry (count + 1) head digest .null)) = _ ↔ _
    cases gate : entryGate (fields.entry (count + 1) head digest .null) with
    | error error =>
      constructor
      · intro checked
        cases checked
      · rintro ⟨_, other, rfl, passed, _⟩
        cases other
        rw [gate] at passed
        cases passed
    | ok expected =>
      have same : expected = digest := by
        obtain ⟨_, _, gate⟩ := bind_ok gate
        obtain ⟨_, own, gate⟩ := bind_ok gate
        obtain ⟨_, _, gate⟩ := bind_ok gate
        cases gate
        rw [entrySha256_entry, hashed] at own
        exact (Except.ok.inj own).symm
      subst same
      rw [Except.map, if_pos (isSha256_of_entrySha256 hashed)]
      simp only [Except.ok.injEq, Prod.mk.injEq, append_eq_nil_iff,
        chainErrors_entry, reject_eq_nil, not_lt, ne_eq, not_true_eq_false, not_false_eq_true,
        and_true]
      constructor
      · rintro ⟨⟨⟨event, clean⟩, count⟩, rfl, rfl⟩
        exact ⟨expected, rfl, rfl, gate, event, clean, rfl, count⟩
      · rintro ⟨_, rfl, rfl, _, event, clean, rfl, count⟩
        exact ⟨⟨⟨event, clean⟩, count⟩, rfl, rfl⟩

/-! ## Writing the ledger -/

def appendedFields : List String := ["sequence", "entries", "head_entry_sha256", "state_sha256"]

/-- The ledger before its own hash is known. -/
def unsealed (ledger entry : Json) (sequence : Nat) : Json :=
  ((ledger.set "sequence" (nat sequence)).set "entries"
    (.arr (entriesOf ledger ++ [entry]))).set "head_entry_sha256" (entry.value "entry_sha256")

theorem extend_eq (ledger entry : Json) (sequence : Nat) : extend ledger entry sequence =
      (stateSha256 (unsealed ledger entry sequence)).map
        ((unsealed ledger entry sequence).set "state_sha256") := by
  change (stateSha256 (unsealed ledger entry sequence) >>= _) = _
  cases stateSha256 (unsealed ledger entry sequence) with
  | error | ok => rfl

section

variable {ledger entry next : Json} {sequence : Nat}

theorem value_extend (extension : extend ledger entry sequence = .ok next) {field : String}
    (other : field ∉ appendedFields) : next.value field = ledger.value field := by
  rw [extend_eq] at extension
  cases hashed : stateSha256 (unsealed ledger entry sequence) with
  | error error =>
    rw [hashed] at extension
    cases extension
  | ok digest =>
    rw [hashed] at extension
    cases extension
    simp only [appendedFields, mem_cons, not_mem_nil, or_false, not_or] at other
    obtain ⟨first, second, third, fourth⟩ := other
    unfold unsealed
    rw [value_set, if_neg (Ne.symm fourth), value_set, if_neg (Ne.symm third), value_set,
      if_neg (Ne.symm second), value_set, if_neg (Ne.symm first)]

theorem extend_ok (exact : ledger.hasExactly ledgerFields = true)
    (extension : extend ledger entry sequence = .ok next) :
    next.hasExactly ledgerFields = true ∧ next.value "sequence" = nat sequence ∧
      (next.value "entries").elements? = some (entriesOf ledger ++ [entry]) ∧
      next.value "head_entry_sha256" = entry.value "entry_sha256" ∧
      stateSha256 next = .ok (next.value "state_sha256") := by
  rw [extend_eq] at extension
  cases hashed : stateSha256 (unsealed ledger entry sequence) with
  | error error =>
    rw [hashed] at extension
    cases extension
  | ok digest =>
    rw [hashed] at extension
    cases extension
    have unsealedExact : (unsealed ledger entry sequence).hasExactly ledgerFields = true :=
      hasExactly_set (hasExactly_set (hasExactly_set exact (by decide) _)
        (by decide) _) (by decide) _
    refine ⟨hasExactly_set unsealedExact (by decide) _, ?_, ?_, ?_, ?_⟩
    · rw [value_set, if_neg (by decide)]
      unfold unsealed
      rw [value_set, if_neg (by decide), value_set, if_neg (by decide), value_set, if_pos rfl]
    · rw [value_set, if_neg (by decide)]
      unfold unsealed
      rw [value_set, if_neg (by decide), value_set, if_pos rfl, Json.elements?_arr]
    · rw [value_set, if_neg (by decide)]
      unfold unsealed
      rw [value_set, if_pos rfl]
    · rw [value_set]
      unfold stateSha256 at hashed ⊢
      rw [Json.erase_set_of_mem (Json.mem_keys_of_hasExactly unsealedExact (by decide))]
      exact hashed

/-- The ledger can be written when the old one and the entry can. -/
theorem exists_extend {digest : Json} (state : stateSha256 ledger = .ok digest) (writableEntry : Writable entry)
    (writableSequence : Writable (nat sequence)) :
    ∃ next, extend ledger entry sequence = .ok next := by
  obtain ⟨writable, _⟩ := domainSha256_ok.mp state
  have entries : Writable (.arr (entriesOf ledger ++ [entry])) := by
    rw [writable_arr]
    intro item member
    rcases mem_append.mp member with old | new
    · unfold entriesOf at old
      cases found : (ledger.value "entries").elements? with
      | none =>
        rw [found] at old
        cases old
      | some items =>
        rw [found] at old
        unfold Json.value at found
        cases present : ledger.get? "entries" with
        | none =>
          rw [present] at found
          cases found
        | some value =>
          rw [present] at found
          have kept : (ledger.erase "state_sha256").get? "entries" = some value := by
            rw [Json.get?_erase, if_neg (by decide), present]
          exact writable_elements (writable.of_get? kept) found item old
    · rw [mem_singleton.mp new]
      exact writableEntry
  have head : Writable (entry.value "entry_sha256") := by
    unfold Json.value
    cases present : entry.get? "entry_sha256" with
    | none => rfl
    | some value => exact writableEntry.of_get? present
  have whole : Writable ((unsealed ledger entry sequence).erase "state_sha256") := by
    unfold unsealed
    rw [Json.erase_set_of_ne (by decide), Json.erase_set_of_ne (by decide),
      Json.erase_set_of_ne (by decide)]
    exact ((writable.set _ writableSequence).set _ entries).set _ head
  rw [extend_eq]
  unfold stateSha256
  rw [domainSha256_ok.mpr ⟨whole, rfl⟩]
  exact ⟨_, rfl⟩

end

/-! ## Validating the extended ledger -/

section

variable {spell : Json → String} {ledger next : Json} {lines after : List Line}
  {entries audits : List Json} {index : SemanticIndex} {fields : Fields} {digest auditHash event : Json}

/-- The entry as a full validation of the extended ledger sees it. -/
def anchoredEntry (ledger : Json) (entries : List Json) (fields : Fields) (digest auditHash : Json) :
    Json :=
  fields.entry (entries.length + 1) (ledger.value "head_entry_sha256") digest auditHash

/-- What the walk over the entries does at the last of them. -/
theorem validateEntries_last (accepted : Accepted spell ledger lines entries audits index)
    (own : isSha256 digest = true) :
    validateEntries spell (ledger.value "ledger_id") (audits ++ [event]) true 1 .null ⟨.empty⟩
        (entries ++ [anchoredEntry ledger entries fields digest auditHash]) =
      (entryGate (anchoredEntry ledger entries fields digest auditHash)).map fun expected =>
        let entry := anchoredEntry ledger entries fields digest auditHash
        let asked := effect spell index.view (entries.length + 1) entry
        (chainErrors (entries.length + 1) (ledger.value "head_entry_sha256") expected entry ++
          auditErrors ⟨ledger.value "ledger_id", some event, true, true⟩ (entries.length + 1) entry ++
          asked.errors, digest, asked.updates.foldl SemanticIndex.update index) := by
  rw [validateEntries_append, validateEntries_audits [event] entries (by omega)
    (by rw [accepted.auditCount]; omega), accepted.head]
  change (validateEntries _ _ _ _ _ _ _ [_] >>= _) = _
  have number : 1 + entries.length = entries.length + 1 := by omega
  have audit : (audits ++ [event])[entries.length + 1 - 1]? = some event := by
    rw [Nat.add_sub_cancel, ← accepted.auditCount]
    exact getElem?_concat_length
  have exactly : (anchoredEntry ledger entries fields digest auditHash).hasExactly entryFields = true :=
    hasExactly_entry _ _ _ _ _
  rw [validateEntries, number, audit, validateEntryTransition_eq exactly]
  have ownDigest : (anchoredEntry ledger entries fields digest auditHash).value "entry_sha256" =
      digest := rfl
  change Except.bind (Except.bind (Except.map _ (entryGate (anchoredEntry ledger entries fields
    digest auditHash))) _) _ = _
  cases entryGate (anchoredEntry ledger entries fields digest auditHash) with
  | error error => rfl
  | ok expected =>
    rw [Except.map, ownDigest, if_pos own]
    change Except.ok _ = Except.ok _
    rw [append_nil]
    rfl

/-- When a full validation of the extended ledger reports no error. -/
theorem validate_extended (accepted : Accepted spell ledger lines entries audits index)
    (hashed : entrySha256 (fields.unsigned (entries.length + 1)
      (ledger.value "head_entry_sha256")) = .ok digest)
    (extension : extend ledger (anchoredEntry ledger entries fields digest auditHash)
      (entries.length + 1) = .ok next)
    (read : readAuditChain none after = .ok (some (audits ++ [event]))) {validated : Validated} :
    validateWithIndex spell next (some ⟨after, true⟩) = .ok validated ∧ validated.errors = [] ↔
      let entry := anchoredEntry ledger entries fields digest auditHash
      let asked := effect spell index.view (entries.length + 1) entry
      let final := asked.updates.foldl SemanticIndex.update index
      entryGate entry = .ok digest ∧ isOneOf events fields.event = true ∧
        auditErrors ⟨ledger.value "ledger_id", some event, true, true⟩ (entries.length + 1)
          entry = [] ∧
        asked.errors = [] ∧ final.view.certificationCount ≤ 1 ∧
        validated = ⟨[], final, audits ++ [event], entries.length + 1⟩ := by
  have own := isSha256_of_entrySha256 hashed
  have last := @validateEntries_last _ _ _ _ _ _ fields _ auditHash event accepted own
  obtain ⟨exact, sequence, listed, head, state⟩ := extend_ok accepted.fields extension
  have old : entriesOf ledger = entries := by
    unfold entriesOf
    rw [accepted.entries_eq]
    rfl
  rw [old] at listed
  have ledgerId : next.value "ledger_id" = ledger.value "ledger_id" :=
    value_extend extension (by decide)
  have header : headerVersion next = headerVersion ledger := by
    unfold headerVersion
    rw [value_extend extension (by decide), value_extend extension (by decide),
      value_extend extension (by decide)]
  have gate : ∀ expected, entryGate (anchoredEntry ledger entries fields digest auditHash) =
      .ok expected → expected = digest := by
    intro expected passed
    obtain ⟨_, _, passed⟩ := bind_ok passed
    obtain ⟨_, body, passed⟩ := bind_ok passed
    obtain ⟨_, _, passed⟩ := bind_ok passed
    cases passed
    unfold anchoredEntry at body
    rw [entrySha256_entry, hashed] at body
    exact (Except.ok.inj body).symm
  dsimp only
  constructor
  · rintro ⟨checked, clean⟩
    obtain ⟨allEntries, allAudits, whole⟩ := accepted_of_validate checked clean
    have sameEntries : allEntries = entries ++ [anchoredEntry ledger entries fields digest auditHash] :=
      Option.some.inj (whole.entries_eq.symm.trans listed)
    have sameAudits : allAudits = audits ++ [event] :=
      Option.some.inj (Except.ok.inj (whole.audits_eq.symm.trans read))
    have outcome := whole.validate.symm.trans checked
    subst sameEntries sameAudits
    have walked := whole.head
    rw [ledgerId, last] at walked
    cases passed : entryGate (anchoredEntry ledger entries fields digest auditHash) with
    | error error =>
      rw [passed] at walked
      cases walked
    | ok expected =>
      have same := gate expected passed
      subst same
      rw [passed] at walked
      have results := Except.ok.inj walked
      simp only [Prod.mk.injEq, append_eq_nil_iff] at results
      obtain ⟨⟨⟨chain, anchor⟩, effects⟩, _, final⟩ := results
      refine ⟨rfl, chainErrors_entry.mp chain, anchor, effects, ?_, ?_⟩
      · rw [final]
        exact whole.certification
      · rw [← Except.ok.inj outcome, final, length_append]
        rfl
  · rintro ⟨passed, named, anchor, effects, certification, rfl⟩
    have whole : Accepted spell next after
        (entries ++ [anchoredEntry ledger entries fields digest auditHash]) (audits ++ [event])
        ((effect spell index.view (entries.length + 1)
          (anchoredEntry ledger entries fields digest auditHash)).updates.foldl
            SemanticIndex.update index) := by
      refine ⟨exact, ?_, ?_, ?_, ?_, listed, ?_, read, ?_, ?_, certification, state⟩
      · rw [value_extend extension (by decide)]
        exact accepted.hashableVersion
      · rw [header]
        exact accepted.version
      · rw [ledgerId]
        exact accepted.ledgerId
      · rw [header, value_extend extension (by decide)]
        exact accepted.bindings
      · rw [sequence, length_append]
        rfl
      · rw [length_append, length_append, accepted.auditCount]
        rfl
      · rw [ledgerId, last, passed, head]
        have chain : chainErrors (entries.length + 1) (ledger.value "head_entry_sha256") digest
            (anchoredEntry ledger entries fields digest auditHash) = [] := chainErrors_entry.mpr named
        dsimp only [Except.map]
        rw [chain, anchor, effects]
        rfl
    have outcome := whole.validate
    rw [length_append] at outcome
    exact ⟨outcome, rfl⟩

end

/-! ## What a checked entry is made of -/

theorem isPlain_of_isNonemptyText {value : Json} (text : isNonemptyText value = true) :
    isPlain value = true := by
  cases value with
  | str | sha256 => rfl
  | _ => cases text

theorem isPlain_outcome {value : Json} {text : String} (same : (value == .str text) = true) :
    isPlain value = true := by
  rw [beq_iff_eq.mp same]
  rfl

/-- An entry without errors has texts or `None` for its role and its outcome. -/
theorem isPlain_of_effect {view : View} {number : Nat} {entry : Json}
    (event : isOneOf events (entry.value "event") = true)
    (clean : (effect spell view number entry).errors = []) :
    isPlain (entry.value "role") = true ∧ isPlain (entry.value "outcome") = true := by
  obtain ⟨name, member, named⟩ := isOneOf_eq_true event
  unfold effect at clean
  by_cases certification : entry.value "event" = .str "certification-bound"
  · rw [if_pos certification] at clean
    obtain ⟨identity, bound⟩ := append_eq_nil_iff.mp clean
    have nulls := reject_eq_nil.mp identity
    have outcome := reject_eq_nil.mp bound
    simp only [Bool.not_eq_false, allNull, all_cons, Bool.and_eq_true, beq_iff_eq] at nulls
    simp only [not_not] at outcome
    rw [nulls.1, outcome.2]
    exact ⟨rfl, rfl⟩
  rw [if_neg certification] at clean
  by_cases ordinal : roleOrdinalValid entry = false
  · rw [if_pos ordinal] at clean
    cases clean
  rw [if_neg ordinal] at clean
  have role : isPlain (entry.value "role") = true := by
    unfold roleOrdinalValid at ordinal
    split at ordinal
    · rename_i text found
      rw [found]
      rfl
    · simp at ordinal
  refine ⟨role, ?_⟩
  by_cases allocation : entry.value "event" = .str "allocation-intent"
  · rw [if_pos allocation] at clean
    unfold allocationIntentEffect at clean
    dsimp only at clean
    split at clean
    · rename_i valid
      exact isPlain_outcome (Bool.and_eq_true_iff.mp valid).2
    · cases clean
  rw [if_neg allocation] at clean
  by_cases thread : entry.value "event" = .str "thread-bound"
  · rw [if_pos thread] at clean
    unfold threadBoundEffect at clean
    dsimp only at clean
    split at clean
    · rename_i valid
      exact isPlain_outcome (Bool.and_eq_true_iff.mp valid).2
    · cases clean
  rw [if_neg thread] at clean
  by_cases intent : entry.value "event" = .str "turn-intent"
  · rw [if_pos intent] at clean
    unfold turnIntentEffect at clean
    dsimp only at clean
    split at clean
    · rename_i valid
      exact isPlain_outcome (Bool.and_eq_true_iff.mp valid).2
    · cases clean
  rw [if_neg intent] at clean
  by_cases turn : entry.value "event" = .str "turn-bound"
  · rw [if_pos turn] at clean
    unfold turnBoundEffect at clean
    dsimp only at clean
    split at clean
    · rename_i valid
      exact isPlain_outcome (Bool.and_eq_true_iff.mp valid).2
    · cases clean
  rw [if_neg turn] at clean
  by_cases lifecycle : isOneOf ["interrupt-observed", "archive-observed", "containment-audited"]
      (entry.value "event") = true
  · rw [if_pos lifecycle] at clean
    have last := reject_eq_nil.mp (append_eq_nil_iff.mp clean).2
    exact isPlain_of_isNonemptyText (Bool.eq_true_of_not_eq_false last)
  · exfalso
    rw [named] at certification allocation thread intent turn lifecycle
    simp only [events, mem_cons, not_mem_nil, or_false] at member
    rcases member with rfl | rfl | rfl | rfl | rfl | rfl | rfl | rfl
    · exact allocation rfl
    · exact thread rfl
    · exact intent rfl
    · exact turn rfl
    · exact lifecycle (by decide)
    · exact lifecycle (by decide)
    · exact lifecycle (by decide)
    · exact certification rfl

/-- The head of a walk that starts from a digest or `None` is one of the two. -/
theorem isPlain_head {audits : List Json} {verify : Bool}
    {entries : List Json} {number : Nat} {previous : Json} {index final : SemanticIndex}
    {errors : List String} (start : isPlain previous = true)
    (walked : validateEntries spell ledgerId audits verify number previous index entries =
      .ok (errors, head, final)) : isPlain head = true := by
  induction entries generalizing number previous index errors with
  | nil =>
    cases walked
    exact start
  | cons entry rest ih =>
    obtain ⟨⟨here, next, after⟩, transition, walked⟩ := bind_ok walked
    obtain ⟨⟨later, last, finalIndex⟩, walkedLater, walked⟩ := bind_ok walked
    cases walked
    apply ih _ walkedLater
    by_cases exactly : entry.hasExactly entryFields = true
    · rw [validateEntryTransition_eq exactly] at transition
      cases gate : entryGate entry with
      | error error =>
        rw [gate] at transition
        cases transition
      | ok expected =>
        rw [gate] at transition
        cases transition
        split
        · rename_i digest
          obtain ⟨preimage, found⟩ := isSha256_eq_true digest
          rw [found]
          rfl
        · rfl
    · unfold validateEntryTransition at transition
      rw [Bool.not_eq_true] at exactly
      rw [exactly] at transition
      cases transition
      exact start

theorem isPlain_bead {version : Version} {bindings : Json}
    (valid : validateBindings version bindings = []) : isPlain (bindings.value "bead_id") = true := by
  unfold validateBindings at valid
  generalize bindings.hasExactly (if version = .v1 then bindingFields else bindingFieldsV2) =
    exactly at valid
  cases exactly with
  | false => cases valid
  | true =>
    simp only [Bool.not_true, Bool.false_eq_true, if_false, append_eq_nil_iff] at valid
    have identity := reject_eq_nil.mp valid.1.1.1.1.1.1.1
    have named : "bead_id" ∈ identityFields version := by
      cases version with
      | unknown | v1 | v2 => decide
    have solid : isBlankText (bindings.value "bead_id") = false := by
      by_contra blank
      exact identity (any_eq_true.mpr ⟨_, named, Bool.eq_true_of_not_eq_false blank⟩)
    revert solid
    cases bindings.value "bead_id" with
    | str | sha256 => exact fun _ => rfl
    | _ =>
      intro blank
      cases blank

/-! ## The check of an append against a full validation -/

variable {spell : Json → String} {ledger : Json} {lines : List Line} {entries audits : List Json}
  {index base : SemanticIndex} {recording : Recording} {fields : Fields}

theorem exists_record (accepted : Accepted spell ledger lines entries audits index) {digest : Json}
    (hashed : entrySha256 (fields.unsigned (entries.length + 1)
      (ledger.value "head_entry_sha256")) = .ok digest)
    (event : isPlain fields.event = true) (role : isPlain fields.role = true)
    (outcome : isPlain fields.outcome = true) :
    ∃ audit after, recording.record ledger
      (anchoredEntry ledger entries fields digest .null) (entries.length + 1) lines =
        .ok (audit, after) := by
  obtain ⟨writable, digestEq⟩ := domainSha256_ok.mp hashed
  have number : Writable (nat (entries.length + 1)) :=
    @Writable.of_get? _ writable "sequence" _ rfl
  have ledgerId : isPlain (ledger.value "ledger_id") = true := by
    obtain ⟨text, spelled⟩ := Option.isSome_iff_exists.mp accepted.ledgerId
    rw [(uuid?_eq_some spelled).1]
    rfl
  have head : isPlain (ledger.value "head_entry_sha256") = true := isPlain_head rfl accepted.head
  have plainField : ∀ key value, isPlain value = true →
      KeepsWritable (sanitizeField recording.spell key value) :=
    fun key value plain => keepsWritable_sanitizeField key plain
  have kept : ∀ entry ∈ (auditEvent ledger (anchoredEntry ledger entries fields digest .null)
      (entries.length + 1)).fields, KeepsWritable (sanitizeField recording.spell entry.1 entry.2) := by
    unfold auditEvent
    simp only [forall_mem_cons, not_mem_nil, false_implies, implies_true, and_true]
    refine ⟨plainField _ _ rfl, plainField _ _ (isPlain_bead accepted.bindings),
      plainField _ _ ledgerId, plainField _ _ ?_, plainField _ _ event, plainField _ _ ?_,
      plainField _ _ outcome, ⟨some (nat (entries.length + 1)), ?_, ?_⟩, plainField _ _ head⟩
    · change isPlain digest = true
      rw [digestEq]
      rfl
    · split
      · exact role
      · rfl
    · have positive : (0 : Int) ≤ ((entries.length + 1 : Nat) : Int) := by omega
      change Except.ok (if (0 : Int) ≤ ((entries.length + 1 : Nat) : Int) then
        some (int (entries.length + 1 : Nat)) else none) = _
      rw [if_pos positive]
      rfl
    · intro left member
      cases member
      exact number
  obtain ⟨sanitized, sanitizes, small⟩ := exists_sanitizeAuditEvent kept rfl
  have previous : Writable (previousEventHash audits) := by
    unfold previousEventHash
    cases last : audits.getLast? with
    | none => rfl
    | some event =>
      have own : event.value "event_hash" = auditEventPayloadHash event :=
        hashed_of_chain accepted.audits_eq event (mem_of_getLast? last)
      simp only [own]
      rfl
  exact @recordAuditEvent_of_writable _ _ _ _ "posix-flock" _ _ rfl
    (iterAuditEvents_of_chain accepted.audits_eq _ _) sanitizes
    ((writable_enrich (isDict_sanitizeAuditEvent sanitizes) previous).mpr (small.erase _))

theorem unanchored_anchoredEntry (digest auditHash : Json) :
    unanchored (anchoredEntry ledger entries fields digest auditHash) =
      unanchored (fields.entry (entries.length + 1) (ledger.value "head_entry_sha256") digest .null) := by
  unfold anchoredEntry
  rw [unanchored_entry, unanchored_entry]

theorem entryGate_anchoredEntry (digest auditHash : Json) :
    entryGate (anchoredEntry ledger entries fields digest auditHash) =
      entryGate (fields.entry (entries.length + 1) (ledger.value "head_entry_sha256") digest .null) :=
  entryGate_congr (unanchored_anchoredEntry digest auditHash) rfl

theorem effect_anchoredEntry (similar : Similar base.view index.view) (digest auditHash : Json) :
    (effect spell base.view (entries.length + 1)
        (fields.entry (entries.length + 1) (ledger.value "head_entry_sha256") digest .null)).unanchored =
      (effect spell index.view (entries.length + 1)
        (anchoredEntry ledger entries fields digest auditHash)).unanchored :=
  effect_similar similar (unanchored_anchoredEntry digest auditHash).symm spell _

theorem similar_after (similar : Similar base.view index.view) {left right : Effect}
    (same : left.unanchored = right.unanchored) :
    Similar (left.updates.foldl update base.clone).view
      (right.updates.foldl SemanticIndex.update index).view := by
  rw [view_updates, SemanticIndex.view_updates]
  exact similar.updates (congrArg Effect.updates same)

theorem Similar.certificationCount {left right : View} (similar : Similar left right) :
    left.certificationCount = right.certificationCount := by
  have counts : left.unanchored.certificationCount = right.unanchored.certificationCount := by
    rw [show left.unanchored = right.unanchored from similar]
  exact counts

theorem errors_of_unanchored {left right : Effect} (same : left.unanchored = right.unanchored) :
    left.errors = right.errors := by
  have errors : left.unanchored.errors = right.unanchored.errors := by rw [same]
  exact errors

theorem writable_unsigned {sequence : Nat}
    (body : Writable (((fields.unsigned sequence head).erase "entry_sha256").erase
      "audit_event_hash")) : Writable (fields.unsigned sequence head) := by
  have written : Writable (.obj [("sequence", nat sequence), ("event", fields.event),
      ("role", fields.role), ("ordinal", fields.ordinal),
      ("allocation_intent_id", fields.allocationIntentId), ("thread_id", fields.threadId),
      ("turn_intent_id", fields.turnIntentId), ("turn_id", fields.turnId),
      ("evidence_sha256", fields.evidenceSha256), ("outcome", fields.outcome),
      ("previous_entry_sha256", head)]) := body
  have whole := @Writable.set _ written "audit_event_hash" .null rfl
  exact whole

theorem writable_anchoredEntry {digest auditHash : Json}
    (hashed : entrySha256 (fields.unsigned (entries.length + 1)
      (ledger.value "head_entry_sha256")) = .ok digest)
    (anchor : Writable auditHash) :
    Writable (anchoredEntry ledger entries fields digest auditHash) := by
  obtain ⟨body, rfl⟩ := domainSha256_ok.mp hashed
  exact ((writable_unsigned body).set _ (writable_sha256 _)).set _ anchor

variable (accepted : Accepted spell ledger lines entries audits index)

include accepted

theorem extended_eq {digest : Json} (hashed : entrySha256 (fields.unsigned (entries.length + 1)
      (ledger.value "head_entry_sha256")) = .ok digest) :
    extended recording ledger lines fields =
      (recording.record ledger (anchoredEntry ledger entries fields digest .null)
        (entries.length + 1) lines).bind fun recorded =>
          (extend ledger (anchoredEntry ledger entries fields digest
            (recorded.1.value "event_hash")) (entries.length + 1)).map fun next =>
              (next, recorded.2) := by
  have old : entriesOf ledger = entries := by
    unfold entriesOf
    rw [accepted.entries_eq]
    rfl
  unfold extended
  dsimp only
  rw [old, hashed]
  change (recording.record ledger (anchoredEntry ledger entries fields digest .null)
    (entries.length + 1) lines >>= _) = _
  cases recording.record ledger (anchoredEntry ledger entries fields digest .null)
      (entries.length + 1) lines with
  | error error => rfl
  | ok recorded =>
    cases extend ledger (anchoredEntry ledger entries fields digest
      (recorded.1.value "event_hash")) (entries.length + 1) with
    | error error => rfl
    | ok next => rfl

variable (similar : Similar base.view index.view)

include similar

/-- A ledger extended by a checked entry is accepted, and the committed index is that of a restart. -/
theorem validated_of_checked {entry : Json} {candidate : SemanticCandidate}
    (checked : checkAppend spell (ledger.value "ledger_id") entries.length
      (ledger.value "head_entry_sha256") base fields = .ok ([], entry, candidate)) :
    ∃ next after validated, extended recording ledger lines fields = .ok (next, after) ∧
      validateWithIndex spell next (some ⟨after, true⟩) = .ok validated ∧ validated.errors = [] ∧
      Similar candidate.commit.view validated.index.view := by
  obtain ⟨digest, hashed, rfl, gate, event, clean, rfl, certification⟩ := checkAppend_clean.mp checked
  obtain ⟨rolePlain, outcomePlain⟩ := @isPlain_of_effect spell base.view (entries.length + 1)
    (fields.entry (entries.length + 1) (ledger.value "head_entry_sha256") digest .null) event clean
  have eventPlain : isPlain fields.event = true := by
    obtain ⟨name, _, named⟩ := isOneOf_eq_true event
    rw [named]
    rfl
  obtain ⟨audit, after, recorded⟩ := @exists_record _ _ _ _ _ _ recording _ accepted _ hashed
    eventPlain rolePlain outcomePlain
  obtain ⟨sanitized, mode, kept, hash, own, read⟩ := readAuditChain_recorded accepted.audits_eq recorded
  have digestHash : audit.value "event_hash" = auditEventPayloadHash _ := hash.trans own
  obtain ⟨next, extension⟩ := @exists_extend ledger _ _ _ accepted.state
    (@writable_anchoredEntry _ _ _ _ (audit.value "event_hash") hashed (by rw [digestHash]; rfl))
    (@Writable.of_get? _ (domainSha256_ok.mp hashed).1 "sequence" _ rfl)
  have same := @effect_anchoredEntry spell ledger entries _ _ fields similar digest
    (audit.value "event_hash")
  have indices := similar_after similar same
  refine ⟨next, after, _, ?_, ((validate_extended accepted hashed extension read).mpr
    ⟨?_, event, ?_, ?_, ?_, rfl⟩).1, rfl, ?_⟩
  · rw [extended_eq accepted hashed, recorded]
    dsimp only [Except.bind]
    rw [extension]
    rfl
  · rw [entryGate_anchoredEntry]
    exact gate
  · have named : isSha256 ((anchoredEntry ledger entries fields digest
        (audit.value "event_hash")).value "audit_event_hash") = true := by
      change isSha256 (audit.value "event_hash") = true
      rw [digestHash]
      rfl
    have anchored := auditAnchorMatches_recorded kept mode recording.timestamp
      (previousEventHash audits) accepted.ledgerId event (isSha256_of_entrySha256 hashed)
      (unanchored_anchoredEntry digest (audit.value "event_hash")) hash
    unfold auditErrors
    rw [named, anchored]
    rfl
  · rw [← clean]
    exact (errors_of_unanchored same).symm
  · rw [← indices.certificationCount]
    exact certification
  · rw [view_commit]
    exact indices

/-- An entry is checked without errors when the ledger extended by it is accepted. -/
theorem checked_of_validated {next : Json} {after : List Line} {validated : Validated}
    (extension : extended recording ledger lines fields = .ok (next, after))
    (valid : validateWithIndex spell next (some ⟨after, true⟩) = .ok validated)
    (clean : validated.errors = []) :
    ∃ entry candidate, checkAppend spell (ledger.value "ledger_id") entries.length
      (ledger.value "head_entry_sha256") base fields = .ok ([], entry, candidate) := by
  cases hashed : entrySha256 (fields.unsigned (entries.length + 1)
      (ledger.value "head_entry_sha256")) with
  | error error =>
    have old : entriesOf ledger = entries := by
      unfold entriesOf
      rw [accepted.entries_eq]
      rfl
    unfold extended at extension
    dsimp only at extension
    rw [old, hashed] at extension
    cases extension
  | ok digest =>
    rw [extended_eq accepted hashed] at extension
    cases recorded : recording.record ledger (anchoredEntry ledger entries fields digest .null)
        (entries.length + 1) lines with
    | error error =>
      rw [recorded] at extension
      cases extension
    | ok outcome =>
      obtain ⟨audit, file⟩ := outcome
      rw [recorded] at extension
      dsimp only [Except.bind] at extension
      cases written : extend ledger (anchoredEntry ledger entries fields digest
          (audit.value "event_hash")) (entries.length + 1) with
      | error error =>
        rw [written] at extension
        cases extension
      | ok sealedLedger =>
        rw [written] at extension
        cases extension
        obtain ⟨sanitized, mode, _, _, _, read⟩ :=
          readAuditChain_recorded accepted.audits_eq recorded
        obtain ⟨gate, event, _, effects, certification, _⟩ :=
          (validate_extended accepted hashed written read).mp ⟨valid, clean⟩
        have same := @effect_anchoredEntry spell ledger entries _ _ fields similar digest
          (audit.value "event_hash")
        rw [entryGate_anchoredEntry] at gate
        refine ⟨_, _, checkAppend_clean.mpr ⟨digest, hashed, rfl, gate, event, ?_, rfl, ?_⟩⟩
        · rw [← effects]
          exact errors_of_unanchored same
        · have indices := similar_after similar same
          rw [indices.certificationCount]
          exact certification

theorem checked_iff_validated :
    (∃ entry candidate, checkAppend spell (ledger.value "ledger_id") entries.length
        (ledger.value "head_entry_sha256") base fields = .ok ([], entry, candidate)) ↔
      ∃ next after validated, extended recording ledger lines fields = .ok (next, after) ∧
        validateWithIndex spell next (some ⟨after, true⟩) = .ok validated ∧
        validated.errors = [] := by
  constructor
  · rintro ⟨entry, candidate, checked⟩
    obtain ⟨next, after, validated, extension, valid, clean, _⟩ :=
      @validated_of_checked _ _ _ _ _ _ _ recording _ accepted similar _ _ checked
    exact ⟨next, after, validated, extension, valid, clean⟩
  · rintro ⟨next, after, validated, extension, valid, clean⟩
    exact checked_of_validated accepted similar extension valid clean

end WorkOrchestration.Native.LiveLedger
