import WorkOrchestration.Lib.Programs
import WorkOrchestration.Native.LiveLedgerRevalidation

/-!
# The store of the live ledger

A store validates its files once, remembers by which coordinates it knows them, and
from then on checks single entries against the index that it has built.  Every file
operation may fail; whatever fails, the index that the append has started from is
the one it had before.
-/

namespace WorkOrchestration.Native.LiveLedger

open Lib.Checks Lib.HashChain Lib.Programs Audit Artifacts
open Triple (cleanup get_bind ofExcept of_state)

/-! ## State -/

/-- `_PrivateFileIdentity`. -/
structure FileIdentity where
  device : Nat
  inode : Nat
  size : Nat
  modifiedNs : Nat
  changedNs : Nat
  deriving DecidableEq

/-- `_TrustedLedgerCoordinates`. -/
structure Coordinates where
  ledgerType : Json
  version : Json
  schema : Json
  ledgerId : Json
  bindingsSha256 : Json
  sequence : Json
  entryCount : Nat
  headEntrySha256 : Json
  stateSha256 : Json
  ledgerFile : FileIdentity
  auditFile : FileIdentity
  auditEventCount : Nat
  auditHeadSha256 : Json
  absenceProofFiles : List (String × FileIdentity)

/--
A store and its two files.  The index is an object that is changed in place; a store
that has been disarmed no longer refers to it.
-/
structure Store where
  trusted : Option Coordinates
  indexed : Bool
  object : SemanticIndex
  ledger : Json
  audit : List Line

/-- A file operation that works, or fails before or after it has had its effect. -/
inductive Fault where
  | none
  | before (error : PyError)
  | after (error : PyError)

/-- What the file operations of one call answer, in the order in which they are made. -/
structure Surroundings where
  lock : Except PyError Unit
  readLedger : Except PyError FileIdentity
  readAudit : Except PyError FileIdentity
  proofIdentity : String → Except PyError FileIdentity
  absenceProofs : Except PyError (List (String × FileIdentity))
  guardedProofIdentity : Except PyError FileIdentity
  recording : Recording
  recordFault : Fault
  chmodAudit : Except PyError Unit
  readAuditAgain : Except PyError FileIdentity
  textSize : Json → Nat
  writeFault : Fault
  ledgerIdentity : Except PyError FileIdentity
  stable : Except PyError Unit

/-- The functions that some callers hand to an append. -/
structure Guards where
  idempotentExisting : Option (Json → SemanticIndex → Except PyError Json)
  preAppend : Option (Json → SemanticIndex → Except PyError (Option (String × FileIdentity)))

abbrev StoreProgram := EStateM PyError Store

def demand (condition : Bool) (message : String) : StoreProgram Unit :=
  if condition then pure () else throw (ledgerError message)

/-! ## Trust -/

def disarm : StoreProgram Unit := modify ({ · with trusted := none, indexed := false })

def bindingsSha256 (state : Json) : Except PyError Json :=
  let bindings := state.value "bindings"
  if bindings.isObject then
    domainSha256 "native-live-allocation-ledger-trusted-bindings" bindings
  else .ok (.str "")

/-- The coordinates by which a state and its audit trail are known. -/
def coordinates (state bindings : Json) (ledgerFile auditFile : FileIdentity) (count : Nat)
    (auditHead : Json) (proofs : List (String × FileIdentity)) : Coordinates where
  ledgerType := state.value "ledger_type"
  version := state.value "version"
  schema := state.value "schema"
  ledgerId := state.value "ledger_id"
  bindingsSha256 := bindings
  sequence := state.value "sequence"
  entryCount := (entriesOf state).length
  headEntrySha256 := state.value "head_entry_sha256"
  stateSha256 := state.value "state_sha256"
  ledgerFile := ledgerFile
  auditFile := auditFile
  auditEventCount := count
  auditHeadSha256 := auditHead
  absenceProofFiles := proofs

def arm (state : Json) (index : SemanticIndex) (ledgerFile auditFile : FileIdentity) (count : Nat)
    (auditHead : Json) (proofs : List (String × FileIdentity)) : StoreProgram Unit := do
  let bindings ← ofExcept (bindingsSha256 state)
  modify ({ · with
    trusted := some (coordinates state bindings ledgerFile auditFile count auditHead proofs)
    indexed := true
    object := index })

def auditTail (lines : List Line) : Except PyError (Option Json) :=
  match lines.getLast? with
  | none => .ok none
  | some (.document event) =>
    if event.isObject then .ok (some event) else .error (ledgerError "ledger-audit-tail-invalid")
  | some (.refused error) => .error error
  | some _ => .error (ledgerError "ledger-audit-tail-invalid")

def proofsMatch (identity : String → Except PyError FileIdentity) :
    List (String × FileIdentity) → Except PyError Bool
  | [] => .ok true
  | (path, known) :: rest => do
      if (← identity path) = known then proofsMatch identity rest else return false

variable (spell : Json → String) (surroundings : Surroundings)

/-- Whether the files are still the ones that the store knows. -/
def coordinatesMatch (trusted : Coordinates) (state : Json)
    (tail : Option Json) (ledgerFile auditFile : FileIdentity) : Except PyError Bool := do
  if !(ledgerFile = trusted.ledgerFile && auditFile = trusted.auditFile &&
      state.value "ledger_type" == trusted.ledgerType && state.value "version" == trusted.version &&
      state.value "schema" == trusted.schema && state.value "ledger_id" == trusted.ledgerId) then
    return false
  let bindings ← bindingsSha256 state
  if !(bindings == trusted.bindingsSha256 && state.value "sequence" == trusted.sequence &&
      (state.value "entries").elements?.map List.length == some trusted.entryCount &&
      state.value "head_entry_sha256" == trusted.headEntrySha256 &&
      state.value "state_sha256" == trusted.stateSha256 &&
      trusted.auditEventCount == trusted.entryCount &&
      (tail.elim .null fun event => event.value "event_hash") == trusted.auditHeadSha256) then
    return false
  proofsMatch surroundings.proofIdentity trusted.absenceProofFiles

/-- `_require_trusted_locked`. -/
def requireTrusted : StoreProgram (Json × Coordinates × Option Json) := do
  let store ← get
  match store.trusted, store.indexed with
  | some trusted, true =>
    tryCatch (do
      let ledgerFile ← ofExcept surroundings.readLedger
      let auditFile ← ofExcept surroundings.readAudit
      let tail ← ofExcept (auditTail store.audit)
      let known ← ofExcept
        (coordinatesMatch surroundings trusted store.ledger tail ledgerFile auditFile)
      demand known "ledger-store-stale"
      return (store.ledger, trusted, tail))
      fun error => do
        disarm
        throw error
  | _, _ => throw (ledgerError "ledger-store-not-open")

/-- `_full_validate_locked`. -/
def fullValidate (failure : String) :
    StoreProgram Json :=
  tryCatch (do
    let store ← get
    let ledgerFile ← ofExcept surroundings.readLedger
    let auditFile ← ofExcept surroundings.readAudit
    let validated ← ofExcept (validateWithIndex spell store.ledger (some ⟨store.audit, true⟩))
    demand validated.errors.isEmpty (failure ++ ":" ++ String.intercalate ";" validated.errors)
    let proofs ← ofExcept surroundings.absenceProofs
    ofExcept surroundings.stable
    arm store.ledger validated.index ledgerFile auditFile validated.audits.length
      ((validated.audits.getLast?).elim .null fun event => event.value "event_hash") proofs
    return store.ledger)
    fun error => do
      disarm
      throw error

/-- `open`: whatever the store has known before is forgotten first. -/
def openStore : StoreProgram Json := do
  disarm
  ofExcept surroundings.lock
  fullValidate spell surroundings "ledger-invalid"

/-! ## Appending -/

/-- The entry that an idempotent caller has already appended, or `None`. -/
def findExisting (guards : Guards) (state : Json) (index : SemanticIndex) : Except PyError Json :=
  match guards.idempotentExisting with
  | none => .ok .null
  | some guard => do
      let existing ← guard state index
      if existing = .null || (existing.isObject && (entriesOf state).contains existing) then
        return existing
      .error (ledgerError "ledger-idempotency-guard-result-invalid")

def guardedProof (guards : Guards) (state : Json) (index : SemanticIndex) :
    Except PyError (Option (String × FileIdentity)) :=
  match guards.preAppend with
  | none => .ok none
  | some guard => do
      match ← guard state index with
      | some proof => return some proof
      | none => .error (ledgerError "ledger-pre-append-guard-result-invalid")

/-- The absence proofs that the store knows after the append. -/
def provedFiles (trusted : Coordinates) :
    Option (String × FileIdentity) → Except PyError (List (String × FileIdentity))
  | none => .ok trusted.absenceProofFiles
  | some proof => do
      if (← surroundings.guardedProofIdentity) ≠ proof.2 then
        .error (ledgerError "turn-intent-absence-proof-identity-changed")
      return trusted.absenceProofFiles.filter (·.1 ≠ proof.1) ++ [proof]

/-- `record_audit_event` on the audit file of the store. -/
def recordEvent (state entry : Json) (sequence : Nat) :
    StoreProgram Json := do
  let store ← get
  match surroundings.recordFault with
  | .before error => throw error
  | fault => do
      let (audit, after) ← ofExcept (surroundings.recording.record state entry sequence store.audit)
      modify ({ · with audit := after })
      match fault with
      | .after error => throw error
      | _ => return audit

def auditAdvancedOnce (trusted : Coordinates) (tail : Option Json)
    (audit : Json) (auditFile : FileIdentity) : Bool :=
  tail == some audit.canonical && auditFile.device == trusted.auditFile.device &&
    auditFile.inode == trusted.auditFile.inode &&
    auditFile.size == trusted.auditFile.size + surroundings.textSize audit &&
    audit.value "previous_event_hash" == trusted.auditHeadSha256 &&
    audit.value "event_hash" == auditEventPayloadHash audit

/-- `_atomic_private_write` of the ledger. -/
def writeLedger (updated : Json) : StoreProgram Unit :=
  match surroundings.writeFault with
  | .before error => throw error
  | .none => modify ({ · with ledger := updated })
  | .after error => do
      modify ({ · with ledger := updated })
      throw error

/-- What an append does once its check has found no error: from here on trust is suspended. -/
def commitEntry (state : Json) (trusted : Coordinates) (entry : Json)
    (candidate : SemanticCandidate) (proofs : List (String × FileIdentity)) : StoreProgram Json := do
  let sequence := trusted.entryCount + 1
  disarm
  let audit ← recordEvent surroundings state entry sequence
  ofExcept surroundings.chmodAudit
  let auditFile ← ofExcept surroundings.readAuditAgain
  let tail ← ofExcept (auditTail (← get).audit)
  let anchored := entry.set "audit_event_hash" (audit.value "event_hash")
  demand (auditAdvancedOnce surroundings trusted tail audit auditFile &&
      auditAnchorMatches tail anchored trusted.ledgerId sequence) "ledger-audit-transition-invalid"
  let updated ← ofExcept (extend state anchored sequence)
  writeLedger surroundings updated
  let ledgerFile ← ofExcept surroundings.ledgerIdentity
  ofExcept surroundings.stable
  modify ({ · with object := candidate.commit })
  arm updated candidate.commit ledgerFile auditFile (trusted.auditEventCount + 1)
    (audit.value "event_hash") proofs
  return anchored

def append (guards : Guards)
    (fields : Fields) : StoreProgram Json := do
  ofExcept surroundings.lock
  tryCatch (do
    let (state, trusted, _) ← requireTrusted surroundings
    let base := (← get).object
    let existing ← ofExcept (findExisting guards state base)
    if existing ≠ .null then return existing
    let proof ← ofExcept (guardedProof guards state base)
    let (errors, entry, candidate) ← ofExcept
      (checkAppend spell trusted.ledgerId trusted.entryCount trusted.headEntrySha256 base fields)
    demand errors.isEmpty
      ("ledger-transition-invalid:" ++ String.intercalate ";" (sortedSet errors))
    let proofs ← ofExcept (provedFiles surroundings trusted proof)
    commitEntry surroundings state trusted entry candidate proofs)
    fun error => do
      disarm
      throw error

/-! ## Steps of the store -/

section

variable {assertion fail : Store → Prop} {surroundings : Surroundings}

theorem triple_ofExcept {α : Type} (result : Except PyError α) :
    Triple assertion (ofExcept result : StoreProgram α)
      (fun value store => assertion store ∧ result = .ok value) assertion :=
  ofExcept (fun _ same _ holds => ⟨holds, same⟩) fun _ holds => holds

theorem triple_demand (condition : Bool) (message : String) :
    Triple assertion (demand condition message)
      (fun _ store => assertion store ∧ condition = true) assertion := by
  cases condition with
  | true => exact Triple.pure fun _ holds => ⟨holds, rfl⟩
  | false => exact Triple.throw fun _ holds => holds

/-- What the trust of a store rests on. -/
def Known (surroundings : Surroundings) (store : Store) (trusted : Coordinates) : Prop :=
  store.trusted = some trusted ∧ store.indexed = true ∧
    ∃ tail ledgerFile auditFile, auditTail store.audit = .ok tail ∧
      coordinatesMatch surroundings trusted store.ledger tail ledgerFile auditFile = .ok true

/-- The index object and the ledger file of a store, whether it is armed or not. -/
def Unchanged (store current : Store) : Prop :=
  current.object = store.object ∧ current.ledger = store.ledger

/-- The state of a trusted store is read without a change. -/
theorem triple_requireTrusted {store : Store}
    (forgetful : ∀ current, Unchanged store current → fail current) :
    Triple (fun current => current = store) (requireTrusted surroundings)
      (fun answer current => current = store ∧ answer.1 = store.ledger ∧
        Known surroundings store answer.2.1) fail := by
  refine get_bind fun current same => ?_
  subst same
  split
  · rename_i trusted known armed
    have disarms : Triple (fun later => later = current) disarm (fun _ => Unchanged current)
        (Unchanged current) :=
      Triple.modify fun later same => by rw [same]; exact ⟨rfl, rfl⟩
    refine cleanup ?_ (disarms.consequence (fun _ => id) (fun _ => forgetful) forgetful)
    refine Triple.bind (triple_ofExcept _) fun ledgerFile => ?_
    refine Triple.bind (m := fun _ later => later = current) ?_ fun auditFile => ?_
    · exact ofExcept (fun _ _ _ holds => holds.1) fun _ holds => holds.1
    refine Triple.bind (triple_ofExcept _) fun tail => ?_
    refine Triple.bind (m := fun answer later => later = current ∧
        auditTail current.audit = .ok tail ∧
        coordinatesMatch surroundings trusted current.ledger tail ledgerFile auditFile =
          .ok answer) ?_ fun matched => ?_
    · exact ofExcept (fun _ matched _ holds => ⟨holds.1, holds.2, matched⟩)
        fun _ holds => holds.1
    refine Triple.bind ((triple_demand matched _).consequence (fun _ => id) (fun _ _ => id)
      fun _ holds => holds.1) fun _ => ?_
    refine Triple.pure fun later holds => ?_
    obtain ⟨⟨same, tailRead, coordinates⟩, rfl⟩ := holds
    exact ⟨same, rfl, known, armed, tail, ledgerFile, auditFile, tailRead, coordinates⟩
  · exact Triple.throw fun later same => forgetful later (by rw [same]; exact ⟨rfl, rfl⟩)

theorem coordinatesMatch_ok {trusted : Coordinates} {state : Json} {tail : Option Json}
    {ledgerFile auditFile : FileIdentity}
    (matched : coordinatesMatch surroundings trusted state tail ledgerFile auditFile = .ok true) :
    (∃ bindings, bindingsSha256 state = .ok bindings) ∧ trusted.ledgerId = state.value "ledger_id" ∧
      trusted.entryCount = (entriesOf state).length ∧
      trusted.headEntrySha256 = state.value "head_entry_sha256" ∧
      trusted.auditEventCount = trusted.entryCount := by
  unfold coordinatesMatch at matched
  split at matched
  · cases matched
  · rename_i header
    obtain ⟨bindings, hashed, matched⟩ := bind_ok matched
    split at matched
    · cases matched
    · rename_i body
      simp only [Bool.not_eq_true', Bool.not_eq_false, Bool.and_eq_true, beq_iff_eq] at header body
      obtain ⟨_, ledgerId⟩ := header
      obtain ⟨⟨⟨⟨⟨⟨_, _⟩, entries⟩, head⟩, _⟩, count⟩, _⟩ := body
      refine ⟨⟨bindings, hashed⟩, ledgerId.symm, ?_, head.symm, count⟩
      obtain ⟨items, found, length⟩ := Option.map_eq_some_iff.mp entries
      unfold entriesOf
      rw [found]
      exact length.symm

/-- After the commit of an entry the store knows the ledger that holds it. -/
structure Committed (surroundings : Surroundings) (before : Store) (state entry : Json)
    (sequence : Nat) (candidate : SemanticCandidate) (anchored : Json) (after : Store) : Prop where
  object : after.object = candidate.commit
  indexed : after.indexed = true
  trusted : ∃ bindings ledgerFile auditFile count head proofs,
    after.trusted = some (coordinates after.ledger bindings ledgerFile auditFile count head proofs)
  recorded : ∃ audit, surroundings.recording.record state entry sequence before.audit =
      .ok (audit, after.audit) ∧
    anchored = entry.set "audit_event_hash" (audit.value "event_hash") ∧
    extend state anchored sequence = .ok after.ledger

/-- A commit that has failed: the index is as it was, the ledger file possibly longer by the entry. -/
def Spoiled (store : Store) (state entry : Json) (sequence : Nat) (current : Store) : Prop :=
  current.object = store.object ∧ (current.ledger = store.ledger ∨
    ∃ hash, extend state (entry.set "audit_event_hash" hash) sequence = .ok current.ledger)

theorem Unchanged.spoiled {store current : Store} (unchanged : Unchanged store current)
    (state entry : Json) (sequence : Nat) : Spoiled store state entry sequence current :=
  ⟨unchanged.1, .inl unchanged.2⟩

/-- Nothing can fail any more once the overlay has been committed. -/
theorem triple_commitEntry {store : Store} {state entry : Json} {trusted : Coordinates}
    {candidate : SemanticCandidate} {proofs : List (String × FileIdentity)} {bindings : Json}
    (hashed : bindingsSha256 state = .ok bindings) :
    Triple (fun current => current = store)
      (commitEntry surroundings state trusted entry candidate proofs)
      (Committed surroundings store state entry (trusted.entryCount + 1) candidate)
      (Spoiled store state entry (trusted.entryCount + 1)) := by
  refine Triple.bind (m := fun _ current => Unchanged store current ∧ current.audit = store.audit)
    (Triple.modify fun current same => by rw [same]; exact ⟨⟨rfl, rfl⟩, rfl⟩) fun _ => ?_
  refine Triple.bind (m := fun audit current => Unchanged store current ∧
    surroundings.recording.record state entry (trusted.entryCount + 1) store.audit =
      .ok (audit, current.audit)) ?_ fun audit => ?_
  · refine get_bind fun current same => ?_
    split
    · exact Triple.throw fun later later_eq => by rw [later_eq]; exact same.1.spoiled _ _ _
    · refine Triple.bind (triple_ofExcept _ |>.consequence (fun _ => id) (fun _ _ => id)
        fun later later_eq => by rw [later_eq]; exact same.1.spoiled _ _ _) fun recorded => ?_
      obtain ⟨audit, after⟩ := recorded
      refine Triple.bind (m := fun _ later => Unchanged store later ∧
        surroundings.recording.record state entry (trusted.entryCount + 1) store.audit =
          .ok (audit, later.audit)) (Triple.modify ?_) fun _ => ?_
      · rintro later ⟨rfl, recorded⟩
        rw [same.2] at recorded
        exact ⟨same.1, recorded⟩
      · split
        · exact Triple.throw fun later holds => holds.1.spoiled _ _ _
        · exact Triple.pure fun later holds => holds
  -- every later failure finds the object untouched; the audit file keeps the event
  have keep {α : Type} (result : Except PyError α) : Triple (fun current : Store =>
      Unchanged store current ∧ surroundings.recording.record state entry
        (trusted.entryCount + 1) store.audit = .ok (audit, current.audit))
      (ofExcept result) (fun _ current => Unchanged store current ∧
        surroundings.recording.record state entry (trusted.entryCount + 1) store.audit =
          .ok (audit, current.audit)) (Spoiled store state entry (trusted.entryCount + 1)) :=
    ofExcept (fun _ _ _ holds => holds) fun _ holds => holds.1.spoiled _ _ _
  refine Triple.bind (keep _) fun _ => ?_
  refine Triple.bind (keep _) fun auditFile => ?_
  refine get_bind fun current holds => ?_
  obtain ⟨unchanged, recorded⟩ := holds
  have stay {α : Type} {assertion : Store → Prop} (within : ∀ later, assertion later →
      Spoiled store state entry (trusted.entryCount + 1) later) (result : Except PyError α) :
      Triple assertion (ofExcept result) (fun value later => assertion later ∧ result = .ok value)
        (Spoiled store state entry (trusted.entryCount + 1)) :=
    (triple_ofExcept result).consequence (fun _ => id) (fun _ _ => id) within
  have started : ∀ later : Store, later = current →
      Spoiled store state entry (trusted.entryCount + 1) later := by
    rintro later rfl
    exact unchanged.spoiled _ _ _
  refine Triple.bind (stay started _) fun tail => ?_
  refine Triple.bind ((triple_demand _ _).consequence (fun _ holds => holds.1) (fun _ _ => id)
    started) fun _ => ?_
  refine Triple.bind (stay (fun later holds => started later holds.1) _) fun updated => ?_
  have written : ∀ later : Store, later = { current with ledger := updated } ∧
      extend state (entry.set "audit_event_hash" (audit.value "event_hash"))
        (trusted.entryCount + 1) = .ok updated →
      Spoiled store state entry (trusted.entryCount + 1) later := by
    rintro later ⟨rfl, extension⟩
    exact ⟨unchanged.1, .inr ⟨_, extension⟩⟩
  refine Triple.bind (m := fun _ later => later = { current with ledger := updated } ∧
    extend state (entry.set "audit_event_hash" (audit.value "event_hash"))
      (trusted.entryCount + 1) = .ok updated) ?_ fun _ => ?_
  · unfold writeLedger
    split
    · exact Triple.throw fun later holds => started later holds.1.1
    · exact Triple.modify fun later holds => ⟨by rw [holds.1.1], holds.2⟩
    · refine Triple.bind (m := fun _ later => later = { current with ledger := updated } ∧
        extend state (entry.set "audit_event_hash" (audit.value "event_hash"))
          (trusted.entryCount + 1) = .ok updated)
        (Triple.modify fun later holds => ⟨by rw [holds.1.1], holds.2⟩) fun _ => ?_
      exact Triple.throw written
  refine Triple.bind (stay written _) fun ledgerFile => ?_
  refine Triple.bind (stay (fun later holds => written later holds.1) _) fun _ => ?_
  refine Triple.bind (m := fun _ later =>
    later = { current with ledger := updated, object := candidate.commit } ∧
      extend state (entry.set "audit_event_hash" (audit.value "event_hash"))
        (trusted.entryCount + 1) = .ok updated)
    (Triple.modify fun later holds => ⟨by rw [holds.1.1.1], holds.1.1.2⟩) fun _ => ?_
  refine Triple.bind (m := fun _ later => Committed surroundings store state entry
    (trusted.entryCount + 1) candidate
      (entry.set "audit_event_hash" (audit.value "event_hash")) later) ?_ fun _ =>
    Triple.pure fun later holds => holds
  refine of_state fun later holds => ?_
  obtain ⟨rfl, extension⟩ := holds
  have same : bindingsSha256 updated = .ok bindings := by
    unfold bindingsSha256 at hashed ⊢
    rw [value_extend extension (by decide)]
    exact hashed
  unfold arm
  rw [same]
  refine Triple.modify fun later holds => ?_
  obtain ⟨rfl, rfl⟩ := holds
  exact ⟨rfl, rfl, ⟨_, _, _, _, _, _, rfl⟩, audit, recorded, rfl, extension⟩

end

/-! ## Appends and validations -/

section

variable {spell : Json → String} {surroundings : Surroundings} {guards : Guards} {fields : Fields}

/-- What an append returns: an entry that was there, or the one it has committed. -/
def Appended (spell : Json → String) (surroundings : Surroundings) (fields : Fields)
    (before : Store) (entry : Json) (after : Store) : Prop :=
  after = before ∨ ∃ trusted unanchored candidate, Known surroundings before trusted ∧
    checkAppend spell trusted.ledgerId trusted.entryCount trusted.headEntrySha256 before.object
      fields = .ok ([], unanchored, candidate) ∧
    Committed surroundings before before.ledger unanchored (trusted.entryCount + 1) candidate entry
      after

/-- The ledger file after an append: as it was, or longer by an entry that was checked. -/
def Lengthened (spell : Json → String) (surroundings : Surroundings) (fields : Fields)
    (before after : Store) : Prop :=
  after.ledger = before.ledger ∨ ∃ trusted unanchored candidate hash,
    Known surroundings before trusted ∧
    checkAppend spell trusted.ledgerId trusted.entryCount trusted.headEntrySha256 before.object
      fields = .ok ([], unanchored, candidate) ∧
    extend before.ledger (unanchored.set "audit_event_hash" hash) (trusted.entryCount + 1) =
      .ok after.ledger

/-- A failed append has left the index alone, and the store disarmed if it had begun. -/
structure Abandoned (spell : Json → String) (surroundings : Surroundings) (fields : Fields)
    (before after : Store) : Prop where
  object : after.object = before.object
  disarmed : after.indexed = false ∨ after = before
  ledger : Lengthened spell surroundings fields before after

theorem triple_append {store : Store} :
    Triple (fun current => current = store) (append spell surroundings guards fields)
      (Appended spell surroundings fields store) (Abandoned spell surroundings fields store) := by
  have unchanged : ∀ current, Unchanged store current → current.object = store.object ∧
      Lengthened spell surroundings fields store current :=
    fun current same => ⟨same.1, .inl same.2⟩
  unfold append
  refine Triple.bind (m := fun _ current => current = store)
    (ofExcept (fun _ _ _ same => same) fun _ same =>
      ⟨by rw [same], .inr same, .inl (by rw [same])⟩) fun _ => ?_
  have disarms : Triple (fun current => current.object = store.object ∧
      Lengthened spell surroundings fields store current) disarm
      (fun _ => Abandoned spell surroundings fields store)
      (Abandoned spell surroundings fields store) :=
    Triple.modify fun current same => ⟨same.1, .inl rfl, same.2⟩
  refine cleanup ?_ disarms
  have stay {α : Type} (result : Except PyError α) : Triple (fun current : Store => current = store)
      (ofExcept result) (fun value current => current = store ∧ result = .ok value)
      (fun current => current.object = store.object ∧
        Lengthened spell surroundings fields store current) :=
    (triple_ofExcept result).consequence (fun _ => id) (fun _ _ => id) fun current same =>
      unchanged current (by rw [same]; exact ⟨rfl, rfl⟩)
  refine Triple.bind (triple_requireTrusted unchanged) fun answer => ?_
  obtain ⟨state, trusted, tail⟩ := answer
  refine of_state fun current holds => ?_
  obtain ⟨rfl, stateEq, known⟩ := holds
  change state = current.ledger at stateEq
  subst stateEq
  refine get_bind fun later same => ?_
  subst same
  refine Triple.bind (stay _) fun existing => ?_
  by_cases found : existing ≠ .null
  · rw [if_pos found]
    exact Triple.pure fun current holds => .inl holds.1
  rw [if_neg found]
  refine Triple.bind ((stay _).consequence (fun _ holds => holds.1) (fun _ _ => id) fun _ => id)
    fun proof => ?_
  refine Triple.bind ((stay _).consequence (fun _ holds => holds.1) (fun _ _ => id) fun _ => id)
    fun outcome => ?_
  obtain ⟨errors, entry, candidate⟩ := outcome
  refine Triple.bind ((triple_demand _ _).consequence (fun _ => id) (fun _ _ => id)
    fun _ holds => unchanged _ (by rw [holds.1]; exact ⟨rfl, rfl⟩)) fun _ => ?_
  refine of_state fun current holds => ?_
  obtain ⟨⟨rfl, checked⟩, clean⟩ := holds
  have empty : errors = [] := List.isEmpty_iff.mp clean
  subst empty
  refine Triple.bind (stay _) fun proofs => ?_
  obtain ⟨_, _, _, _, _, _, matched⟩ := id known
  obtain ⟨⟨bindings, hashed⟩, _⟩ := coordinatesMatch_ok matched
  refine (triple_commitEntry hashed).consequence (fun _ holds => holds.1)
    (fun _ _ committed => .inr ⟨trusted, entry, candidate, known, checked, committed⟩) ?_
  rintro after ⟨object, same | ⟨hash, extension⟩⟩
  · exact ⟨object, .inl same⟩
  · exact ⟨object, .inr ⟨trusted, entry, candidate, hash, known, checked, extension⟩⟩

/-- The index of the store is the one that a full validation of its files builds, up to audit hashes. -/
def Trustworthy (spell : Json → String) (store : Store) : Prop :=
  ∃ validated, validateWithIndex spell store.ledger (some ⟨store.audit, true⟩) = .ok validated ∧
    validated.errors = [] ∧ Similar store.object.view validated.index.view

/-- A full validation that succeeds leaves a trustworthy store. -/
theorem triple_fullValidate {store : Store} {failure : String} :
    Triple (fun current => current = store) (fullValidate spell surroundings failure)
      (fun _ after => Trustworthy spell after) (fun after => after.indexed = false) := by
  have disarms : Triple (fun _ => True) disarm (fun _ after => after.indexed = false)
      (fun after => after.indexed = false) := Triple.modify fun _ _ => rfl
  refine cleanup ?_ disarms
  refine get_bind fun current same => ?_
  have stay {α : Type} (result : Except PyError α) : Triple (fun later : Store => later = current)
      (ofExcept result) (fun value later => later = current ∧ result = .ok value) (fun _ => True) :=
    (triple_ofExcept result).consequence (fun _ => id) (fun _ _ => id) fun _ _ => trivial
  refine Triple.bind (stay _) fun ledgerFile => ?_
  refine Triple.bind ((stay _).consequence (fun _ holds => holds.1) (fun _ _ => id) fun _ => id)
    fun auditFile => ?_
  refine Triple.bind ((stay _).consequence (fun _ holds => holds.1) (fun _ _ => id) fun _ => id)
    fun validated => ?_
  refine Triple.bind ((triple_demand _ _).consequence (fun _ => id) (fun _ _ => id)
    fun _ _ => trivial) fun _ => ?_
  refine of_state fun later holds => ?_
  obtain ⟨⟨rfl, checked⟩, clean⟩ := holds
  refine Triple.bind (stay _) fun proofs => ?_
  refine Triple.bind ((stay _).consequence (fun _ holds => holds.1) (fun _ _ => id) fun _ => id)
    fun _ => ?_
  refine Triple.bind (m := fun _ after => Trustworthy spell after) ?_ fun _ =>
    Triple.pure fun _ holds => holds
  refine Triple.bind ((stay _).consequence (fun _ holds => holds.1) (fun _ _ => id) fun _ => id)
    fun bindings => ?_
  refine Triple.modify fun after holds => ?_
  obtain ⟨rfl, _⟩ := holds
  exact ⟨validated, checked, List.isEmpty_iff.mp clean, rfl⟩

/-- An append that succeeds leaves a trustworthy store trustworthy. -/
theorem Trustworthy.append {before after : Store} {entry : Json}
    (trustworthy : Trustworthy spell before)
    (appended : Appended spell surroundings fields before entry after) : Trustworthy spell after := by
  rcases appended with rfl | ⟨trusted, unanchored, candidate, known, checked, committed⟩
  · exact trustworthy
  obtain ⟨validated, valid, clean, similar⟩ := trustworthy
  obtain ⟨entries, audits, accepted⟩ := accepted_of_validate valid clean
  obtain ⟨_, _, _, _, _, _, matched⟩ := known
  obtain ⟨_, ledgerId, count, head, _⟩ := coordinatesMatch_ok matched
  have old : entriesOf before.ledger = entries := by
    unfold entriesOf
    rw [accepted.entries_eq]
    rfl
  rw [old] at count
  rw [count, head] at checked
  obtain ⟨next, file, later, extension, validLater, cleanLater, similarLater⟩ :=
    @validated_of_checked _ _ _ _ _ _ _ surroundings.recording _ accepted similar _ _ checked
  obtain ⟨digest, hashed, rfl, _⟩ := checkAppend_clean.mp checked
  obtain ⟨audit, recorded, rfl, written⟩ := committed.recorded
  rw [count] at recorded written
  rw [extended_eq accepted hashed] at extension
  change (surroundings.recording.record before.ledger
    (fields.entry (entries.length + 1) (before.ledger.value "head_entry_sha256") digest .null)
      (entries.length + 1) before.audit).bind _ = _ at extension
  rw [recorded] at extension
  change Except.map _ (extend before.ledger ((fields.entry (entries.length + 1)
    (before.ledger.value "head_entry_sha256") digest .null).set "audit_event_hash"
      (audit.value "event_hash")) (entries.length + 1)) = _ at extension
  rw [written] at extension
  cases extension
  refine ⟨later, validLater, cleanLater, ?_⟩
  rw [committed.object]
  exact similarLater

end

/-! ## Runs -/

/-- `load`, `validate` and `checkpoint`. -/
def fullValidation : StoreProgram Json := do
  ofExcept surroundings.lock
  fullValidate spell surroundings "ledger-invalid"

/-- `close`: the final state is validated and trust in it dropped in any case. -/
def closeStore : StoreProgram Json := do
  let state ← tryCatch (fullValidation spell surroundings) fun error => do
    disarm
    throw error
  disarm
  return state

inductive StoreCall where
  | openStore
  | fullValidation
  | closeStore
  | append (guards : Guards) (fields : Fields)

def StoreCall.program : StoreCall → StoreProgram Json
  | .openStore => LiveLedger.openStore spell surroundings
  | .fullValidation => LiveLedger.fullValidation spell surroundings
  | .closeStore => LiveLedger.closeStore spell surroundings
  | .append guards fields => LiveLedger.append spell surroundings guards fields

/-- The store after a call, whether it has returned or raised. -/
def StoreCall.next (spell : Json → String) (store : Store) (made : Surroundings × StoreCall) :
    Store :=
  match made.2.program spell made.1 store with
  | .ok _ after => after
  | .error _ after => after

end WorkOrchestration.Native.LiveLedger

