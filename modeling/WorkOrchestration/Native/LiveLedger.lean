import WorkOrchestration.Audit.Log
import WorkOrchestration.Native.ActivationLedger

/-!
# The live allocation ledger

The entries of a live campaign's ledger, the index of what they say, and the
validation of one entry and of a whole ledger.  The index that a full validation
builds and the overlay that an append works on answer the same queries.
-/

namespace WorkOrchestration.Native.LiveLedger

open List Lib.Checks Lib.Text Audit Artifacts
open Artifacts.Json (equalsNat hashable isOneOf)
open ActivationLedger (isHexDigit isSha256 uuid?)

/-! ## Values -/

def expectedRoles : List String :=
  ["capability-calibration", "read-only-0", "read-only-1", "mutable-0", "mutable-1",
    "interrupt-0", "interrupt-1"]

def ledgerFields : List String :=
  ["ledger_type", "version", "schema", "ledger_id", "bindings", "sequence", "entries",
    "head_entry_sha256", "state_sha256"]

def bindingFields : List String :=
  ["bead_id", "authorization_id", "authorization_raw_sha256", "authorization_canonical_sha256",
    "campaign_nonce", "live_generation", "predecessor_generation", "checkpoint_commit",
    "guarded_primary_diff_sha256", "predecessor_containment_sha256",
    "pre_mutation_steering_receipt_sha256", "pre_live_steering_receipt_sha256",
    "certification_policy_sha256", "controller_identity", "connection_epoch_sha256",
    "retention_class", "expected_roles"]

def bindingFieldsV2 : List String :=
  ["bead_id", "work_unit_id", "authorization_id", "authorization_raw_sha256",
    "authorization_canonical_sha256", "campaign_manifest_sha256", "campaign_nonce",
    "live_generation", "predecessor_generation", "candidate_commit", "candidate_tree",
    "origin_main_commit", "guarded_primary_diff_sha256", "predecessor_containment_sha256",
    "frozen_release_patch_sha256", "pre_mutation_steering_receipt_sha256",
    "pre_live_steering_receipt_sha256", "opus_review_sha256", "certification_policy_sha256",
    "controller_identity", "connection_epoch_sha256", "retention_class", "expected_roles"]

def ownerFields : List String := ["pid", "start_ticks", "boot_id_sha256"]

def entryFields : List String :=
  ["sequence", "event", "role", "ordinal", "allocation_intent_id", "thread_id",
    "turn_intent_id", "turn_id", "evidence_sha256", "outcome", "previous_entry_sha256",
    "entry_sha256", "audit_event_hash"]

def events : List String :=
  ["allocation-intent", "thread-bound", "turn-intent", "turn-bound", "interrupt-observed",
    "archive-observed", "containment-audited", "certification-bound"]

def ledgerError (message : String) : PyError :=
  ⟨.value, "NativeLiveAllocationLedgerError", message⟩

/-- `canonical_sha256(value, domain=domain)`. -/
def domainSha256 (domain : String) (value : Json) : Except PyError Json := do
  let text ← dumps value
  return .sha256 (.obj [("cwo:" ++ domain ++ ":v1", text)])

/-- `isinstance(value, str)`. -/
def isText : Json → Bool
  | .str _ => true
  | .sha256 _ => true
  | _ => false

/-- `isinstance(value, str) and value`. -/
def isNonemptyText (value : Json) : Bool := isText value && value.truthy

/-- `str(value)`; what floats and containers are spelled as is left to `spell`. -/
def pyStr (spell : Json → String) : Json → Json
  | .str text => .str text
  | .sha256 preimage => .sha256 preimage
  | .null => .str "None"
  | .bool value => .str (if value then "True" else "False")
  | .int value => .str (toString value)
  | value => .str (spell value)

def number? : Json → Option ℚ
  | .bool value => some value.toNat
  | .int value => some value
  | .ratio numerator denominator =>
    if denominator = 0 then none else some (numerator / denominator)
  | _ => none

/-- `left == right` for values that may be numbers of different types. -/
def sameValue (left right : Json) : Bool :=
  left == right || ((number? left).isSome && number? left == number? right)

def entrySha256 (entry : Json) : Except PyError Json :=
  domainSha256 "native-live-allocation-ledger-entry"
    ((entry.erase "entry_sha256").erase "audit_event_hash")

def stateSha256 (state : Json) : Except PyError Json :=
  domainSha256 "native-live-allocation-ledger-state" (state.erase "state_sha256")

/-! ## What an index answers -/

/-- The queries of an index. -/
@[ext]
structure View where
  allocationIntent : Json → Option Json
  roleSeen : Json → Bool
  threadBinding : Json → Option Json
  turnIntent : Json → Option Json
  latestTurnIntentId : Json → Option Json
  turnBound : Json → Bool
  turnIntentResolved : Json → Bool
  latestTurnId : Json → Option Json
  lifecycleSeen : Json → Json → Json → Bool
  lifecycleKindSeen : Json → Json → Bool
  certificationCount : Nat

def View.successfulContainmentSeen (view : View) (threadId : Json) : Bool :=
  view.lifecycleSeen (.str "containment-audited") threadId (.str "contained") ||
    view.lifecycleSeen (.str "containment-audited") threadId (.str "already-contained")

/-- The methods that change an index. -/
inductive Update where
  | addAllocationIntent (allocationId role entry : Json)
  | addThreadBinding (threadId entry : Json)
  | addTurnIntent (turnIntentId threadId entry : Json)
  | resolveTurnIntent (turnIntentId : Json)
  | addBoundTurn (turnIntentId turnId threadId : Json)
  | addLifecycle (event threadId outcome : Json)
  | incrementCertification

/-- What the queries answer after an update. -/
def View.update (view : View) : Update → View
  | .addAllocationIntent allocationId role entry =>
    { view with
      allocationIntent := fun key =>
        if allocationId = key then some entry else view.allocationIntent key
      roleSeen := fun key => key = role || view.roleSeen key }
  | .addThreadBinding threadId entry =>
    { view with
      threadBinding := fun key => if threadId = key then some entry else view.threadBinding key }
  | .addTurnIntent turnIntentId threadId entry =>
    { view with
      turnIntent := fun key => if turnIntentId = key then some entry else view.turnIntent key
      latestTurnIntentId := fun key =>
        if threadId = key then some turnIntentId else view.latestTurnIntentId key }
  | .resolveTurnIntent turnIntentId =>
    { view with
      turnIntentResolved := fun key => key = turnIntentId || view.turnIntentResolved key }
  | .addBoundTurn turnIntentId turnId threadId =>
    { view with
      turnIntentResolved := fun key => key = turnIntentId || view.turnIntentResolved key
      turnBound := fun key => key = turnId || view.turnBound key
      latestTurnId := fun key => if threadId = key then some turnId else view.latestTurnId key }
  | .addLifecycle event threadId outcome =>
    { view with
      lifecycleSeen := fun kind thread result =>
        (kind, thread, result) = (event, threadId, outcome) || view.lifecycleSeen kind thread result
      lifecycleKindSeen := fun kind thread =>
        (kind, thread) = (event, threadId) || view.lifecycleKindSeen kind thread }
  | .incrementCertification => { view with certificationCount := view.certificationCount + 1 }

/-! ## The two indices -/

/-- The value that a dictionary has for a key, the newest entry standing in front. -/
def lookup (entries : List (Json × Json)) (key : Json) : Option Json :=
  (entries.find? (·.1 = key)).map Prod.snd

@[simp]
theorem lookup_cons (name value key : Json) (entries : List (Json × Json)) :
    lookup ((name, value) :: entries) key = if name = key then some value else lookup entries key := by
  unfold lookup
  by_cases same : name = key <;> simp [same]

@[simp]
theorem lookup_append (front back : List (Json × Json)) (key : Json) :
    lookup (front ++ back) key = (lookup front key).or (lookup back key) := by
  induction front with
  | nil => simp [lookup]
  | cons entry rest ih =>
    rw [cons_append, lookup_cons, lookup_cons, ih]
    split <;> simp

/--
The fields of both indices.  Dictionaries and sets hold the newest member in front;
a dictionary of lists is the list of all that was appended, with its key, so that the
last member of a list is the first one found.
-/
structure Tables where
  allocationIntents : List (Json × Json)
  boundThreads : List (Json × Json)
  turnIntents : List (Json × Json)
  boundTurns : List Json
  resolvedTurnIntents : List Json
  rolesSeen : List Json
  turnIntentsByThread : List (Json × Json)
  turnIdsByThread : List (Json × Json)
  lifecycleEvents : List (Json × Json × Json)
  lifecycleKinds : List (Json × Json)
  certifications : Nat

namespace Tables

def empty : Tables := ⟨[], [], [], [], [], [], [], [], [], [], 0⟩

def update (tables : Tables) : Update → Tables
  | .addAllocationIntent allocationId role entry =>
    { tables with
      allocationIntents := (allocationId, entry) :: tables.allocationIntents
      rolesSeen := role :: tables.rolesSeen }
  | .addThreadBinding threadId entry =>
    { tables with boundThreads := (threadId, entry) :: tables.boundThreads }
  | .addTurnIntent turnIntentId threadId entry =>
    { tables with
      turnIntents := (turnIntentId, entry) :: tables.turnIntents
      turnIntentsByThread := (threadId, turnIntentId) :: tables.turnIntentsByThread }
  | .resolveTurnIntent turnIntentId =>
    { tables with resolvedTurnIntents := turnIntentId :: tables.resolvedTurnIntents }
  | .addBoundTurn turnIntentId turnId threadId =>
    { tables with
      resolvedTurnIntents := turnIntentId :: tables.resolvedTurnIntents
      boundTurns := turnId :: tables.boundTurns
      turnIdsByThread := (threadId, turnId) :: tables.turnIdsByThread }
  | .addLifecycle event threadId outcome =>
    { tables with
      lifecycleEvents := (event, threadId, outcome) :: tables.lifecycleEvents
      lifecycleKinds := (event, threadId) :: tables.lifecycleKinds }
  | .incrementCertification => { tables with certifications := tables.certifications + 1 }

end Tables

/-- `_LedgerSemanticIndex`. -/
structure SemanticIndex where
  tables : Tables

/-- `_LedgerSemanticCandidate`: what one append adds to a base. -/
structure SemanticCandidate where
  base : SemanticIndex
  added : Tables

variable (index : SemanticIndex) (candidate : SemanticCandidate) (change : Update)

def SemanticIndex.view : View where
  allocationIntent := lookup index.tables.allocationIntents
  roleSeen role := index.tables.rolesSeen.contains role
  threadBinding := lookup index.tables.boundThreads
  turnIntent := lookup index.tables.turnIntents
  latestTurnIntentId := lookup index.tables.turnIntentsByThread
  turnBound turnId := index.tables.boundTurns.contains turnId
  turnIntentResolved turnIntentId := index.tables.resolvedTurnIntents.contains turnIntentId
  latestTurnId := lookup index.tables.turnIdsByThread
  lifecycleSeen event threadId outcome :=
    index.tables.lifecycleEvents.contains (event, threadId, outcome)
  lifecycleKindSeen event threadId := index.tables.lifecycleKinds.contains (event, threadId)
  certificationCount := index.tables.certifications

def SemanticIndex.update : SemanticIndex :=
  ⟨index.tables.update change⟩

def SemanticIndex.clone : SemanticCandidate := ⟨index, .empty⟩

/-- Every query asks what was added first and the base then. -/
def SemanticCandidate.view : View :=
  let base := candidate.base.view
  let added := candidate.added
  { allocationIntent := fun key => (lookup added.allocationIntents key).or (base.allocationIntent key)
    roleSeen := fun role => added.rolesSeen.contains role || base.roleSeen role
    threadBinding := fun key => (lookup added.boundThreads key).or (base.threadBinding key)
    turnIntent := fun key => (lookup added.turnIntents key).or (base.turnIntent key)
    latestTurnIntentId := fun key =>
      (lookup added.turnIntentsByThread key).or (base.latestTurnIntentId key)
    turnBound := fun turnId => added.boundTurns.contains turnId || base.turnBound turnId
    turnIntentResolved := fun turnIntentId =>
      added.resolvedTurnIntents.contains turnIntentId || base.turnIntentResolved turnIntentId
    latestTurnId := fun key => (lookup added.turnIdsByThread key).or (base.latestTurnId key)
    lifecycleSeen := fun event threadId outcome =>
      added.lifecycleEvents.contains (event, threadId, outcome) ||
        base.lifecycleSeen event threadId outcome
    lifecycleKindSeen := fun event threadId =>
      added.lifecycleKinds.contains (event, threadId) || base.lifecycleKindSeen event threadId
    certificationCount := base.certificationCount + added.certifications }

def SemanticCandidate.update :
    SemanticCandidate :=
  { candidate with added := candidate.added.update change }

/-- `commit`: the base with everything that was added. -/
def SemanticCandidate.commit : SemanticIndex :=
  let base := candidate.base.tables
  let added := candidate.added
  ⟨{ allocationIntents := added.allocationIntents ++ base.allocationIntents
     boundThreads := added.boundThreads ++ base.boundThreads
     turnIntents := added.turnIntents ++ base.turnIntents
     boundTurns := added.boundTurns ++ base.boundTurns
     resolvedTurnIntents := added.resolvedTurnIntents ++ base.resolvedTurnIntents
     rolesSeen := added.rolesSeen ++ base.rolesSeen
     turnIntentsByThread := added.turnIntentsByThread ++ base.turnIntentsByThread
     turnIdsByThread := added.turnIdsByThread ++ base.turnIdsByThread
     lifecycleEvents := added.lifecycleEvents ++ base.lifecycleEvents
     lifecycleKinds := added.lifecycleKinds ++ base.lifecycleKinds
     certifications := base.certifications + added.certifications }⟩

/-- An index that `_validate_entry_transition` can work on. -/
class LedgerIndex (σ : Type) where
  view : σ → View
  update : σ → Update → σ

instance : LedgerIndex SemanticIndex := ⟨SemanticIndex.view, SemanticIndex.update⟩

instance : LedgerIndex SemanticCandidate := ⟨SemanticCandidate.view, SemanticCandidate.update⟩

theorem SemanticIndex.view_update :
    (index.update change).view = index.view.update change := by
  cases change
  all_goals
    apply View.ext
    all_goals
      repeat (funext _)
      simp [SemanticIndex.update, SemanticIndex.view, Tables.update, View.update]

theorem or_ite {α : Type} {condition : Prop} [Decidable condition] (value : α)
    (other last : Option α) :
    (if condition then some value else other).or last =
      if condition then some value else other.or last := by
  split <;> rfl

theorem SemanticCandidate.view_update :
    (candidate.update change).view = candidate.view.update change := by
  cases change
  all_goals
    all_goals
      simp [SemanticCandidate.update, SemanticCandidate.view, Tables.update, View.update, or_ite,
        Bool.or_assoc, Nat.add_assoc]

theorem SemanticIndex.view_clone : index.clone.view = index.view := by
  all_goals
    simp [SemanticIndex.clone, SemanticCandidate.view, Tables.empty, lookup]

theorem SemanticCandidate.view_commit :
    candidate.commit.view = candidate.view := by
  apply View.ext
  all_goals
    repeat (funext _)
    simp [SemanticCandidate.commit, SemanticCandidate.view, SemanticIndex.view]

/-! ## One entry -/

def label (number : Nat) (what : String) : String :=
  "ledger-entry-" ++ toString number ++ "-" ++ what

/-- None of the fields is set. -/
def allNull (entry : Json) (fields : List String) : Bool := fields.all (entry.value · == .null)

/-- What an entry asks of the index: the errors it has and the updates that it makes. -/
structure Effect where
  errors : List String
  updates : List Update

def certificationBound (number : Nat) (entry : Json) : Effect where
  errors :=
    reject (allNull entry ["role", "ordinal", "allocation_intent_id", "thread_id",
        "turn_intent_id", "turn_id"] = false)
      (label number "certification-identity-invalid") ++
    reject (¬ (isSha256 (entry.value "evidence_sha256") = true ∧
        entry.value "outcome" = .str "bound"))
      (label number "certification-invalid")
  updates := [.incrementCertification]

/-- `role not in EXPECTED_ROLES or ordinal != EXPECTED_ROLES.index(role)` does not hold. -/
def roleOrdinalValid (entry : Json) : Bool :=
  match entry.value "role" with
  | .str role =>
    expectedRoles.contains role && equalsNat (expectedRoles.idxOf role) (entry.value "ordinal")
  | _ => false

section

variable (spell : Json → String) (view : View) (number : Nat) (entry : Json)

def allocationIntentEffect : Effect :=
  let allocationId := entry.value "allocation_intent_id"
  let role := entry.value "role"
  if (uuid? allocationId).isSome && (view.allocationIntent (pyStr spell allocationId)).isNone &&
      !view.roleSeen role &&
      allNull entry ["thread_id", "turn_intent_id", "turn_id", "evidence_sha256"] &&
      entry.value "outcome" == .str "pending" then
    ⟨[], [.addAllocationIntent allocationId role entry]⟩
  else ⟨[label number "allocation-intent-invalid"], []⟩

/-- The role and the ordinal of an earlier entry are the ones of this entry. -/
def sameRole (earlier : Json) : Bool :=
  earlier.value "role" == entry.value "role" &&
    sameValue (earlier.value "ordinal") (entry.value "ordinal")

def bindsRole (earlier : Json) : Bool :=
  sameRole entry earlier &&
    earlier.value "allocation_intent_id" == pyStr spell (entry.value "allocation_intent_id")

def intendsTurn (earlier : Json) : Bool :=
  earlier.value "thread_id" == pyStr spell (entry.value "thread_id") &&
    earlier.value "allocation_intent_id" == pyStr spell (entry.value "allocation_intent_id")

def threadBoundEffect : Effect :=
  let threadId := entry.value "thread_id"
  if (view.allocationIntent (pyStr spell (entry.value "allocation_intent_id"))).any (sameRole entry) &&
      isNonemptyText threadId && (view.threadBinding threadId).isNone &&
      allNull entry ["turn_intent_id", "turn_id", "evidence_sha256"] &&
      entry.value "outcome" == .str "bound" then
    ⟨[], [.addThreadBinding threadId entry]⟩
  else ⟨[label number "thread-binding-invalid"], []⟩

def turnIntentEffect : Effect :=
  let threadId := pyStr spell (entry.value "thread_id")
  let turnIntentId := entry.value "turn_intent_id"
  if (view.threadBinding threadId).any (bindsRole spell entry) && (uuid? turnIntentId).isSome &&
      (view.turnIntent (pyStr spell turnIntentId)).isNone &&
      allNull entry ["turn_id", "evidence_sha256"] && entry.value "outcome" == .str "pending" then
    ⟨[], [.addTurnIntent turnIntentId threadId entry]⟩
  else ⟨[label number "turn-intent-invalid"], []⟩

def turnBoundEffect : Effect :=
  let threadId := pyStr spell (entry.value "thread_id")
  let turnIntentId := pyStr spell (entry.value "turn_intent_id")
  let turnId := entry.value "turn_id"
  if (view.turnIntent turnIntentId).any (intendsTurn spell entry) && isNonemptyText turnId &&
      !view.turnBound turnId && !view.turnIntentResolved turnIntentId &&
      allNull entry ["evidence_sha256"] && entry.value "outcome" == .str "bound" then
    ⟨[], [.addBoundTurn turnIntentId turnId threadId]⟩
  else ⟨[label number "turn-binding-invalid"], []⟩

/-- A successful containment. -/
def isContainment (event : Json) : Bool :=
  event == .str "containment-audited" &&
    isOneOf ["contained", "already-contained"] (entry.value "outcome")

def isAbsence (event : Json) : Bool :=
  event == .str "containment-audited" &&
    entry.value "outcome" == .str "turn-intent-verified-absent"

/--
The three kinds of lifecycle entries.  Resolving a turn intent answers none of the
queries that are asked after it.
-/
def lifecycleEffect : Effect :=
  let event := entry.value "event"
  let threadId := pyStr spell (entry.value "thread_id")
  let turnIntentId := pyStr spell (entry.value "turn_intent_id")
  let turnId := entry.value "turn_id"
  let outcome := entry.value "outcome"
  let audited := event == .str "containment-audited"
  let resolves := (view.turnIntent turnIntentId).isSome &&
    !view.turnIntentResolved turnIntentId && turnId == .null
  { errors :=
      reject (((view.threadBinding threadId).any (bindsRole spell entry)) = false)
        (label number "lifecycle-thread-invalid") ++
      reject (entry.value "turn_intent_id" ≠ .null ∧
          ((view.turnIntent turnIntentId).any (intendsTurn spell entry)) = false)
        (label number "lifecycle-turn-intent-invalid") ++
      reject (turnId ≠ .null ∧ (isNonemptyText turnId && view.turnBound turnId) = false)
        (label number "lifecycle-turn-invalid") ++
      reject (audited = true ∧ isSha256 (entry.value "evidence_sha256") = false)
        (label number "containment-evidence-invalid") ++
      reject (isContainment entry event = true ∧ view.successfulContainmentSeen threadId = true)
        (label number "containment-success-duplicate") ++
      reject (isAbsence entry event = true ∧ resolves = false)
        (label number "turn-intent-containment-invalid") ++
      reject (audited = true ∧ (isAbsence entry event || isContainment entry event) = false)
        (label number "containment-outcome-invalid") ++
      reject (isContainment entry event = true ∧
          view.lifecycleKindSeen (.str "archive-observed") threadId = false)
        (label number "containment-before-archive") ++
      reject (isNonemptyText outcome = false) (label number "lifecycle-outcome-invalid")
    updates :=
      (if isAbsence entry event && resolves then [.resolveTurnIntent turnIntentId] else []) ++
      (if isText (entry.value "thread_id") && isText outcome then
        [.addLifecycle event (entry.value "thread_id") outcome] else []) }

/-- What the entry does to an index that answers as the view does. -/
def effect : Effect :=
  let event := entry.value "event"
  if event = .str "certification-bound" then certificationBound number entry
  else if roleOrdinalValid entry = false then ⟨[label number "role-ordinal-invalid"], []⟩
  else if event = .str "allocation-intent" then allocationIntentEffect spell view number entry
  else if event = .str "thread-bound" then threadBoundEffect spell view number entry
  else if event = .str "turn-intent" then turnIntentEffect spell view number entry
  else if event = .str "turn-bound" then turnBoundEffect spell view number entry
  else if isOneOf ["interrupt-observed", "archive-observed", "containment-audited"] event then
    lifecycleEffect spell view number entry
  else ⟨[], []⟩

end

def auditAnchorMatches (audit : Option Json) (entry ledgerId : Json) (number : Nat) : Bool :=
  match audit with
  | none => false
  | some audit =>
    audit.value "event_hash" == entry.value "audit_event_hash" &&
      audit.value "event_type" == .str "native_live_allocation_ledger_entry" &&
      audit.value "dispatch_id" == ledgerId &&
      audit.value "packet_sha256" == entry.value "entry_sha256" &&
      audit.value "phase" == entry.value "event" &&
      (audit.value "validation_lineage_attempt").equalsNat number

/-- How much of the audit trail the validation of an entry looks at. -/
structure AuditCheck where
  ledgerId : Json
  audit : Option Json
  requireHash : Bool
  verifyAnchor : Bool

def auditErrors (check : AuditCheck) (number : Nat) (entry : Json) : List String :=
  if check.requireHash && !isSha256 (entry.value "audit_event_hash") then
    [label number "audit-hash-invalid"]
  else
    reject (check.verifyAnchor = true ∧
        auditAnchorMatches check.audit entry check.ledgerId number = false)
      (label number "audit-anchor-missing")

def chainErrors (number : Nat) (previous expected entry : Json) : List String :=
  reject ((entry.value "sequence").equalsNat number = false) (label number "sequence-invalid") ++
  reject (isOneOf events (entry.value "event") = false) (label number "event-invalid") ++
  reject (entry.value "previous_entry_sha256" ≠ previous)
    (label number "previous-hash-mismatch") ++
  reject (entry.value "entry_sha256" ≠ expected) (label number "sha256-mismatch")

/-- What a set lookup of the outcome raises where the code makes one. -/
def outcomeHashable (entry : Json) : Except PyError Unit :=
  if entry.value "event" = .str "containment-audited" ∧ roleOrdinalValid entry = true then
    hashable (entry.value "outcome")
  else .ok ()

/-- `_validate_entry_transition`: the errors, the next head and the index after the entry. -/
def validateEntryTransition {σ : Type} [LedgerIndex σ] (spell : Json → String) (check : AuditCheck)
    (number : Nat) (previous : Json) (index : σ) (entry : Json) :
    Except PyError (List String × Json × σ) := do
  if !entry.hasExactly entryFields then
    return ([label number "fields-invalid"], previous, index)
  hashable (entry.value "event")
  let expected ← entrySha256 entry
  outcomeHashable entry
  let asked := effect spell (LedgerIndex.view index) number entry
  let next := if isSha256 (entry.value "entry_sha256") then entry.value "entry_sha256" else .null
  return (chainErrors number previous expected entry ++ auditErrors check number entry ++
    asked.errors, next, asked.updates.foldl LedgerIndex.update index)

/-! ## Whole ledgers -/

/-- The bytes of an audit file: its lines, and whether the last of them is complete. -/
structure AuditBytes where
  lines : List Line
  terminated : Bool

/-- The events of a linked audit file, or none where the chain is broken. -/
def readAuditChain : Option Json → List Line → Except PyError (Option (List Json))
  | _, [] => .ok (some [])
  | previous, .blank :: rest => readAuditChain previous rest
  | _, .malformed _ :: _ => .ok none
  | _, .refused error :: _ => if error.kind = .value then .ok none else .error error
  | previous, .document event :: rest =>
    let expectedPrevious := previous.getD .null
    if event.isObject && event.value "event_hash" == auditEventPayloadHash event &&
        event.value "previous_event_hash" == expectedPrevious then do
      let later ← readAuditChain (some (event.value "event_hash")) rest
      return later.map (event :: ·)
    else .ok none

/-- `_load_audit_events`: the events and the errors. -/
def loadAuditEvents (audit : Option AuditBytes) : Except PyError (List Json × List String) :=
  match audit with
  | none => .ok ([], [])
  | some bytes =>
    if bytes.lines ≠ [] ∧ bytes.terminated = false then .ok ([], ["ledger-audit-chain-invalid"])
    else do
      match ← readAuditChain none bytes.lines with
      | some events => return (events, [])
      | none => return ([], ["ledger-audit-chain-invalid"])

def isInteger : Json → Bool
  | .int _ => true
  | _ => false

/-- The integer that a value is, with zero for anything else. -/
def integer : Json → Int
  | .int value => value
  | _ => 0

def isCommit : Json → Bool
  | .str text => text.length == 40 && text.toList.all isHexDigit
  | _ => false

def isBlankText : Json → Bool
  | .str text => strip text = ""
  | .sha256 _ => false
  | _ => true

def ownerValid (owner : Json) : Bool :=
  owner.hasExactly ownerFields && isInteger (owner.value "pid") && 1 ≤ integer (owner.value "pid") &&
    isInteger (owner.value "start_ticks") && 1 ≤ integer (owner.value "start_ticks") &&
    isSha256 (owner.value "boot_id_sha256")

/-- The versions of a ledger that the validator knows, or neither of them. -/
inductive Version where
  | unknown
  | v1
  | v2
  deriving DecidableEq

def identityFields : Version → List String
  | .v2 => ["bead_id", "work_unit_id"]
  | _ => ["bead_id"]

def hashFields (version : Version) : List String :=
  ["authorization_raw_sha256", "authorization_canonical_sha256", "guarded_primary_diff_sha256",
    "predecessor_containment_sha256", "pre_mutation_steering_receipt_sha256",
    "pre_live_steering_receipt_sha256", "certification_policy_sha256",
    "connection_epoch_sha256"] ++
  if version = .v2 then
    ["campaign_manifest_sha256", "frozen_release_patch_sha256", "opus_review_sha256"]
  else []

def commitFields : Version → List String
  | .v1 => ["checkpoint_commit"]
  | _ => ["candidate_commit", "candidate_tree", "origin_main_commit"]

def generationValid (version : Version) (bindings : Json) : Bool :=
  let live := bindings.value "live_generation"
  let predecessor := bindings.value "predecessor_generation"
  match version with
  | .v1 => live.equalsNat 4 && predecessor.equalsNat 3
  | .v2 =>
    isInteger live && isInteger predecessor && 0 ≤ integer predecessor &&
      integer live == integer predecessor + 1
  | .unknown => true

def validateBindings (version : Version) (bindings : Json) : List String :=
  if !bindings.hasExactly (if version = .v1 then bindingFields else bindingFieldsV2) then
    ["ledger-bindings-fields-invalid"]
  else
    let each (fields : List String) (valid : Json → Bool) : List String :=
      fields.flatMap fun field =>
        reject (valid (bindings.value field) = false) ("ledger-binding-" ++ field ++ "-invalid")
    reject ((identityFields version).any (isBlankText <| bindings.value ·) = true)
      "ledger-binding-work-unit-identity-invalid" ++
    each (hashFields version) isSha256 ++
    each ["authorization_id", "campaign_nonce"] (fun value => (uuid? value).isSome) ++
    each (commitFields version) isCommit ++
    reject (generationValid version bindings = false) "ledger-binding-generation-invalid" ++
    reject (bindings.value "retention_class" ≠ .str "private-local-until-bead-closure")
      "ledger-binding-retention-class-invalid" ++
    reject (bindings.value "expected_roles" ≠ Json.strings expectedRoles)
      "ledger-binding-expected-roles-invalid" ++
    reject (ownerValid (bindings.value "controller_identity") = false)
      "ledger-binding-controller-identity-invalid"

def headerVersion (ledger : Json) : Version :=
  let isType (text : String) := ledger.value "ledger_type" == .str text
  let isSchema (text : String) := ledger.value "schema" == .str text
  if (ledger.value "version").equalsNat 1 && isType "cwo-native-live-allocation-ledger:v1" &&
      isSchema "schemas/native-live-allocation-ledger.schema.json" then .v1
  else if (ledger.value "version").equalsNat 2 &&
      isType "cwo-native-live-allocation-ledger:v2" &&
      isSchema "schemas/native-live-allocation-ledger-v2.schema.json" then .v2
  else .unknown

/-- The loop over the entries. -/
def validateEntries (spell : Json → String) (ledgerId : Json) (audits : List Json)
    (verifyAnchor : Bool) :
    Nat → Json → SemanticIndex → List Json → Except PyError (List String × Json × SemanticIndex)
  | _, previous, index, [] => .ok ([], previous, index)
  | number, previous, index, entry :: rest => do
      let check : AuditCheck := ⟨ledgerId, audits[number - 1]?, true, verifyAnchor⟩
      let (errors, next, after) ← validateEntryTransition spell check number previous index entry
      let (later, head, final) ← validateEntries spell ledgerId audits verifyAnchor (number + 1)
        next after rest
      return (errors ++ later, head, final)

/-- `sorted(set(errors))`. -/
def sortedSet (errors : List String) : List String := errors.dedup.mergeSort (· ≤ ·)

theorem sortedSet_eq_nil {errors : List String} : sortedSet errors = [] ↔ errors = [] := by
  unfold sortedSet
  rw [← length_eq_zero_iff, length_mergeSort, length_eq_zero_iff,
    dedup_eq_nil]

/-- What a full validation finds, and the index that it builds on the way. -/
structure Validated where
  errors : List String
  index : SemanticIndex
  audits : List Json
  entryChecks : Nat

def sequenceCount? : Json → Option Nat
  | .int value => if 0 ≤ value then some value.toNat else none
  | _ => none

/-- The errors of a ledger, from what its audit file and its entries have given. -/
def ledgerErrors (ledger : Json) (audits : Option (List Json))
    (auditErrors entryErrors : List String) (head expectedState : Json) (index : SemanticIndex) :
    List String :=
  let version := headerVersion ledger
  let entries := (ledger.value "entries").elements?.getD []
  let sequence := sequenceCount? (ledger.value "sequence")
  reject (version = .unknown) "ledger-header-invalid" ++
    reject ((uuid? (ledger.value "ledger_id")).isSome = false) "ledger-id-invalid" ++
    validateBindings version (ledger.value "bindings") ++
    reject (sequence = none) "ledger-sequence-invalid" ++
    reject ((ledger.value "entries").elements? = none) "ledger-entries-invalid" ++
    reject (sequence ≠ some entries.length) "ledger-sequence-count-mismatch" ++
    auditErrors ++
    reject (audits.any (·.length ≠ entries.length) = true) "ledger-audit-entry-count-mismatch" ++
    entryErrors ++
    reject (1 < index.view.certificationCount) "ledger-certification-binding-duplicate" ++
    reject (ledger.value "head_entry_sha256" ≠ head) "ledger-head-mismatch" ++
    reject (ledger.value "state_sha256" ≠ expectedState) "ledger-state-sha256-mismatch"

/-- `_validate_live_allocation_ledger_with_index`. -/
def validateWithIndex (spell : Json → String) (ledger : Json) (audit : Option AuditBytes) :
    Except PyError Validated := do
  if !ledger.hasExactly ledgerFields then return ⟨["ledger-fields-invalid"], ⟨.empty⟩, [], 0⟩
  hashable (ledger.value "version")
  let entries := (ledger.value "entries").elements?.getD []
  let (audits, auditErrors) ← loadAuditEvents audit
  let (entryErrors, head, index) ← validateEntries spell (ledger.value "ledger_id") audits
    audit.isSome 1 .null ⟨.empty⟩ entries
  let expectedState ← stateSha256 ledger
  let errors := ledgerErrors ledger (audit.map fun _ => audits) auditErrors entryErrors head
    expectedState index
  return ⟨sortedSet errors, index, audits, entries.length⟩

end WorkOrchestration.Native.LiveLedger
