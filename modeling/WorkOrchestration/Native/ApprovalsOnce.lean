import WorkOrchestration.Native.ApprovalStore

/-!
# Approvals authorize once

What a verified receipt says, what a set of receipts leaves in the store, and what no
sequence of calls can do: authorize twice by one nonce, one approval or one receipt.
-/

namespace WorkOrchestration.Native.ApprovalStore

open List Lib.Text Lib.Programs Artifacts
open Artifacts.Json (isOneOf)
open Authority ProtectedChanges OperatorApprovals
open Triple (ofExcept of_state)

/-! ## Verified receipts -/

variable {done : Unit}

theorem demand_ok {condition : Bool} {message : String}
    (passed : demand condition message = .ok done) : condition = true := by
  cases condition with
  | true => rfl
  | false => cases passed

theorem orElse_ok {α : Type} {result : Except PyError α} {message : String} {value : α}
    (passed : orElse result message = .ok value) : result = .ok value := by
  cases result with
  | ok found => exact passed
  | error error => cases passed

theorem compareDigest_ok {supplied expected : Json}
    (same : compareDigest supplied expected = .ok true) : supplied = expected := by
  unfold compareDigest at same
  split at same
  · split at same
    · exact of_decide_eq_true (Except.ok.inj same)
    · cases same
  · exact of_decide_eq_true (Except.ok.inj same)

theorem canonicalJsonObject_ok {label : String} {value result : Json}
    (ordinary : canonicalJsonObject label value = .ok result) :
    result = value ∧ ordinaryJson label value = .ok () ∧ value.isObject = true := by
  obtain ⟨_, checked, ordinary⟩ := bind_ok ordinary
  split at ordinary
  · rename_i object
    exact ⟨(Except.ok.inj ordinary).symm, checked, object⟩
  · cases ordinary

variable {fields : List String}

theorem requireTexts_ok {receipt : Json}
    (passed : requireTexts receipt fields = .ok done) :
    ∀ field ∈ fields, nonemptyText (receipt.value field) = true := by
  induction fields with
  | nil => simp
  | cons field rest ih =>
    obtain ⟨_, first, passed⟩ := bind_ok passed
    exact forall_mem_cons.mpr ⟨demand_ok first, ih passed⟩

theorem requireTexts_of {receipt : Json}
    (texts : ∀ field ∈ fields, nonemptyText (receipt.value field) = true) :
    requireTexts receipt fields = .ok () := by
  induction fields with
  | nil => rfl
  | cons field rest ih =>
    unfold requireTexts
    rw [texts field mem_cons_self]
    exact ih fun other member => texts other (mem_cons_of_mem field member)

/-- What the signature of a receipt binds it to. -/
structure Bound (expected : Expected) (changeType : ChangeType) (before after receipt : Json) :
    Prop where
  fields : receipt.hasExactly operatorApprovalFields = true
  key : expected.verificationKey ≠ ""
  signature : operatorApprovalSignature (receipt.erase "signature") expected.verificationKey =
    .ok (receipt.value "signature")
  approvalType : receipt.value "approval_type" = .str operatorApprovalType
  version : receipt.value "version" = .int 1
  changeType : receipt.value "change_type" = .str changeType.text
  actorId : receipt.value "actor_id" = .str expected.actorId
  identitySource : receipt.value "identity_source" = .str expected.identitySource
  texts : ∀ field ∈ receiptTextFields, nonemptyText (receipt.value field) = true
  before : canonicalAuthoritySha256 before = .ok (receipt.value "before_sha256")
  after : canonicalAuthoritySha256 after = .ok (receipt.value "after_sha256")

section

variable {expected : Expected} {changeType : ChangeType} {before after receipt : Json}
  {seenNonces : List Json}

theorem verifyBinding_ok
    (passed : verifyBinding expected changeType before after seenNonces receipt = .ok done) :
    Bound expected changeType before after receipt ∧ receipt.value "nonce" ∉ seenNonces := by
  obtain ⟨_, fields, passed⟩ := bind_ok passed
  obtain ⟨_, key, passed⟩ := bind_ok passed
  obtain ⟨signature, signed, passed⟩ := bind_ok passed
  obtain ⟨matching, compared, passed⟩ := bind_ok passed
  obtain ⟨_, same, passed⟩ := bind_ok passed
  obtain ⟨_, approvalType, passed⟩ := bind_ok passed
  obtain ⟨_, version, passed⟩ := bind_ok passed
  obtain ⟨_, changed, passed⟩ := bind_ok passed
  obtain ⟨_, actorId, passed⟩ := bind_ok passed
  obtain ⟨_, identitySource, passed⟩ := bind_ok passed
  obtain ⟨_, texts, passed⟩ := bind_ok passed
  obtain ⟨_, fresh, passed⟩ := bind_ok passed
  obtain ⟨artifacts, hashed, passed⟩ := bind_ok passed
  obtain ⟨_, beforeEq, passed⟩ := bind_ok passed
  have afterEq := of_decide_eq_true (demand_ok passed)
  rw [demand_ok same] at compared
  obtain ⟨beforeSha256, beforeHashed, hashed⟩ := bind_ok (orElse_ok hashed)
  obtain ⟨afterSha256, afterHashed, hashed⟩ := bind_ok hashed
  cases hashed
  refine ⟨⟨demand_ok fields, of_decide_eq_true (demand_ok key), ?_,
    of_decide_eq_true (demand_ok approvalType), of_decide_eq_true (demand_ok version),
    of_decide_eq_true (demand_ok changed), of_decide_eq_true (demand_ok actorId),
    of_decide_eq_true (demand_ok identitySource), requireTexts_ok texts, ?_, ?_⟩, ?_⟩
  · rw [compareDigest_ok compared]
    exact orElse_ok signed
  · rw [of_decide_eq_true (demand_ok beforeEq)]
    exact beforeHashed
  · rw [afterEq]
    exact afterHashed
  · simpa using demand_ok fresh

theorem verifyBinding_of (bound : Bound expected changeType before after receipt)
    (fresh : receipt.value "nonce" ∉ seenNonces) :
    verifyBinding expected changeType before after seenNonces receipt = .ok () := by
  have unseen : seenNonces.contains (receipt.value "nonce") = false := by simpa using fresh
  have authentic : compareDigest (receipt.value "signature") (receipt.value "signature") = .ok true := by
    obtain ⟨message, _, signed⟩ := bind_ok bound.signature
    rw [← Except.ok.inj signed]
    exact congrArg Except.ok (decide_eq_true rfl)
  unfold verifyBinding
  rw [bound.fields, decide_eq_true bound.key, bound.signature]
  change (compareDigest (receipt.value "signature") (receipt.value "signature") >>= _) = _
  rw [authentic, decide_eq_true bound.approvalType, decide_eq_true bound.version,
    decide_eq_true bound.changeType, decide_eq_true bound.actorId,
    decide_eq_true bound.identitySource, requireTexts_of bound.texts, unseen, bound.before,
    bound.after]
  change (demand (decide (receipt.value "before_sha256" = receipt.value "before_sha256")) _ >>=
    fun _ => demand (decide (receipt.value "after_sha256" = receipt.value "after_sha256")) _) = _
  rw [decide_eq_true rfl, decide_eq_true rfl]
  rfl

end

/-! ## Minted approvals -/

theorem get?_ofFields (values : String → Json) {key : String} (named : key ∈ fields) :
    (Json.obj (fields.map fun field => (field, values field))).get? key = some (values key) := by
  induction fields with
  | nil => cases named
  | cons field rest ih =>
    change (if field = key then some (values field) else (Json.obj _).get? key) = _
    by_cases same : field = key
    · rw [if_pos same, same]
    · rw [if_neg same]
      exact ih ((mem_cons.mp named).resolve_left (Ne.symm same))

theorem value_approvalReplayEntry (approval : Approval) {field : String}
    (named : field ∈ replayEntryFields) :
    (approvalReplayEntry approval).value field = approval.audit.value field := by
  unfold Json.value approvalReplayEntry
  rw [get?_ofFields _ named]
  rfl

theorem mem_replayEntryFields {field : String} (binding : field ∈ bindingFields) :
    field ∈ replayEntryFields := by
  have within : bindingFields ⊆ replayEntryFields := by decide
  exact within binding

section

variable {fromIsoformat : String → Parsed} {expected : Expected} {changeType : ChangeType}
  {before after receipt : Json} {seenNonces : List Json} {now : Int} {approval : Approval}

structure Minted (fromIsoformat : String → Parsed) (expected : Expected) (receipt : Json)
    (sourceSha256 receiptSha256 : Json) (approval : Approval) : Prop where
  hashed : canonicalAuthoritySha256 receipt = .ok receiptSha256
  authority : sealAuthority (operatorAuthority expected receipt sourceSha256 receiptSha256) =
    .ok approval.authority
  audit : approval.audit = auditRecord receipt receiptSha256 approval.authority
  valid : validateOperatorApprovalAudit fromIsoformat approval.audit = .ok []

theorem mintApproval_ok (minted : mintApproval fromIsoformat expected receipt = .ok approval) :
    ∃ sourceSha256 receiptSha256,
      Minted fromIsoformat expected receipt sourceSha256 receiptSha256 approval := by
  obtain ⟨sourceSha256, _, minted⟩ := bind_ok minted
  obtain ⟨receiptSha256, hashed, minted⟩ := bind_ok minted
  obtain ⟨authority, sealed', minted⟩ := bind_ok minted
  obtain ⟨errors, valid, minted⟩ := bind_ok minted
  obtain ⟨_, accepted, minted⟩ := bind_ok minted
  cases minted
  rw [isEmpty_iff.mp (demand_ok accepted)] at valid
  exact ⟨sourceSha256, receiptSha256, hashed, sealed', rfl, valid⟩

theorem value_auditRecord (receipt receiptSha256 authority : Json) {field : String}
    (named : field ∈ auditedFields) :
    (auditRecord receipt receiptSha256 authority).value field = receipt.value field := by
  simp only [auditedFields, mem_cons, not_mem_nil, or_false] at named
  rcases named with rfl | rfl | rfl | rfl | rfl | rfl | rfl | rfl | rfl <;> rfl

theorem verifyOperatorApproval_ok
    (verified : verifyOperatorApproval fromIsoformat expected changeType before after seenNonces now
      receipt = .ok approval) :
    Bound expected changeType before after receipt ∧ receipt.value "nonce" ∉ seenNonces ∧
      verifyValidity fromIsoformat now receipt = .ok () ∧
      mintApproval fromIsoformat expected receipt = .ok approval := by
  obtain ⟨ordinary, read, minted⟩ := bind_ok verified
  rw [(canonicalJsonObject_ok read).1] at minted
  obtain ⟨_, binding, minted⟩ := bind_ok minted
  obtain ⟨_, valid, minted⟩ := bind_ok minted
  obtain ⟨bound, fresh⟩ := verifyBinding_ok binding
  exact ⟨bound, fresh, valid, minted⟩

end

/-! ## Stores -/

theorem elements?_insertField (key : String) (value document : Json) :
    (Json.insertField key value document).elements? = none := by
  cases document with
  | field name old rest =>
    unfold Json.insertField
    split <;> rfl
  | _ => rfl

theorem elements?_canonical (value : Json) :
    value.canonical.elements? = value.elements?.map (List.map Json.canonical) := by
  induction value with
  | item head tail ihHead ihTail =>
    change tail.canonical.elements?.map _ = (tail.elements?.map _).map _
    rw [ihTail]
    cases tail.elements? <;> rfl
  | field key value rest ihValue ihRest => exact elements?_insertField key _ _
  | _ => rfl

/-- The entries that a file records, in canonical form. -/
def entriesOf : File → List Json
  | none => []
  | some document =>
    (((document.value "entries").elements?).getD []).map Json.canonical

theorem value_canonical (key : String) (document : Json) :
    document.canonical.value key = (document.value key).canonical := by
  unfold Json.value
  rw [Json.get?_canonical]
  cases document.get? key <;> rfl

theorem canonical_of_nonemptyText {value : Json} (text : nonemptyText value = true) :
    value.canonical = value := by
  cases value with
  | str | sha256 => rfl
  | _ => cases text

theorem sortEntries_perm (entries : List Json) : (sortEntries entries).Perm entries :=
  mergeSort_perm entries _

theorem entriesOf_sealed (entries : List Json) (replayKey : Json) :
    entriesOf (some (sealedReplayStore entries replayKey).canonical) =
      (sortEntries entries).map Json.canonical := by
  have stored : (sealedReplayStore entries replayKey).value "entries" =
      .arr (sortEntries entries) := rfl
  change (((Json.canonical _).value "entries").elements?.getD []).map Json.canonical = _
  rw [value_canonical, stored, elements?_canonical, Json.elements?_arr]
  simp only [Option.map_some, Option.getD_some, map_map]
  exact map_congr_left fun entry _ => Json.canonical_idem entry

theorem entryValid_text {entry : Json} (valid : entryValid entry = true) {field : String}
    (named : field ∈ replayEntryFields) : nonemptyText (entry.value field) = true := by
  unfold entryValid at valid
  simp only [Bool.and_eq_true] at valid
  exact all_eq_true.mp valid.1.1.2 field named

theorem validateEntries_ok {seen entries : List Json}
    (valid : validateEntries seen entries = .ok done) :
    (∀ entry ∈ entries, entryValid entry = true) ∧
      ∀ field ∈ bindingFields, (entries.map (Json.value field)).Nodup ∧
        ∀ entry ∈ entries, entry.value field ∉ seen.map (Json.value field) := by
  induction entries generalizing seen with
  | nil => exact ⟨by simp, fun field _ => ⟨nodup_nil, by simp⟩⟩
  | cons entry rest ih =>
    obtain ⟨_, first, valid⟩ := bind_ok valid
    obtain ⟨_, fresh, valid⟩ := bind_ok valid
    obtain ⟨restValid, restDistinct⟩ := ih valid
    have unseen := all_eq_true.mp (demand_ok fresh)
    constructor
    · exact forall_mem_cons.mpr ⟨demand_ok first, restValid⟩
    · intro field binding
      obtain ⟨distinct, apart⟩ := restDistinct field binding
      have new := unseen field binding
      simp only [Bool.not_eq_true', contains_eq_mem, decide_eq_false_iff_not] at new
      constructor
      · rw [map_cons, nodup_cons]
        refine ⟨fun repeated => ?_, distinct⟩
        obtain ⟨other, member, same⟩ := mem_map.mp repeated
        exact apart other member (by rw [same]; exact mem_cons_self)
      · intro other member
        rcases mem_cons.mp member with rfl | later
        · exact new
        · exact fun repeated => apart other later (mem_cons_of_mem _ repeated)

/-- The entries of a store are valid, and no two of them share a binding. -/
structure Stored (entries : List Json) : Prop where
  valid : ∀ entry ∈ entries, entryValid entry = true
  distinct : ∀ field ∈ bindingFields, (entries.map (Json.value field)).Nodup

theorem Stored.perm {entries others : List Json} (stored : Stored entries)
    (same : entries.Perm others) : Stored others := by
  constructor
  · intro entry member
    exact stored.valid entry (same.mem_iff.mpr member)
  · intro field binding
    exact ((same.map _).nodup_iff).mp (stored.distinct field binding)

theorem Stored.canonical_value {entries : List Json} (stored : Stored entries) {field : String}
    (named : field ∈ replayEntryFields) :
    (entries.map Json.canonical).map (Json.value field) = entries.map (Json.value field) := by
  rw [map_map]
  refine map_congr_left fun entry member => ?_
  have text := entryValid_text (stored.valid entry member) named
  exact (value_canonical field entry).trans (canonical_of_nonemptyText text)

theorem validateReplayStore_ok {document replayKey : Json} {entries : List Json}
    (valid : validateReplayStore document replayKey = .ok entries) :
    Stored entries ∧ ∃ stored, (document.value "entries").elements? = some stored ∧
      entries = sortEntries stored ∧
      document.canonical = (sealedReplayStore stored replayKey).canonical := by
  obtain ⟨payload, read, accepted⟩ := bind_ok valid
  rw [(canonicalJsonObject_ok read).1] at accepted
  obtain ⟨_, _, accepted⟩ := bind_ok accepted
  obtain ⟨_, _, accepted⟩ := bind_ok accepted
  obtain ⟨_, _, accepted⟩ := bind_ok accepted
  cases found : (document.value "entries").elements? with
  | none =>
    rw [found] at accepted
    cases accepted
  | some stored =>
    rw [found] at accepted
    obtain ⟨_, checked, accepted⟩ := bind_ok accepted
    obtain ⟨_, _, accepted⟩ := bind_ok accepted
    obtain ⟨_, _, accepted⟩ := bind_ok accepted
    obtain ⟨_, same, accepted⟩ := bind_ok accepted
    cases accepted
    obtain ⟨entriesValid, distinct⟩ := validateEntries_ok checked
    have kept : Stored stored := ⟨entriesValid, fun field binding => (distinct field binding).1⟩
    exact ⟨kept.perm (sortEntries_perm stored).symm, stored, rfl, rfl,
      of_decide_eq_true (demand_ok same)⟩

/-! ## What a call does to the file -/

/-- The entries that a call reads from a file. -/
def storeEntries (replayKey : Json) : File → Except PyError (List Json)
  | none => .ok []
  | some document => do
      demand (textSize document + 1 ≤ maxReplayStoreBytes) "operator-approval-replay-store-too-large"
      validateReplayStore document replayKey

theorem readReplayStore_triple (surroundings : Surroundings) (replayKey : Json) (file : File) :
    Triple (fun current => current = file) (readReplayStore surroundings replayKey)
      (fun existing current => current = file ∧ storeEntries replayKey file = .ok existing)
      (fun current => current = file) := by
  refine Triple.bind (ofExcept (fun _ _ _ same => same) fun _ same => same) fun _ => ?_
  refine Triple.get_bind fun state same => ?_
  subst same
  cases state with
  | none => exact Triple.pure fun _ same => ⟨same, rfl⟩
  | some document =>
    refine Triple.bind (m := fun _ current => current = some document ∧
      textSize document + 1 ≤ maxReplayStoreBytes) (ofExcept ?_ fun _ same => same) fun _ => ?_
    · intro _ fits state same
      exact ⟨same, of_decide_eq_true (demand_ok fits)⟩
    · refine ofExcept ?_ fun _ same => same.1
      intro existing valid state same
      refine ⟨same.1, ?_⟩
      change (demand (decide _) _ >>= fun _ => validateReplayStore document replayKey) = _
      rw [decide_eq_true same.2]
      exact valid

theorem storeEntries_ok {replayKey : Json} {file : File} {existing : List Json}
    (read : storeEntries replayKey file = .ok existing) :
    Stored existing ∧ (entriesOf file).Perm (existing.map Json.canonical) := by
  cases file with
  | none =>
    cases read
    exact ⟨⟨by simp, fun _ _ => nodup_nil⟩, List.Perm.refl _⟩
  | some document =>
    obtain ⟨_, _, valid⟩ := bind_ok read
    obtain ⟨stored, entries, found, rfl, _⟩ := validateReplayStore_ok valid
    refine ⟨stored, ?_⟩
    change (((document.value "entries").elements?.getD []).map Json.canonical).Perm _
    rw [found]
    exact (sortEntries_perm entries).symm.map Json.canonical

def Writable (entries : List Json) (replayKey : Json) : Prop :=
  ∃ written, validateReplayStore (sealedReplayStore entries replayKey) replayKey = .ok written

theorem Writable.stored {entries : List Json} {replayKey : Json}
    (writable : Writable entries replayKey) : Stored entries := by
  obtain ⟨written, valid⟩ := writable
  obtain ⟨stored, others, found, rfl, _⟩ := validateReplayStore_ok valid
  have sorted : (sealedReplayStore entries replayKey).value "entries" =
    .arr (sortEntries entries) := rfl
  rw [sorted, Json.elements?_arr] at found
  cases found
  exact stored.perm ((sortEntries_perm _).trans (sortEntries_perm entries))

/-- The file system does what it takes to replace the file. -/
structure Surroundings.Persists (surroundings : Surroundings) : Prop where
  beforeReplace : surroundings.beforeReplace = .ok ()
  afterReplace : surroundings.afterReplace = .ok ()

/-- A failure of the file system after the file was replaced. -/
def Surroundings.FailsLate (surroundings : Surroundings) : Prop :=
  ∃ error, surroundings.afterReplace = .error error ∨ surroundings.release = .error error

theorem writeReplayStore_triple (surroundings : Surroundings) (replayKey : Json)
    (entries : List Json) (file : File) :
    Triple (fun current => current = file) (writeReplayStore surroundings replayKey entries)
      (fun _ after => surroundings.Persists ∧
        after = some (sealedReplayStore entries replayKey).canonical ∧ Writable entries replayKey)
      (fun after => after = file ∨ after = some (sealedReplayStore entries replayKey).canonical ∧
        Writable entries replayKey ∧ ∃ error, surroundings.afterReplace = .error error) := by
  refine Triple.bind (m := fun _ current => current = file)
    ((readReplayStore_triple surroundings replayKey file).consequence (fun _ => id)
      (fun _ _ read => read.1) fun _ => .inl) fun _ => ?_
  refine Triple.bind (m := fun _ current => current = file ∧ Writable entries replayKey)
    (ofExcept ?_ fun _ => .inl) fun _ => ?_
  · intro written valid state same
    exact ⟨same, written, valid⟩
  · refine Triple.bind (m := fun _ current => current = file ∧ Writable entries replayKey ∧
      surroundings.beforeReplace = .ok ())
      (ofExcept ?_ fun _ holds => .inl holds.1) fun _ => ?_
    · intro _ answer state holds
      exact ⟨holds.1, holds.2, answer⟩
    refine of_state fun state ⟨_, writable, early⟩ => ?_
    refine Triple.bind (m := fun _ current =>
      current = some (sealedReplayStore entries replayKey).canonical ∧
      Writable entries replayKey) ⟨?_⟩ fun _ => ?_
    · intro _ _
      exact ⟨rfl, writable⟩
    · cases answer : surroundings.afterReplace with
      | ok _ => exact Triple.pure fun _ holds => ⟨⟨early, answer⟩, holds⟩
      | error error =>
        exact Triple.throw fun _ holds => .inr ⟨holds.1, holds.2, error, rfl⟩

/-- The arguments of one call and what it meets. -/
structure Call where
  expected : Expected
  surroundings : Surroundings
  assessment : Assessment
  receipts : Option Json
  priorNonces : List Json

def Call.replayKey (call : Call) : Json := deriveReplayStoreKey call.expected.verificationKey

variable (fromIsoformat : String → Parsed)

/-- The call has verified the receipts of its payload and recorded the approvals in the file. -/
structure Consumed (call : Call) (existing : List Json) (payload : Json) (now : Int)
    (before after : File) (approvals : List Approval) : Prop where
  read : storeEntries call.replayKey before = .ok existing
  time : call.surroundings.time = .ok now
  verified : verifyAll fromIsoformat call.expected call.assessment payload now
    (takenBy existing call.priorNonces) call.assessment.requiredChangeTypes = .ok approvals
  written : after = some (sealedReplayStore (existing ++ approvals.map approvalReplayEntry)
    call.replayKey).canonical
  writable : Writable (existing ++ approvals.map approvalReplayEntry) call.replayKey

/-- The call came with one receipt for each change type of its assessment. -/
structure Supplied (call : Call) (payload : Json) : Prop where
  authorizable : validateAssessment call.assessment = .ok call.assessment.requiredChangeTypes
  receipts : optionalObject "operator-approval-receipts" call.receipts = .ok payload
  keys : payload.keys = call.assessment.requiredChangeTypes.map ChangeType.text

/-- What was consumed was what the call came with. -/
structure Recorded (call : Call) (existing : List Json) (payload : Json) (now : Int)
    (before after : File) (approvals : List Approval) : Prop
    extends Consumed fromIsoformat call existing payload now before after approvals,
      Supplied call payload

/-- `authorize_assessment` with the arguments of a call. -/
def Call.authorize (call : Call) : StoreProgram (List Approval) :=
  authorizeAssessment fromIsoformat call.expected call.surroundings call.assessment call.receipts
    call.priorNonces

variable {assessment : Assessment} {changed : List ChangeType}

theorem validateAssessment_ok (authorizable : validateAssessment assessment = .ok changed) :
    changed = assessment.requiredChangeTypes := by
  obtain ⟨_, _, authorizable⟩ := bind_ok authorizable
  obtain ⟨_, _, authorizable⟩ := bind_ok authorizable
  obtain ⟨_, _, authorizable⟩ := bind_ok authorizable
  exact (Except.ok.inj authorizable).symm

variable {fromIsoformat}

theorem consumeReceipts_triple (call : Call) (payload : Json) (file : File) :
    Triple (fun current => current = file)
      (consumeReceipts fromIsoformat call.expected call.surroundings call.assessment payload
        call.assessment.requiredChangeTypes call.priorNonces)
      (fun approvals after => call.surroundings.Persists ∧ ∃ existing now,
        Consumed fromIsoformat call existing payload now file after approvals)
      (fun after => after = file ∨ call.surroundings.FailsLate ∧ ∃ existing now approvals,
        Consumed fromIsoformat call existing payload now file after approvals) := by
  refine Triple.bind (m := fun _ current => current = file)
    (ofExcept (fun _ _ _ => id) fun _ => .inl) fun _ => ?_
  refine Triple.bind ((readReplayStore_triple call.surroundings _ file).consequence (fun _ => id)
    (fun _ _ => id) fun _ => .inl) fun existing => ?_
  refine Triple.bind (m := fun now current => (current = file ∧
    storeEntries call.replayKey file = .ok existing) ∧ call.surroundings.time = .ok now)
    (ofExcept ?_ fun _ holds => .inl holds.1) fun now => ?_
  · intro now time state holds
    exact ⟨holds, time⟩
  refine Triple.bind (m := fun approvals current => ((current = file ∧
    storeEntries call.replayKey file = .ok existing) ∧ call.surroundings.time = .ok now) ∧
    verifyAll fromIsoformat call.expected call.assessment payload now
      (takenBy existing call.priorNonces) call.assessment.requiredChangeTypes = .ok approvals)
    (ofExcept ?_ fun _ holds => .inl holds.1.1) fun approvals => ?_
  · intro approvals verified state holds
    exact ⟨holds, verified⟩
  refine of_state fun state ⟨⟨⟨same, read⟩, time⟩, verified⟩ => ?_
  subst same
  refine Triple.bind (m := fun _ after => call.surroundings.Persists ∧
    Consumed fromIsoformat call existing payload now state after approvals) ?_ fun _ => ?_
  · refine (writeReplayStore_triple call.surroundings _ _ state).consequence (fun _ => id) ?_ ?_
    · intro _ after written
      exact ⟨written.1, ⟨read, time, verified, written.2.1, written.2.2⟩⟩
    · rintro after (same | ⟨written, writable, error, late⟩)
      · exact .inl same
      · exact .inr ⟨⟨error, .inl late⟩, existing, now, approvals,
          read, time, verified, written, writable⟩
  · refine Triple.bind (m := fun _ after => call.surroundings.Persists ∧
      Consumed fromIsoformat call existing payload now state after approvals) ?_ fun _ => ?_
    · cases answer : call.surroundings.release with
      | ok _ => exact Triple.pure fun after => id
      | error error =>
        exact Triple.throw fun after holds =>
          .inr ⟨⟨error, .inr answer⟩, existing, now, approvals, holds.2⟩
    · exact Triple.pure fun after holds => ⟨holds.1, existing, now, holds.2⟩

variable (call : Call) (file : File)

/-- All that `authorize_assessment` can do. -/
theorem authorize_triple :
    Triple (fun current => current = file) (call.authorize fromIsoformat) (fun approvals after =>
        (call.assessment.requiredChangeTypes = [] ∧ ∃ payload, Supplied call payload) ∧
          approvals = [] ∧ after = file ∨
        call.surroundings.Persists ∧ ∃ existing payload now,
          Recorded fromIsoformat call existing payload now file after approvals)
      (fun after => after = file ∨ call.surroundings.FailsLate ∧ ∃ existing payload now approvals,
        Recorded fromIsoformat call existing payload now file after approvals) := by
  refine Triple.bind (m := fun changed current => current = file ∧
    validateAssessment call.assessment = .ok changed) (ofExcept ?_ fun _ => .inl) fun changed => ?_
  · intro changed authorizable state same
    exact ⟨same, authorizable⟩
  refine Triple.bind (m := fun payload current => current = file ∧
    validateAssessment call.assessment = .ok changed ∧
    optionalObject "operator-approval-receipts" call.receipts = .ok payload)
    (ofExcept ?_ fun _ holds => .inl holds.1) fun payload => ?_
  · intro payload read state holds
    exact ⟨holds.1, holds.2, read⟩
  refine of_state fun state ⟨same, authorizable, read⟩ => ?_
  subst same
  have required := validateAssessment_ok authorizable
  subst required
  split
  · rename_i unprotected
    refine Triple.bind (m := fun _ current => current = state ∧ payload.keys = [])
      (ofExcept ?_ fun _ => .inl) fun _ => ?_
    · intro _ empty current same
      exact ⟨same, of_decide_eq_true (demand_ok empty)⟩
    refine Triple.pure fun _ holds => .inl ⟨⟨unprotected, payload, authorizable, read, ?_⟩, rfl, holds.1⟩
    rw [holds.2, unprotected]
    rfl
  · refine Triple.bind (m := fun _ current => current = state ∧
      payload.keys = call.assessment.requiredChangeTypes.map ChangeType.text)
      (ofExcept ?_ fun _ => .inl) fun _ => ?_
    · intro _ exact' current same
      exact ⟨same, of_decide_eq_true (demand_ok exact')⟩
    refine Triple.bind (m := fun _ current => current = state ∧
      payload.keys = call.assessment.requiredChangeTypes.map ChangeType.text)
      (ofExcept (fun _ _ _ => id) fun _ holds => .inl holds.1) fun _ => ?_
    refine of_state fun current ⟨same, keys⟩ => ?_
    subst same
    exact (consumeReceipts_triple call payload current).consequence (fun _ => id)
      (fun approvals after ⟨persists, existing, now, consumed⟩ => .inr ⟨persists,
        existing, payload, now, ⟨consumed, authorizable, read, keys⟩⟩)
      (fun after => Or.imp id fun ⟨late, existing, now, approvals, consumed⟩ => ⟨late, existing,
        payload, now, approvals, ⟨consumed, authorizable, read, keys⟩⟩)

/-! ## What has been consumed -/

section

variable {call : Call} {existing : List Json} {payload : Json} {now : Int} {before after : File}
  {approvals : List Approval}

variable (consumed : Consumed fromIsoformat call existing payload now before after approvals)

include consumed

theorem Consumed.entries : (entriesOf after).Perm
      (entriesOf before ++ approvals.map fun approval => (approvalReplayEntry approval).canonical) := by
  have known := (storeEntries_ok consumed.read).2
  have sorted := (sortEntries_perm (existing ++ approvals.map approvalReplayEntry)).map Json.canonical
  rw [consumed.written, entriesOf_sealed]
  rw [map_append, map_map] at sorted
  exact sorted.trans (known.symm.append_right _)

theorem Consumed.distinct {field : String} (binding : field ∈ bindingFields) :
    ((entriesOf before).map (Json.value field) ++
      approvals.map fun approval => approval.audit.value field).Nodup := by
  obtain ⟨stored, known⟩ := storeEntries_ok consumed.read
  have named := mem_replayEntryFields binding
  have apart := consumed.writable.stored.distinct field binding
  have new : (approvals.map approvalReplayEntry).map (Json.value field) =
      approvals.map fun approval => approval.audit.value field := by
    rw [map_map]
    exact map_congr_left fun approval _ => value_approvalReplayEntry approval named
  rw [map_append, new] at apart
  have old := known.map (Json.value field)
  rw [stored.canonical_value named] at old
  exact ((old.append_right _).nodup_iff).mpr apart

theorem Consumed.bound {field : String} (binding : field ∈ bindingFields) {approval : Approval}
    (member : approval ∈ approvals) :
    approval.audit.value field ∈ (entriesOf after).map (Json.value field) := by
  have named := mem_replayEntryFields binding
  have valid := consumed.writable.stored.valid (approvalReplayEntry approval)
    (mem_append_right _ (mem_map_of_mem member))
  have text := canonical_of_nonemptyText (entryValid_text valid named)
  refine mem_map.mpr ⟨(approvalReplayEntry approval).canonical, ?_, ?_⟩
  · refine consumed.entries.mem_iff.mpr (mem_append_right _ ?_)
    exact mem_map_of_mem member
  · rw [value_canonical, text, value_approvalReplayEntry approval named]

end

variable {expected : Expected} {now : Int}

theorem verifyAll_ok {receipts : Json} {taken : Taken} {approvals : List Approval}
    (verified : verifyAll fromIsoformat expected assessment receipts now taken changed =
      .ok approvals) :
    List.Forall₂ (fun changeType approval => ∃ seenNonces,
      verifyOperatorApproval fromIsoformat expected changeType assessment.beforeSubject
        assessment.afterSubject seenNonces now (receipts.value changeType.text) = .ok approval)
      changed approvals := by
  induction changed generalizing taken approvals with
  | nil =>
    cases verified
    exact List.Forall₂.nil
  | cons changeType rest ih =>
    obtain ⟨approval, first, verified⟩ := bind_ok verified
    obtain ⟨_, _, verified⟩ := bind_ok verified
    obtain ⟨later, others, verified⟩ := bind_ok verified
    cases verified
    exact List.Forall₂.cons ⟨taken.nonces, first⟩ (ih others)

theorem changeType_of_verified {changeType : ChangeType} {before after receipt : Json}
    {seenNonces : List Json} {approval : Approval}
    (verified : verifyOperatorApproval fromIsoformat expected changeType before after seenNonces now
      receipt = .ok approval) : approval.changeType = .str changeType.text := by
  obtain ⟨bound, _, _, minted⟩ := verifyOperatorApproval_ok verified
  obtain ⟨_, _, known⟩ := mintApproval_ok minted
  unfold Approval.changeType
  rw [known.audit, value_auditRecord _ _ _ (by decide), bound.changeType]

theorem verifyAll_types {receipts : Json} {taken : Taken} {approvals : List Approval}
    (verified : verifyAll fromIsoformat expected assessment receipts now taken changed =
      .ok approvals) :
    approvals.map Approval.changeType = changed.map fun changeType => .str changeType.text := by
  have each := verifyAll_ok verified
  clear verified
  induction each with
  | nil => rfl
  | cons first _ ih =>
    obtain ⟨_, first⟩ := first
    rw [map_cons, map_cons, ih, changeType_of_verified first]

/-! ## Sequences of calls -/

variable (fromIsoformat)

/-- One call of a sequence: what it returned or raised, and the files before and after. -/
structure Outcome where
  call : Call
  before : File
  result : Except PyError (List Approval)
  after : File

def Outcome.approvals (outcome : Outcome) : List Approval := outcome.result.toOption.getD []

def Call.outcome : Outcome :=
  match call.authorize fromIsoformat file with
  | .ok approvals after => ⟨call, file, .ok approvals, after⟩
  | .error error after => ⟨call, file, .error error, after⟩

/-- The calls of any verifiers on one file, in the order in which they hold its lock. -/
def outcomes : List Call → File → List Outcome
  | [], _ => []
  | call :: rest, file =>
    let outcome := call.outcome fromIsoformat file
    outcome :: outcomes rest outcome.after

variable {fromIsoformat}

/-- The two ways in which a call can end. -/
theorem outcome_cases :
    let outcome := call.outcome fromIsoformat file
    (outcome.after = file ∧ outcome.approvals = [] ∧
      (outcome.result = .ok [] ∧ call.assessment.requiredChangeTypes = [] ∧
          (∃ payload, Supplied call payload) ∨
        ∃ error, outcome.result = .error error)) ∨
    ∃ existing payload now approvals,
      Recorded fromIsoformat call existing payload now file outcome.after approvals ∧
      (outcome.result = .ok approvals ∧ call.surroundings.Persists ∨
        call.surroundings.FailsLate ∧ ∃ error, outcome.result = .error error) := by
  have ends := (@authorize_triple fromIsoformat call file).ends file rfl
  unfold Call.outcome
  revert ends
  cases call.authorize fromIsoformat file with
  | ok approvals after =>
    rintro (⟨⟨unprotected, supplied⟩, rfl, rfl⟩ | ⟨persists, existing, payload, now, recorded⟩)
    · exact .inl ⟨rfl, rfl, .inl ⟨rfl, unprotected, supplied⟩⟩
    · exact .inr ⟨existing, payload, now, approvals, recorded, .inl ⟨rfl, persists⟩⟩
  | error error after =>
    rintro (rfl | ⟨late, existing, payload, now, approvals, recorded⟩)
    · exact .inl ⟨rfl, rfl, .inr ⟨error, rfl⟩⟩
    · exact .inr ⟨existing, payload, now, approvals, recorded, .inr ⟨late, error, rfl⟩⟩

theorem outcome_kept :
    entriesOf file ⊆ entriesOf (call.outcome fromIsoformat file).after := by
  rcases @outcome_cases fromIsoformat call file with ⟨same, _⟩ | ⟨_, _, _, _, recorded, _⟩
  · rw [same]
    exact fun _ => id
  · intro entry member
    exact recorded.entries.mem_iff.mpr (mem_append_left _ member)

/-- What a call returns is new to the file, and bound by it from then on. -/
theorem outcome_binds {field : String} (binding : field ∈ bindingFields) :
    ((call.outcome fromIsoformat file).approvals.map fun approval => approval.audit.value field).Nodup ∧
      ∀ approval ∈ (call.outcome fromIsoformat file).approvals,
        approval.audit.value field ∉ (entriesOf file).map (Json.value field) ∧
        approval.audit.value field ∈
          (entriesOf (call.outcome fromIsoformat file).after).map (Json.value field) := by
  rcases @outcome_cases fromIsoformat call file with
    ⟨_, none', _⟩ | ⟨existing, payload, now, approvals, recorded, result⟩
  · rw [none']
    exact ⟨nodup_nil, by simp⟩
  · rcases result with ⟨returned, _⟩ | ⟨_, error, raised⟩
    · have same : (call.outcome fromIsoformat file).approvals = approvals := by
        unfold Outcome.approvals
        rw [returned]
        rfl
      obtain ⟨_, distinct, apart⟩ := nodup_append.mp (recorded.distinct binding)
      rw [same]
      refine ⟨distinct, fun approval member => ⟨fun old => ?_, recorded.bound binding member⟩⟩
      exact apart _ old _ (mem_map_of_mem member) rfl
    · have none' : (call.outcome fromIsoformat file).approvals = [] := by
        unfold Outcome.approvals
        rw [raised]
        rfl
      rw [none']
      exact ⟨nodup_nil, by simp⟩

/-- No later call returns what the file binds already, and no two calls return the same. -/
theorem outcomes_distinct (calls : List Call) (file : File) {field : String}
    (binding : field ∈ bindingFields) :
    let bound := ((outcomes fromIsoformat calls file).flatMap Outcome.approvals).map fun approval =>
      approval.audit.value field
    bound.Nodup ∧ ∀ value ∈ bound, value ∉ (entriesOf file).map (Json.value field) := by
  induction calls generalizing file with
  | nil => exact ⟨nodup_nil, by simp [outcomes]⟩
  | cons call rest ih =>
    obtain ⟨distinct, known⟩ := @outcome_binds fromIsoformat call file _ binding
    obtain ⟨laterDistinct, later⟩ := ih (call.outcome fromIsoformat file).after
    have kept := map_subset (Json.value field) (@outcome_kept fromIsoformat call file)
    unfold outcomes
    rw [flatMap_cons, map_append]
    constructor
    · refine nodup_append.mpr ⟨distinct, laterDistinct, fun value first other second same => ?_⟩
      obtain ⟨approval, member, rfl⟩ := mem_map.mp first
      exact later other second (same ▸ (known approval member).2)
    · intro value member old
      rcases mem_append.mp member with first | second
      · obtain ⟨approval, returned, rfl⟩ := mem_map.mp first
        exact (known approval returned).1 old
      · exact later value second (kept old)

theorem outcome_call :
    (call.outcome fromIsoformat file).call = call ∧ (call.outcome fromIsoformat file).before = file := by
  unfold Call.outcome
  cases call.authorize fromIsoformat file <;> exact ⟨rfl, rfl⟩

theorem mem_outcomes {calls : List Call} {file : File} {outcome : Outcome}
    (member : outcome ∈ outcomes fromIsoformat calls file) :
    ∃ call ∈ calls, ∃ before, outcome = call.outcome fromIsoformat before := by
  induction calls generalizing file with
  | nil => cases member
  | cons call rest ih =>
    rcases mem_cons.mp member with rfl | later
    · exact ⟨call, mem_cons_self, file, rfl⟩
    · obtain ⟨other, among, before, same⟩ := ih later
      exact ⟨other, mem_cons_of_mem call among, before, same⟩

variable (fromIsoformat)

def Call.Rejects : Prop :=
  ∃ payload existing now error,
    optionalObject "operator-approval-receipts" call.receipts = .ok payload ∧
    storeEntries call.replayKey file = .ok existing ∧ call.surroundings.time = .ok now ∧
    verifyAll fromIsoformat call.expected call.assessment payload now
      (takenBy existing call.priorNonces) call.assessment.requiredChangeTypes = .error error

variable {fromIsoformat}

theorem Recorded.not_rejects {call : Call} {existing : List Json} {payload : Json}
    {before after : File} {approvals : List Approval}
    (recorded : Recorded fromIsoformat call existing payload now before after approvals) :
    ¬ call.Rejects fromIsoformat before := by
  rintro ⟨payload', existing', now', error, receipts, read, time, rejected⟩
  cases recorded.receipts.symm.trans receipts
  cases recorded.read.symm.trans read
  cases recorded.time.symm.trans time
  cases recorded.verified.symm.trans rejected

theorem not_rejects_of_unprotected {call : Call} {file : File}
    (unprotected : call.assessment.requiredChangeTypes = []) :
    ¬ call.Rejects fromIsoformat file := by
  rintro ⟨payload, existing, now, error, _, _, _, rejected⟩
  rw [unprotected] at rejected
  cases rejected

variable (fromIsoformat) in
/-- What one call of a sequence returns, and what it leaves in the file when it raises. -/
structure Outcome.AllOrNone (outcome : Outcome) : Prop where
  complete : ∀ approvals, outcome.result = .ok approvals → approvals.map Approval.changeType =
      outcome.call.assessment.requiredChangeTypes.map fun changeType => .str changeType.text
  durable : ∀ approval ∈ outcome.approvals,
    (approvalReplayEntry approval).canonical ∈ entriesOf outcome.after ∧
      outcome.call.surroundings.Persists
  rejected : outcome.call.Rejects fromIsoformat outcome.before →
    (∃ error, outcome.result = .error error) ∧ outcome.after = outcome.before
  raised : ∀ error, outcome.result = .error error →
    outcome.after = outcome.before ∨ outcome.call.surroundings.FailsLate
  unpersisted : outcome.call.assessment.requiredChangeTypes ≠ [] →
    ¬ outcome.call.surroundings.Persists → ∃ error, outcome.result = .error error

theorem outcome_allOrNone :
    (call.outcome fromIsoformat file).AllOrNone fromIsoformat := by
  obtain ⟨sameCall, sameFile⟩ := @outcome_call fromIsoformat call file
  have ends := @outcome_cases fromIsoformat call file
  generalize call.outcome fromIsoformat file = outcome at *
  subst sameCall sameFile
  rcases ends with ⟨same, none', why⟩ | ⟨existing, payload, now, approvals, recorded, how⟩
  · constructor
    · intro approvals returned
      rcases why with ⟨result, unprotected, _⟩ | ⟨error, raised⟩
      · cases result.symm.trans returned
        rw [unprotected]
        rfl
      · rw [raised] at returned
        cases returned
    · rw [none']
      simp
    · intro rejects
      refine ⟨?_, same⟩
      rcases why with ⟨_, unprotected, _⟩ | raised
      · exact absurd rejects (not_rejects_of_unprotected unprotected)
      · exact raised
    · intro _ _
      exact .inl same
    · intro protected' _
      exact why.resolve_left fun unneeded => protected' unneeded.2.1
  · constructor
    · intro others returned
      rcases how with ⟨result, _⟩ | ⟨_, error, raised⟩
      · cases result.symm.trans returned
        exact verifyAll_types recorded.verified
      · rw [raised] at returned
        cases returned
    · intro approval member
      rcases how with ⟨result, persists⟩ | ⟨_, error, raised⟩
      · rw [Outcome.approvals, result] at member
        refine ⟨recorded.entries.mem_iff.mpr (mem_append_right _ ?_), persists⟩
        exact mem_map_of_mem member
      · rw [Outcome.approvals, raised] at member
        cases member
    · intro rejects
      exact absurd rejects recorded.not_rejects
    · intro error raised
      rcases how with ⟨result, _⟩ | ⟨late, _⟩
      · rw [result] at raised
        cases raised
      · exact .inr late
    · intro _ unpersisted
      rcases how with ⟨_, persists⟩ | ⟨_, raised⟩
      · exact absurd persists unpersisted
      · exact raised

/--
Whatever calls are made on a file, no two approvals that they return share a nonce, an
approval identifier or a receipt hash, and each call authorizes with all of its set or
with none of it.
-/
theorem approvals_authorize_once (fromIsoformat : String → Parsed) (calls : List Call) (file : File) :
    (∀ field ∈ bindingFields, (((outcomes fromIsoformat calls file).flatMap Outcome.approvals).map
      fun approval => approval.audit.value field).Nodup) ∧
    ∀ outcome ∈ outcomes fromIsoformat calls file, outcome.AllOrNone fromIsoformat := by
  constructor
  · intro field binding
    exact (outcomes_distinct calls file binding).1
  · intro outcome member
    obtain ⟨call, _, before, rfl⟩ := mem_outcomes member
    exact outcome_allOrNone call before

end WorkOrchestration.Native.ApprovalStore
