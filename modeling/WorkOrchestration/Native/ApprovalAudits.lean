import Mathlib.Data.List.Forall2
import Mathlib.Data.List.Induction
import Mathlib.Data.List.Nodup
import WorkOrchestration.Native.ApprovalsOnce

/-!
# Stored audits and consumed receipts

The audit records of an approval are checked against the store without consuming
anything.  What has been consumed passes that check as long as the store can be read,
and what passes the check has been consumed.
-/

namespace WorkOrchestration.Native.ApprovalStore

open List Lib.Checks Lib.Text Lib.Programs Artifacts
open Artifacts.Json (isOneOf)
open Authority ProtectedChanges OperatorApprovals
open Json (insertField obj sha256)
open Triple (ofExcept)
open MonadExcept (ofExcept)

/-! ## Ordinary values in canonical form -/

variable {label : String} {index : Nat} {seen : List String}

theorem ordinaryFrom_field {key : String} {value rest : Json} :
    ordinaryFrom label index seen (.field key value rest) = .ok () ↔
      key ∉ seen ∧ ordinaryFrom (label ++ "." ++ key) 0 [] value = .ok () ∧
        ordinaryFrom label 0 (key :: seen) rest = .ok () := by
  rw [ordinaryFrom]
  constructor
  · intro ordinary
    by_cases old : seen.contains key = true
    · rw [if_pos old] at ordinary
      cases ordinary
    · rw [if_neg old] at ordinary
      obtain ⟨_, first, others⟩ := bind_ok ordinary
      exact ⟨by simpa using old, first, others⟩
  · rintro ⟨new, first, others⟩
    rw [if_neg (by simpa using new)]
    rw [first]
    exact others

theorem ordinaryFrom_item {head tail : Json} :
    ordinaryFrom label index seen (.item head tail) = .ok () ↔
      ordinaryFrom (label ++ "[" ++ toString index ++ "]") 0 [] head = .ok () ∧
        ordinaryFrom label (index + 1) [] tail = .ok () := by
  constructor
  · intro ordinary
    obtain ⟨_, first, rest⟩ := bind_ok ordinary
    exact ⟨first, rest⟩
  · rintro ⟨first, rest⟩
    change (ordinaryFrom _ _ _ head >>= fun _ => ordinaryFrom _ _ _ tail) = _
    rw [first]
    exact rest

theorem ordinaryFrom_of {value : Json} {label' : String} {index' : Nat} {seen' : List String}
    (fewer : seen' ⊆ seen) (ordinary : ordinaryFrom label index seen value = .ok ()) :
    ordinaryFrom label' index' seen' value = .ok () := by
  induction value generalizing label label' index index' seen seen' with
  | ratio numerator denominator =>
    cases denominator with
    | zero => cases ordinary
    | succ => rfl
  | item head tail ihHead ihTail =>
    obtain ⟨first, rest⟩ := ordinaryFrom_item.mp ordinary
    exact ordinaryFrom_item.mpr
      ⟨ihHead (List.Subset.refl _) first, ihTail (List.Subset.refl _) rest⟩
  | field key value rest ihValue ihRest =>
    obtain ⟨new, first, others⟩ := ordinaryFrom_field.mp ordinary
    exact ordinaryFrom_field.mpr ⟨fun old => new (fewer old),
      ihValue (List.Subset.refl _) first, ihRest (cons_subset_cons key fewer) others⟩
  | bytes | foreign => cases ordinary
  | _ => rfl

theorem ordinaryJson_of {value : Json} {label' : String}
    (ordinary : ordinaryJson label value = .ok ()) : ordinaryJson label' value = .ok () :=
  ordinaryFrom_of (List.Subset.refl _) ordinary

theorem ordinaryFrom_insertField {key : String} {value document : Json} (new : key ∉ seen)
    (first : ordinaryFrom (label ++ "." ++ key) 0 [] value = .ok ())
    (others : ordinaryFrom label index (key :: seen) document = .ok ()) :
    ordinaryFrom label index seen (insertField key value document) = .ok () := by
  induction document generalizing seen index with
  | field name old rest _ ih =>
    unfold insertField
    split
    · exact ordinaryFrom_field.mpr ⟨new, first, ordinaryFrom_of (List.Subset.refl _) others⟩
    · obtain ⟨newName, oldOrdinary, restOrdinary⟩ := ordinaryFrom_field.mp others
      rw [mem_cons, not_or] at newName
      refine ordinaryFrom_field.mpr ⟨newName.2, oldOrdinary, ih ?_ ?_⟩
      · rw [mem_cons, not_or]
        exact ⟨Ne.symm newName.1, new⟩
      · refine ordinaryFrom_of (fun other among => ?_) restOrdinary
        simp only [mem_cons] at among ⊢
        tauto
  | _ => exact ordinaryFrom_field.mpr ⟨new, first, ordinaryFrom_of (List.Subset.refl _) others⟩

theorem ordinaryFrom_canonical {value : Json}
    (ordinary : ordinaryFrom label index seen value = .ok ()) :
    ordinaryFrom label index seen value.canonical = .ok () := by
  induction value generalizing label index seen with
  | item head tail ihHead ihTail =>
    obtain ⟨first, rest⟩ := ordinaryFrom_item.mp ordinary
    exact ordinaryFrom_item.mpr ⟨ihHead first, ihTail rest⟩
  | field key value rest ihValue ihRest =>
    obtain ⟨new, first, others⟩ := ordinaryFrom_field.mp ordinary
    exact ordinaryFrom_insertField new (ihValue first)
      (ordinaryFrom_of (List.Subset.refl _) (ihRest others))
  | _ => exact ordinary

theorem canonicalJsonObject_of {value : Json} (ordinary : ordinaryJson label value = .ok ())
    (object : value.isObject = true) :
    canonicalJsonObject label value = .ok value := by
  unfold canonicalJsonObject
  rw [ordinary, if_pos object]
  rfl

theorem canonicalJsonObject_canonical {value result : Json}
    (read : canonicalJsonObject label value = .ok result) :
    canonicalJsonObject label value.canonical = .ok value.canonical := by
  obtain ⟨_, ordinary, object⟩ := canonicalJsonObject_ok read
  exact canonicalJsonObject_of (ordinaryFrom_canonical ordinary) (Json.isObject_canonical object)

theorem mem_keys_canonical {key : String} {document : Json} :
    key ∈ document.canonical.keys ↔ key ∈ document.keys := by
  rw [Json.mem_keys_iff, Json.mem_keys_iff, Json.get?_canonical]
  cases document.get? key <;> simp

theorem hasExactly_canonical {fields : List String} {document : Json}
    (exact' : document.hasExactly fields = true) : document.canonical.hasExactly fields = true := by
  unfold Json.hasExactly at exact' ⊢
  simp only [Bool.and_eq_true, all_eq_true, contains_iff_mem] at exact' ⊢
  refine ⟨⟨Json.isObject_canonical exact'.1.1, fun key member => ?_⟩, fun key member => ?_⟩
  · exact exact'.1.2 key (mem_keys_canonical.mp member)
  · exact mem_keys_canonical.mpr (exact'.2 key member)

/-! ## Stores in canonical form -/

theorem entryValid_canonical {entry : Json} (valid : entryValid entry = true) :
    entryValid entry.canonical = true := by
  have same : ∀ field ∈ replayEntryFields, entry.canonical.value field = entry.value field :=
    fun field named => (value_canonical field entry).trans
      (canonical_of_nonemptyText (entryValid_text valid named))
  unfold entryValid at valid ⊢
  simp only [Bool.and_eq_true, all_eq_true] at valid ⊢
  obtain ⟨⟨⟨⟨object, exact'⟩, texts⟩, changeType⟩, digests⟩ := valid
  refine ⟨⟨⟨⟨Json.isObject_canonical object, hasExactly_canonical exact'⟩, ?_⟩, ?_⟩, ?_⟩
  · intro field named
    rw [same field named]
    exact texts field named
  · rw [same _ (by decide)]
    exact changeType
  · intro field named
    have within : ["receipt_sha256", "before_sha256", "after_sha256"] ⊆ replayEntryFields := by decide
    rw [same field (within named)]
    exact digests field named

variable {entries : List Json}

theorem Stored.canonical (stored : Stored entries) :
    Stored (entries.map Json.canonical) := by
  constructor
  · intro entry member
    obtain ⟨original, among, rfl⟩ := mem_map.mp member
    exact entryValid_canonical (stored.valid original among)
  · intro field binding
    rw [stored.canonical_value (mem_replayEntryFields binding)]
    exact stored.distinct field binding

theorem validateEntries_of {seen : List Json} (valid : ∀ entry ∈ entries, entryValid entry = true)
    (distinct : ∀ field ∈ bindingFields, (entries.map (Json.value field)).Nodup ∧
      ∀ entry ∈ entries, entry.value field ∉ seen.map (Json.value field)) :
    validateEntries seen entries = .ok () := by
  induction entries generalizing seen with
  | nil => rfl
  | cons entry rest ih =>
    have fresh : (bindingFields.all fun field =>
        !(seen.map (Json.value field)).contains (entry.value field)) = true := by
      rw [all_eq_true]
      intro field binding
      simpa using (distinct field binding).2 entry mem_cons_self
    unfold validateEntries
    rw [valid entry mem_cons_self, fresh]
    refine ih (forall_mem_cons.mp valid).2 ?_
    intro field binding
    obtain ⟨apart, unseen⟩ := distinct field binding
    rw [map_cons, nodup_cons] at apart
    refine ⟨apart.2, fun other member => ?_⟩
    rw [map_cons, mem_cons, not_or]
    refine ⟨fun same => apart.1 ?_, unseen other (mem_cons_of_mem _ member)⟩
    rw [← same]
    exact mem_map_of_mem member

theorem Stored.accepted (stored : Stored entries) : validateEntries [] entries = .ok () :=
  validateEntries_of stored.valid fun field binding => ⟨stored.distinct field binding, by simp⟩

theorem canonical_arr_map (items : List Json) :
    (Json.arr (items.map Json.canonical)).canonical = (Json.arr items).canonical := by
  induction items with
  | nil => rfl
  | cons item rest ih =>
    change Json.item item.canonical.canonical (Json.arr (rest.map Json.canonical)).canonical =
      Json.item item.canonical (Json.arr rest).canonical
    rw [Json.canonical_idem, ih]

theorem sortEntries_canonical (stored : Stored entries) :
    sortEntries (entries.map Json.canonical) = (sortEntries entries).map Json.canonical := by
  have same : ∀ entry ∈ entries, entryKey entry.canonical = entryKey entry := by
    intro entry member
    unfold entryKey
    rw [value_canonical, canonical_of_nonemptyText
      (entryValid_text (stored.valid entry member) (by decide))]
  refine (map_mergeSort fun left amongLeft right amongRight => ?_).symm
  rw [same left amongLeft, same right amongRight]

theorem sealed_canonical {others : List Json} (replayKey : Json)
    (same : (Json.arr (sortEntries entries)).canonical = (Json.arr (sortEntries others)).canonical) :
    (sealedReplayStore entries replayKey).canonical = (sealedReplayStore others replayKey).canonical := by
  have body : (replayStoreBody entries).canonical = (replayStoreBody others).canonical := by
    change insertField _ _ (insertField _ _ (insertField _
      (Json.arr (sortEntries entries)).canonical _)) = _
    rw [same]
    rfl
  change insertField _ _ (insertField _ _ (insertField _
    (Json.arr (sortEntries entries)).canonical (insertField _
      (hmacSha256 replayKey (replayStoreBody entries).canonical).canonical _))) = _
  rw [same, body]
  rfl

theorem value_hmac (entries : List Json) (replayKey : Json) :
    (sealedReplayStore entries replayKey).value "store_hmac_sha256" =
      hmacSha256 replayKey (replayStoreBody entries).canonical :=
  rfl

/-- A store that is valid is valid as it is written, with its entries as they are written. -/
theorem validateReplayStore_canonical {document replayKey : Json}
    (valid : validateReplayStore document replayKey = .ok entries) :
    validateReplayStore document.canonical replayKey = .ok (entries.map Json.canonical) := by
  obtain ⟨stored, others, found, rfl, same⟩ := validateReplayStore_ok valid
  have original : Stored others := stored.perm (sortEntries_perm others)
  obtain ⟨payload, read, accepted⟩ := bind_ok valid
  rw [(canonicalJsonObject_ok read).1] at accepted read
  obtain ⟨_, fields, accepted⟩ := bind_ok accepted
  obtain ⟨_, storeType, accepted⟩ := bind_ok accepted
  obtain ⟨_, version, _⟩ := bind_ok accepted
  have written : (sealedReplayStore (others.map Json.canonical) replayKey).canonical =
      (sealedReplayStore others replayKey).canonical := by
    apply sealed_canonical
    rw [sortEntries_canonical original, canonical_arr_map]
  have authentic : (document.canonical.value "store_hmac_sha256") =
      (sealedReplayStore (others.map Json.canonical) replayKey).value "store_hmac_sha256" := by
    rw [same, ← written, value_canonical]
    rfl
  unfold validateReplayStore
  rw [canonicalJsonObject_canonical read]
  change (demand (document.canonical.hasExactly replayStoreFields) _ >>= _) = _
  rw [hasExactly_canonical (demand_ok fields)]
  rw [value_canonical, of_decide_eq_true (demand_ok storeType)]
  rw [value_canonical, of_decide_eq_true (demand_ok version)]
  have read' : (document.canonical.value "entries").elements? =
      some (others.map Json.canonical) := by
    rw [value_canonical, elements?_canonical, found]
    rfl
  rw [read']
  change (validateEntries [] (others.map Json.canonical) >>= _) = _
  rw [original.canonical.accepted]
  rw [authentic]
  change (demand (decide (hmacSha256 _ _ = hmacSha256 _ _)) _ >>= fun _ =>
    demand (decide (document.canonical.canonical = _)) _ >>= _) = _
  rw [decide_eq_true rfl, Json.canonical_idem, same, written, decide_eq_true rfl]
  change Except.ok (sortEntries (others.map Json.canonical)) = _
  rw [sortEntries_canonical original]

section

variable (fromIsoformat : String → Parsed)

/-- The file that a sequence of calls leaves. -/
def fileAfter : List Call → File → File
  | [], file => file
  | call :: rest, file => fileAfter rest (call.outcome fromIsoformat file).after

/-- A call of the sequence has recorded the approval in the file. -/
def RecordedBy (calls : List Call) (approval : Approval) : Prop :=
  ∃ earlier call later, calls = earlier ++ call :: later ∧
    let before := fileAfter fromIsoformat earlier none
    ∃ existing payload now approvals, Recorded fromIsoformat call existing payload now before
        (call.outcome fromIsoformat before).after approvals ∧
      approval ∈ approvals

variable {fromIsoformat}

theorem fileAfter_append (earlier later : List Call) (file : File) :
    fileAfter fromIsoformat (earlier ++ later) file =
      fileAfter fromIsoformat later (fileAfter fromIsoformat earlier file) := by
  induction earlier generalizing file with
  | nil => rfl
  | cons call rest ih => exact ih (call.outcome fromIsoformat file).after

variable {approval : Approval}

theorem RecordedBy.later {calls : List Call} (recorded : RecordedBy fromIsoformat calls approval)
    (call : Call) :
    RecordedBy fromIsoformat (calls ++ [call]) approval := by
  obtain ⟨earlier, other, later, rfl, rest⟩ := recorded
  exact ⟨earlier, other, later ++ [call], by simp, rest⟩

/-- Every entry of the file is that of an approval which a call has recorded. -/
theorem entries_recorded (calls : List Call) :
    ∀ entry ∈ entriesOf (fileAfter fromIsoformat calls none), ∃ approval,
      RecordedBy fromIsoformat calls approval ∧ entry = (approvalReplayEntry approval).canonical := by
  induction calls using List.reverseRecOn with
  | nil => simp [fileAfter, entriesOf]
  | append_singleton calls call ih =>
    intro entry member
    rw [fileAfter_append] at member
    change entry ∈ entriesOf
      (call.outcome fromIsoformat (fileAfter fromIsoformat calls none)).after at member
    rcases @outcome_cases fromIsoformat call (fileAfter fromIsoformat calls none)
      with ⟨same, _⟩ | ⟨existing, payload, now, approvals, recorded, _⟩
    · rw [same] at member
      obtain ⟨approval, known, rfl⟩ := ih entry member
      exact ⟨approval, known.later call, rfl⟩
    · rcases mem_append.mp (recorded.entries.mem_iff.mp member) with old | new
      · obtain ⟨approval, known, rfl⟩ := ih entry old
        exact ⟨approval, known.later call, rfl⟩
      · obtain ⟨approval, among, rfl⟩ := mem_map.mp new
        exact ⟨approval, ⟨calls, call, [], rfl, existing, payload, now, approvals, recorded,
          among⟩, rfl⟩

/-! ## The file under later calls -/

/-- What a file holds is not larger than what is read. -/
def Fits (file : File) : Prop := ∀ document ∈ file, textSize document + 1 ≤ maxReplayStoreBytes

/-- The file has been written under a key. -/
def SealedWith (replayKey : Json) (file : File) : Prop :=
  ∃ entries, Writable entries replayKey ∧ file = some (sealedReplayStore entries replayKey).canonical

variable {replayKey : Json} {file : File}

section

variable (written : SealedWith replayKey file)

include written

theorem SealedWith.read (fits : Fits file) :
    ∃ existing, storeEntries replayKey file = .ok existing := by
  obtain ⟨entries, ⟨sorted, valid⟩, rfl⟩ := written
  refine ⟨sorted.map Json.canonical, ?_⟩
  change (demand (decide _) _ >>= fun _ => validateReplayStore _ replayKey) = _
  rw [decide_eq_true (fits _ rfl)]
  exact validateReplayStore_canonical valid

theorem SealedWith.key {other : Json} {existing : List Json}
    (read : storeEntries other file = .ok existing) : other = replayKey := by
  obtain ⟨entries, _, rfl⟩ := written
  obtain ⟨_, _, valid⟩ := bind_ok read
  obtain ⟨_, stored, _, _, same⟩ := validateReplayStore_ok valid
  rw [Json.canonical_idem] at same
  have authentic := congrArg (Json.value "store_hmac_sha256") same
  rw [value_canonical, value_canonical, value_hmac] at authentic
  have preimages : Json.item other _ = .item replayKey _ := sha256.inj authentic.symm
  exact (Json.item.inj preimages).1

theorem outcome_sealedWith (call : Call) :
    SealedWith replayKey (call.outcome fromIsoformat file).after := by
  rcases @outcome_cases fromIsoformat call file with
    ⟨same, _⟩ | ⟨existing, payload, now, approvals, recorded, _⟩
  · rw [same]
    exact written
  · rw [← written.key recorded.read]
    exact ⟨_, recorded.writable, recorded.written⟩

theorem fileAfter_sealedWith (calls : List Call) :
    SealedWith replayKey (fileAfter fromIsoformat calls file) := by
  induction calls generalizing file with
  | nil => exact written
  | cons call rest ih => exact ih (outcome_sealedWith written call)

end

theorem fileAfter_kept (calls : List Call) (file : File) :
    entriesOf file ⊆ entriesOf (fileAfter fromIsoformat calls file) := by
  induction calls generalizing file with
  | nil => exact fun _ => id
  | cons call rest ih =>
    exact List.Subset.trans (outcome_kept call file) (ih (call.outcome fromIsoformat file).after)

/-! ## What has been consumed passes -/

variable {receipt : Json}

theorem verifyValidity_issued {now : Int}
    (valid : verifyValidity fromIsoformat now receipt = .ok ()) :
    ∃ issued, parseUtcTimestamp fromIsoformat "operator-approval-issued-at"
        (receipt.value "issued_at") = .ok issued ∧
      verifyValidity fromIsoformat issued receipt = .ok () := by
  obtain ⟨issued, issuedAt, rest⟩ := bind_ok valid
  obtain ⟨expires, expiresAt, rest⟩ := bind_ok rest
  obtain ⟨_, ordered, rest⟩ := bind_ok rest
  obtain ⟨_, _, rest⟩ := bind_ok rest
  obtain ⟨_, _, rest⟩ := bind_ok rest
  refine ⟨issued, issuedAt, ?_⟩
  have window := of_decide_eq_true (demand_ok ordered)
  unfold verifyValidity
  rw [issuedAt]
  rw [expiresAt]
  change (demand (decide (issued < expires)) _ >>= fun _ =>
    demand (decide (issued ≤ issued)) _ >>= fun _ => demand (decide (issued < expires)) _ >>= _) = _
  rw [decide_eq_true window, decide_eq_true (Int.le_refl issued)]
  exact rest

variable {expected : Expected} {changeType : ChangeType}

theorem verify_again {before after : Json} {seenNonces : List Json} {now : Int}
    (verified : verifyOperatorApproval fromIsoformat expected changeType before after seenNonces now
      receipt = .ok approval) :
    ∃ issued, parseUtcTimestamp fromIsoformat "operator-approval-issued-at"
        (receipt.value "issued_at") = .ok issued ∧
      verifyOperatorApproval fromIsoformat expected changeType before after [] issued receipt =
        .ok approval := by
  obtain ⟨bound, _, valid, minted⟩ := verifyOperatorApproval_ok verified
  obtain ⟨same, read, _⟩ := bind_ok verified
  rw [(canonicalJsonObject_ok read).1] at read
  obtain ⟨issued, issuedAt, validThen⟩ := verifyValidity_issued valid
  refine ⟨issued, issuedAt, ?_⟩
  unfold verifyOperatorApproval
  rw [read]
  change (verifyBinding _ _ _ _ _ _ >>= _) = _
  rw [verifyBinding_of bound not_mem_nil]
  rw [validThen]
  exact minted

/-! ## What passes has been consumed -/

theorem canonicalAuthority_iff {value digest : Json} :
    canonicalAuthoritySha256 value = .ok digest ↔
      ordinaryJson "canonical-json" value = .ok () ∧ value.encodable = true ∧
        digest = .sha256 value.canonical := by
  constructor
  · intro hashed
    obtain ⟨_, ordinary, rest⟩ := bind_ok hashed
    obtain ⟨text, written, rest⟩ := bind_ok rest
    unfold dumpsOrdinary at written
    split at written
    · rename_i encodable
      cases written
      exact ⟨ordinary, encodable, (Except.ok.inj rest).symm⟩
    · cases written
  · rintro ⟨ordinary, encodable, rfl⟩
    unfold canonicalAuthoritySha256 dumpsOrdinary
    rw [ordinary, if_pos encodable]
    rfl

theorem receiptSha256_of_minted
    (minted : mintApproval fromIsoformat expected receipt = .ok approval) :
    approval.audit.value "receipt_sha256" = .sha256 receipt.canonical ∧
      approval.audit.value "signed_receipt" = receipt := by
  obtain ⟨sourceSha256, receiptSha256, known⟩ := mintApproval_ok minted
  rw [known.audit, (canonicalAuthority_iff.mp known.hashed).2.2]
  exact ⟨rfl, rfl⟩

/-- An audit record that passes is bound to the assessment, and its entry is in the file. -/
structure Passed (expected : Expected) (assessment : Assessment) (entries : List Json)
    (changeType : ChangeType) (audit : Json) : Prop where
  bound : Bound expected changeType assessment.beforeSubject assessment.afterSubject
    (audit.value "signed_receipt")
  entry : ∃ entry ∈ entries, entry.canonical.value "receipt_sha256" = audit.value "receipt_sha256"
  receipt : audit.value "receipt_sha256" = .sha256 (audit.value "signed_receipt").canonical

variable {assessment : Assessment} {entries : List Json} {receipts : Option Json}

theorem validateAudit_ok {audit : Json} {done : Unit}
    (passed : validateAudit fromIsoformat expected assessment entries receipts changeType audit =
      .ok done) : Passed expected assessment entries changeType audit := by
  obtain ⟨payload, read, checked⟩ := bind_ok passed
  rw [(canonicalJsonObject_ok read).1] at checked
  obtain ⟨_, _, checked⟩ := bind_ok checked
  obtain ⟨_, _, checked⟩ := bind_ok checked
  obtain ⟨_, _, checked⟩ := bind_ok checked
  obtain ⟨_, _, checked⟩ := bind_ok checked
  obtain ⟨time, _, checked⟩ := bind_ok checked
  obtain ⟨approval, verified, checked⟩ := bind_ok checked
  obtain ⟨minted, mintedHash, checked⟩ := bind_ok checked
  obtain ⟨given, givenHash, checked⟩ := bind_ok checked
  obtain ⟨_, same, checked⟩ := bind_ok checked
  have found := of_decide_eq_true (demand_ok checked)
  obtain ⟨bound, _, _, mint⟩ := verifyOperatorApproval_ok verified
  obtain ⟨receiptSha256, _⟩ := receiptSha256_of_minted mint
  rw [(canonicalAuthority_iff.mp mintedHash).2.2,
    (canonicalAuthority_iff.mp givenHash).2.2] at same
  have equal := sha256.inj (of_decide_eq_true (demand_ok same))
  have hash : audit.value "receipt_sha256" = .sha256 (audit.value "signed_receipt").canonical := by
    apply Json.eq_sha256_of_canonical
    rw [← value_canonical, ← equal, value_canonical, receiptSha256]
    rfl
  refine ⟨bound, ?_, hash⟩
  obtain ⟨recorded, foundIn, sameEntry⟩ := Option.map_eq_some_iff.mp found
  refine ⟨recorded, mem_reverse.mp (mem_of_find?_eq_some foundIn), ?_⟩
  rw [sameEntry, value_canonical, value_approvalReplayEntry _ (by decide), receiptSha256, hash]
  rfl

variable {changed : List ChangeType}

theorem validateAudits_ok {audits : Json} {done : Unit}
    (passed : validateAudits fromIsoformat expected assessment entries receipts audits changed =
      .ok done) :
    ∀ changeType ∈ changed,
      Passed expected assessment entries changeType (audits.value changeType.text) := by
  induction changed with
  | nil => simp
  | cons changeType rest ih =>
    obtain ⟨_, first, passed⟩ := bind_ok passed
    exact forall_mem_cons.mpr ⟨validateAudit_ok first, ih passed⟩

/-- All that a call of `validate_assessment_audits` that returns has found. -/
theorem validateAssessmentAudits_triple (expected : Expected) (surroundings : Surroundings)
    (assessment : Assessment) (audits receipts : Option Json) (file : File) :
    Triple (fun current => current = file)
      (validateAssessmentAudits fromIsoformat expected surroundings assessment audits receipts)
      (fun _ _ => ∃ entries,
        storeEntries (deriveReplayStoreKey expected.verificationKey) file = .ok entries ∧
        ∀ changeType ∈ assessment.requiredChangeTypes, Passed expected assessment entries changeType
          ((audits.getD .objEnd).value changeType.text))
      fun _ => True := by
  refine Triple.bind (m := fun changed current => current = file ∧
    changed = assessment.requiredChangeTypes) (ofExcept ?_ fun _ _ => trivial) fun changed => ?_
  · intro changed authorizable state same
    exact ⟨same, validateAssessment_ok authorizable⟩
  refine Triple.bind (m := fun payload current => (current = file ∧
    changed = assessment.requiredChangeTypes) ∧ payload = audits.getD .objEnd)
    (ofExcept ?_ fun _ _ => trivial) fun payload => ?_
  · intro payload read state holds
    refine ⟨holds, ?_⟩
    cases audits with
    | none => exact (Except.ok.inj read).symm
    | some value => exact (canonicalJsonObject_ok read).1
  refine Triple.bind (m := fun _ current => (current = file ∧
    changed = assessment.requiredChangeTypes) ∧ payload = audits.getD .objEnd)
    (ofExcept (fun _ _ _ => id) fun _ _ => trivial) fun receiptPayload => ?_
  refine Triple.of_state fun state ⟨⟨same, required⟩, given⟩ => ?_
  subst same required given
  refine Triple.bind (m := fun _ current => current = state)
    (ofExcept (fun _ _ _ => id) fun _ _ => trivial) fun _ => ?_
  refine Triple.bind (m := fun _ current => current = state)
    (ofExcept (fun _ _ _ => id) fun _ _ => trivial) fun _ => ?_
  refine Triple.bind (m := fun _ current => current = state)
    (ofExcept (fun _ _ _ => id) fun _ _ => trivial) fun _ => ?_
  refine Triple.bind ((readReplayStore_triple surroundings _ state).consequence (fun _ => id)
    (fun _ _ => id) fun _ _ => trivial) fun entries => ?_
  refine Triple.bind (m := fun _ _ =>
    storeEntries (deriveReplayStoreKey expected.verificationKey) state = .ok entries ∧
    ∀ changeType ∈ assessment.requiredChangeTypes, Passed expected assessment entries changeType
      ((audits.getD .objEnd).value changeType.text)) (ofExcept ?_ fun _ _ => trivial) fun _ => ?_
  · intro _ passed _ holds
    exact ⟨holds.2, validateAudits_ok passed⟩
  · exact ofExcept (fun _ _ _ holds => ⟨entries, holds⟩) fun _ _ => trivial

variable {surroundings : Surroundings}

/-- An audit set that passes after some calls is bound, and one of them has recorded each receipt. -/
theorem passed_of_validated {calls : List Call} {audits : Option Json} {after : File}
    (passed : validateAssessmentAudits fromIsoformat expected surroundings assessment audits receipts
      (fileAfter fromIsoformat calls none) = .ok () after) :
    ∀ changeType ∈ assessment.requiredChangeTypes,
      let audit := (audits.getD .objEnd).value changeType.text
      Bound expected changeType assessment.beforeSubject assessment.afterSubject
        (audit.value "signed_receipt") ∧
      ∃ approval, RecordedBy fromIsoformat calls approval ∧
        approval.audit.value "receipt_sha256" = .sha256 (audit.value "signed_receipt").canonical := by
  have ends := (@validateAssessmentAudits_triple fromIsoformat expected surroundings
    assessment audits receipts (fileAfter fromIsoformat calls none)).ends _ rfl
  rw [passed] at ends
  obtain ⟨entries, read, each⟩ := ends
  intro changeType member
  obtain ⟨bound, ⟨entry, among, same⟩, hash⟩ := each changeType member
  refine ⟨bound, ?_⟩
  have stored := (storeEntries_ok read).2.mem_iff.mpr (mem_map_of_mem among)
  obtain ⟨approval, recorded, written⟩ := entries_recorded calls _ stored
  refine ⟨approval, recorded, ?_⟩
  rw [written, value_canonical] at same
  exact Json.eq_sha256_of_canonical (same.trans hash)

/-! ## Audit records as they were minted -/

theorem encodable_value {document : Json} (encodable : document.encodable = true) (key : String) :
    (document.value key).encodable = true := by
  induction document with
  | field name old rest _ ih =>
    have both : old.encodable = true ∧ rest.encodable = true := by
      simpa [Json.encodable] using encodable
    unfold Json.value Json.get?
    split
    · exact both.1
    · exact ih both.2
  | _ => rfl

theorem encodable_set {document value : Json} {key : String} (encodable : document.encodable = true)
    (encodableValue : value.encodable = true) : (document.set key value).encodable = true := by
  induction document with
  | field name old rest _ ih =>
    have both : old.encodable = true ∧ rest.encodable = true := by
      simpa [Json.encodable] using encodable
    unfold Json.set
    split
    · simp [Json.encodable, encodableValue, both.2]
    · simp [Json.encodable, both.1, ih both.2]
  | _ => simp [Json.set, Json.encodable, encodableValue]

theorem encodable_obj {fields : List (String × Json)}
    (encodable : ∀ field ∈ fields, field.2.encodable = true) :
    (obj fields).encodable = true := by
  induction fields with
  | nil => rfl
  | cons field rest ih =>
    change (field.2.encodable && (obj rest).encodable) = true
    rw [encodable field mem_cons_self, ih (forall_mem_cons.mp encodable).2]
    rfl

theorem Minted.encodable {sourceSha256 receiptSha256 : Json}
    (known : Minted fromIsoformat expected receipt sourceSha256 receiptSha256
      approval) : approval.audit.encodable = true := by
  obtain ⟨_, encodable, rfl⟩ := canonicalAuthority_iff.mp known.hashed
  obtain ⟨digest, hashed, rest⟩ := bind_ok known.authority
  obtain ⟨_, encodablePayload, rfl⟩ := canonicalAuthority_iff.mp hashed
  obtain ⟨_, _, rest⟩ := bind_ok rest
  obtain ⟨_, _, rest⟩ := bind_ok rest
  have authority : approval.authority.encodable = true := by
    rw [← Except.ok.inj rest]
    exact encodable_set encodablePayload rfl
  rw [known.audit]
  apply encodable_obj
  intro field member
  rcases mem_append.mp member with audited | added
  · obtain ⟨name, _, rfl⟩ := mem_map.mp audited
    exact encodable_value encodable name
  · simp only [mem_cons, not_mem_nil, or_false] at added
    rcases added with rfl | rfl | rfl
    · rfl
    · exact encodable
    · exact authority

theorem ordinary_of_validAudit {audit : Json}
    (valid : validateOperatorApprovalAudit fromIsoformat audit = .ok []) :
    canonicalJsonObject "operator-approval-audit" audit = .ok audit := by
  unfold validateOperatorApprovalAudit at valid
  split at valid
  · cases valid
  · rename_i object
    split at valid
    · cases valid
    · rename_i ordinary
      exact canonicalJsonObject_of ordinary (by simpa using object)

/-- The entry of an approval is found by the hash of its receipt. -/
theorem find_recorded {entry : Json} (stored : Stored entries) (valid : entryValid entry = true)
    (recorded : entry.canonical ∈ entries.map Json.canonical) :
    ((entries.reverse.find? fun other =>
      other.value "receipt_sha256" = entry.value "receipt_sha256").map Json.canonical) =
      some entry.canonical := by
  obtain ⟨kept, among, same⟩ := mem_map.mp recorded
  have hash : kept.value "receipt_sha256" = entry.value "receipt_sha256" := by
    have text := canonical_of_nonemptyText (entryValid_text (stored.valid kept among)
      (show "receipt_sha256" ∈ replayEntryFields by decide))
    rw [← text, ← value_canonical, same, value_canonical]
    exact canonical_of_nonemptyText (entryValid_text valid (by decide))
  cases found : entries.reverse.find? fun other =>
      other.value "receipt_sha256" = entry.value "receipt_sha256" with
  | none =>
    have absent := find?_eq_none.mp found kept (mem_reverse.mpr among)
    exact absurd (decide_eq_true hash) absent
  | some other =>
    have amongOther := mem_reverse.mp (mem_of_find?_eq_some found)
    have hashOther := find?_some found
    rw [decide_eq_true_eq] at hashOther
    have equal := inj_on_of_nodup_map (stored.distinct "receipt_sha256" (by decide)) amongOther
      among (hashOther.trans hash.symm)
    rw [equal, Option.map_some, same]

theorem validateAudit_of {seenNonces : List Json} {now : Int}
    (verified : verifyOperatorApproval fromIsoformat expected changeType assessment.beforeSubject
      assessment.afterSubject seenNonces now receipt = .ok approval) (stored : Stored entries)
    (valid : entryValid (approvalReplayEntry approval) = true)
    (recorded : (approvalReplayEntry approval).canonical ∈ entries.map Json.canonical)
    (same : requireSameReceipt receipts changeType receipt = .ok ()) :
    validateAudit fromIsoformat expected assessment entries receipts changeType approval.audit =
      .ok () := by
  obtain ⟨_, _, _, minted⟩ := verifyOperatorApproval_ok verified
  obtain ⟨_, signed⟩ := receiptSha256_of_minted minted
  obtain ⟨sourceSha256, receiptSha256, known⟩ := mintApproval_ok minted
  obtain ⟨issued, issuedAt, again⟩ := verify_again verified
  have changed : approval.audit.value "change_type" = .str changeType.text :=
    changeType_of_verified verified
  have read := ordinary_of_validAudit known.valid
  have hashed : canonicalAuthoritySha256 approval.audit = .ok (.sha256 approval.audit.canonical) :=
    canonicalAuthority_iff.mpr
      ⟨ordinaryJson_of (canonicalJsonObject_ok read).2.1, known.encodable, rfl⟩
  unfold validateAudit
  rw [read]
  change (validateOperatorApprovalAudit fromIsoformat approval.audit >>= _) = _
  rw [known.valid]
  rw [decide_eq_true changed]
  change (requireSameReceipt receipts changeType (approval.audit.value "signed_receipt") >>= _) = _
  rw [signed, same]
  rw [issuedAt]
  change (verifyOperatorApproval fromIsoformat expected changeType _ _ [] issued receipt >>= _) = _
  rw [again]
  change (canonicalAuthoritySha256 approval.audit >>= fun _ =>
    canonicalAuthoritySha256 approval.audit >>= _) = _
  rw [hashed]
  change (demand (decide (sha256 _ = .sha256 _)) _ >>= fun _ => demand (decide (_ = _)) _) = _
  rw [decide_eq_true rfl, find_recorded stored valid recorded, decide_eq_true rfl]
  rfl

def auditRecords (changed : List ChangeType) (approvals : List Approval) : Json :=
  .obj (List.zipWith (fun changeType approval => (changeType.text, approval.audit)) changed approvals)

variable {approvals : List Approval}

theorem keys_auditRecords (same : changed.length = approvals.length) :
    (auditRecords changed approvals).keys = changed.map ChangeType.text := by
  induction changed generalizing approvals with
  | nil => rfl
  | cons changeType rest ih =>
    cases approvals with
    | nil => cases same
    | cons approval others =>
      exact congrArg (changeType.text :: ·) (ih (Nat.succ.inj same))

theorem isObject_obj (fields : List (String × Json)) : (obj fields).isObject = true := by
  cases fields <;> rfl

theorem value_auditRecords {R : ChangeType → Approval → Prop} (distinct : changed.Nodup)
    (each : List.Forall₂ R changed approvals) :
    List.Forall₂ (fun changeType approval =>
      (auditRecords changed approvals).value changeType.text = approval.audit) changed approvals := by
  induction each with
  | nil => exact List.Forall₂.nil
  | @cons changeType approval rest others _ _ ih =>
    rw [nodup_cons] at distinct
    refine List.Forall₂.cons ?_ ?_
    · change ((if changeType.text = changeType.text then some approval.audit else _).getD .null) = _
      rw [if_pos rfl]
      rfl
    · have apart : ∀ other ∈ rest, changeType ≠ other := fun other member same =>
        distinct.1 (same ▸ member)
      refine ((List.forall₂_and_left _ _).mpr ⟨apart, ih distinct.2⟩).imp ?_
      rintro other later ⟨different, found⟩
      have skip : changeType.text ≠ other.text := fun same =>
        different (ChangeType.text_injective same)
      change ((if changeType.text = other.text then some approval.audit else
        (auditRecords rest others).get? other.text).getD .null) = _
      rw [if_neg skip]
      exact found

theorem ordinaryFrom_auditRecords {label : String} {index : Nat} {seen : List String}
    (distinct : changed.Nodup) (new : ∀ changeType ∈ changed, changeType.text ∉ seen)
    (each : ∀ approval ∈ approvals, ∃ label', ordinaryJson label' approval.audit = .ok ()) :
    ordinaryFrom label index seen (auditRecords changed approvals) = .ok () := by
  induction changed generalizing index seen approvals with
  | nil => rfl
  | cons changeType rest ih =>
    cases approvals with
    | nil => rfl
    | cons approval others =>
      rw [nodup_cons] at distinct
      obtain ⟨label', ordinary⟩ := each approval mem_cons_self
      refine ordinaryFrom_field.mpr ⟨new changeType mem_cons_self,
        ordinaryFrom_of (List.Subset.refl _) ordinary, ih distinct.2 ?_ ?_⟩
      · intro other member
        rw [mem_cons, not_or]
        refine ⟨fun same => distinct.1 ?_, new other (mem_cons_of_mem _ member)⟩
        rw [← ChangeType.text_injective same]
        exact member
      · exact (forall_mem_cons.mp each).2

theorem ordinary_keys {value : Json} {label : String} {index : Nat} {seen : List String}
    (ordinary : ordinaryFrom label index seen value = .ok ()) :
    value.keys.Nodup ∧ ∀ key ∈ value.keys, key ∉ seen := by
  induction value generalizing label index seen with
  | field key value rest _ ih =>
    obtain ⟨new, _, others⟩ := ordinaryFrom_field.mp ordinary
    obtain ⟨distinct, apart⟩ := ih others
    constructor
    · exact nodup_cons.mpr ⟨fun repeated => apart key repeated mem_cons_self, distinct⟩
    · intro other member
      rcases mem_cons.mp member with rfl | later
      · exact new
      · exact fun old => apart other later (mem_cons_of_mem _ old)
  | _ => exact ⟨nodup_nil, by simp [Json.keys]⟩

variable {call : Call}

theorem Supplied.distinct {payload : Json} (supplied : Supplied call payload) :
    call.assessment.requiredChangeTypes.Nodup := by
  have keys : payload.keys.Nodup := by
    have read := supplied.receipts
    cases given : call.receipts with
    | none =>
      rw [given] at read
      rw [← Except.ok.inj read]
      exact nodup_nil
    | some value =>
      rw [given] at read
      obtain ⟨rfl, ordinary, _⟩ := canonicalJsonObject_ok read
      exact (ordinary_keys ordinary).1
  rw [supplied.keys] at keys
  exact keys.of_map

theorem validateAudits_of {audits : Json} (each : List.Forall₂ (fun changeType approval =>
      audits.value changeType.text = approval.audit ∧
      validateAudit fromIsoformat expected assessment entries receipts changeType approval.audit =
        .ok ()) changed approvals) :
    validateAudits fromIsoformat expected assessment entries receipts audits changed = .ok () := by
  induction each with
  | nil => rfl
  | cons first _ ih =>
    unfold validateAudits
    rw [first.1, first.2]
    exact ih

/-- The file can be locked, read and released. -/
structure Surroundings.Reads (surroundings : Surroundings) : Prop where
  lock : surroundings.lock = .ok ()
  read : surroundings.read = .ok ()
  release : surroundings.release = .ok ()

theorem readReplayStore_of (read : surroundings.read = .ok ())
    (stored : storeEntries replayKey file = .ok entries) :
    readReplayStore surroundings replayKey file = .ok entries file := by
  unfold readReplayStore
  rw [read]
  cases file with
  | none =>
    cases stored
    rfl
  | some document =>
    obtain ⟨_, fits, valid⟩ := bind_ok stored
    change (ofExcept (demand _ _) >>= fun _ =>
      ofExcept (validateReplayStore document replayKey) : StoreProgram (List Json))
        (some document) = _
    rw [fits, valid]
    rfl

theorem validateAssessmentAudits_of {audits : Json} (reads : surroundings.Reads)
    (authorizable : validateAssessment assessment = .ok assessment.requiredChangeTypes)
    (auditsRead : canonicalJsonObject "operator-approval-audits" audits = .ok audits)
    (receiptsRead : receipts.mapM (canonicalJsonObject "operator-approval-receipts") = .ok receipts)
    (auditKeys : audits.keys = assessment.requiredChangeTypes.map ChangeType.text)
    (receiptKeys : ∀ payload ∈ receipts,
      payload.keys = assessment.requiredChangeTypes.map ChangeType.text)
    (stored : storeEntries (deriveReplayStoreKey expected.verificationKey) file = .ok entries)
    (valid : validateAudits fromIsoformat expected assessment entries receipts audits
      assessment.requiredChangeTypes = .ok ()) :
    validateAssessmentAudits fromIsoformat expected surroundings assessment (some audits) receipts
      file = .ok () file := by
  have supplied : (receipts.all fun payload =>
      payload.keys = assessment.requiredChangeTypes.map ChangeType.text) = true := by
    cases receipts with
    | none => rfl
    | some payload => exact decide_eq_true (receiptKeys payload rfl)
  have stores := readReplayStore_of reads.read stored
  unfold validateAssessmentAudits
  rw [authorizable]
  change (ofExcept (canonicalJsonObject "operator-approval-audits" audits) >>= _ :
    StoreProgram Unit) file = _
  rw [auditsRead]
  rw [receiptsRead]
  change (ofExcept (demand (decide (audits.keys = _)) _) >>= fun _ =>
    ofExcept (demand (receipts.all _) _) >>= _ : StoreProgram Unit) file = _
  rw [decide_eq_true auditKeys, supplied]
  rw [reads.lock]
  change (EStateM.bind (readReplayStore surroundings _) _ : StoreProgram Unit) file = _
  unfold EStateM.bind
  rw [stores]
  change (ofExcept (validateAudits _ _ _ _ _ _ _) >>= fun _ =>
    ofExcept surroundings.release : StoreProgram Unit) file = _
  rw [valid, reads.release]
  rfl

theorem mapM_receipts {payload : Json} (supplied : Supplied call payload)
    (given : receipts = none ∨ receipts = call.receipts) :
    receipts.mapM (canonicalJsonObject "operator-approval-receipts") = .ok receipts ∧
      ∀ value ∈ receipts, value = payload := by
  cases receipts with
  | none => exact ⟨rfl, by simp⟩
  | some value =>
    have same := given.resolve_left (by simp)
    have read := supplied.receipts
    rw [← same] at read
    obtain ⟨rfl, _, _⟩ := canonicalJsonObject_ok read
    refine ⟨?_, fun other member => (Option.some.inj member).symm⟩
    change (canonicalJsonObject _ payload >>= fun read => pure (some read)) = _
    rw [show canonicalJsonObject "operator-approval-receipts" payload = .ok payload from read]
    rfl

theorem exists_of_forall₂ {α β : Type} {R : α → β → Prop} {left : List α} {right : List β}
    (each : List.Forall₂ R left right) : ∀ second ∈ right, ∃ first, R first second := by
  induction each with
  | nil => simp
  | cons related _ ih =>
    exact forall_mem_cons.mpr ⟨⟨_, related⟩, ih⟩

/-- Audit records of approvals that a readable file records pass for the same assessment. -/
theorem validated_of_recorded {payload : Json} {now : Int} {taken : Taken}
    (supplied : Supplied call payload)
    (verified : verifyAll fromIsoformat call.expected call.assessment payload now taken
      call.assessment.requiredChangeTypes = .ok approvals)
    (valid : ∀ approval ∈ approvals, entryValid (approvalReplayEntry approval) = true)
    (recorded : ∀ approval ∈ approvals, (approvalReplayEntry approval).canonical ∈ entriesOf file)
    (stored : storeEntries call.replayKey file = .ok entries) (reads : surroundings.Reads)
    (given : receipts = none ∨ receipts = call.receipts) :
    validateAssessmentAudits fromIsoformat call.expected surroundings call.assessment
      (some (auditRecords call.assessment.requiredChangeTypes approvals)) receipts file =
      .ok () file := by
  obtain ⟨receiptsRead, receiptsSame⟩ := mapM_receipts supplied given
  obtain ⟨kept, known⟩ := storeEntries_ok stored
  have each := verifyAll_ok verified
  have ordinary : ∀ approval ∈ approvals, ∃ label, ordinaryJson label approval.audit = .ok () := by
    intro approval member
    obtain ⟨changeType, seenNonces, minted⟩ := exists_of_forall₂ each approval member
    obtain ⟨_, _, known⟩ := mintApproval_ok (verifyOperatorApproval_ok minted).2.2.2
    exact ⟨_, (canonicalJsonObject_ok (ordinary_of_validAudit known.valid)).2.1⟩
  have keys := keys_auditRecords each.length_eq
  refine validateAssessmentAudits_of reads supplied.authorizable
    (canonicalJsonObject_of (ordinaryFrom_auditRecords supplied.distinct (by simp) ordinary)
      (isObject_obj _)) receiptsRead keys ?_ stored (@validateAudits_of _ _ _ _ _ _ approvals _ ?_)
  · intro value member
    rw [receiptsSame value member]
    exact supplied.keys
  · refine List.forall₂_iff_zip.mpr ⟨each.length_eq, fun {changeType approval} pair => ?_⟩
    have member := (of_mem_zip pair).2
    obtain ⟨seenNonces, minted⟩ := List.forall₂_zip each pair
    refine ⟨List.forall₂_zip (value_auditRecords supplied.distinct each) pair,
      validateAudit_of minted kept (valid approval member)
        (known.mem_iff.mp (recorded approval member)) ?_⟩
    obtain ⟨bound, _, _, mint⟩ := verifyOperatorApproval_ok minted
    obtain ⟨_, _, minting⟩ := mintApproval_ok mint
    cases receipts with
    | none => rfl
    | some value =>
      rw [receiptsSame value rfl]
      change (canonicalAuthoritySha256 _ >>= fun _ => canonicalAuthoritySha256 _ >>= _) = _
      rw [minting.hashed]
      change demand (decide (_ = _)) _ = _
      rw [decide_eq_true rfl]
      rfl

theorem outcome_readable {before : File}
    (returned : (call.outcome fromIsoformat before).result = .ok approvals) (some' : approvals ≠ []) :
    SealedWith call.replayKey (call.outcome fromIsoformat before).after := by
  rcases @outcome_cases fromIsoformat call before with
    ⟨_, _, ⟨empty, _⟩ | ⟨error, raised⟩⟩ | ⟨existing, payload, now, others, recorded, _⟩
  · cases empty.symm.trans returned
    exact absurd rfl some'
  · cases raised.symm.trans returned
  · exact ⟨_, recorded.writable, recorded.written⟩

/-- Consumed approvals pass in every later file that can be read. -/
theorem validated_later {before : File}
    (returned : (call.outcome fromIsoformat before).result = .ok approvals) (later : List Call)
    (stored : storeEntries call.replayKey
      (fileAfter fromIsoformat later (call.outcome fromIsoformat before).after) = .ok entries)
    (reads : surroundings.Reads) (given : receipts = none ∨ receipts = call.receipts) :
    validateAssessmentAudits fromIsoformat call.expected surroundings call.assessment
      (some (auditRecords call.assessment.requiredChangeTypes approvals)) receipts
      (fileAfter fromIsoformat later (call.outcome fromIsoformat before).after) =
      .ok () (fileAfter fromIsoformat later (call.outcome fromIsoformat before).after) := by
  rcases @outcome_cases fromIsoformat call before with
    ⟨_, _, ⟨empty, unprotected, payload, supplied⟩ | ⟨error, raised⟩⟩ |
      ⟨existing, payload, now, others, recorded, ⟨result, _⟩ | ⟨_, error, raised⟩⟩
  · cases empty.symm.trans returned
    have none' : verifyAll fromIsoformat call.expected call.assessment payload 0 ⟨[], [], []⟩
        call.assessment.requiredChangeTypes = .ok [] := by
      rw [unprotected]
      rfl
    exact validated_of_recorded supplied none' (by simp) (by simp) stored reads given
  · cases raised.symm.trans returned
  · cases result.symm.trans returned
    refine validated_of_recorded recorded.toSupplied recorded.verified ?_ ?_ stored reads given
    · intro approval member
      exact recorded.writable.stored.valid _ (mem_append_right _ (mem_map_of_mem member))
    · intro approval member
      refine fileAfter_kept later _ (recorded.entries.mem_iff.mpr (mem_append_right _ ?_))
      exact mem_map_of_mem member
  · cases raised.symm.trans returned

/--
Approvals that a call returned pass the check of their audit records at every later point
at which the file is not too large to be read, and what passes that check is signed for
the artifacts of the assessment and was recorded by an earlier call.
-/
theorem stored_audits_verify (fromIsoformat : String → Parsed) :
    (∀ (earlier later : List Call) (call : Call) (approvals : List Approval)
        (surroundings : Surroundings) (receipts : Option Json),
      let before := fileAfter fromIsoformat earlier none
      let file := fileAfter fromIsoformat later (call.outcome fromIsoformat before).after
      (call.outcome fromIsoformat before).result = .ok approvals →
      (Fits file ∧ approvals ≠ [] ∨ ∃ entries, storeEntries call.replayKey file = .ok entries) →
      surroundings.Reads → (receipts = none ∨ receipts = call.receipts) →
      validateAssessmentAudits fromIsoformat call.expected surroundings call.assessment
        (some (auditRecords call.assessment.requiredChangeTypes approvals)) receipts file =
        .ok () file) ∧
    ∀ (calls : List Call) (expected : Expected) (surroundings : Surroundings)
        (assessment : Assessment) (audits receipts : Option Json) (after : File),
      validateAssessmentAudits fromIsoformat expected surroundings assessment audits receipts
        (fileAfter fromIsoformat calls none) = .ok () after →
      ∀ changeType ∈ assessment.requiredChangeTypes,
        let audit := (audits.getD .objEnd).value changeType.text
        Bound expected changeType assessment.beforeSubject assessment.afterSubject
          (audit.value "signed_receipt") ∧
        ∃ approval, RecordedBy fromIsoformat calls approval ∧
          approval.audit.value "receipt_sha256" = .sha256 (audit.value "signed_receipt").canonical := by
  constructor
  · intro earlier later call approvals surroundings receipts before file returned readable reads given
    have read : ∃ entries, storeEntries call.replayKey file = .ok entries := by
      rcases readable with ⟨fits, some'⟩ | read
      · exact (fileAfter_sealedWith (outcome_readable returned some') later).read fits
      · exact read
    obtain ⟨entries, stored⟩ := read
    exact validated_later returned later stored reads given
  · intro calls expected surroundings assessment audits receipts after passed
    exact passed_of_validated passed

end

/-- A replay store stays sealed under the key of its first call, and no later call takes an entry away. -/
theorem store_never_rekeyed (fromIsoformat : String → Parsed) (earlier later : List Call) :
    (∀ replayKey, SealedWith replayKey (fileAfter fromIsoformat earlier none) →
      SealedWith replayKey (fileAfter fromIsoformat (earlier ++ later) none)) ∧
    entriesOf (fileAfter fromIsoformat earlier none) ⊆
      entriesOf (fileAfter fromIsoformat (earlier ++ later) none) := by
  rw [fileAfter_append]
  exact ⟨fun _ written => fileAfter_sealedWith written later, fileAfter_kept later _⟩

end WorkOrchestration.Native.ApprovalStore
