import WorkOrchestration.Lib.Results
import WorkOrchestration.Native.ApprovalAudits

/-!
# Signed receipts are accepted

A receipt that was signed for a change of an assessment mints an approval at any time in
its window.
-/

namespace WorkOrchestration.Native.ApprovalStore

open Lib.Results (ok_bind)
open List Lib.Checks Lib.Text Lib.Programs Artifacts
open Artifacts.Json (isOneOf)
open Authority ProtectedChanges OperatorApprovals
open MonadExcept (ofExcept)

/-- The texts that a signer puts into a receipt, and its scope. -/
structure Signing where
  actorId : String
  identitySource : String
  scope : Scope
  parentReceiptSha256 : Option Digest
  issuedAt : String
  expiresAt : String
  approvalId : String
  nonce : String

/-- The receipt for two artifacts, without its signature. -/
def receiptBody (signing : Signing) (changeType : ChangeType) (beforeSha256 afterSha256 : Json) : Json :=
  .obj [("approval_type", .str operatorApprovalType), ("version", .int 1),
    ("approval_id", .str signing.approvalId), ("change_type", .str changeType.text),
    ("before_sha256", beforeSha256), ("after_sha256", afterSha256),
    ("actor_id", .str signing.actorId), ("identity_source", .str signing.identitySource),
    ("authorized_scope", .str signing.scope.text),
    ("parent_receipt_sha256", .optional Digest.json signing.parentReceiptSha256),
    ("issued_at", .str signing.issuedAt), ("expires_at", .str signing.expiresAt),
    ("nonce", .str signing.nonce)]

/-- `sign_operator_approval_receipt`, its times as they are written. -/
def signOperatorApprovalReceipt (signing : Signing) (signingKey : String) (changeType : ChangeType)
    (before after : Json) : Except PyError Json := do
  let body := receiptBody signing changeType (← canonicalAuthoritySha256 before)
    (← canonicalAuthoritySha256 after)
  return body.set "signature" (← operatorApprovalSignature body signingKey)

/-- Every text of the receipt is visible. -/
structure Signing.Visible (signing : Signing) : Prop where
  actorId : Nonempty signing.actorId
  identitySource : Nonempty signing.identitySource
  issuedAt : Nonempty signing.issuedAt
  expiresAt : Nonempty signing.expiresAt
  approvalId : Nonempty signing.approvalId
  nonce : Nonempty signing.nonce

section

variable {fromIsoformat : String → Parsed} {signing : Signing} {signingKey : String}
  {changeType : ChangeType} {before after receipt : Json}

def Signing.expected (signing : Signing) (signingKey : String) : Expected :=
  ⟨signingKey, signing.actorId, signing.identitySource⟩

/-- What is signed for a change. -/
abbrev Signing.body (signing : Signing) (changeType : ChangeType) (before after : Json) : Json :=
  receiptBody signing changeType (.sha256 before.canonical) (.sha256 after.canonical)

theorem encodable_parent (signing : Signing) :
    (Json.optional Digest.json signing.parentReceiptSha256).encodable = true := by
  cases signing.parentReceiptSha256 <;> rfl

theorem encodable_receiptBody (first second : Json) :
    (receiptBody signing changeType (.sha256 first) (.sha256 second)).encodable = true := by
  change (_ && (_ && (_ && (_ && (_ && (_ && (_ && (_ && (_ && ((Json.optional Digest.json
    signing.parentReceiptSha256).encodable && _)))))))))) = true
  rw [encodable_parent]
  rfl

theorem signed_receipt
    (signed : signOperatorApprovalReceipt signing signingKey changeType before after = .ok receipt) :
    canonicalAuthoritySha256 before = .ok (.sha256 before.canonical) ∧
      canonicalAuthoritySha256 after = .ok (.sha256 after.canonical) ∧
      receipt = (signing.body changeType before after).set "signature"
        (hmacSha256 (.str signingKey) (signing.body changeType before after).canonical) := by
  obtain ⟨first, beforeHashed, signed⟩ := bind_ok signed
  obtain ⟨second, afterHashed, signed⟩ := bind_ok signed
  obtain ⟨signature, mac, signed⟩ := bind_ok signed
  cases (canonicalAuthority_iff.mp beforeHashed).2.2
  cases (canonicalAuthority_iff.mp afterHashed).2.2
  refine ⟨beforeHashed, afterHashed, ?_⟩
  obtain ⟨text, written, mac⟩ := bind_ok mac
  unfold dumpsOrdinary at written
  rw [if_pos (encodable_receiptBody _ _)] at written
  obtain rfl := Except.ok.inj written
  obtain rfl := Except.ok.inj mac
  exact (Except.ok.inj signed).symm

theorem signOperatorApprovalReceipt_of
    (beforeHashed : canonicalAuthoritySha256 before = .ok (.sha256 before.canonical))
    (afterHashed : canonicalAuthoritySha256 after = .ok (.sha256 after.canonical)) :
    signOperatorApprovalReceipt signing signingKey changeType before after =
      .ok ((signing.body changeType before after).set "signature"
        (hmacSha256 (.str signingKey) (signing.body changeType before after).canonical)) := by
  have written : dumpsOrdinary (signing.body changeType before after) = .ok _ := if_pos (encodable_receiptBody _ _)
  unfold signOperatorApprovalReceipt operatorApprovalSignature
  rw [beforeHashed, afterHashed]
  change (dumpsOrdinary (signing.body changeType before after) >>= fun text => pure (hmacSha256 (.str signingKey) text)) >>= _ = _
  rw [written]
  rfl

theorem nonemptyText_str {text : String} (visible : Nonempty text) :
    nonemptyText (.str text) = true :=
  decide_eq_true visible

theorem changeType_visible (changeType : ChangeType) : Nonempty changeType.text := by
  cases changeType <;> decide

theorem scope_visible (scope : Scope) : Nonempty scope.text := by
  cases scope <;> decide

/-- A signed receipt is bound to the change that it was signed for. -/
theorem bound_of_signed (visible : signing.Visible) (key : signingKey ≠ "")
    (signed : signOperatorApprovalReceipt signing signingKey changeType before after = .ok receipt) :
    Bound (signing.expected signingKey) changeType before after receipt := by
  obtain ⟨beforeHashed, afterHashed, rfl⟩ := signed_receipt signed
  refine ⟨rfl, key, ?_, rfl, rfl, rfl, rfl, rfl, ?_, beforeHashed, afterHashed⟩
  · have written : dumpsOrdinary (signing.body changeType before after) = .ok _ := if_pos (encodable_receiptBody _ _)
    change (dumpsOrdinary (signing.body changeType before after) >>= _) = _
    rw [written]
    rfl
  · intro field named
    simp only [receiptTextFields, mem_cons, not_mem_nil, or_false] at named
    rcases named with rfl | rfl | rfl | rfl | rfl | rfl | rfl | rfl | rfl | rfl | rfl | rfl
    · exact nonemptyText_str (by decide)
    · exact nonemptyText_str visible.approvalId
    · exact nonemptyText_str (changeType_visible changeType)
    · rfl
    · rfl
    · exact nonemptyText_str visible.actorId
    · exact nonemptyText_str visible.identitySource
    · exact nonemptyText_str (scope_visible signing.scope)
    · exact nonemptyText_str visible.issuedAt
    · exact nonemptyText_str visible.expiresAt
    · exact nonemptyText_str visible.nonce
    · rfl

variable {label : String}

theorem parse_of {text : String} {time : Int} (visible : Nonempty text)
    (parsed : fromIsoformat (utcSuffix text) = .instant time) :
    parseUtcTimestamp fromIsoformat label (.str text) = .ok time := by
  simp only [parseUtcTimestamp, if_pos visible, parsed]

theorem verifyValidity_of {issued expires now : Int} (visible : signing.Visible)
    (issuedAt : fromIsoformat (utcSuffix signing.issuedAt) = .instant issued)
    (expiresAt : fromIsoformat (utcSuffix signing.expiresAt) = .instant expires)
    (begun : issued ≤ now) (open' : now < expires)
    (scope : Scope.completeTask.rank ≤ signing.scope.rank)
    (signed : signOperatorApprovalReceipt signing signingKey changeType before after = .ok receipt) :
    verifyValidity fromIsoformat now receipt = .ok () := by
  obtain ⟨_, _, rfl⟩ := signed_receipt signed
  have allowed : requireScope (.str signing.scope.text) = .ok () := by
    cases named : signing.scope <;> rw [named] at scope <;> first | rfl | exact absurd scope (by decide)
  change (parseUtcTimestamp fromIsoformat _ (.str signing.issuedAt) >>= fun _ =>
    parseUtcTimestamp fromIsoformat _ (.str signing.expiresAt) >>= _) = _
  rw [parse_of visible.issuedAt issuedAt]
  rw [parse_of visible.expiresAt expiresAt]
  change (demand (decide (issued < expires)) _ >>= fun _ => demand (decide (issued ≤ now)) _ >>=
    fun _ => demand (decide (now < expires)) _ >>= fun _ =>
      requireScope (.str signing.scope.text) >>= fun _ =>
      demand (decide (Json.optional Digest.json signing.parentReceiptSha256 = .null) ||
        isSha256 (.optional Digest.json signing.parentReceiptSha256)) _) = _
  rw [decide_eq_true (Int.lt_of_le_of_lt begun open'), decide_eq_true begun, decide_eq_true open',
    allowed]
  cases signing.parentReceiptSha256 <;> rfl

/-- A record that gives an operator what an operator may have has no errors. -/
theorem provenanceErrors_operator {payload : Json} {scope : Scope} {evidence : Json}
    (version : payload.value "version" = .int 1)
    (sourceType : payload.value "source_type" = .str "operator-directive")
    (actorRole : payload.value "actor_role" = .str "operator")
    (authorized : payload.value "authorized_scope" = .str scope.text)
    (texts : ∀ field ∈ ["source_id", "actor_id", "identity_source"],
      nonemptyText (payload.value field) = true)
    (source : isSha256 (payload.value "source_sha256") = true)
    (parent : payload.value "parent_receipt_sha256" = .null ∨
      isSha256 (payload.value "parent_receipt_sha256") = true)
    (verification : payload.value "verification" = .obj
      [("method", .str "hmac-sha256-protected-change-v1"), ("evidence_sha256", .sha256 evidence)])
    (hashed : canonicalAuthoritySha256 (payload.erase "authority_sha256") =
      .ok (payload.value "authority_sha256"))
    (digest : isSha256 (payload.value "authority_sha256") = true) :
    provenanceErrors payload = .ok [] := by
  have sourceSpelled : spelled? SourceType.text sourceTypes (.str "operator-directive") =
      some .operatorDirective := by decide
  have roleSpelled : spelled? ActorRole.text actorRoles (.str "operator") = some .operator := by decide
  have scopeSpelled : spelled? Scope.text scopes (.str scope.text) = some scope := by
    cases scope <;> decide
  have capped : ¬ ActorRole.operator.scopeCap.rank < scope.rank := by cases scope <;> decide
  have textErrors : (["source_id", "actor_id", "identity_source"].flatMap fun field =>
      reject (nonemptyText (payload.value field) = false)
        ("authority-provenance-" ++ dashed field ++ "-invalid")) = [] := by
    rw [flatMap_eq_nil_iff]
    intro field named
    rw [reject_eq_nil, texts field named]
    decide
  have digestErrors : (["source_sha256", "authority_sha256"].flatMap fun field =>
      reject (isSha256 (payload.value field) = false)
        ("authority-provenance-" ++ dashed field ++ "-invalid")) = [] := by
    simp [flatMap_cons, reject, source, digest]
  have parentErrors : reject (payload.value "parent_receipt_sha256" ≠ .null ∧
      isSha256 (payload.value "parent_receipt_sha256") = false)
      "authority-provenance-parent-receipt-sha256-invalid" = [] := by
    rw [reject_eq_nil]
    rintro ⟨given, wrong⟩
    exact absurd ((parent.resolve_left given).symm.trans wrong) (by decide)
  have object : (payload.value "verification").isObject = true := by
    rw [verification]
    rfl
  have exact' : (payload.value "verification").hasExactly verificationFields = true := by
    rw [verification]
    rfl
  have method : (payload.value "verification").value "method" =
      .str "hmac-sha256-protected-change-v1" := by
    rw [verification]
    rfl
  have evidenced : isSha256 ((payload.value "verification").value "evidence_sha256") = true := by
    rw [verification]
    rfl
  have methodKnown : isOneOf operatorVerificationMethods
      (.str "hmac-sha256-protected-change-v1") = true := by decide
  have methodText : nonemptyText (.str "hmac-sha256-protected-change-v1") = true := by decide
  unfold provenanceErrors
  simp only [sourceType, actorRole, authorized, object, exact', method, sourceSpelled, roleSpelled,
    scopeSpelled, textErrors, digestErrors, parentErrors, hashed, digest, version, evidenced,
    methodKnown, methodText]
  change Except.ok (_ ++ _) = _
  simp [reject, capped, SourceType.roles]

theorem sealAuthority_of (visible : signing.Visible) (source evidence : Json)
    (signed : signOperatorApprovalReceipt signing signingKey changeType before after = .ok receipt) :
    ∃ authority, sealAuthority (operatorAuthority (signing.expected signingKey) receipt
      (.sha256 source) (.sha256 evidence)) = .ok authority ∧
      ordinaryJson "operator-approval-audit" authority = .ok () ∧
      validateProvenance authority = .ok [] := by
  obtain ⟨_, _, rfl⟩ := signed_receipt signed
  generalize given : (signing.body changeType before after).set "signature"
    (hmacSha256 (.str signingKey) (signing.body changeType before after).canonical) = receipt
  generalize made : operatorAuthority (signing.expected signingKey) receipt
    (.sha256 source) (.sha256 evidence) = payload
  have hashed : canonicalAuthoritySha256 payload = .ok (.sha256 payload.canonical) := by
    refine canonicalAuthority_iff.mpr ⟨?_, ?_, rfl⟩
    · subst made given
      cases parent : signing.parentReceiptSha256 <;>
        simp only [operatorAuthority, receiptBody, parent] <;> rfl
    · subst made given
      cases parent : signing.parentReceiptSha256 <;>
        simp only [operatorAuthority, receiptBody, parent] <;> rfl
  have ordinary : ordinaryJson "authority-provenance"
      (payload.set "authority_sha256" (.sha256 payload.canonical)) = .ok () := by
    generalize payload.canonical = document
    subst made given
    cases parent : signing.parentReceiptSha256 <;>
      simp only [operatorAuthority, receiptBody, parent] <;> rfl
  have errors : validateProvenance (payload.set "authority_sha256" (.sha256 payload.canonical)) =
      .ok [] := by
    have object := Json.isObject_set payload "authority_sha256" (.sha256 payload.canonical)
    have exact' : (payload.set "authority_sha256" (.sha256 payload.canonical)).hasExactly
        authorityProvenanceFields = true := by
      subst made given
      rfl
    have parentKnown : (payload.set "authority_sha256" (.sha256 payload.canonical)).value
        "parent_receipt_sha256" = .optional Digest.json signing.parentReceiptSha256 := by
      subst made given
      rfl
    unfold validateProvenance
    rw [object, ordinary, exact']
    refine @provenanceErrors_operator _ signing.scope evidence ?_ ?_ ?_ ?_ ?_ ?_
      ?_ ?_ ?_ ?_
    · subst made given
      rfl
    · subst made given
      rfl
    · subst made given
      rfl
    · subst made given
      rfl
    · intro field named
      simp only [mem_cons, not_mem_nil, or_false] at named
      subst made given
      rcases named with rfl | rfl | rfl
      · exact nonemptyText_str visible.approvalId
      · exact nonemptyText_str visible.actorId
      · exact nonemptyText_str visible.identitySource
    · subst made given
      rfl
    · rw [parentKnown]
      cases signing.parentReceiptSha256
      · exact .inl rfl
      · exact .inr rfl
    · subst made given
      rfl
    · have undone : (payload.set "authority_sha256" (.sha256 payload.canonical)).erase
          "authority_sha256" = payload := by
        subst made given
        rfl
      have kept : (payload.set "authority_sha256" (.sha256 payload.canonical)).value
          "authority_sha256" = .sha256 payload.canonical := by
        subst made given
        rfl
      rw [undone, kept]
      exact hashed
    · subst made given
      rfl
  refine ⟨payload.set "authority_sha256" (.sha256 payload.canonical), ?_, ordinaryJson_of ordinary,
    errors⟩
  unfold sealAuthority
  rw [hashed]
  change (validateProvenance (payload.set "authority_sha256" (.sha256 payload.canonical)) >>= _) = _
  rw [errors]
  rfl

variable {seen : List String}

theorem ordinary_value {document : Json} {index : Nat}
    (ordinary : ordinaryFrom label index seen document = .ok ()) (key : String) :
    ordinaryJson label (document.value key) = .ok () := by
  induction document generalizing index seen with
  | field name old rest _ ih =>
    obtain ⟨_, first, others⟩ := ordinaryFrom_field.mp ordinary
    unfold Json.value Json.get?
    split
    · exact ordinaryFrom_of (List.Subset.refl _) first
    · exact ih others
  | _ => rfl

theorem ordinaryFrom_obj {fields : List (String × Json)} {index : Nat}
    (distinct : (fields.map Prod.fst).Nodup) (new : ∀ field ∈ fields, field.1 ∉ seen)
    (values : ∀ field ∈ fields, ∃ label', ordinaryJson label' field.2 = .ok ()) :
    ordinaryFrom label index seen (.obj fields) = .ok () := by
  induction fields generalizing index seen with
  | nil => rfl
  | cons field rest ih =>
    rw [map_cons, nodup_cons] at distinct
    obtain ⟨label', first⟩ := values field mem_cons_self
    refine ordinaryFrom_field.mpr ⟨new field mem_cons_self,
      ordinaryFrom_of (List.Subset.refl _) first, ih distinct.2 ?_ ?_⟩
    · intro other member
      rw [mem_cons, not_or]
      refine ⟨fun same => distinct.1 ?_, new other (mem_cons_of_mem _ member)⟩
      rw [← same]
      exact mem_map_of_mem member
    · exact (forall_mem_cons.mp values).2

theorem ordinary_auditRecord {receipt receiptSha256 authority : Json}
    (ordinary : ordinaryJson "operator-approval-receipt" receipt = .ok ())
    (hash : isSha256 receiptSha256 = true)
    (authorityOrdinary : ordinaryJson "operator-approval-audit" authority = .ok ()) :
    ordinaryJson label (auditRecord receipt receiptSha256 authority) = .ok () := by
  refine ordinaryFrom_obj ?_ (by simp) ?_
  · change (auditedFields.map id ++ ["receipt_sha256", "signed_receipt", "authority_provenance"]).Nodup
    decide
  · intro field member
    rcases mem_append.mp member with audited | added
    · obtain ⟨name, _, rfl⟩ := mem_map.mp audited
      exact ⟨_, ordinary_value ordinary name⟩
    · simp only [mem_cons, not_mem_nil, or_false] at added
      rcases added with rfl | rfl | rfl
      · refine ⟨"", ?_⟩
        cases receiptSha256 with
        | sha256 preimage => rfl
        | _ => cases hash
      · exact ⟨_, ordinary⟩
      · exact ⟨_, authorityOrdinary⟩

theorem nonemptyText_ordinary {value : Json} (text : nonemptyText value = true) :
    ordinaryJson label value = .ok () := by
  cases value with
  | str | sha256 => rfl
  | _ => cases text

/-- A text does not differ from itself. -/
theorem optionalChange_self {value : Json} (leaf : nonemptyText value = true ∨ value = .int 1) :
    optionalChange (some value) (some value) = .ok false := by
  have compared : ∀ document : Json, changes "" 0 document document = (do
        let beforeText ← dumpsOrdinary document
        let afterText ← dumpsOrdinary document
        return if beforeText = afterText then [] else [("", [pathOrRoot ""])]) →
      document.encodable = true → document.isObject = false →
      optionalChange (some document) (some document) = .ok false := by
    intro document leafwise encodable scalar
    change Except.map _ (if typeName document ≠ typeName document then _ else
      Except.map _ (changes "" 0 document document)) = _
    rw [leafwise]
    simp [dumpsOrdinary, encodable, bind, Except.bind, Except.map, pure, Except.pure, assemble, scalar]
  rcases leaf with text | rfl
  · cases value with
    | str | sha256 => exact compared _ rfl rfl rfl
    | _ => cases text
  · exact compared _ rfl rfl rfl

theorem auditedErrors_nil {signed payload : Json} {fields : List String}
    (same : ∀ field ∈ fields, ∃ value, signed.get? field = some value ∧
      payload.get? field = some value ∧ (nonemptyText value = true ∨ value = .int 1)) :
    auditedErrors signed payload fields = .ok [] := by
  induction fields with
  | nil => rfl
  | cons field rest ih =>
    obtain ⟨value, inSigned, inPayload, leaf⟩ := same field mem_cons_self
    unfold auditedErrors
    rw [inSigned, inPayload, optionalChange_self leaf]
    rw [ih (forall_mem_cons.mp same).2]
    rfl

variable {expected : Expected}

theorem Bound.audited (bound : Bound expected changeType before after receipt) {field : String}
    (named : field ∈ auditedFields) :
    receipt.get? field = some (receipt.value field) ∧
      (nonemptyText (receipt.value field) = true ∨ receipt.value field = .int 1) := by
  constructor
  · have within : auditedFields ⊆ operatorApprovalFields := by decide
    have present := Json.mem_keys_iff.mp (Json.mem_keys_of_hasExactly bound.fields (within named))
    obtain ⟨value, found⟩ := Option.ne_none_iff_exists'.mp present
    rw [Json.value, found]
    rfl
  · by_cases version : field = "version"
    · right
      rw [version]
      exact bound.version
    · left
      have within : ∀ name ∈ auditedFields, name ≠ "version" → name ∈ receiptTextFields := by decide
      exact bound.texts field (within field named version)

theorem get?_auditRecord (receipt receiptSha256 authority : Json) {field : String}
    (named : field ∈ auditedFields) :
    (auditRecord receipt receiptSha256 authority).get? field = some (receipt.value field) := by
  simp only [auditedFields, mem_cons, not_mem_nil, or_false] at named
  rcases named with rfl | rfl | rfl | rfl | rfl | rfl | rfl | rfl | rfl <;> rfl

theorem validAudit_of_bound {authority : Json} {issued expires : Int}
    (bound : Bound expected changeType before after receipt)
    (ordinary : ordinaryJson "operator-approval-receipt" receipt = .ok ())
    (encodable : receipt.encodable = true)
    (issuedAt : parseUtcTimestamp fromIsoformat "operator-approval-audit-issued-at"
      (receipt.value "issued_at") = .ok issued)
    (expiresAt : parseUtcTimestamp fromIsoformat "operator-approval-audit-expires-at"
      (receipt.value "expires_at") = .ok expires) (window : issued < expires)
    (authorityOrdinary : ordinaryJson "operator-approval-audit" authority = .ok ())
    (authorityValid : validateProvenance authority = .ok []) :
    validateOperatorApprovalAudit fromIsoformat
      (auditRecord receipt (.sha256 receipt.canonical) authority) = .ok [] := by
  have hashed : canonicalAuthoritySha256 receipt = .ok (.sha256 receipt.canonical) :=
    canonicalAuthority_iff.mpr ⟨ordinaryJson_of ordinary, encodable, rfl⟩
  have object : receipt.isObject = true := by
    have exact' := bound.fields
    unfold Json.hasExactly at exact'
    simp only [Bool.and_eq_true] at exact'
    exact exact'.1.1
  have auditOrdinary : ordinaryJson "operator-approval-audit"
      (auditRecord receipt (.sha256 receipt.canonical) authority) = .ok () :=
    ordinary_auditRecord ordinary rfl authorityOrdinary
  have values := fun field => @value_auditRecord receipt (.sha256 receipt.canonical) authority field
  have audited : auditedErrors receipt (auditRecord receipt (.sha256 receipt.canonical) authority)
      auditedFields = .ok [] := by
    apply auditedErrors_nil
    intro field named
    obtain ⟨found, leaf⟩ := bound.audited named
    exact ⟨_, found, get?_auditRecord _ _ _ named, leaf⟩
  generalize made : auditRecord receipt (.sha256 receipt.canonical) authority = audit at *
  have signed : audit.value "signed_receipt" = receipt := by
    rw [← made]
    rfl
  have hash : audit.value "receipt_sha256" = .sha256 receipt.canonical := by
    rw [← made]
    rfl
  have provenance : audit.value "authority_provenance" = authority := by
    rw [← made]
    rfl
  have shape : audit.isObject = true ∧ audit.hasExactly operatorApprovalAuditFields = true := by
    rw [← made]
    exact ⟨rfl, rfl⟩
  have signedErrors : signedReceiptErrors audit = .ok [] := by
    unfold signedReceiptErrors
    dsimp only
    rw [signed, object, bound.fields, hashed, hash, audited]
    simp [reject, bind, Except.bind, pure, Except.pure]
  have timeErrors : windowErrors fromIsoformat audit = .ok [] := by
    unfold windowErrors
    rw [values "issued_at" (by decide), values "expires_at" (by decide), issuedAt, expiresAt]
    have none' : reject (expires ≤ issued) "operator-approval-audit-expiry-window-invalid" = [] := by
      rw [reject_eq_nil]
      omega
    change Except.ok (reject (expires ≤ issued) "operator-approval-audit-expiry-window-invalid") = _
    rw [none']
  have known : isOneOf (ChangeType.all.map ChangeType.text) (.str changeType.text) = true := by
    cases changeType <;> decide
  have texts : (["approval_id", "issued_at", "expires_at", "nonce"].flatMap fun field =>
      reject (nonemptyText (audit.value field) = false)
        ("operator-approval-audit-" ++ dashed field ++ "-invalid")) = [] := by
    rw [flatMap_eq_nil_iff]
    intro field named
    have within : ["approval_id", "issued_at", "expires_at", "nonce"] ⊆ auditedFields := by decide
    have text : ["approval_id", "issued_at", "expires_at", "nonce"] ⊆ receiptTextFields := by decide
    rw [reject_eq_nil, values field (within named), bound.texts field (text named)]
    decide
  have digests : (["before_sha256", "after_sha256", "receipt_sha256"].flatMap fun field =>
      reject (isSha256 (audit.value field) = false)
        ("operator-approval-audit-" ++ dashed field ++ "-invalid")) = [] := by
    have first := (canonicalAuthority_iff.mp bound.before).2.2
    have second := (canonicalAuthority_iff.mp bound.after).2.2
    simp [flatMap_cons, reject, values "before_sha256" (by decide),
      values "after_sha256" (by decide), first, second, hash, isSha256, Digest.ofJson?]
  unfold validateOperatorApprovalAudit
  rw [shape.1, auditOrdinary, shape.2, signedErrors, timeErrors, provenance, authorityValid, texts,
    digests, values "approval_type" (by decide), values "version" (by decide),
    values "change_type" (by decide), bound.approvalType, bound.version, bound.changeType, known]
  simp [reject, bind, Except.bind, pure, Except.pure]

section

variable (signed : signOperatorApprovalReceipt signing signingKey changeType before after = .ok receipt)

include signed

theorem object_of_signed :
    ordinaryJson "operator-approval-receipt" receipt = .ok () ∧ receipt.isObject = true ∧
      receipt.encodable = true := by
  obtain ⟨_, _, rfl⟩ := signed_receipt signed
  refine ⟨?_, rfl, ?_⟩
  · cases parent : signing.parentReceiptSha256 <;> simp only [receiptBody, parent] <;> rfl
  · cases parent : signing.parentReceiptSha256 <;> simp only [receiptBody, parent] <;> rfl

theorem texts_of_signed :
    receipt.value "issued_at" = .str signing.issuedAt ∧
      receipt.value "expires_at" = .str signing.expiresAt ∧
      receipt.value "nonce" = .str signing.nonce := by
  obtain ⟨_, _, rfl⟩ := signed_receipt signed
  exact ⟨rfl, rfl, rfl⟩

end

/-- A signed receipt verifies at any time in its window. -/
theorem verify_of_signed {issued expires now : Int} {seenNonces : List Json}
    (visible : signing.Visible) (key : signingKey ≠ "")
    (scope : Scope.completeTask.rank ≤ signing.scope.rank)
    (issuedAt : fromIsoformat (utcSuffix signing.issuedAt) = .instant issued)
    (expiresAt : fromIsoformat (utcSuffix signing.expiresAt) = .instant expires)
    (begun : issued ≤ now) (open' : now < expires) (fresh : .str signing.nonce ∉ seenNonces)
    (signed : signOperatorApprovalReceipt signing signingKey changeType before after = .ok receipt) :
    ∃ authority, verifyOperatorApproval fromIsoformat (signing.expected signingKey) changeType before
      after seenNonces now receipt =
        .ok ⟨auditRecord receipt (.sha256 receipt.canonical) authority, authority⟩ := by
  have bound := bound_of_signed visible key signed
  obtain ⟨ordinary, object, encodable⟩ := object_of_signed signed
  have valid := verifyValidity_of visible issuedAt expiresAt begun open' scope signed
  have body : receipt.erase "signature" = signing.body changeType before after := by
    obtain ⟨_, _, rfl⟩ := signed_receipt signed
    rfl
  have times := texts_of_signed signed
  have source : canonicalAuthoritySha256 (receipt.erase "signature") =
      .ok (.sha256 (receipt.erase "signature").canonical) := by
    refine canonicalAuthority_iff.mpr ⟨?_, ?_, rfl⟩
    · rw [body]
      cases parent : signing.parentReceiptSha256 <;> simp only [receiptBody, parent] <;> rfl
    · rw [body]
      exact encodable_receiptBody _ _
  have hashed : canonicalAuthoritySha256 receipt = .ok (.sha256 receipt.canonical) :=
    canonicalAuthority_iff.mpr ⟨ordinaryJson_of ordinary, encodable, rfl⟩
  obtain ⟨authority, sealed', authorityOrdinary, authorityValid⟩ :=
    sealAuthority_of visible (receipt.erase "signature").canonical receipt.canonical signed
  refine ⟨authority, ?_⟩
  have audit := @validAudit_of_bound fromIsoformat _ _ _ _ _ _ _ _ bound ordinary encodable
    (times.1 ▸ parse_of visible.issuedAt issuedAt) (times.2.1 ▸ parse_of visible.expiresAt expiresAt)
    (Int.lt_of_le_of_lt begun open') authorityOrdinary authorityValid
  unfold verifyOperatorApproval
  rw [canonicalJsonObject_of ordinary object]
  change (verifyBinding _ _ _ _ _ _ >>= _) = _
  rw [verifyBinding_of bound (times.2.2 ▸ fresh)]
  rw [valid]
  unfold mintApproval
  rw [source]
  rw [hashed]
  change (sealAuthority _ >>= _) = _
  rw [sealed']
  change (validateOperatorApprovalAudit fromIsoformat _ >>= _) = _
  rw [audit]
  rfl

/-! ## Entries of accepted receipts -/

theorem entry_of_bound {authority : Json} (bound : Bound expected changeType before after receipt) :
    let entry := approvalReplayEntry
      ⟨auditRecord receipt (.sha256 receipt.canonical) authority, authority⟩
    entryValid entry = true ∧ ordinaryJson "entry" entry = .ok () := by
  have values : ∀ field ∈ replayEntryFields,
      (approvalReplayEntry ⟨auditRecord receipt (.sha256 receipt.canonical) authority,
        authority⟩).value field = if field = "receipt_sha256" then .sha256 receipt.canonical
          else receipt.value field := by
    intro field named
    rw [value_approvalReplayEntry _ named]
    by_cases hash : field = "receipt_sha256"
    · rw [hash]
      rfl
    · rw [if_neg hash]
      have within : ∀ name ∈ replayEntryFields, name ≠ "receipt_sha256" → name ∈ auditedFields := by
        decide
      exact value_auditRecord _ _ _ (within field named hash)
  have texts : ∀ field ∈ replayEntryFields, nonemptyText ((approvalReplayEntry
      ⟨auditRecord receipt (.sha256 receipt.canonical) authority, authority⟩).value field) = true := by
    intro field named
    rw [values field named]
    split
    · rfl
    · rename_i other
      have within : ∀ name ∈ replayEntryFields, name ≠ "receipt_sha256" → name ∈ receiptTextFields := by
        decide
      exact bound.texts field (within field named other)
  have known : isOneOf (ChangeType.all.map ChangeType.text) (.str changeType.text) = true := by
    cases changeType <;> decide
  constructor
  · unfold entryValid
    simp only [Bool.and_eq_true, all_eq_true]
    refine ⟨⟨⟨⟨rfl, rfl⟩, texts⟩, ?_⟩, ?_⟩
    · rw [values _ (by decide), bound.changeType]
      exact known
    · intro field named
      have within : ["receipt_sha256", "before_sha256", "after_sha256"] ⊆ replayEntryFields := by decide
      rw [values field (within named)]
      simp only [mem_cons, not_mem_nil, or_false] at named
      rcases named with rfl | rfl | rfl
      · rfl
      · rw [(canonicalAuthority_iff.mp bound.before).2.2]
        rfl
      · rw [(canonicalAuthority_iff.mp bound.after).2.2]
        rfl
  · refine ordinaryFrom_obj ?_ (by simp) ?_
    · change (replayEntryFields.map id).Nodup
      decide
    · intro field member
      obtain ⟨name, named, rfl⟩ := mem_map.mp member
      have text := texts name named
      rw [value_approvalReplayEntry _ named] at text
      exact ⟨"", nonemptyText_ordinary text⟩

theorem ordinaryFrom_arr {items : List Json} {index : Nat}
    (each : ∀ item ∈ items, ∃ label', ordinaryJson label' item = .ok ()) :
    ordinaryFrom label index seen (.arr items) = .ok () := by
  induction items generalizing index seen with
  | nil => rfl
  | cons item rest ih =>
    obtain ⟨label', first⟩ := each item mem_cons_self
    exact ordinaryFrom_item.mpr ⟨ordinaryFrom_of (List.Subset.refl _) first,
      ih (forall_mem_cons.mp each).2⟩

theorem sortEntries_idem (entries : List Json) :
    sortEntries (sortEntries entries) = sortEntries entries := by
  refine mergeSort_of_pairwise (pairwise_mergeSort ?_ ?_ entries)
  · intro first second third le le'
    rw [decide_eq_true_eq] at le le' ⊢
    exact le_trans le le'
  · intro first second
    rw [Bool.or_eq_true, decide_eq_true_eq, decide_eq_true_eq]
    exact le_total _ _

/-- Entries that are valid, distinct and ordinary can be written. -/
theorem Stored.writable {entries : List Json} (stored : Stored entries)
    (ordinary : ∀ entry ∈ entries, ∃ label, ordinaryJson label entry = .ok ()) (replayKey : Json) :
    Writable entries replayKey := by
  have sorted := stored.perm (sortEntries_perm entries).symm
  have again : sealedReplayStore (sortEntries entries) replayKey =
      sealedReplayStore entries replayKey := by
    unfold sealedReplayStore replayStoreBody
    rw [sortEntries_idem]
  have read : canonicalJsonObject "operator-approval-replay-store"
      (sealedReplayStore entries replayKey) = .ok (sealedReplayStore entries replayKey) := by
    refine canonicalJsonObject_of ?_ rfl
    refine @ordinaryFrom_obj _ _ [("store_type", .str replayStoreType), ("version", .int 2),
      ("entries", .arr (sortEntries entries)),
      ("store_hmac_sha256", hmacSha256 replayKey (replayStoreBody entries).canonical)] _
      ?_ (by simp) ?_
    · change ["store_type", "version", "entries", "store_hmac_sha256"].Nodup
      decide
    intro field member
    simp only [mem_cons, not_mem_nil, or_false] at member
    rcases member with rfl | rfl | rfl | rfl
    · exact ⟨"", rfl⟩
    · exact ⟨"", rfl⟩
    · refine ⟨"", ordinaryFrom_arr fun entry among => ?_⟩
      exact ordinary entry ((sortEntries_perm entries).mem_iff.mp among)
    · exact ⟨"", rfl⟩
  refine ⟨sortEntries (sortEntries entries), ?_⟩
  unfold validateReplayStore
  rw [read]
  have found : ((sealedReplayStore entries replayKey).value "entries").elements? =
      some (sortEntries entries) := Json.elements?_arr _
  rw [ok_bind, found]
  change (validateEntries [] (sortEntries entries) >>= _) = _
  rw [sorted.accepted]
  change (compareDigest ((sealedReplayStore entries replayKey).value "store_hmac_sha256")
    ((sealedReplayStore (sortEntries entries) replayKey).value "store_hmac_sha256") >>= fun same =>
      demand same _ >>= fun _ => demand (decide ((sealedReplayStore entries replayKey).canonical =
        (sealedReplayStore (sortEntries entries) replayKey).canonical)) _ >>= _) = _
  rw [again, decide_eq_true rfl]
  change (demand (decide (hmacSha256 _ _ = hmacSha256 _ _)) _ >>= _) = _
  rw [decide_eq_true rfl]
  rfl

/-! ## Calls that write -/

/-- A call whose receipts verify replaces the file, and returns if that lasts. -/
theorem authorize_of {call : Call} {payload : Json} {file : File} {existing : List Json} {now : Int}
    {approvals : List Approval} (supplied : Supplied call payload)
    (required : call.assessment.requiredChangeTypes ≠ [])
    (prior : call.priorNonces.all nonemptyText = true)
    (lock : call.surroundings.lock = .ok ()) (read : call.surroundings.read = .ok ())
    (time : call.surroundings.time = .ok now) (early : call.surroundings.beforeReplace = .ok ())
    (stored : storeEntries call.replayKey file = .ok existing)
    (verified : verifyAll fromIsoformat call.expected call.assessment payload now
      (takenBy existing call.priorNonces) call.assessment.requiredChangeTypes = .ok approvals)
    (writable : Writable (existing ++ approvals.map approvalReplayEntry) call.replayKey) :
    call.authorize fromIsoformat file =
      (do ofExcept call.surroundings.afterReplace
          ofExcept call.surroundings.release
          return approvals : StoreProgram (List Approval))
        (some (sealedReplayStore (existing ++ approvals.map approvalReplayEntry)
          call.replayKey).canonical) := by
  have reading := readReplayStore_of read stored
  obtain ⟨written, valid⟩ := writable
  unfold Call.authorize authorizeAssessment
  rw [supplied.authorizable]
  rw [supplied.receipts]
  change (if call.assessment.requiredChangeTypes = [] then _ else _ : StoreProgram _) file = _
  rw [if_neg required]
  rw [decide_eq_true supplied.keys, prior]
  unfold consumeReceipts
  rw [lock]
  change (EStateM.bind (readReplayStore call.surroundings call.replayKey) _ :
    StoreProgram (List Approval)) file = _
  unfold EStateM.bind
  rw [reading]
  rw [time]
  change (ofExcept (verifyAll _ _ _ _ _ _ _) >>= _ : StoreProgram (List Approval)) file = _
  rw [verified]
  change (EStateM.bind (EStateM.bind (readReplayStore call.surroundings call.replayKey) _) _ :
    StoreProgram (List Approval)) file = _
  unfold EStateM.bind
  rw [reading]
  change (EStateM.bind (ofExcept (validateReplayStore
      (sealedReplayStore _ call.replayKey) call.replayKey) >>= fun _ =>
    ofExcept call.surroundings.beforeReplace >>= _) _ : StoreProgram (List Approval)) file = _
  rw [valid, early]
  cases call.surroundings.afterReplace <;> rfl

end

/-! ## The size of a store -/

theorem textSize_get? {document value : Json} {key : String} (found : document.get? key = some value) :
    textSize value ≤ textSize document := by
  induction document with
  | field name old rest _ ih =>
    have whole : textSize old ≤ textSize (.field name old rest) ∧
        textSize rest ≤ textSize (.field name old rest) := by
      cases rest <;> simp only [textSize] <;> omega
    unfold Json.get? at found
    split at found
    · cases found
      exact whole.1
    · exact Nat.le_trans (ih found) whole.2
  | _ => cases found

theorem textSize_element {document : Json} {items : List Json} (listed : document.elements? = some items)
    {item : Json} (member : item ∈ items) : textSize item ≤ textSize document := by
  induction document generalizing items with
  | arrEnd =>
    cases listed
    cases member
  | item head tail _ ih =>
    have whole : textSize head ≤ textSize (.item head tail) ∧
        textSize tail ≤ textSize (.item head tail) := by
      cases tail <;> simp only [textSize] <;> omega
    obtain ⟨others, rest, rfl⟩ := Option.map_eq_some_iff.mp listed
    rcases mem_cons.mp member with rfl | later
    · exact whole.1
    · exact Nat.le_trans (ih rest later) whole.2
  | _ => cases listed

/-! ## A change of an objective -/

/-- What the library makes of the two times of the receipt. -/
def sampleIsoformat (text : String) : Parsed :=
  if text = "2026-01-01T00:00:00+00:00" then .instant 1767225600
  else if text = "2026-01-02T00:00:00+00:00" then .instant 1767312000
  else .invalid

def sampleIdentity : Identity := ⟨"cwo-work-estimate", "estimate-1", none, none, none⟩

def sampleAssessment : Assessment where
  beforeSubject := (subject (some sampleIdentity) (.obj [("objective", .str "draft")])).canonical
  afterSubject := (subject (some sampleIdentity) (.obj [("objective", .str "publish")])).canonical
  identity := some sampleIdentity
  changedJsonPointers := ["/objective"]
  requiredChangeTypes := [.objectiveChange]
  uncategorizedPaths := []

def sampleSigning (nonce : String) : Signing where
  actorId := "operator-1"
  identitySource := "console"
  scope := .completeTask
  parentReceiptSha256 := none
  issuedAt := "2026-01-01T00:00:00Z"
  expiresAt := "2026-01-02T00:00:00Z"
  approvalId := "approval-1"
  nonce := nonce

def sampleReceipt (nonce : String) : Json :=
  let body := receiptBody (sampleSigning nonce) .objectiveChange
    (.sha256 sampleAssessment.beforeSubject.canonical) (.sha256 sampleAssessment.afterSubject.canonical)
  body.set "signature" (hmacSha256 (.str "key") body.canonical)

/-- A call on the first day; `afterReplace` is what becomes of the directory. -/
def sampleCall (nonce : String) (afterReplace : Except PyError Unit) : Call where
  expected := ⟨"key", "operator-1", "console"⟩
  surroundings := ⟨.ok (), .ok (), .ok 1767229200, .ok (), afterReplace, .ok ()⟩
  assessment := sampleAssessment
  receipts := some (.obj [("objective-change", sampleReceipt nonce)])
  priorNonces := []

def sampleReading : Surroundings := ⟨.ok (), .ok (), .ok 1767229200, .ok (), .ok (), .ok ()⟩

theorem sample_signed (nonce : String) :
    signOperatorApprovalReceipt (sampleSigning nonce) "key" .objectiveChange
      sampleAssessment.beforeSubject sampleAssessment.afterSubject = .ok (sampleReceipt nonce) := by
  have before : canonicalAuthoritySha256 sampleAssessment.beforeSubject =
      .ok (.sha256 sampleAssessment.beforeSubject.canonical) :=
    canonicalAuthority_iff.mpr ⟨by decide +kernel, by decide +kernel, rfl⟩
  have after : canonicalAuthoritySha256 sampleAssessment.afterSubject =
      .ok (.sha256 sampleAssessment.afterSubject.canonical) :=
    canonicalAuthority_iff.mpr ⟨by decide +kernel, by decide +kernel, rfl⟩
  exact signOperatorApprovalReceipt_of before after

variable {nonce : String}

theorem sample_visible (visible : Nonempty nonce) : (sampleSigning nonce).Visible :=
  ⟨show Nonempty "operator-1" by decide, show Nonempty "console" by decide,
    show Nonempty "2026-01-01T00:00:00Z" by decide, show Nonempty "2026-01-02T00:00:00Z" by decide,
    show Nonempty "approval-1" by decide, visible⟩

theorem sample_supplied (nonce : String) (afterReplace : Except PyError Unit) :
    Supplied (sampleCall nonce afterReplace) (.obj [("objective-change", sampleReceipt nonce)]) := by
  refine ⟨rfl, ?_, rfl⟩
  refine canonicalJsonObject_of (ordinaryFrom_obj (by simp) (by simp) ?_) rfl
  intro field member
  rw [mem_singleton.mp member]
  exact ⟨_, (object_of_signed (sample_signed nonce)).1⟩

/-- The call records the approval of the receipt in an empty store. -/
theorem sample_authorize (visible : Nonempty nonce) (afterReplace : Except PyError Unit) :
    ∃ approval authority, approval = ⟨auditRecord (sampleReceipt nonce)
        (.sha256 (sampleReceipt nonce).canonical) authority, authority⟩ ∧
      verifyAll sampleIsoformat (sampleCall nonce afterReplace).expected sampleAssessment
        (.obj [("objective-change", sampleReceipt nonce)]) 1767229200 (takenBy [] [])
        [.objectiveChange] = .ok [approval] ∧
      approval.audit.value "nonce" = .str nonce ∧
      Writable [approvalReplayEntry approval] (sampleCall nonce afterReplace).replayKey ∧
      (sampleCall nonce afterReplace).authorize sampleIsoformat none =
        (do ofExcept afterReplace
            return [approval] : StoreProgram (List Approval))
          (some (sealedReplayStore [approvalReplayEntry approval]
            (sampleCall nonce afterReplace).replayKey).canonical) := by
  have signed := sample_signed nonce
  have bound := bound_of_signed (sample_visible visible) (by decide) signed
  obtain ⟨authority, verified⟩ := @verify_of_signed sampleIsoformat _ _ _ _ _ _
    1767225600 1767312000 1767229200 []
    (sample_visible visible) (by decide) (show Scope.completeTask.rank ≤ 3 by decide)
    (show sampleIsoformat (utcSuffix "2026-01-01T00:00:00Z") = _ by decide)
    (show sampleIsoformat (utcSuffix "2026-01-02T00:00:00Z") = _ by decide) (by decide) (by decide)
    (by simp) signed
  obtain ⟨valid, ordinary⟩ := @entry_of_bound _ _ _ _ _ authority bound
  generalize made : (⟨auditRecord (sampleReceipt nonce) (.sha256 (sampleReceipt nonce).canonical)
    authority, authority⟩ : Approval) = approval at *
  have all : verifyAll sampleIsoformat (sampleCall nonce afterReplace).expected sampleAssessment
      (.obj [("objective-change", sampleReceipt nonce)]) 1767229200 (takenBy [] [])
      [.objectiveChange] = .ok [approval] := by
    change (verifyOperatorApproval sampleIsoformat _ .objectiveChange _ _ [] 1767229200
      (sampleReceipt nonce) >>= _) = _
    rw [show verifyOperatorApproval sampleIsoformat (sampleCall nonce afterReplace).expected
      .objectiveChange sampleAssessment.beforeSubject sampleAssessment.afterSubject [] 1767229200
      (sampleReceipt nonce) = .ok approval from verified]
    rfl
  have stored : Stored [approvalReplayEntry approval] := by
    constructor
    · intro entry member
      rw [mem_singleton.mp member]
      exact valid
    · intro field _
      exact nodup_singleton _
  have writable := stored.writable (fun entry member => ⟨"entry", by
    rw [mem_singleton.mp member]
    exact ordinary⟩) (sampleCall nonce afterReplace).replayKey
  refine ⟨approval, authority, made.symm, all, ?_, writable, ?_⟩
  · rw [← made]
    have named : "nonce" ∈ auditedFields := by decide
    exact (value_auditRecord _ _ _ named).trans (texts_of_signed signed).2.2
  · have ran := @authorize_of sampleIsoformat (sampleCall nonce afterReplace)
      (.obj [("objective-change", sampleReceipt nonce)]) none [] 1767229200 [approval]
      (sample_supplied nonce afterReplace) (cons_ne_nil _ _) rfl rfl rfl rfl rfl rfl all writable
    rw [ran]
    cases afterReplace <;> rfl

theorem sample_outcome (visible : Nonempty nonce) (afterReplace : Except PyError Unit) :
    ∃ approval authority file, approval = ⟨auditRecord (sampleReceipt nonce)
        (.sha256 (sampleReceipt nonce).canonical) authority, authority⟩ ∧
      (sampleCall nonce afterReplace).outcome sampleIsoformat none =
        ⟨sampleCall nonce afterReplace, none, afterReplace.map fun _ => [approval], file⟩ ∧
      file = some (sealedReplayStore [approvalReplayEntry approval]
        (sampleCall nonce afterReplace).replayKey).canonical ∧
      approval.audit.value "nonce" = .str nonce ∧
      Recorded sampleIsoformat (sampleCall nonce afterReplace) []
        (.obj [("objective-change", sampleReceipt nonce)]) 1767229200 none file [approval] := by
  obtain ⟨approval, authority, made, verified, named, writable, ran⟩ :=
    sample_authorize visible afterReplace
  refine ⟨approval, authority, _, made, ?_, rfl, named, ⟨rfl, rfl, verified, rfl, writable⟩,
    sample_supplied nonce afterReplace⟩
  unfold Call.outcome
  rw [ran]
  cases afterReplace <;> rfl

def longNonce (length : Nat) : String := String.ofList (List.replicate length 'n')

theorem nonempty_longNonce {length : Nat} (positive : length ≠ 0) : Nonempty (longNonce length) := by
  refine ⟨'n', ?_, by decide⟩
  unfold longNonce
  rw [String.toList_ofList, mem_replicate]
  exact ⟨positive, rfl⟩

theorem textSize_longNonce (length : Nat) : length ≤ textSize (.str (longNonce length)) := by
  have size : charSize 'n' = 1 := by decide
  have written : textSize (.str (longNonce length)) =
      ((longNonce length).toList.map charSize).sum + 2 := rfl
  rw [written, longNonce, String.toList_ofList, map_replicate, sum_replicate_nat, size]
  omega

/-- A store that records the nonce is too large to be read again. -/
theorem sample_unreadable {approval : Approval} {replayKey : Json}
    (large : maxReplayStoreBytes ≤ textSize (.str nonce))
    (named : approval.audit.value "nonce" = .str nonce) {entries : List Json} :
    storeEntries replayKey (some (sealedReplayStore [approvalReplayEntry approval]
      replayKey).canonical) ≠ .ok entries := by
  intro read
  obtain ⟨_, fits, _⟩ := bind_ok read
  have small := of_decide_eq_true (demand_ok fits)
  have kept : (approvalReplayEntry approval).canonical.get? "nonce" = some (.str nonce) := by
    rw [Json.get?_canonical]
    change some (approval.audit.value "nonce").canonical = _
    rw [named]
    rfl
  have listed : (sealedReplayStore [approvalReplayEntry approval] replayKey).canonical.get? "entries" =
      some (Json.arr [approvalReplayEntry approval]).canonical := by
    rw [Json.get?_canonical]
    change some (Json.arr (sortEntries [approvalReplayEntry approval])).canonical = _
    rw [sortEntries, mergeSort_singleton]
  have inside : (Json.arr [approvalReplayEntry approval]).canonical.elements? =
      some [(approvalReplayEntry approval).canonical] := by
    rfl
  have first := textSize_get? kept
  have second := textSize_element inside mem_cons_self
  have third := textSize_get? listed
  omega

/--
The audits of approvals that a call returned need not pass later, and audits of a call
that raised may pass: a store outgrows what is read of it, and the directory may fail to
be synchronised after the store was replaced.
-/
theorem audits_of_consumed_differ :
    (∃ call approvals, ((call : Call).outcome sampleIsoformat none).result = .ok approvals ∧
      approvals ≠ [] ∧ ∀ after, validateAssessmentAudits sampleIsoformat call.expected
        sampleReading call.assessment
        (some (auditRecords call.assessment.requiredChangeTypes approvals)) none
        (call.outcome sampleIsoformat none).after ≠ .ok () after) ∧
    ∃ call error audits, ((call : Call).outcome sampleIsoformat none).result = .error error ∧
      validateAssessmentAudits sampleIsoformat call.expected
        sampleReading call.assessment (some audits) none
        (call.outcome sampleIsoformat none).after =
        .ok () (call.outcome sampleIsoformat none).after := by
  constructor
  · obtain ⟨nonce, given⟩ : ∃ nonce, nonce = longNonce maxReplayStoreBytes := ⟨_, rfl⟩
    have visible : Nonempty nonce := given ▸ nonempty_longNonce (by decide)
    have large := given ▸ textSize_longNonce maxReplayStoreBytes
    obtain ⟨approval, _, file, _, ran, written, named, _⟩ := sample_outcome visible (.ok ())
    refine ⟨sampleCall nonce (.ok ()), [approval], ?_, cons_ne_nil _ _, ?_⟩
    · rw [ran]
      rfl
    · intro after passed
      rw [ran] at passed
      have accepted : validateAssessmentAudits sampleIsoformat (sampleCall nonce (.ok ())).expected
        sampleReading sampleAssessment (some (auditRecords [.objectiveChange] [approval])) none file =
          .ok () after := passed
      have ends := (@validateAssessmentAudits_triple sampleIsoformat
        (sampleCall nonce (.ok ())).expected sampleReading sampleAssessment
        (some (auditRecords [.objectiveChange] [approval])) none file).ends file rfl
      rw [accepted] at ends
      obtain ⟨entries, read, _⟩ := ends
      rw [written] at read
      exact sample_unreadable large named read
  · let failure : PyError := authorityError "operator-approval-replay-store-persist-failed"
    have visible : Nonempty "nonce-1" := by decide
    obtain ⟨approval, authority, file, made, ran, written, _, recorded⟩ :=
      sample_outcome visible (.error failure)
    have sealed' : SealedWith (sampleCall "nonce-1" (.error failure)).replayKey file :=
      ⟨_, recorded.writable, written⟩
    have fits : Fits file := by
      intro document held
      rw [written] at held
      cases held
      unfold sealedReplayStore replayStoreBody
      rw [sortEntries, made]
      have entry : approvalReplayEntry ⟨auditRecord (sampleReceipt "nonce-1")
          (.sha256 (sampleReceipt "nonce-1").canonical) authority, authority⟩ =
          .obj [("nonce", .str "nonce-1"), ("approval_id", .str "approval-1"),
            ("receipt_sha256", .sha256 (sampleReceipt "nonce-1").canonical),
            ("change_type", .str "objective-change"),
            ("before_sha256", .sha256 sampleAssessment.beforeSubject.canonical),
            ("after_sha256", .sha256 sampleAssessment.afterSubject.canonical)] := rfl
      rw [entry]
      decide +kernel
    obtain ⟨entries, read⟩ := sealed'.read fits
    refine ⟨sampleCall "nonce-1" (.error failure), failure, auditRecords [.objectiveChange] [approval],
      ?_, ?_⟩
    · rw [ran]
      rfl
    · rw [ran]
      refine @validated_of_recorded _ _ _ none _ _ _ _ _ _ recorded.toSupplied recorded.verified ?_ ?_ read
        ⟨rfl, rfl, rfl⟩ (.inl rfl)
      · intro other member
        exact recorded.writable.stored.valid _ (mem_map_of_mem member)
      · intro other member
        exact recorded.entries.mem_iff.mpr (mem_append_right _ (mem_map_of_mem member))

end WorkOrchestration.Native.ApprovalStore
