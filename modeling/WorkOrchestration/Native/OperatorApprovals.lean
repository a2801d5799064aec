import Mathlib.Data.List.Dedup
import WorkOrchestration.Native.ProtectedChanges

/-!
# Operator approvals

A signed receipt approves one change type of one assessment for a limited time. Its verification yields an
approval with an audit record.
-/

namespace WorkOrchestration.Native.OperatorApprovals

open List Lib.Checks Lib.Text Artifacts
open Artifacts.Json (hashable isOneOf)
open Authority ProtectedChanges

def demand (condition : Bool) (message : String) : Except PyError Unit :=
  if condition then .ok () else .error (authorityError message)

/-- What `datetime.fromisoformat` makes of a text, and `astimezone` of that. -/
inductive Parsed where
  | invalid
  | naive
  | outOfRange
  | instant (time : Int)
  deriving DecidableEq

/-- The text with `+00:00` for a final `Z`. -/
def utcSuffix (text : String) : String :=
  match text.toList.getLast? with
  | some 'Z' => String.ofList text.toList.dropLast ++ "+00:00"
  | _ => text

/-- `_parse_utc_timestamp`, given what the library makes of a text. -/
def parseUtcTimestamp (fromIsoformat : String → Parsed) (label : String) (value : Json) :
    Except PyError Int :=
  match value with
  | .str text =>
    if Nonempty text then
      match fromIsoformat (utcSuffix text) with
      | .invalid => .error (authorityError (label ++ "-invalid"))
      | .naive => .error (authorityError (label ++ "-timezone-required"))
      | .outOfRange => .error ⟨.other, "OverflowError", "date value out of range"⟩
      | .instant time => .ok time
    else .error (authorityError (label ++ "-invalid"))
  | _ => .error (authorityError (label ++ "-invalid"))

def authorityProvenanceFields : List String :=
  ["version", "source_type", "source_id", "source_sha256", "actor_id", "actor_role",
    "identity_source", "authorized_scope", "parent_receipt_sha256", "verification",
    "authority_sha256"]

def verificationFields : List String := ["method", "evidence_sha256"]

def sourceTypes : List SourceType :=
  [.workerDiscovery, .pmObservation, .architectJudgment, .operatorDirective, .policyEnforcement]

def actorRoles : List ActorRole :=
  [.operativeWorker, .critic, .projectManager, .architect, .supervisorPolicy, .operator]

def scopes : List Scope := [.child, .cohort, .executionPath, .completeTask, .publication]

def spelled? {α : Type} (text : α → String) (members : List α) : Json → Option α
  | .str value => members.find? fun candidate => text candidate == value
  | _ => none

/-- `field.replace("_", "-")`. -/
def dashed (field : String) : String := replaceChar '_' '-' field

def sortedTexts (texts : List String) : List String :=
  texts.dedup.mergeSort fun left right => left ≤ right

theorem sortedTexts_eq_nil {texts : List String} : sortedTexts texts = [] ↔ texts = [] := by
  have members : ∀ text, text ∈ sortedTexts texts ↔ text ∈ texts := by
    intro text
    rw [sortedTexts, mem_mergeSort, mem_dedup]
  rw [eq_nil_iff_forall_not_mem, eq_nil_iff_forall_not_mem]
  exact forall_congr' fun text => not_congr (members text)

theorem sortedTexts_isEmpty {texts : List String} : (sortedTexts texts).isEmpty = true ↔ texts = [] := by
  rw [List.isEmpty_iff, sortedTexts_eq_nil]

/-- The errors of an object whose fields are not exactly the given ones. -/
def fieldErrors (label : String) (fields : List String) (payload : Json) : List String :=
  let missing := sortedTexts (fields.filter fun key => !payload.keys.contains key)
  let unknown := sortedTexts (payload.keys.filter fun key => !fields.contains key)
  (if missing.isEmpty then [] else [label ++ "-missing-fields:" ++ joinWith "," missing]) ++
    (if unknown.isEmpty then [] else [label ++ "-unknown-fields:" ++ joinWith "," unknown])

/-- `validate_authority_provenance` of a value with the right fields. -/
def provenanceErrors (payload : Json) : Except PyError (List String) := do
  let sourceType := spelled? SourceType.text sourceTypes (payload.value "source_type")
  let actorRole := spelled? ActorRole.text actorRoles (payload.value "actor_role")
  let scope := spelled? Scope.text scopes (payload.value "authorized_scope")
  let verification := payload.value "verification"
  let verified := verification.isObject && verification.hasExactly verificationFields
  hashable (payload.value "actor_role")
  if actorRole.isSome then hashable (payload.value "source_type")
  hashable (payload.value "authorized_scope")
  let body := payload.erase "authority_sha256"
  let selfErrors ← if isSha256 (payload.value "authority_sha256") then do
      let digest ← canonicalAuthoritySha256 body
      pure (reject (payload.value "authority_sha256" ≠ digest) "authority-provenance-sha256-mismatch")
    else pure []
  let operatorErrors ← if sourceType = some .operatorDirective ∧ verification.isObject = true then do
      hashable (verification.value "method")
      pure (reject (isOneOf operatorVerificationMethods (verification.value "method") = false)
        "operator-authority-provenance-verification-invalid")
    else pure []
  return (reject (payload.value "version" ≠ .int 1) "authority-provenance-version-invalid" ++
    reject (sourceType = none) "authority-provenance-source-type-invalid" ++
    (match actorRole, sourceType with
      | none, _ => ["authority-provenance-actor-role-invalid"]
      | some role, some source =>
        reject (role ∉ source.roles) "authority-provenance-source-role-mismatch"
      | some _, none => []) ++
    ["source_id", "actor_id", "identity_source"].flatMap (fun field =>
      reject (nonemptyText (payload.value field) = false)
        ("authority-provenance-" ++ dashed field ++ "-invalid")) ++
    ["source_sha256", "authority_sha256"].flatMap (fun field =>
      reject (isSha256 (payload.value field) = false)
        ("authority-provenance-" ++ dashed field ++ "-invalid")) ++
    reject (payload.value "parent_receipt_sha256" ≠ .null ∧
        isSha256 (payload.value "parent_receipt_sha256") = false)
      "authority-provenance-parent-receipt-sha256-invalid" ++
    (match scope, actorRole with
      | none, _ => ["authority-provenance-authorized-scope-invalid"]
      | some scope, some role =>
        reject (role.scopeCap.rank < scope.rank) "authority-provenance-exceeds-role-cap"
      | some _, none => []) ++
    (if verified then
      reject (nonemptyText (verification.value "method") = false)
          "authority-provenance-verification-method-invalid" ++
        reject (isSha256 (verification.value "evidence_sha256") = false)
          "authority-provenance-verification-evidence-invalid"
    else ["authority-provenance-verification-fields-invalid"]) ++
    selfErrors ++ operatorErrors ++
    reject (scope = some .publication ∧ sourceType ≠ some .operatorDirective)
      "publication-scope-requires-operator-directive")

/-- `validate_authority_provenance`. -/
def validateProvenance (value : Json) : Except PyError (List String) :=
  if !value.isObject then .ok ["authority-provenance-must-be-object"]
  else
    match ordinaryJson "authority-provenance" value with
    | .error error => .ok [error.message]
    | .ok _ =>
      if value.hasExactly authorityProvenanceFields then provenanceErrors value
      else .ok (fieldErrors "authority-provenance" authorityProvenanceFields value)

def operatorApprovalFields : List String :=
  ["approval_type", "version", "approval_id", "change_type", "before_sha256", "after_sha256",
    "actor_id", "identity_source", "authorized_scope", "parent_receipt_sha256", "issued_at",
    "expires_at", "nonce", "signature"]

def operatorApprovalAuditFields : List String :=
  ["approval_type", "version", "approval_id", "change_type", "before_sha256", "after_sha256",
    "issued_at", "expires_at", "nonce", "receipt_sha256", "signed_receipt", "authority_provenance"]

/-- The fields that an audit record takes over from its receipt. -/
def auditedFields : List String :=
  ["approval_type", "version", "approval_id", "change_type", "before_sha256", "after_sha256",
    "issued_at", "expires_at", "nonce"]

def operatorApprovalType : String := "cwo-operator-protected-change-approval"

def auditedErrors (signed payload : Json) : List String → Except PyError (List String)
  | [] => .ok []
  | field :: rest => do
      let changed ← optionalChange (signed.get? field) (payload.get? field)
      let here := reject (changed = true)
        ("operator-approval-audit-signed-receipt-" ++ dashed field ++ "-mismatch")
      return here ++ (← auditedErrors signed payload rest)

def signedReceiptErrors (payload : Json) : Except PyError (List String) :=
  let signed := payload.value "signed_receipt"
  if signed.isObject && signed.hasExactly operatorApprovalFields then do
    let hashErrors := match canonicalAuthoritySha256 signed with
      | .ok digest => reject (digest ≠ payload.value "receipt_sha256")
          "operator-approval-audit-signed-receipt-hash-mismatch"
      | .error _ => ["operator-approval-audit-signed-receipt-invalid"] ++
          reject (Json.null ≠ payload.value "receipt_sha256")
            "operator-approval-audit-signed-receipt-hash-mismatch"
    return hashErrors ++ (← auditedErrors signed payload auditedFields)
  else .ok ["operator-approval-audit-signed-receipt-fields-invalid"]

variable (fromIsoformat : String → Parsed)

/-- The errors of the two times of an audit record. -/
def windowErrors (payload : Json) : Except PyError (List String) :=
  let window := do
    let issued ← parseUtcTimestamp fromIsoformat "operator-approval-audit-issued-at"
      (payload.value "issued_at")
    let expires ← parseUtcTimestamp fromIsoformat "operator-approval-audit-expires-at"
      (payload.value "expires_at")
    return reject (expires ≤ issued) "operator-approval-audit-expiry-window-invalid"
  match window with
  | .ok errors => .ok errors
  | .error error => if error.kind = .value then .ok [error.message] else .error error

def validateOperatorApprovalAudit (value : Json) : Except PyError (List String) :=
  if !value.isObject then .ok ["operator-approval-audit-must-be-object"]
  else
    match ordinaryJson "operator-approval-audit" value with
    | .error error => .ok [error.message]
    | .ok _ =>
      if value.hasExactly operatorApprovalAuditFields then do
        let signedErrors ← signedReceiptErrors value
        let timeErrors ← windowErrors fromIsoformat value
        let authorityErrors ← validateProvenance (value.value "authority_provenance")
        return (reject (value.value "approval_type" ≠ .str operatorApprovalType)
            "operator-approval-audit-type-invalid" ++
          reject (value.value "version" ≠ .int 1) "operator-approval-audit-version-invalid" ++
          reject (isOneOf (ChangeType.all.map ChangeType.text) (value.value "change_type") = false)
            "operator-approval-audit-change-type-invalid" ++
          ["approval_id", "issued_at", "expires_at", "nonce"].flatMap (fun field =>
            reject (nonemptyText (value.value field) = false)
              ("operator-approval-audit-" ++ dashed field ++ "-invalid")) ++
          ["before_sha256", "after_sha256", "receipt_sha256"].flatMap (fun field =>
            reject (isSha256 (value.value field) = false)
              ("operator-approval-audit-" ++ dashed field ++ "-invalid")) ++
          signedErrors ++ timeErrors ++
          authorityErrors.map ("operator-approval-audit-" ++ ·))
      else .ok (fieldErrors "operator-approval-audit" operatorApprovalAuditFields value)

structure Expected where
  verificationKey : String
  actorId : String
  identitySource : String

/-- `hmac.new(key, message, hashlib.sha256).hexdigest()`; no document spells such a preimage. -/
def hmacSha256 (key message : Json) : Json := .sha256 (.item key message)

/-- `type(supplied) is str and hmac.compare_digest(supplied, expected)`. -/
def compareDigest (supplied expected : Json) : Except PyError Bool :=
  match supplied with
  | .str text =>
    if text.toList.all (·.toNat < 128) then .ok (decide (supplied = expected))
    else .error ⟨.type, "TypeError", "comparing strings with non-ASCII characters is not supported"⟩
  | _ => .ok (decide (supplied = expected))

def operatorApprovalSignature (body : Json) (verificationKey : String) : Except PyError Json := do
  return hmacSha256 (.str verificationKey) (← dumpsOrdinary body)

/-- `VerifiedOperatorApproval`. -/
structure Approval where
  audit : Json
  authority : Json

def Approval.changeType (approval : Approval) : Json := approval.audit.value "change_type"

def Approval.nonce (approval : Approval) : Json := approval.audit.value "nonce"

def auditRecord (receipt receiptSha256 authority : Json) : Json :=
  .obj (auditedFields.map (fun field => (field, receipt.value field)) ++
    [("receipt_sha256", receiptSha256), ("signed_receipt", receipt),
      ("authority_provenance", authority)])

variable (expected : Expected)

def operatorAuthority (receipt sourceSha256 evidenceSha256 : Json) : Json :=
  .obj [("version", .int 1), ("source_type", .str "operator-directive"),
    ("source_id", receipt.value "approval_id"), ("source_sha256", sourceSha256),
    ("actor_id", .str expected.actorId), ("actor_role", .str "operator"),
    ("identity_source", .str expected.identitySource),
    ("authorized_scope", receipt.value "authorized_scope"),
    ("parent_receipt_sha256", receipt.value "parent_receipt_sha256"),
    ("verification", .obj [("method", .str "hmac-sha256-protected-change-v1"),
      ("evidence_sha256", evidenceSha256)])]

/-- `VerifiedAuthority`: the sealed payload, if it is valid. -/
def sealAuthority (payload : Json) : Except PyError Json := do
  let sealed' := payload.set "authority_sha256" (← canonicalAuthoritySha256 payload)
  let errors ← validateProvenance sealed'
  demand errors.isEmpty ("authority-provenance-invalid:" ++ joinWith ";" errors)
  return sealed'

def receiptTextFields : List String :=
  ["approval_type", "approval_id", "change_type", "before_sha256", "after_sha256", "actor_id",
    "identity_source", "authorized_scope", "issued_at", "expires_at", "nonce", "signature"]

def requireTexts (receipt : Json) : List String → Except PyError Unit
  | [] => .ok ()
  | field :: rest => do
      demand (nonemptyText (receipt.value field))
        ("operator-approval-" ++ dashed field ++ "-invalid")
      requireTexts receipt rest

/-- A computation whose failure is reported as one message. -/
def orElse {α : Type} (result : Except PyError α) (message : String) : Except PyError α :=
  match result with
  | .ok value => .ok value
  | .error _ => .error (authorityError message)

/-- Whether a receipt is signed for a change of one type between two artifacts. -/
def verifyBinding (changeType : ChangeType) (before after : Json)
    (seenNonces : List Json) (receipt : Json) : Except PyError Unit := do
  demand (receipt.hasExactly operatorApprovalFields) "operator-approval-fields-invalid"
  demand (expected.verificationKey ≠ "") "operator-approval-verification-key-invalid"
  let signature ← orElse
    (operatorApprovalSignature (receipt.erase "signature") expected.verificationKey)
    "operator-approval-body-invalid"
  demand (← compareDigest (receipt.value "signature") signature) "operator-approval-signature-invalid"
  demand (receipt.value "approval_type" = .str operatorApprovalType) "operator-approval-type-invalid"
  demand (receipt.value "version" = .int 1) "operator-approval-version-invalid"
  demand (receipt.value "change_type" = .str changeType.text)
    "operator-approval-change-type-mismatch"
  demand (receipt.value "actor_id" = .str expected.actorId) "operator-approval-actor-mismatch"
  demand (receipt.value "identity_source" = .str expected.identitySource)
    "operator-approval-identity-source-mismatch"
  requireTexts receipt receiptTextFields
  demand (!seenNonces.contains (receipt.value "nonce")) "operator-approval-replayed"
  let artifacts ← orElse (do
    let beforeSha256 ← canonicalAuthoritySha256 before
    let afterSha256 ← canonicalAuthoritySha256 after
    return (beforeSha256, afterSha256)) "operator-approval-artifact-invalid"
  demand (receipt.value "before_sha256" = artifacts.1) "operator-approval-before-sha256-mismatch"
  demand (receipt.value "after_sha256" = artifacts.2) "operator-approval-after-sha256-mismatch"

/-- Whether a receipt is good for a complete task. -/
def requireScope (scope : Json) : Except PyError Unit :=
  match spelled? Scope.text scopes scope with
  | none => .error (authorityError "operator-approval-scope-invalid")
  | some scope => demand (Scope.completeTask.rank ≤ scope.rank) "operator-approval-scope-insufficient"

/-- Whether a receipt is valid at a time and for a task. -/
def verifyValidity (now : Int) (receipt : Json) : Except PyError Unit := do
  let issued ← parseUtcTimestamp fromIsoformat "operator-approval-issued-at"
    (receipt.value "issued_at")
  let expires ← parseUtcTimestamp fromIsoformat "operator-approval-expires-at"
    (receipt.value "expires_at")
  demand (issued < expires) "operator-approval-expiry-window-invalid"
  demand (issued ≤ now) "operator-approval-not-yet-valid"
  demand (now < expires) "operator-approval-expired"
  requireScope (receipt.value "authorized_scope")
  let parent := receipt.value "parent_receipt_sha256"
  demand (parent = .null || isSha256 parent) "operator-approval-parent-receipt-invalid"

def mintApproval (receipt : Json) : Except PyError Approval := do
  let sourceSha256 ← canonicalAuthoritySha256 (receipt.erase "signature")
  let receiptSha256 ← canonicalAuthoritySha256 receipt
  let authority ← sealAuthority (operatorAuthority expected receipt sourceSha256 receiptSha256)
  let audit := auditRecord receipt receiptSha256 authority
  let errors ← validateOperatorApprovalAudit fromIsoformat audit
  demand errors.isEmpty ("operator-approval-audit-invalid:" ++ joinWith ";" errors)
  return ⟨audit, authority⟩

def verifyOperatorApproval (changeType : ChangeType) (before after : Json)
    (seenNonces : List Json) (now : Int) (receipt : Json) : Except PyError Approval := do
  let receipt ← canonicalJsonObject "operator-approval-receipt" receipt
  verifyBinding expected changeType before after seenNonces receipt
  verifyValidity fromIsoformat now receipt
  mintApproval fromIsoformat expected receipt

def requireExactResult (before after : Json) (changeType : ChangeType) (approval : Approval) :
    Except PyError Unit := do
  let errors ← validateOperatorApprovalAudit fromIsoformat approval.audit
  demand errors.isEmpty ("operator-approval-result-audit-invalid:" ++ joinWith ";" errors)
  demand (approval.audit.value "change_type" = .str changeType.text &&
      approval.audit.value "before_sha256" = before && approval.audit.value "after_sha256" = after &&
      approval.audit.value "authority_provenance" = approval.authority)
    "operator-approval-result-binding-invalid"

def requireExactResults (before after : Json) : List ChangeType → List Approval → Except PyError Unit
  | changeType :: types, approval :: rest => do
      requireExactResult fromIsoformat before after changeType approval
      requireExactResults before after types rest
  | _, _ => .ok ()

def requireExactOperatorApprovalResults (approvals : List Approval) (assessment : Assessment) :
    Except PyError Unit := do
  demand (approvals.length = assessment.requiredChangeTypes.length)
    "operator-approval-result-set-invalid"
  let before ← canonicalAuthoritySha256 assessment.beforeSubject
  let after ← canonicalAuthoritySha256 assessment.afterSubject
  requireExactResults fromIsoformat before after assessment.requiredChangeTypes approvals

end WorkOrchestration.Native.OperatorApprovals
