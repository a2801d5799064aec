import Mathlib.Order.Basic
import WorkOrchestration.Lib.Checks
import WorkOrchestration.Native.Artifacts

/-!
# Authority provenance

Who may authorise a stop of which extent. A provenance record names its source, the acting role and the
widest scope it authorises; a verified authority is a record that its validator accepts.
-/

namespace WorkOrchestration.Native.Authority

open Lib.Checks Lib.Text Artifacts

/-- `AUTHORIZED_SCOPES`, from the narrowest to the widest. -/
inductive Scope where
  | child
  | cohort
  | executionPath
  | completeTask
  | publication
  deriving DecidableEq

namespace Scope

/-- `AUTHORIZED_SCOPE_RANK`. -/
def rank : Scope → Nat
  | child => 0
  | cohort => 1
  | executionPath => 2
  | completeTask => 3
  | publication => 4

def text : Scope → String
  | child => "child"
  | cohort => "cohort"
  | executionPath => "execution-path"
  | completeTask => "complete-task"
  | publication => "publication"

theorem rank_injective : Function.Injective rank := by
  intro left right same
  cases left <;> cases right <;> first | rfl | cases same

/-- `STOP_SCOPES[min(STOP_SCOPE_RANK[left], STOP_SCOPE_RANK[right])]`. -/
def narrower (left right : Scope) : Scope := if left.rank ≤ right.rank then left else right

theorem rank_narrower_le_right (left right : Scope) : (narrower left right).rank ≤ right.rank := by
  unfold narrower
  split <;> omega

end Scope

/-- `AUTHORITY_SOURCE_TYPES`. -/
inductive SourceType where
  | workerDiscovery
  | pmObservation
  | architectJudgment
  | operatorDirective
  | policyEnforcement
  deriving DecidableEq

def SourceType.text : SourceType → String
  | workerDiscovery => "worker-discovery"
  | pmObservation => "pm-observation"
  | architectJudgment => "architect-judgment"
  | operatorDirective => "operator-directive"
  | policyEnforcement => "policy-enforcement"

/-- The roles of `ACTOR_SCOPE_CAPS`. -/
inductive ActorRole where
  | operativeWorker
  | critic
  | projectManager
  | architect
  | supervisorPolicy
  | operator
  deriving DecidableEq

namespace ActorRole

def text : ActorRole → String
  | operativeWorker => "operative-worker"
  | critic => "critic"
  | projectManager => "project-manager"
  | architect => "architect"
  | supervisorPolicy => "supervisor-policy"
  | operator => "operator"

/-- `ACTOR_SCOPE_CAPS`. -/
def scopeCap : ActorRole → Scope
  | operativeWorker => .child
  | critic => .cohort
  | projectManager => .executionPath
  | architect => .completeTask
  | supervisorPolicy => .completeTask
  | operator => .publication

end ActorRole

/-- `SOURCE_ROLE_BINDINGS`. -/
def SourceType.roles : SourceType → List ActorRole
  | workerDiscovery => [.operativeWorker, .critic]
  | pmObservation => [.projectManager]
  | architectJudgment => [.architect]
  | operatorDirective => [.operator]
  | policyEnforcement => [.supervisorPolicy]

def operatorVerificationMethods : List String :=
  ["hmac-sha256-operator-directive-v1", "hmac-sha256-protected-change-v1"]

/-- `AUTHORITY_PROVENANCE_FIELDS`. -/
structure Provenance where
  sourceType : SourceType
  sourceId : String
  sourceSha256 : Digest
  actorId : String
  actorRole : ActorRole
  identitySource : String
  authorizedScope : Scope
  parentReceiptSha256 : Option Digest
  verificationMethod : String
  verificationEvidenceSha256 : Digest
  authoritySha256 : Digest
  deriving DecidableEq

namespace Provenance

/-- Everything but the record's own digest. -/
def body (record : Provenance) : Json :=
  .obj
    [("version", .int 1),
      ("source_type", .str record.sourceType.text),
      ("source_id", .str record.sourceId),
      ("source_sha256", record.sourceSha256.json),
      ("actor_id", .str record.actorId),
      ("actor_role", .str record.actorRole.text),
      ("identity_source", .str record.identitySource),
      ("authorized_scope", .str record.authorizedScope.text),
      ("parent_receipt_sha256", .optional Digest.json record.parentReceiptSha256),
      ("verification",
        .obj
          [("method", .str record.verificationMethod),
            ("evidence_sha256", record.verificationEvidenceSha256.json)])]

def json (record : Provenance) : Json :=
  .field "authority_sha256" record.authoritySha256.json record.body

/-- `_sealed_authority`. -/
def sealed (record : Provenance) : Provenance :=
  { record with authoritySha256 := canonicalSha256 record.body }

end Provenance

def validateAuthorityProvenance (record : Provenance) : List String :=
  reject (record.actorRole ∉ record.sourceType.roles) "authority-provenance-source-role-mismatch" ++
  reject (¬ Nonempty record.sourceId) "authority-provenance-source-id-invalid" ++
  reject (¬ Nonempty record.actorId) "authority-provenance-actor-id-invalid" ++
  reject (¬ Nonempty record.identitySource) "authority-provenance-identity-source-invalid" ++
  reject (record.actorRole.scopeCap.rank < record.authorizedScope.rank)
    "authority-provenance-exceeds-role-cap" ++
  reject (¬ Nonempty record.verificationMethod)
    "authority-provenance-verification-method-invalid" ++
  reject (record.authoritySha256 ≠ canonicalSha256 record.body)
    "authority-provenance-sha256-mismatch" ++
  reject (record.sourceType = .operatorDirective ∧
      record.verificationMethod ∉ operatorVerificationMethods)
    "operator-authority-provenance-verification-invalid" ++
  reject (record.authorizedScope = .publication ∧ record.sourceType ≠ .operatorDirective)
    "publication-scope-requires-operator-directive"

theorem validateAuthorityProvenance_eq_nil {record : Provenance} :
    validateAuthorityProvenance record = [] ↔
      record.actorRole ∈ record.sourceType.roles ∧ Nonempty record.sourceId ∧
        Nonempty record.actorId ∧ Nonempty record.identitySource ∧
        record.authorizedScope.rank ≤ record.actorRole.scopeCap.rank ∧
        Nonempty record.verificationMethod ∧
        record.authoritySha256 = canonicalSha256 record.body ∧
        (record.sourceType = .operatorDirective →
          record.verificationMethod ∈ operatorVerificationMethods) ∧
        (record.authorizedScope = .publication → record.sourceType = .operatorDirective) := by
  simp only [validateAuthorityProvenance, List.append_eq_nil_iff, reject_eq_nil, and_assoc,
    Decidable.not_not, not_lt, ne_eq, not_and]

/-- `VerifiedAuthority`: a record together with its verification. -/
structure VerifiedAuthority where
  payload : Provenance
  verified : validateAuthorityProvenance payload = []

def VerifiedAuthority.authorizedScope (authority : VerifiedAuthority) : Scope :=
  authority.payload.authorizedScope

/-- The record `policy_authority` seals, without a compatibility digest. -/
def policyProvenance (sourceId : Name) (authorizedScope : Scope)
    (sourceSha256 : Option Digest) : Provenance :=
  let sourceHash := sourceSha256.getD (canonicalSha256 (.obj
    [("source_id", .str sourceId.text),
      ("identity_source", .str "repository-policy"),
      ("version", .int 1)]))
  Provenance.sealed
    { sourceType := .policyEnforcement
      sourceId := sourceId.text
      sourceSha256 := sourceHash
      actorId := "native-supervisor-policy"
      actorRole := .supervisorPolicy
      identitySource := "repository-policy"
      authorizedScope := authorizedScope
      parentReceiptSha256 := none
      verificationMethod := "repository-policy-v1"
      verificationEvidenceSha256 := sourceHash
      authoritySha256 := sourceHash }

theorem validate_policyProvenance (sourceId : Name) {authorizedScope : Scope}
    (capped : authorizedScope ≠ .publication) (sourceSha256 : Option Digest) :
    validateAuthorityProvenance (policyProvenance sourceId authorizedScope sourceSha256) = [] := by
  have policyIdentity : Nonempty "native-supervisor-policy" := by decide
  have repositoryPolicy : Nonempty "repository-policy" := by decide
  have policyMethod : Nonempty "repository-policy-v1" := by decide
  have withinCap : authorizedScope.rank ≤ ActorRole.supervisorPolicy.scopeCap.rank := by
    cases authorizedScope <;> first | decide | exact absurd rfl capped
  rw [validateAuthorityProvenance_eq_nil]
  refine ⟨List.mem_singleton_self _, sourceId.visible, policyIdentity, repositoryPolicy, withinCap,
    policyMethod, rfl, ?_, fun publication => absurd publication capped⟩
  intro operator
  exact absurd operator (by simp [policyProvenance, Provenance.sealed])

/--
`policy_authority`: the authority of a deterministic internal rule.  The rule has
a name and never authorises publication, so the constructor cannot fail.
-/
def policyAuthority (sourceId : Name) (authorizedScope : Scope)
    (capped : authorizedScope ≠ .publication) (sourceSha256 : Option Digest) :
    VerifiedAuthority :=
  ⟨policyProvenance sourceId authorizedScope sourceSha256,
    validate_policyProvenance sourceId capped sourceSha256⟩

theorem child_ne_publication : Scope.child ≠ .publication := by decide

/-- One entry of `reason_records`. -/
structure ReasonRecord where
  reason : String
  authorityProvenance : Provenance
  detectedBy : String
  deriving DecidableEq

/-- `build_reason_records` with a detector whose name is fixed. -/
def buildReasonRecords (reasons : List String) (authority : Provenance) (detectedBy : Name) :
    Except PyError (List ReasonRecord) :=
  if ∃ reason ∈ reasons, ¬ Nonempty reason then
    .error ⟨.value, "AuthorityProvenanceError", "authority-reason-record-reason-invalid"⟩
  else if validateAuthorityProvenance authority ≠ [] then
    .error ⟨.value, "AuthorityProvenanceError",
      "authority-reason-record-provenance-invalid:" ++
        joinWith ";" (validateAuthorityProvenance authority)⟩
  else
    .ok (reasons.map fun reason => ⟨reason, authority, detectedBy.text⟩)

theorem buildReasonRecords_eq_ok {reasons : List String} {authority : Provenance}
    {detectedBy : Name} {records : List ReasonRecord} :
    buildReasonRecords reasons authority detectedBy = .ok records ↔
      (∀ reason ∈ reasons, Nonempty reason) ∧ validateAuthorityProvenance authority = [] ∧
        records = reasons.map fun reason => ⟨reason, authority, detectedBy.text⟩ := by
  unfold buildReasonRecords
  split
  · rename_i blank
    simp only [reduceCtorEq, false_iff]
    rintro ⟨visible, _⟩
    obtain ⟨reason, member, empty⟩ := blank
    exact empty (visible reason member)
  · rename_i visible
    push Not at visible
    split
    · rename_i broken
      simp [broken]
    · rename_i valid
      simp only [Decidable.not_not] at valid
      simp only [Except.ok.injEq, valid, true_and]
      exact ⟨fun same => ⟨visible, same.symm⟩, fun both => both.2.symm⟩

end WorkOrchestration.Native.Authority
