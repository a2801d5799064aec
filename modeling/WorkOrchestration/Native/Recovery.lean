import WorkOrchestration.Lib.Checks
import WorkOrchestration.Native.Artifacts

/-!
# Recovery projections

The durable record that a consumed recovery action leaves behind. A contained child fault carries one.
-/

namespace WorkOrchestration.Native.Recovery

open Lib.Checks Lib.Text Artifacts

/-- `CHILD_EVIDENCE_FAILURE_CLASSES`. -/
inductive FailureClass where
  | containedSemanticNoOp
  | contradictoryAuthorityChangingValidation
  | controlSecurityFailure
  | deterministicConstructionFailure
  | individualChildFailure
  | preDispatchTransportFailure
  deriving DecidableEq

namespace FailureClass

def text : FailureClass → String
  | containedSemanticNoOp => "contained-semantic-no-op"
  | contradictoryAuthorityChangingValidation => "contradictory-authority-changing-validation"
  | controlSecurityFailure => "control-security-failure"
  | deterministicConstructionFailure => "deterministic-construction-failure"
  | individualChildFailure => "individual-child-failure"
  | preDispatchTransportFailure => "pre-dispatch-transport-failure"

def all : List FailureClass :=
  [containedSemanticNoOp, contradictoryAuthorityChangingValidation, controlSecurityFailure,
    deterministicConstructionFailure, individualChildFailure, preDispatchTransportFailure]

/-- `_FIXED_COHORT_CLASS_BOUNDARIES`: authority and scope of the recoverable classes. -/
def boundary? : FailureClass → Option (String × String)
  | deterministicConstructionFailure => some ("verified-project-manager", "child")
  | preDispatchTransportFailure => some ("pm-controller-plus-supervisor-policy", "child")
  | containedSemanticNoOp => some ("pm-controller-plus-verified-containment", "child")
  | individualChildFailure => some ("pm-controller-plus-verified-containment", "child")
  | contradictoryAuthorityChangingValidation => none
  | controlSecurityFailure => none

/-- The evidence kind that belongs to a class. -/
def evidenceKind : FailureClass → String
  | containedSemanticNoOp | individualChildFailure => "verified-contained-ledger-dispatch"
  | _ => "controller-observation"

end FailureClass

/-- `_FIXED_COHORT_ALLOWED_ACTIONS`. -/
inductive RecoveryAction where
  | reconstruct
  | replace
  | returnToMainThread
  deriving DecidableEq

def RecoveryAction.text : RecoveryAction → String
  | reconstruct => "reconstruct-same-admitted-bead"
  | replace => "replace-same-admitted-bead"
  | returnToMainThread => "return-same-admitted-bead-to-main-thread"

variable (projection : RecoveryProjection)

/-- `FIXED_COHORT_CONSUMPTION_PROJECTION_FIELDS`. -/
structure RecoveryProjection where
  decisionSha256 : Digest
  evidenceSha256 : Digest
  classificationEvidenceSha256 : Digest
  recoveryEvidenceBindingSha256 : Digest
  evidenceKind : String
  ledgerResultSha256 : Option Digest
  executionBindingSha256 : Digest
  fixedCohortSha256 : Digest
  recoveryClass : FailureClass
  beadId : Name
  admittedWorkUnitId : Name
  workUnitId : Name
  admittedChildSha256 : Digest
  action : RecoveryAction
  requiredAuthority : String
  stopScope : String
  replacementCount : Nat
  constructionAttemptCount : Nat
  terminal : Bool
  consumedRevision : Nat
  persistedRevision : Nat
  priorStateSha256 : Digest
  persistedStateSha256 : Digest
  admissionGrade : String
  dispatchAuthorized : Bool
  auditProjectionSha256 : Digest
  deriving DecidableEq

namespace RecoveryProjection

/-- Everything but the audit digest; a withheld ledger result is the empty text. -/
def body : Json :=
  .obj [("decision_sha256", projection.decisionSha256.json),
      ("evidence_sha256", projection.evidenceSha256.json),
      ("classification_evidence_sha256", projection.classificationEvidenceSha256.json),
      ("recovery_evidence_binding_sha256", projection.recoveryEvidenceBindingSha256.json),
      ("evidence_kind", .str projection.evidenceKind),
      ("ledger_result_sha256", (projection.ledgerResultSha256.map Digest.json).getD (.str "")),
      ("execution_binding_sha256", projection.executionBindingSha256.json),
      ("fixed_cohort_sha256", projection.fixedCohortSha256.json),
      ("recovery_class", .str projection.recoveryClass.text),
      ("bead_id", .str projection.beadId.text),
      ("admitted_work_unit_id", .str projection.admittedWorkUnitId.text),
      ("work_unit_id", .str projection.workUnitId.text),
      ("admitted_child_sha256", projection.admittedChildSha256.json),
      ("action", .str projection.action.text),
      ("required_authority", .str projection.requiredAuthority),
      ("stop_scope", .str projection.stopScope),
      ("replacement_count", .nat projection.replacementCount),
      ("construction_attempt_count", .nat projection.constructionAttemptCount),
      ("terminal", .bool projection.terminal),
      ("consumed_revision", .nat projection.consumedRevision),
      ("persisted_revision", .nat projection.persistedRevision),
      ("prior_state_sha256", projection.priorStateSha256.json),
      ("persisted_state_sha256", projection.persistedStateSha256.json),
      ("admission_grade", .str projection.admissionGrade),
      ("dispatch_authorized", .bool projection.dispatchAuthorized)]

def json (projection : RecoveryProjection) : Json :=
  .field "audit_projection_sha256" projection.auditProjectionSha256.json projection.body

/-- `canonical_recovery_sha256` in the domain of consumption audits. -/
def auditSha256 : Digest :=
  canonicalSha256 (.obj [("domain", .str "native-recovery-fixed-cohort-consumption-audit-v1"),
      ("value", projection.body)])

end RecoveryProjection

/-- The budget counters admit the action that was taken. -/
def actionErrors : List String :=
  if 1 < projection.replacementCount ∨ 1 < projection.constructionAttemptCount then
    ["consumption-projection-budget-count-invalid"]
  else
    match projection.action with
    | .replace =>
      reject (projection.replacementCount ≠ 1 ∨ projection.terminal = true)
        "consumption-projection-replacement-transition-invalid"
    | .reconstruct =>
      reject (projection.constructionAttemptCount ≠ 1 ∨ projection.terminal = true)
        "consumption-projection-reconstruction-transition-invalid"
    | .returnToMainThread =>
      reject (projection.terminal = false) "consumption-projection-return-transition-invalid"

def validateFixedCohortConsumptionProjection : List String :=
  (match projection.recoveryClass.boundary? with
    | none => ["consumption-projection-recovery-class-invalid"]
    | some boundary =>
      reject ((projection.requiredAuthority, projection.stopScope) ≠ boundary)
        "consumption-projection-authority-boundary-invalid") ++
  reject (projection.admissionGrade ≠ "provisional-fixed-cohort")
    "consumption-projection-admission-grade-invalid" ++
  reject (projection.dispatchAuthorized = true)
    "consumption-projection-dispatch-authority-forbidden" ++
  reject (projection.workUnitId ≠ projection.admittedWorkUnitId)
    "consumption-projection-work-unit-mismatch" ++
  reject (projection.persistedRevision ≠ projection.consumedRevision + 1)
    "consumption-projection-revision-transition-invalid" ++
  reject (projection.priorStateSha256 = projection.persistedStateSha256)
    "consumption-projection-state-transition-missing" ++
  actionErrors projection ++
  reject (projection.evidenceKind ≠ projection.recoveryClass.evidenceKind)
    "consumption-projection-evidence-kind-invalid" ++
  (if projection.recoveryClass.evidenceKind = "verified-contained-ledger-dispatch" then
    reject (projection.ledgerResultSha256 = none)
      "consumption-projection-ledger-result-sha256-invalid"
  else
    reject (projection.ledgerResultSha256 ≠ none)
      "consumption-projection-ledger-result-must-be-empty") ++
  reject (projection.auditProjectionSha256 ≠ projection.auditSha256)
    "consumption-projection-audit-hash-mismatch"

end WorkOrchestration.Native.Recovery
