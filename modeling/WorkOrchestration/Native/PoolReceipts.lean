import WorkOrchestration.Lib.Binary64
import WorkOrchestration.Native.PoolLeases

/-!
# Pool receipts

The document that closes a run: what every child was, what its callbacks cost,
which leases it held and whether the pool accepts the result.  A receipt of an
admitted pool names its reservation and its dispatch and repeats the admission
of every child.
-/

namespace WorkOrchestration.Native.PoolReceipts

open Lib.Binary64 Lib.Checks Lib.Text Artifacts Authority StopScope
open Accounting Recovery PoolContracts PoolStates
open Control (ControlReceipt TerminalState validateControlTurnReceipt)
open PoolLeases (LeaseState)

/-- `SESSION_DISPOSITIONS`. -/
inductive SessionDisposition where
  | accepted
  | acceptedWithWarning
  | quarantined
  deriving DecidableEq

def SessionDisposition.text : SessionDisposition → String
  | accepted => "accepted"
  | acceptedWithWarning => "accepted-with-warning"
  | quarantined => "quarantined"

/-- `ARTIFACT_DISPOSITIONS`. -/
inductive ArtifactDisposition where
  | accepted
  | independentValidationRequired
  | architectAdjudicationRequired
  | rejected
  deriving DecidableEq

def ArtifactDisposition.text : ArtifactDisposition → String
  | accepted => "accepted"
  | independentValidationRequired => "independent-validation-required"
  | architectAdjudicationRequired => "architect-adjudication-required"
  | rejected => "rejected"

/-- What became of one child: its run, its session and its artifact. -/
structure Disposition where
  runtime : RuntimeDisposition
  session : SessionDisposition
  artifact : ArtifactDisposition

/-- A completed child whose session and artifact are accepted. -/
def Disposition.IsAccepted (disposition : Disposition) : Prop :=
  disposition.runtime = .completed ∧
    (disposition.session = .accepted ∨ disposition.session = .acceptedWithWarning) ∧
    disposition.artifact = .accepted

instance (disposition : Disposition) : Decidable disposition.IsAccepted :=
  inferInstanceAs (Decidable (_ ∧ _ ∧ _))

/-- The runtime dispositions that force a quarantined session and a rejected artifact. -/
def failedRuntimes : List RuntimeDisposition := [.failedContained, .failedAmbiguous, .interrupted]

/-- `POOL_RECEIPT_EXCLUSIVE_TIMING_FIELDS`; milliseconds of a quotient are kept in nanoseconds. -/
structure ReceiptTiming where
  maxCallbackLatencyNs : Nat
  maxPollGapNs : Nat
  pollIntervalMs : Nat
  pollLagToleranceMs : Nat
  callbackNs : Nat
  noncallbackInvokeNs : Nat
  coordinatorNs : Nat
  waitNs : Nat

namespace ReceiptTiming

def json (timing : ReceiptTiming) : Json :=
  .obj [("max_callback_latency_ms", .ratio timing.maxCallbackLatencyNs 1000000),
      ("max_poll_gap_ms", .ratio timing.maxPollGapNs 1000000),
      ("poll_interval_ms", .nat timing.pollIntervalMs),
      ("poll_lag_tolerance_ms", .nat timing.pollLagToleranceMs),
      ("accounting_version", .str "exclusive-v1"), ("callback_ns", .nat timing.callbackNs),
      ("noncallback_invoke_ns", .nat timing.noncallbackInvokeNs),
      ("coordinator_ns", .nat timing.coordinatorNs), ("wait_ns", .nat timing.waitNs)]

def accountedNs (timing : ReceiptTiming) : Nat :=
  timing.callbackNs + timing.noncallbackInvokeNs + timing.coordinatorNs + timing.waitNs

end ReceiptTiming

/-- A true division of nanoseconds by `1_000_000_000`. -/
def secondsOf (ns : Nat) : ℚ := binary64 (ns / 1000000000)

/-- `round(float(seconds) * 1_000_000_000)`, for the seconds of a number of nanoseconds. -/
def reconstructedNs (ns : Nat) : ℤ := roundHalfEven (binary64 (secondsOf ns * 1000000000))

/-- `math.isclose(left, right, rel_tol=0.0, abs_tol=1e-9)`. -/
def CloseSeconds (left right : ℚ) : Prop :=
  left = right ∨ |binary64 (left - right)| ≤ binary64 (1 / 1000000000)

instance (left right : ℚ) : Decidable (CloseSeconds left right) :=
  inferInstanceAs (Decidable (_ ∨ _))

/-- The admission fields that a receipt of an admitted pool repeats for every child. -/
structure ChildAdmission where
  binding : AdmissionBinding
  packetSha256 : Digest

def ChildAdmission.fields (admission : ChildAdmission) : List (String × Json) :=
  [("bead_id", .str admission.binding.beadId.text),
    ("work_unit_id", .str admission.binding.workUnitId.text),
    ("packet_sha256", admission.packetSha256.json),
    ("admitted_child_sha256", admission.binding.admittedChildSha256.json)]

def childAdmission? (child : ChildContract) : Option ChildAdmission :=
  child.admission.map fun binding => ⟨binding, child.packetSha256⟩

structure AdmittedChildReceipt where
  admission : ChildAdmission
  controlReceipt : Option ControlReceipt

/-- An entry of `child_terminal_receipts`. -/
structure ChildTerminalReceipt where
  childId : Name
  receiptSha256 : Digest
  admitted : Option AdmittedChildReceipt

def ChildTerminalReceipt.json (entry : ChildTerminalReceipt) : Json :=
  .obj ([("child_id", .str entry.childId.text), ("receipt_sha256", entry.receiptSha256.json)] ++
    match entry.admitted with
    | none => []
    | some admitted =>
      admitted.admission.fields ++
        [("control_receipt", .optional ControlReceipt.json admitted.controlReceipt)])

structure AdmittedDisposition where
  admission : ChildAdmission
  recoveryProjection : Option RecoveryProjection
  implementationBeadCloseAuthorized : Bool
  parentCloseAuthorized : Bool
  publicationCloseAuthorized : Bool

/-- An entry of `child_dispositions`. -/
structure ChildDisposition where
  childId : Name
  disposition : Disposition
  admitted : Option AdmittedDisposition

def ChildDisposition.json (entry : ChildDisposition) : Json :=
  .obj ([("child_id", .str entry.childId.text),
      ("runtime_disposition", .str entry.disposition.runtime.text),
      ("session_disposition", .str entry.disposition.session.text),
      ("artifact_disposition", .str entry.disposition.artifact.text)] ++
    match entry.admitted with
    | none => []
    | some admitted =>
      admitted.admission.fields ++ [("recovery_projection",
            .optional RecoveryProjection.json admitted.recoveryProjection),
          ("implementation_bead_close_authorized",
            .bool admitted.implementationBeadCloseAuthorized),
          ("parent_close_authorized", .bool admitted.parentCloseAuthorized),
          ("publication_close_authorized", .bool admitted.publicationCloseAuthorized)])

/-- An entry of `lease_evidence`. -/
structure LeaseEvidence where
  leaseId : Name
  leaseSha256 : Digest
  lifecycleState : LeaseState

def LeaseEvidence.json (entry : LeaseEvidence) : Json :=
  .obj [("lease_id", .str entry.leaseId.text), ("lease_sha256", entry.leaseSha256.json),
    ("lifecycle_state", .str entry.lifecycleState.text)]

/-- `mutation_evidence`: the result of a workspace comparison. -/
structure MutationEvidence where
  integrationRootClean : Bool
  sharedReadOnlyClean : Bool
  childWorktreesClean : Bool
  evidenceSha256 : Digest

namespace MutationEvidence

/-- Everything but the evidence's own digest. -/
def body (evidence : MutationEvidence) : Json :=
  .obj [("integration_root_clean", .bool evidence.integrationRootClean),
      ("shared_read_only_clean", .bool evidence.sharedReadOnlyClean),
      ("child_worktrees_clean", .bool evidence.childWorktreesClean)]

def json (evidence : MutationEvidence) : Json :=
  .field "evidence_sha256" evidence.evidenceSha256.json evidence.body

def isClean (evidence : MutationEvidence) : Bool :=
  evidence.integrationRootClean && evidence.sharedReadOnlyClean && evidence.childWorktreesClean

end MutationEvidence

/-- The values of `pool_disposition`. -/
inductive PoolDisposition where
  | accepted
  | partly
  | quarantined
  | rejected
  deriving DecidableEq

def PoolDisposition.text : PoolDisposition → String
  | accepted => "accepted"
  | partly => "partial"
  | quarantined => "quarantined"
  | rejected => "rejected"

/-- The reservation and the dispatch that a receipt of an admitted pool names. -/
structure ReceiptAdmission where
  reservationSha256 : Digest
  dispatchSha256 : Digest

/--
The admission evidence of a pool, as far as a receipt is compared with it;
`dispatchErrors` is the verdict of `validate_dispatch_receipt`.
-/
structure AdmissionEvidence where
  reservationSha256 : Digest
  dispatchSha256 : Digest
  poolContractSha256 : Digest
  dispatchErrors : List String

variable (contract : PoolContract) (receipt : PoolReceipt)

/-- `POOL_RECEIPT_FIELDS_V1`, or `POOL_RECEIPT_FIELDS_V2` when `admitted` is present. -/
structure PoolReceipt where
  poolId : Name
  poolEpoch : Name
  contractSha256 : Digest
  terminalStateSha256 : Digest
  capabilityReceiptSha256 : Option Digest
  admissionOrder : List Name
  pollOrder : List Name
  terminalOrder : List Name
  timing : ReceiptTiming
  childTerminalReceipts : List ChildTerminalReceipt
  finalAggregateUsage : Usage
  poolWallNs : Nat
  workerSeconds : Nat
  leaseEvidence : List LeaseEvidence
  mutationEvidence : MutationEvidence
  reasons : List String
  reasonRecords : List ReasonRecord
  firstProtectedFault : Option FirstProtectedFault
  childDispositions : List ChildDisposition
  poolDisposition : PoolDisposition
  accepting : Bool
  stop : StopMetadata
  admitted : Option ReceiptAdmission
  receiptSha256 : Digest

namespace PoolReceipt

/-- Everything but the receipt's own digest. -/
def body : Json :=
  .obj ([("receipt_type", .str "cwo-native-supervision-pool-receipt"),
      ("version", .int (if receipt.admitted.isSome then 2 else 1)),
      ("schema", .str (if receipt.admitted.isSome then
          "schemas/native-supervision-pool-receipt-v2.schema.json"
        else "schemas/native-supervision-pool-receipt.schema.json")),
      ("pool_id", .str receipt.poolId.text), ("pool_epoch", .str receipt.poolEpoch.text),
      ("contract_sha256", receipt.contractSha256.json),
      ("terminal_state_sha256", receipt.terminalStateSha256.json),
      ("capability_receipt_sha256", .optional Digest.json receipt.capabilityReceiptSha256),
      ("admission_order", .strings (receipt.admissionOrder.map Name.text)),
      ("poll_order", .strings (receipt.pollOrder.map Name.text)),
      ("terminal_order", .strings (receipt.terminalOrder.map Name.text)),
      ("timing", receipt.timing.json),
      ("child_terminal_receipts",
        .arr (receipt.childTerminalReceipts.map ChildTerminalReceipt.json)),
      ("final_aggregate_usage", receipt.finalAggregateUsage.json),
      ("pool_wall_seconds", .ratio receipt.poolWallNs 1000000000),
      ("worker_seconds", .nat receipt.workerSeconds),
      ("lease_evidence", .arr (receipt.leaseEvidence.map LeaseEvidence.json)),
      ("mutation_evidence", receipt.mutationEvidence.json),
      ("reasons", .strings receipt.reasons),
      ("reason_records", .arr (receipt.reasonRecords.map ReasonRecord.json)),
      ("first_protected_fault", .optional FirstProtectedFault.json receipt.firstProtectedFault),
      ("child_dispositions", .arr (receipt.childDispositions.map ChildDisposition.json)),
      ("pool_disposition", .str receipt.poolDisposition.text),
      ("accepting", .bool receipt.accepting)] ++
      receipt.stop.fields ++
      match receipt.admitted with
      | none => []
      | some admitted =>
        [("reservation_sha256", admitted.reservationSha256.json),
          ("dispatch_sha256", admitted.dispatchSha256.json)])

/-- `seal_artifact(receipt_body, "receipt_sha256")`. -/
def sealed : PoolReceipt := { receipt with receiptSha256 := canonicalSha256 receipt.body }

def leaseIds : List Name := receipt.leaseEvidence.map LeaseEvidence.leaseId

end PoolReceipt

/-- The rules about one entry of `child_terminal_receipts`. -/
def childReceiptErrors (admittedV2 : Bool) (index : Nat) (entry : ChildTerminalReceipt) :
    List String :=
  reject (admittedV2 = true ∧ entry.admitted = none) (s!"child-receipt[{index}]-missing-fields:" ++
      "admitted_child_sha256,bead_id,control_receipt,packet_sha256,work_unit_id") ++
  reject (admittedV2 = false ∧ entry.admitted ≠ none) (s!"child-receipt[{index}]-unknown-fields:" ++
      "admitted_child_sha256,bead_id,control_receipt,packet_sha256,work_unit_id") ++
  match entry.admitted.bind AdmittedChildReceipt.controlReceipt with
  | none => []
  | some control =>
    (validateControlTurnReceipt control).map
      (fun error => s!"child-receipt[{index}]-control:" ++ error) ++
    reject (canonicalSha256 control.json ≠ entry.receiptSha256)
      s!"child-receipt[{index}]-control-receipt-sha256-mismatch"

/-- The rules about the disposition of a child of an admitted pool. -/
def admittedDispositionErrors (index : Nat) (runtime : RuntimeDisposition)
    (admitted : AdmittedDisposition) : List String :=
  (match runtime, admitted.recoveryProjection with
    | .failedContained, some projection =>
      (validateFixedCohortConsumptionProjection projection).map fun error =>
        s!"child-disposition[{index}]-recovery:" ++ error
    | .failedContained, none =>
      [s!"child-disposition[{index}]-recovery:consumption-projection-must-be-exact-object"]
    | _, some _ => [s!"child-disposition[{index}]-recovery-projection-forbidden"]
    | _, none => []) ++
  reject (admitted.parentCloseAuthorized = true)
    s!"child-disposition[{index}]-parent-close-authorized-must-be-false" ++
  reject (admitted.publicationCloseAuthorized = true)
    s!"child-disposition[{index}]-publication-close-authorized-must-be-false"

/-- The rules about one entry of `child_dispositions`. -/
def childDispositionErrors (admittedV2 : Bool) (index : Nat) (entry : ChildDisposition) :
    List String :=
  let fields :=
    "admitted_child_sha256,bead_id,implementation_bead_close_authorized,packet_sha256," ++
      "parent_close_authorized,publication_close_authorized,recovery_projection,work_unit_id"
  reject (admittedV2 = true ∧ entry.admitted = none)
    (s!"child-disposition[{index}]-missing-fields:" ++ fields) ++
  reject (admittedV2 = false ∧ entry.admitted ≠ none)
    (s!"child-disposition[{index}]-unknown-fields:" ++ fields) ++
  reject (entry.disposition.runtime ∈ failedRuntimes ∧
      (entry.disposition.session ≠ .quarantined ∨ entry.disposition.artifact ≠ .rejected))
    s!"child-disposition[{index}]-failed-runtime-must-be-rejected" ++
  match entry.admitted with
  | none => []
  | some admitted => admittedDispositionErrors index entry.disposition.runtime admitted

/-- The members of a reference order, in that order: `[x for x in order if x in chosen]`. -/
def inOrder (order chosen : List Name) : List Name := order.filter (· ∈ chosen)

/-- The rules that compare a receipt with the contract of its run. -/
def receiptContractErrors : List String :=
  let childIds := contract.childIds
  let leaseIds := contract.children.map ChildContract.leaseId
  reject (receipt.poolId ≠ contract.poolId) "receipt-pool-id-mismatch" ++
  reject (receipt.poolEpoch ≠ contract.poolEpoch) "receipt-pool-epoch-mismatch" ++
  reject (receipt.contractSha256 ≠ contract.contractSha256) "receipt-contract-sha256-mismatch" ++
  reject (receipt.capabilityReceiptSha256 ≠ contract.capabilityReceiptSha256)
    "receipt-capability-receipt-sha256-mismatch" ++
  reject (contract.completionPolicy = .bestEffort ∧ contract.version ≠ .admittedV2)
    "best-effort-requires-admitted-v2" ++
  reject ((∃ entry ∈ receipt.childDispositions, entry.disposition.runtime = .failedContained) ∧
      (contract.completionPolicy ≠ .bestEffort ∨ contract.version ≠ .admittedV2))
    "failed-contained-requires-admitted-v2-best-effort" ++
  (if ¬ receipt.admissionOrder ⊆ childIds then ["admission-order-child-unknown"]
  else
    reject (receipt.admissionOrder ≠ inOrder childIds receipt.admissionOrder)
      "admission-order-mismatch") ++
  reject (¬ receipt.pollOrder ⊆ childIds) "poll-order-child-unknown" ++
  reject (¬ (receipt.terminalOrder ⊆ childIds ∧ childIds ⊆ receipt.terminalOrder))
    "terminal-order-mismatch" ++
  reject (receipt.childTerminalReceipts.map ChildTerminalReceipt.childId ≠ childIds)
    "child-terminal-receipt-order-mismatch" ++
  reject (receipt.childDispositions.map ChildDisposition.childId ≠ childIds)
    "child-disposition-order-mismatch" ++
  (if ¬ receipt.leaseIds ⊆ leaseIds then ["lease-evidence-id-unknown"]
  else
    reject (receipt.leaseIds ≠ inOrder leaseIds receipt.leaseIds)
      "lease-evidence-order-mismatch") ++
  reject (receipt.timing.pollIntervalMs ≠ contract.pollIntervalMs)
    "receipt-poll-interval-mismatch" ++
  reject (receipt.timing.pollLagToleranceMs ≠ contract.pollLagToleranceMs)
    "receipt-poll-lag-tolerance-mismatch"

/-- `implementation_bead_close_authorized`, as the validator expects it. -/
def closeAuthorized (disposition : Disposition) (control : Option ControlReceipt) : Bool :=
  decide disposition.IsAccepted &&
    control.any fun receipt => receipt.terminalState == .completed && receipt.errors == []

/-- The complaint about each admission field that differs from the contract's. -/
def admissionMismatches (label : String) (child : ChildContract) (childId : Name)
    (admission : ChildAdmission) : List String :=
  reject (childId ≠ child.childId) (label ++ "-child-id-mismatch") ++
  reject (some admission.binding.beadId ≠ child.admission.map AdmissionBinding.beadId)
    (label ++ "-bead-id-mismatch") ++
  reject (some admission.binding.workUnitId ≠ child.admission.map AdmissionBinding.workUnitId)
    (label ++ "-work-unit-id-mismatch") ++
  reject (admission.packetSha256 ≠ child.packetSha256) (label ++ "-packet-sha256-mismatch") ++
  reject (some admission.binding.admittedChildSha256 ≠
      child.admission.map AdmissionBinding.admittedChildSha256)
    (label ++ "-admitted-child-sha256-mismatch")

/-- The rules that compare the entries of one child with its admitted contract. -/
def admittedChildErrors (index : Nat) (child : ChildContract)
    (entry : ChildTerminalReceipt) (disposition : ChildDisposition) : List String :=
  let control := entry.admitted.bind AdmittedChildReceipt.controlReceipt
  (match entry.admitted with
    | none => []
    | some admitted =>
      admissionMismatches s!"child-receipt[{index}]" child entry.childId admitted.admission) ++
  reject (∃ receipt ∈ control, receipt.contractSha256 ≠ child.controlContractSha256)
    s!"child-receipt[{index}]-control-contract-sha256-mismatch" ++
  match disposition.admitted with
  | none => []
  | some admitted =>
    admissionMismatches s!"child-disposition[{index}]" child disposition.childId
      admitted.admission ++
    reject (disposition.disposition.runtime = .failedContained ∧
        ∃ projection ∈ admitted.recoveryProjection, ¬ ProjectionBound contract child projection)
      s!"child-disposition[{index}]-recovery-projection-contract-mismatch" ++
    reject (admitted.implementationBeadCloseAuthorized ≠
        closeAuthorized disposition.disposition control)
      s!"child-disposition[{index}]-implementation-close-mismatch" ++
    reject ((∃ receipt ∈ control, receipt.terminalState = .controlFailed) ∧
        admitted.implementationBeadCloseAuthorized = true)
      s!"child-disposition[{index}]-control-failed-close-forbidden"

/-- The rules that compare a receipt of an admitted pool with its admission. -/
def receiptAdmissionErrors (limits : CapacityLimits) (contract : PoolContract)
    (evidence : Option AdmissionEvidence) (receipt : PoolReceipt) : List String :=
  match receipt.admitted with
  | none => []
  | some admitted =>
    reject (contract.version ≠ .admittedV2) "receipt-v2-requires-v2-contract" ++
    (match evidence with
      | none =>
        ["receipt-v2-admission-reservation-required", "receipt-v2-dispatch-receipt-required"]
      | some evidence =>
        (validatePoolContract limits contract).map ("receipt-v2-contract:" ++ ·) ++
        reject (admitted.reservationSha256 ≠ evidence.reservationSha256)
          "receipt-reservation-sha256-mismatch" ++
        evidence.dispatchErrors.map ("receipt-v2-dispatch:" ++ ·) ++
        reject (admitted.dispatchSha256 ≠ evidence.dispatchSha256)
          "receipt-dispatch-sha256-mismatch" ++
        reject (evidence.poolContractSha256 ≠ contract.contractSha256)
          "receipt-dispatch-contract-mismatch") ++
    forEach (contract.children.zip (receipt.childTerminalReceipts.zip receipt.childDispositions))
      fun index entry => admittedChildErrors contract index entry.1 entry.2.1 entry.2.2

/-- The rules that compare the entries of one child with the terminal state. -/
def terminalChildErrors (admittedV2 : Bool) (index : Nat) (child : ChildState)
    (entry : ChildTerminalReceipt) (disposition : ChildDisposition) : List String :=
  reject (entry.childId ≠ child.childId) s!"child-terminal[{index}]-state-child-id-mismatch" ++
  reject (some entry.receiptSha256 ≠ child.childReceiptSha256)
    s!"child-terminal[{index}]-state-receipt-sha256-mismatch" ++
  reject (disposition.childId ≠ child.childId)
    s!"child-disposition[{index}]-state-child-id-mismatch" ++
  reject (disposition.disposition.runtime ≠ child.runtimeDisposition)
    s!"child-disposition[{index}]-state-runtime-mismatch" ++
  reject (admittedV2 = true ∧
      disposition.admitted.bind AdmittedDisposition.recoveryProjection ≠ child.recoveryProjection)
    s!"child-disposition[{index}]-state-recovery-projection-mismatch"

/-- The rules that compare a receipt with the terminal state of its run. -/
def receiptStateErrors (terminal : PoolState) (receipt : PoolReceipt) : List String :=
  let overheadNs := receipt.timing.noncallbackInvokeNs + receipt.timing.coordinatorNs
  reject (receipt.terminalStateSha256 ≠ terminal.stateSha256)
    "receipt-terminal-state-sha256-mismatch" ++
  reject (receipt.finalAggregateUsage ≠ terminal.aggregateUsage)
    "receipt-aggregate-usage-mismatch" ++
  reject (secondsOf receipt.poolWallNs ≠ secondsOf terminal.poolWallNs)
    "receipt-pool-wall-seconds-mismatch" ++
  reject (receipt.workerSeconds ≠ terminal.workerSeconds) "receipt-worker-seconds-mismatch" ++
  reject (¬ CloseSeconds (secondsOf terminal.pollOverheadNs) (secondsOf overheadNs))
    "receipt-poll-overhead-seconds-mismatch" ++
  reject (receipt.firstProtectedFault ≠ terminal.firstProtectedFault)
    "receipt-first-protected-fault-mismatch" ++
  reject (receipt.reasons ≠ terminal.reasons) "receipt-reasons-mismatch" ++
  reject (receipt.reasonRecords ≠ terminal.reasonRecords) "receipt-reason-records-mismatch" ++
  reject (receipt.stop ≠ terminal.stop) "receipt-stop-metadata-mismatch" ++
  forEach (terminal.children.zip (receipt.childTerminalReceipts.zip receipt.childDispositions))
    fun index entry =>
      terminalChildErrors receipt.admitted.isSome index entry.1 entry.2.1 entry.2.2

/-- The rules about a partial pool disposition. -/
def partialErrors : List String :=
  let runtimes := receipt.childDispositions.map fun entry => entry.disposition.runtime
  if receipt.poolDisposition = .partly ∧ receipt.admitted.isSome ∧
      RuntimeDisposition.failedContained ∈ runtimes then
    reject (contract.completionPolicy ≠ .bestEffort) "partial-requires-admitted-v2-best-effort" ++
    reject (RuntimeDisposition.completed ∉ runtimes ∨
        ∃ runtime ∈ runtimes, runtime ≠ .completed ∧ runtime ≠ .failedContained)
      "partial-runtime-chain-invalid" ++
    reject (receipt.accepting = true) "partial-receipt-must-not-accept"
  else []

/-- The rules about an accepting receipt, and about a disposition that claims to be one. -/
def acceptingErrors (terminal : PoolState) (receipt : PoolReceipt) :
    List String :=
  if receipt.accepting = true then
    reject (receipt.poolDisposition ≠ .accepted) "accepting-requires-accepted-disposition" ++
    reject (receipt.reasons ≠ []) "accepting-requires-empty-reasons" ++
    reject (receipt.firstProtectedFault ≠ none) "accepting-forbids-first-protected-fault" ++
    reject (terminal.status ≠ .closed) "accepting-requires-closed-state" ++
    reject (receipt.admissionOrder ≠ contract.childIds) "accepting-requires-complete-admission" ++
    reject (¬ contract.childIds ⊆ receipt.pollOrder) "accepting-requires-complete-poll-evidence" ++
    reject (receipt.leaseIds ≠ contract.children.map ChildContract.leaseId)
      "accepting-requires-complete-lease-evidence" ++
    reject ((contract.pollIntervalMs + contract.pollLagToleranceMs) * 1000000 <
        receipt.timing.maxPollGapNs) "accepting-receipt-poll-gap-exceeded" ++
    reject (receipt.mutationEvidence.isClean = false)
      "accepting-requires-clean-mutation-evidence" ++
    reject (∃ entry ∈ receipt.leaseEvidence, entry.lifecycleState ≠ .released)
      "accepting-requires-released-leases" ++
    reject (∃ entry ∈ receipt.childDispositions, ¬ entry.disposition.IsAccepted)
      "accepting-requires-accepted-children"
  else
    reject (receipt.poolDisposition = .accepted) "accepted-disposition-requires-accepting-receipt"

/-- The rules about the parts of a receipt that need no other document. -/
def receiptErrors : List String :=
  let admittedV2 := receipt.admitted.isSome
  reject (¬ receipt.admissionOrder.Nodup) "duplicate-admission-order" ++
  reject (¬ receipt.terminalOrder.Nodup) "duplicate-terminal-order" ++
  forEach receipt.childTerminalReceipts (childReceiptErrors admittedV2) ++
  reject (¬ (receipt.childTerminalReceipts.map ChildTerminalReceipt.childId).Nodup)
    "duplicate-child-terminal-receipt" ++
  reject (1 < |(receipt.timing.accountedNs : ℤ) - reconstructedNs receipt.poolWallNs|)
    "timing-buckets-do-not-reconcile-with-pool-wall" ++
  reject (¬ receipt.leaseIds.Nodup) "duplicate-lease-evidence" ++
  reject (receipt.mutationEvidence.evidenceSha256 ≠
      canonicalSha256 receipt.mutationEvidence.body) "mutation-evidence-sha256-mismatch" ++
  reject (∃ reason ∈ receipt.reasons, ¬ Nonempty reason) "invalid-reasons"

/-- `validate_pool_receipt` against the contract, the terminal state and the admission of a run. -/
def validatePoolReceipt (limits : CapacityLimits) (contract : PoolContract) (terminal : PoolState)
    (evidence : Option AdmissionEvidence) (receipt : PoolReceipt) : List String :=
  receiptErrors receipt ++
  validateFirstProtectedFault (some terminal.stateSequence) receipt.firstProtectedFault ++
  faultReasonErrors receipt.firstProtectedFault receipt.reasons ++
  validateStopMetadata receipt.stop ++
  validateReasonRecords receipt.reasonRecords receipt.reasons receipt.stop.scopeAuthority ++
  forEach receipt.childDispositions (childDispositionErrors receipt.admitted.isSome) ++
  reject (¬ (receipt.childDispositions.map ChildDisposition.childId).Nodup)
    "duplicate-child-disposition" ++
  receiptContractErrors contract receipt ++
  receiptAdmissionErrors limits contract evidence receipt ++
  receiptStateErrors terminal receipt ++
  partialErrors contract receipt ++
  acceptingErrors contract terminal receipt ++
  reject (receipt.receiptSha256 ≠ canonicalSha256 receipt.body) "receipt-sha256-mismatch"

end WorkOrchestration.Native.PoolReceipts
