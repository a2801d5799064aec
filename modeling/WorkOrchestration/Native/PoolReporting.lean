import WorkOrchestration.Audit.SummaryFixpoints
import WorkOrchestration.Native.PoolReceipts

/-!
# Status reports of a pool

The status report that is built from the bound artifacts of a pool, its projection to the
audit log, and the pools of which that projection comes out of the sanitizer unchanged.
-/

namespace WorkOrchestration.Native.PoolReporting

open List Audit Lib.Checks Lib.Results Lib.Text Artifacts
open Artifacts.Json (isOneOf equalsNat)
open Accounting
open Authority (policyAuthority)
open PoolContracts PoolStates PoolReceipts
open PoolLeases (LeaseState)
open StopScope (StopMetadata buildStopMetadata)

def statusReportType : String := "cwo-native-supervision-pool-status"

/-- `NativePoolReportingError`, a `ValueError`. -/
def reportingError (message : String) : PyError := ⟨.value, "NativePoolReportingError", message⟩

/-- `COMPLETION_POLICIES`. -/
def completionPolicyText : CompletionPolicy → String
  | .allOrNothing => "all-or-nothing"
  | .bestEffort => "best-effort"

/-- `_EXECUTING_CHILD_STATUSES`. -/
def isExecuting : ChildStatus → Bool
  | .armed | .running | .interruptPending | .interruptConfirmed => true
  | _ => false

/-! ## Seconds as they are written -/

/--
The seconds of a state as its document writes them.  A state that a coordinator has sealed
has quotients of its nanoseconds there; its validator takes any number.
-/
structure StateSeconds where
  poolWall : Json
  worker : Json
  pollOverhead : Json

/-- `_is_number`; an integer that is too large for a float makes it raise. -/
def isNumber : Json → Bool
  | .int value => decide (0 ≤ value) && (intToFloat value).isOk
  | .ratio numerator denominator => decide (denominator ≠ 0 ∧ 0 ≤ numerator)
  | _ => false

/-- What `validate_pool_state` says about the seconds. -/
def secondsErrors (state : PoolState) (seconds : StateSeconds) : List String :=
  reject (isNumber seconds.poolWall = false) "invalid-pool-wall-seconds" ++
  reject (isNumber seconds.worker = false) "invalid-worker-seconds" ++
  reject (isNumber seconds.pollOverhead = false) "invalid-poll-overhead-seconds" ++
  reject (equalsNat
      (usageSum (state.children.map ChildState.lastCumulativeUsage)).runtimeSeconds
      seconds.worker = false) "worker-seconds-mismatch"

/-! ## The report -/

/-- One entry of `usage_view`; `_remaining` stops at zero. -/
def usageEntry (used limit : Nat) : Json :=
  .obj [("used", .nat used), ("limit", .nat limit), ("remaining", .nat (limit - used))]

def usageView (budget : Budget) (usage : Usage) : Json :=
  .obj
    [("tool_calls", usageEntry usage.toolCalls budget.toolCalls),
      ("runtime_seconds", usageEntry usage.runtimeSeconds budget.runtimeSeconds),
      ("compactions", usageEntry usage.compactions budget.compactions),
      ("full_suite_runs", usageEntry usage.fullSuiteRuns budget.fullSuiteRuns),
      ("mutations", usageEntry usage.mutations budget.mutations),
      ("tokens", usage.tokens.json)]

variable (receipt : Option PoolReceipt)

/-- `receipt_dispositions.get(child_id)`: of two entries of one child the later one counts. -/
def receiptDisposition? (childId : Name) : Option Disposition :=
  (((receipt.map PoolReceipt.childDispositions).getD []).reverse.find? fun entry =>
    entry.childId = childId).map ChildDisposition.disposition

/-- `receipt_leases.get(lease_id)`. -/
def receiptLease? (leaseId : Name) : Option LeaseEvidence :=
  ((receipt.map PoolReceipt.leaseEvidence).getD []).reverse.find? fun entry =>
    entry.leaseId = leaseId

/-- An entry of `children`. -/
def childEntry (entry : ChildContract × ChildState) : Json :=
  let disposition := receiptDisposition? receipt entry.1.childId
  .obj
    [("ordinal", .nat entry.1.ordinal), ("child_id", .str entry.1.childId.text),
      ("status", .str entry.2.status.text),
      ("runtime_disposition", .str entry.2.runtimeDisposition.text),
      ("usage", entry.2.lastCumulativeUsage.json),
      ("last_deadline_ns", .optional .nat entry.2.lastDeadlineNs),
      ("next_deadline_ns", .optional .nat entry.2.nextDeadlineNs),
      ("session_disposition", .optional (fun held => .str held.session.text) disposition),
      ("artifact_disposition", .optional (fun held => .str held.artifact.text) disposition)]

/-- An entry of `leases`. -/
def leaseEntry (entry : ChildContract × ChildState) : Json :=
  let lease := receiptLease? receipt entry.1.leaseId
  .obj
    [("child_id", .str entry.1.childId.text), ("lease_id", .str entry.1.leaseId.text),
      ("bound", .bool (entry.2.status ≠ .created)),
      ("lifecycle_state", .optional (fun held => .str held.lifecycleState.text) lease),
      ("lease_sha256", .optional (fun held => held.leaseSha256.json) lease)]

/-- The report about artifacts that have been checked. -/
def statusReport (contract : PoolContract) (state : PoolState) (seconds : StateSeconds)
    (receipt : Option PoolReceipt) : Json :=
  let pairs := contract.children.zip state.children
  let count := fun (counts : ChildStatus → Bool) =>
    Json.nat (pairs.filter fun entry => counts entry.2.status).length
  .obj
    [("report_type", .str statusReportType), ("version", .int 1),
      ("pool_id", .str contract.poolId.text), ("pool_epoch", .str contract.poolEpoch.text),
      ("contract_sha256", contract.contractSha256.json), ("state_sha256", state.stateSha256.json),
      ("receipt_sha256", .optional (fun held => held.receiptSha256.json) receipt),
      ("status", .str state.status.text),
      ("completion_policy", .str (completionPolicyText contract.completionPolicy)),
      ("state_sequence", .nat state.stateSequence),
      ("capacity", .obj
        [("configured_workers", .nat contract.children.length),
          ("max_active_workers", .nat contract.maxActiveWorkers),
          ("admitted_workers", count fun status => status ≠ .created),
          ("executing_workers", count isExecuting),
          ("awaiting_close_workers", count fun status => status = .completed),
          ("terminal_workers", .nat state.terminalChildren.length)]),
      ("aggregate_usage", usageView contract.aggregateHardBudget state.aggregateUsage),
      ("timing", .obj
        [("pool_started_monotonic_ns", .nat state.poolStartedMonotonicNs),
          ("pool_wall_seconds", seconds.poolWall), ("worker_seconds", seconds.worker),
          ("poll_overhead_seconds", seconds.pollOverhead),
          ("max_callback_latency_ms",
            .optional (fun held => .ratio held.timing.maxCallbackLatencyNs 1000000) receipt),
          ("max_poll_gap_ms",
            .optional (fun held => .ratio held.timing.maxPollGapNs 1000000) receipt),
          ("poll_interval_ms", .nat contract.pollIntervalMs),
          ("poll_lag_tolerance_ms", .nat contract.pollLagToleranceMs)]),
      ("children", .arr (pairs.map (childEntry receipt))),
      ("leases", .arr (pairs.map (leaseEntry receipt))), ("reasons", .strings state.reasons),
      ("pool_disposition", .optional (fun held => .str held.poolDisposition.text) receipt),
      ("accepting", .optional (fun held => .bool held.accepting) receipt)]

def buildPoolStatusReport (limits : CapacityLimits) (contract : PoolContract) (state : PoolState)
    (seconds : StateSeconds) (receipt : Option PoolReceipt) (evidence : Option AdmissionEvidence) :
    Except PyError Json := do
  let contractErrors := validatePoolContract limits contract
  if contractErrors ≠ [] then
    .error (reportingError ("pool-contract-invalid:" ++ joinWith ";" contractErrors))
  let stateErrors := validatePoolState (some contract) state ++ secondsErrors state seconds
  if stateErrors ≠ [] then
    .error (reportingError ("pool-state-invalid:" ++ joinWith ";" stateErrors))
  match receipt with
  | none => pure ()
  | some held =>
    let receiptErrors := validatePoolReceipt limits contract state evidence held
    if receiptErrors ≠ [] then
      .error (reportingError ("pool-receipt-invalid:" ++ joinWith ";" receiptErrors))
  return statusReport contract state seconds receipt

/-! ## The summary -/

variable (report : Json)

/-- `report.get(key, {}).get(field)`. -/
def partField (key field : String) : Json :=
  ((report.get? key).getD .objEnd).value field

/-- The mappings in `report.get(key, [])`. -/
def partItems (key : String) : List Json :=
  ((((report.get? key).getD .arrEnd).elements?).getD []).filter Json.isObject

/-- `aggregate.get(key, {}).get("used")`. -/
def usedOf (key : String) : Json :=
  ((((report.get? "aggregate_usage").getD .objEnd).get? key).getD .objEnd).value "used"

/-- `value or "active"`. -/
def orActive (value : Json) : Json := if value.truthy then value else .str "active"

/-- `native_pool_audit_summary`, for a report whose parts are the objects and lists of a report. -/
def nativePoolAuditSummary : Except PyError Json := do
  if report.get? "report_type" ≠ some (.str statusReportType) then
    .error (reportingError "native-pool-status-report-type-invalid")
  return .obj
    [("version", .int 1), ("pool_id", report.value "pool_id"),
      ("pool_epoch", report.value "pool_epoch"),
      ("contract_sha256", report.value "contract_sha256"),
      ("state_sha256", report.value "state_sha256"),
      ("receipt_sha256", report.value "receipt_sha256"), ("status", report.value "status"),
      ("max_active_workers", partField report "capacity" "max_active_workers"),
      ("configured_workers", partField report "capacity" "configured_workers"),
      ("admitted_workers", partField report "capacity" "admitted_workers"),
      ("executing_workers", partField report "capacity" "executing_workers"),
      ("terminal_workers", partField report "capacity" "terminal_workers"),
      ("aggregate_tool_calls", usedOf report "tool_calls"),
      ("aggregate_runtime_seconds", usedOf report "runtime_seconds"),
      ("aggregate_compactions", usedOf report "compactions"),
      ("aggregate_full_suite_runs", usedOf report "full_suite_runs"),
      ("aggregate_mutations", usedOf report "mutations"),
      ("pool_wall_seconds", partField report "timing" "pool_wall_seconds"),
      ("worker_seconds", partField report "timing" "worker_seconds"),
      ("poll_overhead_seconds", partField report "timing" "poll_overhead_seconds"),
      ("lease_states", .arr (((partItems report "leases").filter fun item =>
        item.value "bound" = .bool true).map fun item => orActive (item.value "lifecycle_state"))),
      ("session_dispositions", .arr (((partItems report "children").filter fun item =>
        (item.value "session_disposition").truthy).map (·.value "session_disposition"))),
      ("artifact_dispositions", .arr (((partItems report "children").filter fun item =>
        (item.value "artifact_disposition").truthy).map (·.value "artifact_disposition"))),
      ("pool_disposition", report.value "pool_disposition"), ("accepting", report.value "accepting")]

/-- What the summary says about the lease of a bound child. -/
def leaseText : Option LeaseEvidence → String
  | none => "active"
  | some lease => lease.lifecycleState.text

section

variable (contract : PoolContract) (state : PoolState) (seconds : StateSeconds)
  (receipt : Option PoolReceipt)

def pairs : List (ChildContract × ChildState) := contract.children.zip state.children

def leaseStates : List String :=
  ((pairs contract state).filter fun entry => entry.2.status ≠ .created).map fun entry =>
    leaseText (receiptLease? receipt entry.1.leaseId)

def sessionDispositions : List String :=
  (pairs contract state).filterMap fun entry =>
    (receiptDisposition? receipt entry.1.childId).map fun held => held.session.text

def artifactDispositions : List String :=
  (pairs contract state).filterMap fun entry =>
    (receiptDisposition? receipt entry.1.childId).map fun held => held.artifact.text

def workers (counts : ChildStatus → Bool) : Nat :=
  ((pairs contract state).filter fun entry => counts entry.2.status).length

def reportSummary : Json :=
  .obj
    [("version", .int 1), ("pool_id", .str contract.poolId.text),
      ("pool_epoch", .str contract.poolEpoch.text), ("contract_sha256", contract.contractSha256.json),
      ("state_sha256", state.stateSha256.json),
      ("receipt_sha256", .optional (fun held => held.receiptSha256.json) receipt),
      ("status", .str state.status.text), ("max_active_workers", .nat contract.maxActiveWorkers),
      ("configured_workers", .nat contract.children.length),
      ("admitted_workers", .nat (workers contract state fun status => status ≠ .created)),
      ("executing_workers", .nat (workers contract state isExecuting)),
      ("terminal_workers", .nat state.terminalChildren.length),
      ("aggregate_tool_calls", .nat state.aggregateUsage.toolCalls),
      ("aggregate_runtime_seconds", .nat state.aggregateUsage.runtimeSeconds),
      ("aggregate_compactions", .nat state.aggregateUsage.compactions),
      ("aggregate_full_suite_runs", .nat state.aggregateUsage.fullSuiteRuns),
      ("aggregate_mutations", .nat state.aggregateUsage.mutations),
      ("pool_wall_seconds", seconds.poolWall), ("worker_seconds", seconds.worker),
      ("poll_overhead_seconds", seconds.pollOverhead),
      ("lease_states", .strings (leaseStates contract state receipt)),
      ("session_dispositions", .strings (sessionDispositions contract state receipt)),
      ("artifact_dispositions", .strings (artifactDispositions contract state receipt)),
      ("pool_disposition", .optional (fun held => .str held.poolDisposition.text) receipt),
      ("accepting", .optional (fun held => .bool held.accepting) receipt)]

end

theorem orActive_lease (lease : Option LeaseEvidence) :
    orActive (.optional (fun held => .str held.lifecycleState.text) lease) =
      .str (leaseText lease) := by
  cases lease with
  | none => rfl
  | some held =>
    obtain ⟨leaseId, leaseSha256, lifecycleState⟩ := held
    cases lifecycleState <;> rfl

section

variable {contract : PoolContract} {state : PoolState} {seconds : StateSeconds}
  {receipt : Option PoolReceipt}

theorem partItems_leases : partItems (statusReport contract state seconds receipt) "leases" =
    (pairs contract state).map (leaseEntry receipt) := by
  change (((Json.arr ((pairs contract state).map (leaseEntry receipt))).elements?).getD []).filter
    Json.isObject = _
  rw [Json.elements?_arr, Option.getD_some, filter_eq_self]
  intro item member
  obtain ⟨entry, _, rfl⟩ := mem_map.mp member
  rfl

theorem partItems_children : partItems (statusReport contract state seconds receipt) "children" =
    (pairs contract state).map (childEntry receipt) := by
  change (((Json.arr ((pairs contract state).map (childEntry receipt))).elements?).getD []).filter
    Json.isObject = _
  rw [Json.elements?_arr, Option.getD_some, filter_eq_self]
  intro item member
  obtain ⟨entry, _, rfl⟩ := mem_map.mp member
  rfl

theorem lease_states_eq :
    (((partItems (statusReport contract state seconds receipt) "leases").filter fun item =>
      item.value "bound" = .bool true).map fun item => orActive (item.value "lifecycle_state")) =
        (leaseStates contract state receipt).map .str := by
  rw [partItems_leases, leaseStates]
  induction pairs contract state with
  | nil => rfl
  | cons entry rest ih =>
    have bound : (leaseEntry receipt entry).value "bound" = .bool (entry.2.status ≠ .created) := rfl
    have lifecycle : orActive ((leaseEntry receipt entry).value "lifecycle_state") =
        .str (leaseText (receiptLease? receipt entry.1.leaseId)) := orActive_lease _
    rw [map_cons, filter_cons, filter_cons, bound]
    by_cases created : entry.2.status = .created
    · simp only [created, ne_eq, not_true_eq_false, decide_false, Json.bool.injEq,
        Bool.false_eq_true, if_false]
      exact ih
    · simp only [created, ne_eq, not_false_eq_true, decide_true, if_true, map_cons]
      rw [lifecycle]
      exact congrArg _ ih

theorem dispositions_eq (receipt : Option PoolReceipt) (field : String) (text : Disposition → String)
    (named : ∀ entry, (childEntry receipt entry).value field =
      .optional (fun held => .str (text held)) (receiptDisposition? receipt entry.1.childId))
    (visible : ∀ held, text held ≠ "") (entries : List (ChildContract × ChildState)) :
    (((entries.map (childEntry receipt)).filter fun item => (item.value field).truthy).map
      (·.value field)) = (entries.filterMap fun entry =>
        (receiptDisposition? receipt entry.1.childId).map text).map .str := by
  induction entries with
  | nil => rfl
  | cons entry rest ih =>
    rw [map_cons, filter_cons, filterMap_cons, named]
    cases found : receiptDisposition? receipt entry.1.childId with
    | none => exact ih
    | some held =>
      have truthy : (Json.optional (fun held => .str (text held)) (some held)).truthy = true := by
        simp [Json.optional, Json.truthy, visible held]
      rw [truthy, if_pos rfl, map_cons, named, found, ih]
      rfl

theorem session_ne_empty (session : SessionDisposition) : session.text ≠ "" := by
  cases session <;> decide

theorem artifact_ne_empty (artifact : ArtifactDisposition) : artifact.text ≠ "" := by
  cases artifact <;> decide

theorem nativePoolAuditSummary_report :
    nativePoolAuditSummary (statusReport contract state seconds receipt) =
      .ok (reportSummary contract state seconds receipt) := by
  have sessions := dispositions_eq receipt "session_disposition"
    (fun held => held.session.text) (fun _ => rfl) (fun _ => session_ne_empty _) (pairs contract state)
  have artifacts := dispositions_eq receipt "artifact_disposition"
    (fun held => held.artifact.text) (fun _ => rfl) (fun _ => artifact_ne_empty _) (pairs contract state)
  unfold nativePoolAuditSummary
  rw [lease_states_eq, partItems_children, sessions, artifacts]
  rfl

end

/-! ## What survives -/

/-- The pools of which the sanitizer knows every word. -/
structure Known (contract : PoolContract) (state : PoolState) (receipt : Option PoolReceipt) :
    Prop where
  status : state.status ≠ .partialDrain
  poolId : Tidy contract.poolId.text
  poolEpoch : Tidy contract.poolEpoch.text
  leases : ∀ entry ∈ contract.children.zip state.children, entry.2.status ≠ .created →
    ∀ held ∈ receipt, ∀ lease ∈ held.leaseEvidence, lease.leaseId = entry.1.leaseId →
      lease.lifecycleState ≠ .acquired ∧ lease.lifecycleState ≠ .held

theorem normalize_of_isNumber {value : Json} (number : isNumber value = true) :
    normalizeNonnegativeNumber value = some value := by
  cases value with
  | int amount =>
    simp only [isNumber, Bool.and_eq_true, decide_eq_true_eq] at number
    exact if_pos number.1
  | ratio numerator denominator =>
    simp only [isNumber, decide_eq_true_eq] at number
    exact if_pos number
  | _ => cases number

theorem normalize_nat (amount : Nat) :
    normalizeNonnegativeNumber (.nat amount) = some (.nat amount) := by
  rw [Json.nat, normalizeNonnegativeNumber, if_pos (Int.natCast_nonneg amount)]

variable {spell : Json → Except PyError String} {summary : Json}

theorem poolSummaryTexts_of_short
    {field : String} (texts : List String) (held : summary.value field = .strings texts)
    (few : texts.length ≤ 50) (short : ∀ text ∈ texts, shortText text = some text) :
    poolSummaryTexts spell summary field = .ok (some (summary.value field)) := by
  have each : ∀ some_texts : List String, (∀ text ∈ some_texts, shortText text = some text) →
      shortTexts spell (some_texts.map .str) = .ok (some_texts.map .str) := by
    intro some_texts
    induction some_texts with
    | nil => exact fun _ => rfl
    | cons first rest ih =>
      intro short
      have here : normalizeShortText spell (.str first) = .ok (some (.str first)) := by
        change Except.ok ((shortText first).map Json.str) = _
        rw [short first mem_cons_self]
        rfl
      rw [map_cons, shortTexts, here, ok_bind,
        ih (forall_mem_cons.mp short).2]
      rfl
  have whole : (texts.map Json.str).take 50 = texts.map Json.str := by
    refine take_of_length_le ?_
    rw [length_map]
    exact few
  unfold poolSummaryTexts normalizeStringList
  rw [held, Json.strings, Json.elements?_arr]
  dsimp only
  rw [whole, each texts short, ok_bind, if_pos rfl]
  rfl

theorem poolSummaryText_str {field text : String} (held : summary.value field = .str text) :
    poolSummaryText spell summary field = .ok (some (summary.value field)) ↔
      shortText text = some text := by
  unfold poolSummaryText
  rw [held]
  change Except.ok ((shortText text).map Json.str) = _ ↔ _
  cases shortText text with
  | none => exact ⟨fun wrong => (by cases wrong), fun wrong => (by cases wrong)⟩
  | some short =>
    simp

theorem poolSummaryText_sha256
    {field : String} (digest : Digest) (held : summary.value field = digest.json) :
    poolSummaryText spell summary field = .ok (some (summary.value field)) := by
  unfold poolSummaryText
  rw [held]
  exact if_neg fun both => (by cases both.1)

theorem words_short : ∀ text ∈ ["partial-drain", "acquired", "held"] ++ nativePoolStatuses ++
    nativePoolDispositions ++ nativePoolLeaseStates ++ nativePoolSessionDispositions ++
    nativePoolArtifactDispositions, shortText text = some text := by decide +kernel

theorem status_short (status : PoolStatus) : shortText status.text = some status.text :=
  words_short status.text (by cases status <;> decide)

theorem status_known (status : PoolStatus) :
    isOneOf nativePoolStatuses (.str status.text) = true ↔ status ≠ .partialDrain := by
  cases status <;> decide

theorem session_short (session : SessionDisposition) : shortText session.text = some session.text :=
  words_short session.text (by cases session <;> decide)

theorem session_known (session : SessionDisposition) :
    isOneOf nativePoolSessionDispositions (.str session.text) = true := by
  cases session <;> decide

theorem artifact_short (artifact : ArtifactDisposition) :
    shortText artifact.text = some artifact.text :=
  words_short artifact.text (by cases artifact <;> decide)

theorem artifact_known (artifact : ArtifactDisposition) :
    isOneOf nativePoolArtifactDispositions (.str artifact.text) = true := by
  cases artifact <;> decide

theorem disposition_short (disposition : PoolDisposition) :
    shortText disposition.text = some disposition.text :=
  words_short disposition.text (by cases disposition <;> decide)

theorem disposition_known (disposition : PoolDisposition) :
    isOneOf nativePoolDispositions (.str disposition.text) = true := by
  cases disposition <;> decide

theorem lifecycle_short (lifecycle : LeaseState) : shortText lifecycle.text = some lifecycle.text :=
  words_short lifecycle.text (by cases lifecycle <;> decide)

theorem lifecycle_known (lifecycle : LeaseState) :
    isOneOf nativePoolLeaseStates (.str lifecycle.text) = true ↔
      lifecycle ≠ .acquired ∧ lifecycle ≠ .held := by
  cases lifecycle <;> decide

theorem lease_short (lease : Option LeaseEvidence) :
    shortText (leaseText lease) = some (leaseText lease) := by
  cases lease with
  | none => exact words_short "active" (by decide)
  | some held => exact lifecycle_short held.lifecycleState

theorem lease_known (lease : Option LeaseEvidence) :
    isOneOf nativePoolLeaseStates (.str (leaseText lease)) = true ↔
      ∀ held ∈ lease, held.lifecycleState ≠ .acquired ∧ held.lifecycleState ≠ .held := by
  cases lease with
  | none => exact ⟨fun _ _ absent => (by cases absent), fun _ => by decide⟩
  | some held =>
    constructor
    · intro known other same
      cases same
      exact (lifecycle_known _).mp known
    · intro all
      exact (lifecycle_known _).mpr (all held rfl)

theorem allOneOf_strings {known texts : List String} :
    allOneOf known (.strings texts) = true ↔ ∀ text ∈ texts, isOneOf known (.str text) = true := by
  unfold allOneOf Json.strings
  rw [Json.elements?_arr, all_eq_true]
  exact forall_mem_map

section

variable {contract : PoolContract} {state : PoolState} {seconds : StateSeconds}
  {receipt : Option PoolReceipt}

theorem receiptLease?_mem {leaseId : Name} {lease : LeaseEvidence}
    (found : receiptLease? receipt leaseId = some lease) :
    ∃ held ∈ receipt, lease ∈ held.leaseEvidence ∧ lease.leaseId = leaseId := by
  have member := mem_reverse.mp (mem_of_find?_eq_some found)
  have named := find?_some found
  cases receipt with
  | none => cases member
  | some held => exact ⟨held, rfl, member, of_decide_eq_true named⟩

theorem receiptLease?_of_mem {held : PoolReceipt} (distinct : held.leaseIds.Nodup)
    {lease : LeaseEvidence} (member : lease ∈ held.leaseEvidence) :
    receiptLease? (some held) lease.leaseId = some lease := by
  have found : (receiptLease? (some held) lease.leaseId).isSome = true := by
    unfold receiptLease?
    rw [find?_isSome]
    exact ⟨lease, mem_reverse.mpr member, decide_eq_true rfl⟩
  obtain ⟨other, same⟩ := Option.isSome_iff_exists.mp found
  obtain ⟨holder, inReceipt, inside, named⟩ := receiptLease?_mem same
  cases inReceipt
  rw [same, inj_on_of_nodup_map distinct inside member named]

theorem leaseStates_known (distinct : ∀ held ∈ receipt, held.leaseIds.Nodup) :
    allOneOf nativePoolLeaseStates (.strings (leaseStates contract state receipt)) = true ↔
      ∀ entry ∈ contract.children.zip state.children, entry.2.status ≠ .created →
        ∀ held ∈ receipt, ∀ lease ∈ held.leaseEvidence, lease.leaseId = entry.1.leaseId →
          lease.lifecycleState ≠ .acquired ∧ lease.lifecycleState ≠ .held := by
  rw [allOneOf_strings, leaseStates, forall_mem_map]
  simp only [mem_filter, decide_eq_true_eq, and_imp]
  refine forall_congr' fun entry => forall_congr' fun _ => forall_congr' fun _ => ?_
  rw [lease_known]
  constructor
  · rintro all held rfl lease member named
    refine all lease ?_
    rw [← named]
    exact receiptLease?_of_mem (distinct held rfl) member
  · intro all lease found
    obtain ⟨held, inReceipt, member, named⟩ := receiptLease?_mem found
    exact all held inReceipt lease member named

theorem short_of_sessions : ∀ text ∈ sessionDispositions contract state receipt,
    shortText text = some text ∧ isOneOf nativePoolSessionDispositions (.str text) = true := by
  intro text member
  obtain ⟨entry, _, found⟩ := mem_filterMap.mp member
  obtain ⟨held, _, rfl⟩ := Option.map_eq_some_iff.mp found
  exact ⟨session_short held.session, session_known held.session⟩

theorem short_of_artifacts : ∀ text ∈ artifactDispositions contract state receipt,
    shortText text = some text ∧ isOneOf nativePoolArtifactDispositions (.str text) = true := by
  intro text member
  obtain ⟨entry, _, found⟩ := mem_filterMap.mp member
  obtain ⟨held, _, rfl⟩ := Option.map_eq_some_iff.mp found
  exact ⟨artifact_short held.artifact, artifact_known held.artifact⟩

theorem short_of_leases : ∀ text ∈ leaseStates contract state receipt, shortText text = some text := by
  intro text member
  obtain ⟨entry, _, rfl⟩ := mem_map.mp member
  exact lease_short _

theorem pairs_few (contract : PoolContract) (few : state.children.length ≤ 50) :
    (pairs contract state).length ≤ 50 := by
  unfold pairs
  rw [length_zip]
  omega

theorem numbers_kept (wall : isNumber seconds.poolWall = true)
    (worker : isNumber seconds.worker = true) (overhead : isNumber seconds.pollOverhead = true) :
    ∀ field ∈ nativePoolNumericFields,
      normalizeNonnegativeNumber ((reportSummary contract state seconds receipt).value field) =
        some ((reportSummary contract state seconds receipt).value field) := by
  intro field member
  simp only [nativePoolNumericFields, mem_cons, not_mem_nil, or_false] at member
  rcases member with rfl | rfl | rfl | rfl | rfl | rfl | rfl | rfl | rfl | rfl | rfl | rfl | rfl | rfl
  · rfl
  · exact normalize_nat contract.maxActiveWorkers
  · exact normalize_nat contract.children.length
  · exact normalize_nat (workers contract state fun status => status ≠ .created)
  · exact normalize_nat (workers contract state isExecuting)
  · exact normalize_nat state.terminalChildren.length
  · exact normalize_nat state.aggregateUsage.toolCalls
  · exact normalize_nat state.aggregateUsage.runtimeSeconds
  · exact normalize_nat state.aggregateUsage.compactions
  · exact normalize_nat state.aggregateUsage.fullSuiteRuns
  · exact normalize_nat state.aggregateUsage.mutations
  · exact normalize_of_isNumber wall
  · exact normalize_of_isNumber worker
  · exact normalize_of_isNumber overhead

theorem texts_kept_iff :
    (∀ field ∈ nativePoolStringFields,
      poolSummaryText spell (reportSummary contract state seconds receipt) field =
        .ok (some ((reportSummary contract state seconds receipt).value field))) ↔
      Tidy contract.poolId.text ∧ Tidy contract.poolEpoch.text := by
  have pool : (reportSummary contract state seconds receipt).value "pool_id" =
      .str contract.poolId.text := rfl
  have epoch : (reportSummary contract state seconds receipt).value "pool_epoch" =
      .str contract.poolEpoch.text := rfl
  have status : (reportSummary contract state seconds receipt).value "status" =
      .str state.status.text := rfl
  constructor
  · intro kept
    exact ⟨(shortText_eq_some_iff contract.poolId.visible).mp
        ((poolSummaryText_str pool).mp (kept "pool_id" (by decide))),
      (shortText_eq_some_iff contract.poolEpoch.visible).mp
        ((poolSummaryText_str epoch).mp (kept "pool_epoch" (by decide)))⟩
  · rintro ⟨poolTidy, epochTidy⟩ field member
    simp only [nativePoolStringFields, mem_cons, not_mem_nil, or_false] at member
    rcases member with rfl | rfl | rfl | rfl | rfl | rfl | rfl
    · exact (poolSummaryText_str pool).mpr ((shortText_eq_some_iff contract.poolId.visible).mpr poolTidy)
    · exact (poolSummaryText_str epoch).mpr
        ((shortText_eq_some_iff contract.poolEpoch.visible).mpr epochTidy)
    · exact poolSummaryText_sha256 contract.contractSha256 rfl
    · exact poolSummaryText_sha256 state.stateSha256 rfl
    · cases receipt with
      | none => rfl
      | some held => exact poolSummaryText_sha256 held.receiptSha256 rfl
    · exact (poolSummaryText_str status).mpr (status_short state.status)
    · cases receipt with
      | none => rfl
      | some held =>
        have disposition : (reportSummary contract state seconds (some held)).value
            "pool_disposition" = .str held.poolDisposition.text := rfl
        exact (poolSummaryText_str disposition).mpr (disposition_short held.poolDisposition)

theorem lists_kept (few : state.children.length ≤ 50) :
    ∀ field ∈ nativePoolStringListFields,
      poolSummaryTexts spell (reportSummary contract state seconds receipt) field =
        .ok (some ((reportSummary contract state seconds receipt).value field)) := by
  have short := pairs_few contract few
  intro field member
  simp only [nativePoolStringListFields, mem_cons, not_mem_nil, or_false] at member
  rcases member with rfl | rfl | rfl
  · refine poolSummaryTexts_of_short (leaseStates contract state receipt) rfl ?_ short_of_leases
    unfold leaseStates
    rw [length_map]
    exact (length_filter_le _ _).trans short
  · refine poolSummaryTexts_of_short (sessionDispositions contract state receipt) rfl ?_
      fun text member => (short_of_sessions text member).1
    exact (length_filterMap_le _ _).trans short
  · refine poolSummaryTexts_of_short (artifactDispositions contract state receipt) rfl ?_
      fun text member => (short_of_artifacts text member).1
    exact (length_filterMap_le _ _).trans short

theorem words_known_iff (distinct : ∀ held ∈ receipt, held.leaseIds.Nodup) :
    KnownWords (reportSummary contract state seconds receipt) ↔
      state.status ≠ .partialDrain ∧
        ∀ entry ∈ contract.children.zip state.children, entry.2.status ≠ .created →
          ∀ held ∈ receipt, ∀ lease ∈ held.leaseEvidence, lease.leaseId = entry.1.leaseId →
            lease.lifecycleState ≠ .acquired ∧ lease.lifecycleState ≠ .held := by
  rw [← leaseStates_known distinct, ← status_known]
  constructor
  · intro known
    exact ⟨known.status, known.leases⟩
  · rintro ⟨status, leases⟩
    refine ⟨?_, status, ?_, leases, ?_, ?_⟩
    · cases receipt <;> rfl
    · cases receipt with
      | none => exact .inl rfl
      | some held => exact .inr (disposition_known held.poolDisposition)
    · exact allOneOf_strings.mpr fun text member => (short_of_sessions text member).2
    · exact allOneOf_strings.mpr fun text member => (short_of_artifacts text member).2

theorem survives_reportSummary (few : state.children.length ≤ 50)
    (distinct : ∀ held ∈ receipt, held.leaseIds.Nodup)
    (wall : isNumber seconds.poolWall = true) (worker : isNumber seconds.worker = true)
    (overhead : isNumber seconds.pollOverhead = true) :
    Survives spell (reportSummary contract state seconds receipt) ↔
      Known contract state receipt := by
  have complete : (reportSummary contract state seconds receipt).hasExactly
      nativePoolSummaryFields = true := rfl
  rw [survives_iff complete]
  constructor
  · rintro ⟨kept, known⟩
    obtain ⟨poolId, poolEpoch⟩ := texts_kept_iff.mp kept.texts
    obtain ⟨status, leases⟩ := (words_known_iff distinct).mp known
    exact ⟨status, poolId, poolEpoch, leases⟩
  · intro known
    exact ⟨⟨numbers_kept wall worker overhead, texts_kept_iff.mpr ⟨known.poolId, known.poolEpoch⟩,
      lists_kept few⟩, (words_known_iff distinct).mpr ⟨known.status, known.leases⟩⟩

end

theorem children_of_validPoolState {contract : Option PoolContract} {state : PoolState}
    (valid : validatePoolState contract state = []) :
    state.children.length ≤ CapacityLimits.repository.hardMaxActiveWorkers := by
  -- The rule about the children stands before eighteen others.
  iterate 18 replace valid := (append_eq_nil_iff.mp valid).1
  have sized := (append_eq_nil_iff.mp valid).2
  by_contra many
  rw [if_neg fun both => many both.2] at sized
  cases sized

theorem leaseIds_of_validPoolReceipt {limits : CapacityLimits} {contract : PoolContract}
    {terminal : PoolState} {evidence : Option AdmissionEvidence} {receipt : PoolReceipt}
    (valid : validatePoolReceipt limits contract terminal evidence receipt = []) :
    receipt.leaseIds.Nodup := by
  simp only [validatePoolReceipt, append_eq_nil_iff] at valid
  have parts := valid.1.1.1.1.1.1.1.1.1.1.1.1
  simp only [receiptErrors, append_eq_nil_iff, reject_eq_nil, Decidable.not_not] at parts
  exact parts.1.1.2

/-- The summary of the report about valid artifacts survives exactly when its words are known. -/
theorem audit_summary_survives_iff {limits : CapacityLimits} {contract : PoolContract}
    {state : PoolState} {seconds : StateSeconds} {receipt : Option PoolReceipt}
    {evidence : Option AdmissionEvidence} (contractValid : validatePoolContract limits contract = [])
    (stateValid : validatePoolState (some contract) state ++ secondsErrors state seconds = [])
    (receiptValid : ∀ held ∈ receipt, validatePoolReceipt limits contract state evidence held = []) :
    ∃ report summary,
      buildPoolStatusReport limits contract state seconds receipt evidence = .ok report ∧
      nativePoolAuditSummary report = .ok summary ∧
      (Survives spell summary ↔ Known contract state receipt) := by
  refine ⟨statusReport contract state seconds receipt, reportSummary contract state seconds receipt,
    ?_, nativePoolAuditSummary_report, ?_⟩
  · unfold buildPoolStatusReport
    rw [contractValid, stateValid]
    cases receipt with
    | none => rfl
    | some held =>
      dsimp only
      rw [receiptValid held rfl]
      rfl
  · obtain ⟨stateErrors, numbers⟩ := append_eq_nil_iff.mp stateValid
    simp only [secondsErrors, append_eq_nil_iff, reject_eq_nil, Bool.not_eq_false] at numbers
    obtain ⟨⟨⟨wall, worker⟩, overhead⟩, _⟩ := numbers
    have few := children_of_validPoolState stateErrors
    refine survives_reportSummary (few.trans (by decide)) ?_ wall worker overhead
    exact fun held member => leaseIds_of_validPoolReceipt (receiptValid held member)

/-! ### A pool that drains partially -/

theorem canonical_nil : ∀ entry ∈ ([] : List StopScope.ContinuationPath), entry.Canonical := by simp

/-- The stop metadata of a pool that has not stopped. -/
def drainingStop : StopMetadata :=
  (buildStopMetadata .child (policyAuthority ⟨"policy", by decide⟩ .child (by decide) none)
    ⟨[], canonical_nil, nodup_nil⟩).metadata

def drainingState (status : PoolStatus) : PoolState :=
  PoolState.sealed
    { poolId := samplePool
      poolEpoch := sampleEpoch
      contractSha256 := textSha256 "contract"
      stateSequence := 0
      status := status
      owner := ⟨1, 1, textSha256 "boot"⟩
      coordinatorEpoch := 0
      schedulerCursor := 0
      activeChildren := [sampleChild]
      terminalChildren := []
      children :=
        [{  ordinal := 0
            childId := sampleChild
            status := .running
            runtimeDisposition := .active
            recoveryProjection := none
            lastDeadlineNs := none
            nextDeadlineNs := none
            childStateSha256 := none
            childReceiptSha256 := none
            lastCumulativeUsage := zeroUsage
            leaseId := sampleLease }]
      aggregateUsage := zeroUsage
      poolStartedMonotonicNs := 0
      poolWallNs := 0
      workerSeconds := 0
      pollOverheadNs := 0
      leaseBindings := []
      reasons := []
      reasonRecords := []
      firstProtectedFault := none
      controlLossScope := none
      stop := drainingStop
      stateSha256 := textSha256 "state" }

def drainingSeconds : StateSeconds := ⟨.ratio 0 1, .int 0, .ratio 0 1⟩

theorem drainingState_valid :
    validatePoolState (some (sampleContract samplePool)) (drainingState .partialDrain) ++
      secondsErrors (drainingState .partialDrain) drainingSeconds = [] := by
  decide +kernel

theorem audit_summary_survives_iff_draining : ∃ report summary,
    buildPoolStatusReport .repository (sampleContract samplePool) (drainingState .partialDrain)
      drainingSeconds none none = .ok report ∧
    nativePoolAuditSummary report = .ok summary ∧
    (Survives (fun _ => .ok "") summary ↔
      Known (sampleContract samplePool) (drainingState .partialDrain) none) :=
  audit_summary_survives_iff sampleContract_valid drainingState_valid fun _ absent =>
    (by cases absent)

/-- The summary of a pool that drains partially does not come out of the sanitizer. -/
theorem draining_summary_lost :
    ∃ report summary,
      buildPoolStatusReport .repository (sampleContract samplePool) (drainingState .partialDrain)
        drainingSeconds none none = .ok report ∧
      nativePoolAuditSummary report = .ok summary ∧
      ¬ Survives (fun _ => .ok "") summary := by
  refine ⟨statusReport (sampleContract samplePool) (drainingState .partialDrain) drainingSeconds none,
    reportSummary (sampleContract samplePool) (drainingState .partialDrain) drainingSeconds none,
    ?_, nativePoolAuditSummary_report, fun survives => ?_⟩
  · unfold buildPoolStatusReport
    rw [drainingState_valid]
    rfl
  · have known := (survives_iff rfl).mp survives
    exact absurd known.2.status (by decide +kernel)

end WorkOrchestration.Native.PoolReporting
