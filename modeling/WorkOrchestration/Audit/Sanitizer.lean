import WorkOrchestration.Lib.Binary64
import WorkOrchestration.Native.Documents

/-!
# Sanitizing audit events

What `sanitize_audit_event` keeps of a caller's event: white-listed fields with
numbers, flags and short texts in them.  Floats are the rationals that they
denote, with denominator zero for the values that are not finite.
-/

namespace WorkOrchestration.Audit

open List Lib.Text Lib.Binary64 Native.Artifacts
open Native.Artifacts.Json (digitLimit isOneOf equalsNat hashable)

/-! ## Field tables -/

def callCategories : List String :=
  ["productive", "validation", "attestation", "fit", "monitoring", "recovery", "pm", "architect",
    "unknown"]

def graphCounterFields : List String :=
  ["beads_total", "beads_open", "beads_closed", "graph_depth", "work_units_total",
    "work_units_open", "work_units_closed", "routine_repair_children", "worker_sessions"]

def sensitiveAuditFields : List String :=
  ["api_key", "authorization", "base_url", "browser_result", "chain_of_thought",
    "chrome_user_data_dir", "config", "config_path", "content", "local_response",
    "manual_prompt", "messages", "model_output", "password", "prompt", "raw", "raw_prompt",
    "raw_response", "raw_transcript", "response", "response_body", "response_text", "secret",
    "selected_snippets", "selectors", "share_url", "transcript"]

def telemetrySignedNumericFields : List String :=
  ["tool_call_calibration_error", "runtime_calibration_error_seconds"]

def telemetryNumericFields : List String :=
  ["agent_model_calls", "attempted_model_calls", "usable_model_calls", "incomplete_model_calls",
    "preflight_attempts", "preflight_successes", "post_attempts", "usable_post_responses",
    "incomplete_post_responses", "retry_count", "retries", "input_tokens", "cached_tokens",
    "output_tokens", "reasoning_tokens", "total_tokens", "active_seconds", "elapsed_seconds",
    "exit_status", "response_chars", "failure_reason_chars", "share_url_chars",
    "local_status_code", "local_response_chars", "local_error_body_chars", "raw_response_chars",
    "reasoning_chars", "final_content_chars", "model_preflight_response_chars",
    "model_preflight_observed_model_count", "model_preflight_elapsed_ms", "preflight_to_post_ms",
    "prompt_chars", "included_artifacts_count", "selected_snippets_count",
    "selected_snippet_lines", "timeout_seconds", "max_input_chars",
    "return_language_finding_count", "unexpected_script_ratio", "planned_tool_calls_hard",
    "interrupt_tool_calls_threshold", "observed_tool_calls", "planned_runtime_seconds_hard",
    "interrupt_runtime_seconds_threshold", "observed_runtime_seconds",
    "observed_context_compactions", "observed_full_suite_runs", "validation_lineage_attempt",
    "arm_to_dispatch_ms", "dispatch_to_first_poll_ms", "max_poll_gap_ms", "late_poll_count",
    "poll_interval_ms", "poll_lag_tolerance_ms", "planned_tool_calls_p50",
    "planned_tool_calls_p90", "planned_runtime_seconds_p50", "planned_runtime_seconds_p90",
    "observed_tokens", "planned_context_reads", "observed_context_reads", "planned_mutations",
    "observed_mutations", "observed_tests_run", "observed_artifacts_completed",
    "projected_tool_calls", "projected_runtime_seconds", "planned_read_to_mutation_ratio",
    "actual_read_to_mutation_ratio", "retained_productive_artifacts",
    "checked_command_complexity_score", "checked_command_exit_code",
    "checked_command_avoided_retry_cycles"]

def telemetryCallCategoryFields : List String := ["call_category"]

def telemetryConvergenceIdentityFields : List String :=
  ["epic_id", "work_unit_id", "packet_id", "session_id", "phase", "event"]

def telemetryBooleanFields : List String :=
  ["execution_enabled", "model_attestation_present", "model_attestation_required",
    "share_url_present", "expert_profile_included", "degraded_packet",
    "disclosure_escalation_approved", "allow_private_dns", "allow_insecure_tls", "tls_verify",
    "tls_ca_bundle_configured", "reasoning_stripped", "reasoning_malformed",
    "response_truncated", "usable_final_content", "provider_error_present",
    "review_surface_mismatch", "review_surface_required_evidence_missing",
    "master_review_packet_only_go_hold", "unicode_normalization_changed",
    "native_supervision_required", "control_action_required", "control_receipt_confirmed",
    "trailing_partial_record_ignored", "monitor_armed_before_dispatch",
    "progress_validation_complete", "progress_pure_waste", "checked_command_hash_match",
    "checked_command_execution_started", "checked_command_mutation_started",
    "checked_command_quarantine_required", "checked_command_quoting_error_prevented"]

def telemetryStringFields : List String :=
  ["epic_id", "work_unit_id", "packet_id", "phase", "call_category", "event", "telemetry_kind",
    "telemetry_status", "telemetry_missing_reason", "telemetry_source",
    "telemetry_target_event_hash", "model", "model_label", "provider_family",
    "provider_retention_class", "job_description_label", "review_surface", "source_inspection",
    "sources_inspected", "sources_not_inspected", "independent_verification",
    "packet_reported_claims", "workerbee_planned_mode", "workerbee_planned_model",
    "workerbee_actual_mode", "workerbee_actual_model", "workerbee_delegation_status",
    "workerbee_delegation_source", "completion_state", "expert_profile", "expert_profile_path",
    "access_profile", "model_profile", "model_attestation_status", "reasoning_label",
    "endpoint_path", "harness", "environment", "role", "agent", "variant", "failure_stage",
    "failure_reason_sha256", "share_url_sha256", "prompt_sha256", "local_response_sha256",
    "local_error_body_sha256", "raw_response_sha256", "reasoning_sha256", "final_content_sha256",
    "completion_status", "response_model_status", "model_preflight_status",
    "model_preflight_required_model", "model_preflight_response_sha256",
    "forbidden_response_sha256", "provider_error_sha256", "packet_output_sha256",
    "tls_verify_source", "tls_ca_bundle_env", "thinking_parser", "response_sanitization",
    "expected_return_language", "expected_return_language_source", "return_language_status",
    "native_supervision_state_id", "native_supervision_decision", "native_supervision_status",
    "native_retry_receipt_sha256", "control_adapter", "control_action", "session_id",
    "control_turn_id", "submission_id", "native_progress_outcome", "native_progress_pm_action",
    "checked_command_id", "checked_command_spec_sha256", "checked_command_mode",
    "checked_command_preflight_status", "checked_command_linter",
    "checked_command_execution_status", "checked_command_failure_class",
    "checked_command_linted_sha256", "checked_command_executed_sha256"]

def telemetryStringListFields : List String :=
  ["telemetry_missing_reasons", "included_artifact_types", "selected_snippet_paths",
    "capability_requirements", "finish_reasons", "forbidden_response_fields",
    "review_surface_mismatch_reasons", "workerbee_planned_lanes", "workerbee_actual_lanes",
    "workerbee_delegation_gap_reasons", "detected_letter_scripts", "native_supervision_reasons",
    "control_receipts", "native_progress_reasons", "native_progress_warnings",
    "retained_artifacts", "checked_command_complexity_reasons", "checked_command_mutated_paths"]

def telemetryUsageFields : List String :=
  ["tool_calls", "runtime_seconds", "context_compactions", "full_suite_runs", "input",
    "input_tokens", "prompt_tokens", "cached_tokens", "output", "output_tokens",
    "completion_tokens", "reasoning_tokens", "total", "total_tokens"]

def auditNumericFields : List String :=
  ["acceptance_score", "malpractice_score", "quota_remaining", "sabotage_score"]

def auditBooleanFields : List String :=
  ["automatic_selection_forbidden", "executor_external", "human_adjudication_required",
    "implementation_blocked", "peer_review_required", "provider_external",
    "quarantine_recommended", "swimlane_violation", "waiver_required"]

def auditStringFields : List String :=
  ["audit_lock_mode", "bead_id", "dispatch_id", "dispatch_mode", "disclosure_stage", "epic_id",
    "event_hash", "event_type", "executor", "executor_key", "hold_classification",
    "access_profile", "local_profile", "opt_in_basis", "operator_approval_ref", "packet_sha256",
    "peer_review_status", "previous_event_hash", "provider_key", "provider_trust_tier",
    "quota_event_type", "quota_stage", "recommended_disposition", "share_boundary",
    "artifact_disposition", "session_disposition", "sol_breakfix_expiry",
    "sol_breakfix_incident_kind", "sol_breakfix_scope", "timestamp", "verdict", "waiver_reason"]

def auditStringListFields : List String :=
  ["hold_reasons", "provider_conflict_domains", "waiver_flags"]

def workspaceMutationNumericFields : List String := ["version"]

def workspaceMutationBooleanFields : List String :=
  ["include_untracked", "mutation_detected", "require_clean", "reverted",
    "unexpected_mutation_detected"]

def workspaceMutationStringFields : List String :=
  ["status_scope", "workspace_mutation_report_type"]

def workspaceMutationStringListFields : List String := ["allowed_paths"]

def workspaceMutationChangeListFields : List String :=
  ["allowed_mutations", "changes", "unexpected_mutations"]

def workspaceMutationChangeFields : List String := ["after", "before", "path"]

def nativePoolSummaryFields : List String :=
  ["version", "pool_id", "pool_epoch", "contract_sha256", "state_sha256", "receipt_sha256",
    "status", "max_active_workers", "configured_workers", "admitted_workers",
    "executing_workers", "terminal_workers", "aggregate_tool_calls", "aggregate_runtime_seconds",
    "aggregate_compactions", "aggregate_full_suite_runs", "aggregate_mutations",
    "pool_wall_seconds", "worker_seconds", "poll_overhead_seconds", "lease_states",
    "session_dispositions", "artifact_dispositions", "pool_disposition", "accepting"]

def nativePoolNumericFields : List String :=
  ["version", "max_active_workers", "configured_workers", "admitted_workers",
    "executing_workers", "terminal_workers", "aggregate_tool_calls", "aggregate_runtime_seconds",
    "aggregate_compactions", "aggregate_full_suite_runs", "aggregate_mutations",
    "pool_wall_seconds", "worker_seconds", "poll_overhead_seconds"]

def nativePoolStringFields : List String :=
  ["pool_id", "pool_epoch", "contract_sha256", "state_sha256", "receipt_sha256", "status",
    "pool_disposition"]

def nativePoolStringListFields : List String :=
  ["lease_states", "session_dispositions", "artifact_dispositions"]

def nativePoolStatuses : List String :=
  ["created", "capability-validated", "admitting", "running", "draining", "interrupt-pending",
    "completed", "closed", "control-failed"]

def nativePoolDispositions : List String := ["accepted", "partial", "quarantined", "rejected"]

def nativePoolLeaseStates : List String :=
  ["active", "released", "release-pending", "orphaned-active"]

def nativePoolSessionDispositions : List String :=
  ["accepted", "accepted-with-warning", "quarantined"]

def nativePoolArtifactDispositions : List String :=
  ["accepted", "independent-validation-required", "architect-adjudication-required", "rejected"]

/-! ## Numbers and texts -/

/-- The first value that a double is too small for. -/
def floatLimit : ℚ := (2 ^ 128) ^ 8

def overflowError : PyError := ⟨.other, "OverflowError", "int too large to convert to float"⟩

def digitsError : PyError :=
  valueError "Exceeds the limit (4300 digits) for integer string conversion"

/-- The float of a finite value. -/
def ofRat (value : ℚ) : Json := .ratio value.num value.den

/-- `float(value)` for an integer. -/
def intToFloat (value : Int) : Except PyError ℚ :=
  if floatLimit ≤ |binary64 value| then .error overflowError else .ok (binary64 value)

def normalizeFiniteNumber : Json → Except PyError (Option Json)
  | .int value => do
      let number ← intToFloat value
      return some (.int number.num)
  | .ratio numerator denominator =>
    if denominator = 0 then .ok none
    else
      let number : ℚ := numerator / denominator
      .ok (some (if number.den = 1 then .int number.num else ofRat number))
  | _ => .ok none

def normalizeNonnegativeNumber : Json → Option Json
  | .int value => if 0 ≤ value then some (.int value) else none
  | .ratio numerator denominator =>
    if denominator ≠ 0 ∧ 0 ≤ numerator then some (.ratio numerator denominator) else none
  | _ => none

/-- `left + right` for numbers that are finite and not negative. -/
def addNumbers : Json → Json → Except PyError (Option Json)
  | .int left, .int right => .ok (some (.int (left + right)))
  | left, right => do
      let some first ← asFloat left | return none
      let some second ← asFloat right | return none
      let sum := binary64 (first + second)
      return some (if floatLimit ≤ sum then .ratio 1 0 else ofRat sum)
where
  asFloat : Json → Except PyError (Option ℚ)
    | .int value => (intToFloat value).map some
    | .ratio numerator denominator => .ok (some (numerator / denominator))
    | _ => .ok none

variable (spell : Json → Except PyError String) (value : Json)

/--
`str(value)` for a value that is no text.  What floats, containers and foreign
objects are spelled as, and whether spelling them raises, is left to `spell`.
-/
def spelling : Json → Except PyError String
  | .null => .ok "None"
  | .bool value => .ok (if value then "True" else "False")
  | .int value => if digitLimit ≤ value.natAbs then .error digitsError else .ok (toString value)
  | .str text => .ok text
  | value => spell value

/-- What is left of a text: words with single blanks between them, cut at 240 characters. -/
def shortText (text : String) : Option String :=
  if strip text = "" then none
  else
    let joined := joinWith " " (words (strip text))
    if 240 < joined.length then
      some (String.ofList (joined.toList.take 225) ++ "...[truncated]")
    else some joined

/-- `normalize_short_text`; the 64 characters of a digest stay as they are. -/
def normalizeShortText : Json → Except PyError (Option Json)
  | .null => .ok none
  | .sha256 preimage => .ok (some (.sha256 preimage))
  | value => do
      let text ← spelling spell value
      return (shortText text).map .str

theorem shortText_ne_empty {text short : String} (kept : shortText text = some short) :
    short ≠ "" := by
  unfold shortText at kept
  split at kept
  · cases kept
  · rename_i left
    have joined := @joinWith_words_ne_empty _ " " (nonempty_strip_of_ne left)
    dsimp only at kept
    split at kept
    · have cut := Option.some.inj kept
      rw [← cut]
      intro empty
      have lengths := congrArg String.length empty
      rw [String.length_append] at lengths
      have marker : "...[truncated]".length = 14 := by decide
      rw [String.length_empty] at lengths
      omega
    · have whole := Option.some.inj kept
      rw [← whole]
      exact joined

theorem shortText_of_solid {text : String}
    (solid : ∀ character ∈ text.toList, isSpace character = false) (nonempty : text ≠ "")
    (short : text.length ≤ 240) : shortText text = some text := by
  unfold shortText
  rw [strip_of_solid solid, if_neg nonempty, words_of_solid solid nonempty]
  have joined : joinWith " " [text] = text := by simp [joinWith]
  rw [joined]
  simp [short]

theorem normalizeShortText_of_solid {text : String}
    (solid : ∀ character ∈ text.toList, isSpace character = false) (nonempty : text ≠ "")
    (short : text.length ≤ 240) :
    normalizeShortText spell (.str text) = .ok (some (.str text)) := by
  change Except.ok ((shortText text).map Json.str) = _
  rw [shortText_of_solid solid nonempty short]
  rfl

theorem truthy_of_normalizeShortText {spell : Json → Except PyError String} {value short : Json}
    (kept : normalizeShortText spell value = .ok (some short)) : short.truthy = true := by
  unfold normalizeShortText at kept
  split at kept
  · cases kept
  · cases kept
    rfl
  · generalize spelling spell value = outcome at kept
    cases outcome with
    | error error => cases kept
    | ok text =>
      have short := Except.ok.inj kept
      obtain ⟨word, left, rfl⟩ := Option.map_eq_some_iff.mp short
      have nonempty := shortText_ne_empty left
      simp [Json.truthy, nonempty]

/-- The short texts of the values, without those of which nothing is left. -/
def shortTexts (spell : Json → Except PyError String) : List Json → Except PyError (List Json)
  | [] => .ok []
  | value :: rest => do
      let text ← normalizeShortText spell value
      let texts ← shortTexts spell rest
      return text.toList ++ texts

def normalizeStringList :
    Except PyError (List Json) :=
  match value.elements? with
  | none => .ok []
  | some items => shortTexts spell (items.take 50)

/-- Write what is left of every named field into a dictionary. -/
def collect (sanitize : String → Except PyError (Option Json)) :
    List String → Json → Except PyError Json
  | [], sanitized => .ok sanitized
  | key :: rest, sanitized => do
      match ← sanitize key with
      | some value => collect sanitize rest (sanitized.set key value)
      | none => collect sanitize rest sanitized

/-- As `collect`, but a field of which nothing is left spoils the dictionary. -/
def collectAll (sanitize : String → Except PyError (Option Json)) :
    List String → Json → Except PyError (Option Json)
  | [], sanitized => .ok (some sanitized)
  | key :: rest, sanitized => do
      match ← sanitize key with
      | some value => collectAll sanitize rest (sanitized.set key value)
      | none => return none

/-! ## Nested objects -/

/-- `_nonnegative_integer_or_null`, with the failure that its callers catch as `none`. -/
def nonnegativeIntegerOrNull : Json → Option Json
  | .null => some .null
  | .int value => if 0 ≤ value then some (.int value) else none
  | _ => none

def sanitizeUsageField (field : String) (candidate : Json) : Except PyError (Option Json) :=
  if candidate = .null then .ok (some .null)
  else if field = "runtime_seconds" then do
    match ← normalizeFiniteNumber candidate with
    | some seconds => return normalizeNonnegativeNumber seconds
    | none => return none
  else if ["tool_calls", "context_compactions", "full_suite_runs"].contains field then
    .ok (nonnegativeIntegerOrNull candidate)
  else .ok (normalizeNonnegativeNumber candidate)

def sanitizeTelemetryUsage : Except PyError (Option Json) :=
  if !value.isObject || value.keys.any (!telemetryUsageFields.contains ·) then .ok none
  else collectAll (fun field => sanitizeUsageField field (value.value field)) value.keys .objEnd

def sanitizeGraphCounters : Except PyError (Option Json) :=
  if !value.isObject || value.keys.any (!graphCounterFields.contains ·) then .ok none
  else
    collectAll (fun field => .ok (nonnegativeIntegerOrNull (value.value field))) value.keys .objEnd

def poolSummaryText (field : String) :
    Except PyError (Option Json) :=
  if value.value field = .null ∧ (field = "receipt_sha256" ∨ field = "pool_disposition") then
    .ok (some .null)
  else normalizeShortText spell (value.value field)

def poolSummaryTexts (field : String) :
    Except PyError (Option Json) :=
  match (value.value field).elements? with
  | none => .ok none
  | some items => do
      let texts ← normalizeStringList spell (value.value field)
      return if texts.length = items.length then some (.arr texts) else none

def allOneOf (texts : List String) (value : Json) : Bool :=
  (value.elements?.getD []).all (isOneOf texts)

def sanitizeNativePoolSummary :
    Except PyError (Option Json) := do
  if !value.hasExactly nativePoolSummaryFields then return none
  let some numeric ← collectAll (fun field => .ok (normalizeNonnegativeNumber (value.value field)))
      nativePoolNumericFields .objEnd
    | return none
  let some texts ← collectAll (poolSummaryText spell value) nativePoolStringFields numeric
    | return none
  let some sanitized ← collectAll (poolSummaryTexts spell value) nativePoolStringListFields texts
    | return none
  let accepting := value.value "accepting"
  let isFlag := match accepting with
    | .null => true
    | .bool _ => true
    | _ => false
  let disposition := sanitized.value "pool_disposition"
  if isFlag && isOneOf nativePoolStatuses (sanitized.value "status") &&
      (disposition == .null || isOneOf nativePoolDispositions disposition) &&
      allOneOf nativePoolLeaseStates (sanitized.value "lease_states") &&
      allOneOf nativePoolSessionDispositions (sanitized.value "session_dispositions") &&
      allOneOf nativePoolArtifactDispositions (sanitized.value "artifact_dispositions") then
    return some (sanitized.set "accepting" accepting)
  return none

def sanitizeArtifactValidation :
    Except PyError (Option Json) := do
  if !value.isObject then return none
  let attemptsUsed := value.value "attempts_used"
  let outcome := value.value "outcome"
  let reason ← normalizeShortText spell (value.value "reason")
  let .bool eligible := value.value "eligible" | return none
  if !equalsNat 1 (value.value "max_attempts") then return none
  hashable attemptsUsed
  if !equalsNat 0 attemptsUsed && !equalsNat 1 attemptsUsed then return none
  hashable outcome
  let some reason := reason | return none
  if !isOneOf ["not-run", "passed", "failed"] outcome then return none
  if equalsNat 0 attemptsUsed && outcome != .str "not-run" then return none
  if equalsNat 1 attemptsUsed && (!isOneOf ["passed", "failed"] outcome || eligible) then
    return none
  return some (.obj [("eligible", .bool eligible), ("max_attempts", value.value "max_attempts"),
    ("attempts_used", attemptsUsed), ("outcome", outcome), ("reason", reason)])

/-- A missing member of a change is written as `null`, an empty one is left out. -/
def sanitizeChangeField (change : Json) (key : String) :
    Except PyError (Option Json) :=
  if change.value key = .null then .ok (some .null)
  else normalizeShortText spell (change.value key)

def sanitizeChanges (spell : Json → Except PyError String) : List Json → Except PyError (List Json)
  | [] => .ok []
  | item :: rest =>
    if item.isObject then do
      let change ← collect (sanitizeChangeField spell item) workspaceMutationChangeFields .objEnd
      let changes ← sanitizeChanges spell rest
      return if change = .objEnd then changes else change :: changes
    else sanitizeChanges spell rest

/-- A field that is kept when it is a flag. -/
def sanitizeFlag : Json → Option Json
  | .bool value => some (.bool value)
  | _ => none

/-- A list that is kept when something is left of it. -/
def sanitizeTexts :
    Except PyError (Option Json) := do
  let texts ← normalizeStringList spell value
  return if texts = [] then none else some (.arr texts)

def sanitizeWorkspaceMutationChanges :
    Except PyError (Option Json) := do
  let changes ← sanitizeChanges spell (value.elements?.getD [])
  return if changes = [] then none else some (.arr changes)

def sanitizeWorkspaceMutation :
    Except PyError (Option Json) := do
  if !value.isObject then return none
  let numeric ← collect (fun key => .ok (normalizeNonnegativeNumber (value.value key)))
    workspaceMutationNumericFields .objEnd
  let flags ← collect (fun key => .ok (sanitizeFlag (value.value key)))
    workspaceMutationBooleanFields numeric
  let texts ← collect (fun key => normalizeShortText spell (value.value key))
    workspaceMutationStringFields flags
  let lists ← collect (fun key => sanitizeTexts spell (value.value key))
    workspaceMutationStringListFields texts
  let sanitized ← collect (fun key => sanitizeWorkspaceMutationChanges spell (value.value key))
    workspaceMutationChangeListFields lists
  return if sanitized = .objEnd then none else some sanitized

/-! ## Events -/

/-- A caller's event, a mapping from distinct names. -/
structure Event where
  fields : List (String × Json)
  distinct : (fields.map Prod.fst).Nodup

def sanitizeNullableShortText : Json → Except PyError (Option Json)
  | .str text => normalizeShortText spell (.str text)
  | .sha256 preimage => normalizeShortText spell (.sha256 preimage)
  | _ => .ok none

/-- What is kept of one field, by the first table that names it. -/
def sanitizeField (key : String) (value : Json) :
    Except PyError (Option Json) :=
  if sensitiveAuditFields.contains key then .ok none
  else if telemetrySignedNumericFields.contains key then normalizeFiniteNumber value
  else if telemetryNumericFields.contains key then .ok (normalizeNonnegativeNumber value)
  else if telemetryCallCategoryFields.contains key then
    .ok (if isOneOf callCategories value then some value else none)
  else if telemetryConvergenceIdentityFields.contains key then
    sanitizeNullableShortText spell value
  else if key = "usage" then sanitizeTelemetryUsage value
  else if key = "graph_counters" then sanitizeGraphCounters value
  else if telemetryBooleanFields.contains key then .ok (sanitizeFlag value)
  else if telemetryStringFields.contains key then normalizeShortText spell value
  else if telemetryStringListFields.contains key then sanitizeTexts spell value
  else if auditNumericFields.contains key then .ok (normalizeNonnegativeNumber value)
  else if auditBooleanFields.contains key then .ok (sanitizeFlag value)
  else if auditStringFields.contains key then normalizeShortText spell value
  else if auditStringListFields.contains key then sanitizeTexts spell value
  else if key = "workspace_mutation" then sanitizeWorkspaceMutation spell value
  else if key = "artifact_validation" then sanitizeArtifactValidation spell value
  else if key = "native_pool_summary" then sanitizeNativePoolSummary spell value
  else .ok none

/-- The table that decides about a field comes after these. -/
def namedBeforeAuditStrings (key : String) : Bool :=
  sensitiveAuditFields.contains key || telemetrySignedNumericFields.contains key ||
    telemetryNumericFields.contains key || telemetryCallCategoryFields.contains key ||
    telemetryConvergenceIdentityFields.contains key || key == "usage" || key == "graph_counters" ||
    telemetryBooleanFields.contains key || telemetryStringFields.contains key ||
    telemetryStringListFields.contains key || auditNumericFields.contains key ||
    auditBooleanFields.contains key

theorem sanitizeField_auditString {key : String} (unnamed : namedBeforeAuditStrings key = false)
    (named : auditStringFields.contains key = true) :
    sanitizeField spell key value = normalizeShortText spell value := by
  simp only [namedBeforeAuditStrings, Bool.or_eq_false_iff, beq_eq_false_iff_ne] at unnamed
  obtain ⟨⟨⟨⟨⟨⟨⟨⟨⟨⟨⟨t₁, t₂⟩, t₃⟩, t₄⟩, t₅⟩, t₆⟩, t₇⟩, t₈⟩, t₉⟩, t₁₀⟩, t₁₁⟩, t₁₂⟩ := unnamed
  unfold sanitizeField
  simp only [t₁, t₂, t₃, t₄, t₅, t₆, t₇, t₈, t₉, t₁₀, t₁₁, t₁₂, named, Bool.false_eq_true,
    if_false, if_true]

/-- The loop over `event.items()`. -/
def sanitizeFields (spell : Json → Except PyError String) :
    List (String × Json) → Json → Except PyError Json
  | [], sanitized => .ok sanitized
  | (key, value) :: rest, sanitized => do
      match ← sanitizeField spell key value with
      | some kept => sanitizeFields spell rest (sanitized.set key kept)
      | none => sanitizeFields spell rest sanitized

/-- The sum of the two token counts where no total was reported. -/
def withTotalTokens (sanitized : Json) : Except PyError Json :=
  match sanitized.get? "total_tokens", sanitized.get? "input_tokens",
    sanitized.get? "output_tokens" with
  | none, some input, some output => do
      match ← addNumbers input output with
      | some total => return sanitized.set "total_tokens" total
      | none => return sanitized
  | _, _, _ => .ok sanitized

def sanitizeAuditEvent (event : Event) :
    Except PyError Json := do
  withTotalTokens (← sanitizeFields spell event.fields .objEnd)

/-! ## What the sanitized event says -/

variable {spell : Json → Except PyError String} {event : Event} {start sanitized : Json}

theorem sanitizeFields_cons {key : String} {value : Json}
    {rest : List (String × Json)} (kept : sanitizeFields spell ((key, value) :: rest) start = .ok sanitized) :
    ∃ left, sanitizeField spell key value = .ok left ∧
      sanitizeFields spell rest ((left.map (start.set key)).getD start) = .ok sanitized := by
  unfold sanitizeFields at kept
  generalize sanitizeField spell key value = outcome at kept
  cases outcome with
  | error error => cases kept
  | ok left =>
    refine ⟨left, rfl, ?_⟩
    cases left with
    | none | some => exact kept

variable {fields : List (String × Json)}

theorem isDict_sanitizeFields (dictionary : start.isDict = true)
    (kept : sanitizeFields spell fields start = .ok sanitized) : sanitized.isDict = true := by
  induction fields generalizing start with
  | nil =>
    cases kept
    exact dictionary
  | cons entry rest ih =>
    obtain ⟨left, _, later⟩ := sanitizeFields_cons kept
    cases left with
    | none => exact ih dictionary later
    | some value => exact ih (Json.isDict_set dictionary _ _) later

theorem get?_sanitizeFields_of_absent {key : String}
    (absent : key ∉ fields.map Prod.fst)
    (kept : sanitizeFields spell fields start = .ok sanitized) :
    sanitized.get? key = start.get? key := by
  induction fields generalizing start with
  | nil =>
    cases kept
    rfl
  | cons entry rest ih =>
    obtain ⟨left, _, later⟩ := sanitizeFields_cons kept
    obtain ⟨apart, absent⟩ := not_or.mp (mt mem_cons.mpr absent)
    rw [ih absent later]
    cases left with
    | none => rfl
    | some value =>
      rw [Option.map_some, Option.getD_some, Json.get?_set, if_neg (Ne.symm apart)]

/-- A field of the event is written as what is kept of it. -/
theorem get?_sanitizeFields_of_mem {key : String} {value : Json}
    (distinct : (fields.map Prod.fst).Nodup) (member : (key, value) ∈ fields)
    (fresh : start.get? key = none)
    (kept : sanitizeFields spell fields start = .ok sanitized) :
    sanitizeField spell key value = .ok (sanitized.get? key) := by
  induction fields generalizing start with
  | nil => cases member
  | cons entry rest ih =>
    obtain ⟨left, sanitizes, later⟩ := sanitizeFields_cons kept
    obtain ⟨apart, distinct⟩ := nodup_cons.mp distinct
    rcases mem_cons.mp member with rfl | deeper
    · rw [get?_sanitizeFields_of_absent apart later, sanitizes]
      cases left with
      | none => simp [fresh]
      | some value => simp
    · apply ih distinct deeper _ later
      have other : entry.1 ≠ key := by
        rintro rfl
        exact apart (mem_map.mpr ⟨_, deeper, rfl⟩)
      cases left with
      | none => exact fresh
      | some value =>
        rw [Option.map_some, Option.getD_some, Json.get?_set, if_neg other]
        exact fresh

/-- `event.get(key)` for a caller's event. -/
def Event.get? (event : Event) (key : String) : Option Json :=
  (event.fields.find? (·.1 = key)).map Prod.snd

theorem get?_sanitizeFields {key : String}
    (kept : sanitizeFields spell event.fields .objEnd = .ok sanitized) :
    (match event.get? key with
      | none => .ok none
      | some value => sanitizeField spell key value) = Except.ok (sanitized.get? key) := by
  unfold Event.get?
  cases found : event.fields.find? (·.1 = key) with
  | none =>
    have absent : key ∉ event.fields.map Prod.fst := by
      intro member
      obtain ⟨entry, inside, rfl⟩ := mem_map.mp member
      have differs := find?_eq_none.mp found entry inside
      simp at differs
    have missing := get?_sanitizeFields_of_absent absent kept
    rw [missing]
    rfl
  | some entry =>
    have same : entry.1 = key := by simpa using find?_some found
    subst same
    exact get?_sanitizeFields_of_mem event.distinct (mem_of_find?_eq_some found) rfl kept

theorem withTotalTokens_ok {document : Json} (totalled : withTotalTokens document = .ok sanitized) :
    sanitized = document ∨ ∃ total, sanitized = document.set "total_tokens" total := by
  unfold withTotalTokens at totalled
  split at totalled
  · rename_i input output _ _ _
    cases sum : addNumbers input output with
    | error error =>
      rw [sum] at totalled
      cases totalled
    | ok total =>
      rw [sum] at totalled
      cases total with
      | none =>
        cases totalled
        exact .inl rfl
      | some total =>
        cases totalled
        exact .inr ⟨total, rfl⟩
  · cases totalled
    exact .inl rfl

theorem sanitizeAuditEvent_ok (kept : sanitizeAuditEvent spell event = .ok sanitized) :
    ∃ document, sanitizeFields spell event.fields .objEnd = .ok document ∧
      withTotalTokens document = .ok sanitized := by
  unfold sanitizeAuditEvent at kept
  cases fields : sanitizeFields spell event.fields .objEnd with
  | error error =>
    rw [fields] at kept
    cases kept
  | ok document =>
    rw [fields] at kept
    exact ⟨document, rfl, kept⟩

theorem isDict_sanitizeAuditEvent (kept : sanitizeAuditEvent spell event = .ok sanitized) :
    sanitized.isDict = true := by
  obtain ⟨document, fields, totalled⟩ := sanitizeAuditEvent_ok kept
  have dictionary := isDict_sanitizeFields rfl fields
  rcases withTotalTokens_ok totalled with rfl | ⟨total, rfl⟩
  · exact dictionary
  · exact Json.isDict_set dictionary _ _

theorem get?_sanitizeAuditEvent
    {key : String} (kept : sanitizeAuditEvent spell event = .ok sanitized)
    (other : key ≠ "total_tokens") :
    (match event.get? key with
      | none => .ok none
      | some value => sanitizeField spell key value) = Except.ok (sanitized.get? key) := by
  obtain ⟨document, fields, totalled⟩ := sanitizeAuditEvent_ok kept
  have field := @get?_sanitizeFields _ _ _ key fields
  rcases withTotalTokens_ok totalled with rfl | ⟨total, rfl⟩
  · exact field
  · rw [Json.get?_set, if_neg (Ne.symm other)]
    exact field

end WorkOrchestration.Audit
