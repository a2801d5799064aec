import WorkOrchestration.Lib.Binary64
import WorkOrchestration.Routing.CurrentAuthority

/-!
# Task-selected fit

The evidence that a model of the portfolio fits a piece of work: the work is classified, and every model
of the portfolio is held against the executor that stands for it.
-/

namespace WorkOrchestration.Routing.TaskSelectedFit

open Lib.Binary64 (binary64)
open Native.Artifacts hiding canonicalSha256
open Native.Artifacts.Json (isOneOf)
open CurrentAuthority

def canonicalSha256 (value : Json) : Digest := Native.Artifacts.canonicalSha256 value.canonical

def dataSensitivityOrder : List String := ["public", "redacted", "internal", "restricted"]

def riskOrder : List String := ["low", "medium", "high", "critical"]

structure SubstantialRule where
  requiredTaskClass : String
  contextTokensP90Min : Nat
  toolCallsP90Min : Nat
  runtimeSecondsP90Min : Nat
  estimatedDiffP90Min : Nat
  writePathsMin : Nat
  behavioralChangesMin : Nat
  minimumSignals : Nat

structure PredictedRule where
  requiredSource : String
  stableContextTokensP90Min : Nat
  stableContextFractionMin : ℚ
  expectedReuseOpportunitiesMin : Nat

structure ObservedRule where
  requiredSource : String
  observedCachedInputTokensMin : Nat
  cachedInputFractionMin : ℚ

structure LunaRule where
  requiredFitMode : String
  commandComplexityMax : Nat
  testConstructionComplexityMax : Nat
  estimatedDiffP90Max : Nat
  writePathsMax : Nat
  behavioralChangesMax : Nat
  toolCallsP90Max : Nat
  repeatableUnitCountMin : Nat

/-- `operative_routing`. -/
structure RoutingPolicy where
  version : Nat
  trustedEvidenceSources : List String
  requiredLifecycleControls : List String
  maxAgeSeconds : Int
  futureSkewSeconds : Int
  substantial : SubstantialRule
  predicted : PredictedRule
  observed : ObservedRule
  lunaFit : LunaRule

/-- `bounded_semantic_readonly`. -/
structure ReadonlyRule where
  enabled : Bool
  taskClass : String
  requiredFitMode : String
  maxContextReads : Nat
  maxToolCallsP90 : Nat
  maxRuntimeSecondsP90 : Nat
  commandComplexityMax : Nat
  testConstructionComplexityMax : Nat
  selfHostingRiskMax : Nat
  liveControlRiskMax : Nat

/-- `task_selected_routing`, version 3. -/
structure TaskPolicy where
  status : String
  active : Bool
  dispatchAuthority : Bool
  boundedSemanticReadonly : ReadonlyRule

structure Executor where
  modelLabel : String
  displayName : String
  maxRisk : String
  maxDataSensitivity : String
  modelRole : String
  external : Bool
  supportsRepoRead : Bool
  supportsRepoWrite : Bool
  supportsShell : Bool
  explicitOptInRequired : Bool
  fallbackOnly : Bool

def Executor.missing : Executor := ⟨"", "", "", "", "", true, false, false, false, false, false⟩

variable (clock : Clock) (policy : RoutingPolicy) (policies : Policies)

/-- The policies that routing reads; an environment has its approved executors and its policy digest. -/
structure Policies where
  task : TaskPolicy
  routing : RoutingPolicy
  registry : String → Option Executor
  approvedFallbackExecutors : String → List String
  taskSelectedPolicySha256 : String → Digest

namespace Policies

def executor (key : String) : Executor := (policies.registry key).getD .missing

/-- `executor_by_model.get(model, "")`; the last approved executor with the label counts. -/
def executorByModel (environment model : String) : String :=
  ((policies.approvedFallbackExecutors environment).reverse.find? fun key =>
    decide ((policies.executor key).modelLabel = model)).getD ""

end Policies

/-- What a validated estimate says. -/
structure WorkEstimate where
  contractVersion : Nat
  taskClass : String
  fitMode : String
  route : String
  operativeRoute : String
  authorityRoute : String
  unresolvedDecisions : Nat
  writePaths : Nat
  readOnly : Bool
  contextTokensP90 : Nat
  toolCallsP90 : Nat
  runtimeSecondsP90 : Nat
  estimatedDiffP50 : Nat
  estimatedDiffP90 : Nat
  behavioralChanges : Nat
  stateMachineChanges : Nat
  schemaChanges : Nat
  expectedContextReads : Nat
  expectedMutations : Nat
  commandComplexity : Nat
  testConstructionComplexity : Nat
  selfHostingRisk : Nat
  liveControlRisk : Nat

/-- Work sizing: the validator of estimates, and the digests of an estimate and of its neutral form. -/
structure WorkSizing where
  read : Json → Except String WorkEstimate
  sha256 : Json → Digest
  neutralSha256 : Json → Except String Digest

def validatedWorkEstimate (sizing : WorkSizing) (source : Json) : Except PyError (WorkEstimate × Digest) := do
  require source.isObject "fallback routing requires a validated native work estimate"
  match sizing.read source with
  | .error errors => .error (valueError ("invalid native work estimate: " ++ errors))
  | .ok estimate =>
    require (decide (estimate.contractVersion = 2))
      "fallback routing requires native work estimate contract version 2"
    return (estimate, sizing.sha256 source)

def neutralWorkEstimate (sizing : WorkSizing) (source : Json) : Except PyError Digest :=
  match sizing.neutralSha256 source with
  | .error errors => .error (valueError ("invalid neutral work estimate: " ++ errors))
  | .ok digest => .ok digest

def fitContextFields : List String := ["bead_id", "wave_id", "fresh_segment", "work_lineage_id"]

def validateContext (context : Json) : Except PyError Unit := do
  require (context.hasExactly fitContextFields)
    "fallback fit context must contain only bead_id, wave_id, fresh_segment, and work_lineage_id"
  require (nonblank (context.value "bead_id") && nonblank (context.value "work_lineage_id"))
    "fallback fit context requires bead_id and work_lineage_id"
  require (decide (context.value "wave_id" = .null) || nonblank (context.value "wave_id"))
    "fallback fit context wave_id must be null or a non-empty string"
  require (decide (context.value "fresh_segment" = .bool true))
    "fallback fit evidence requires a fresh segment"

def cacheProfileFields : List String :=
  ["source", "observed_at", "total_context_tokens_p90", "stable_context_tokens_p90",
    "expected_reuse_opportunities", "repeatable_unit_count", "repeat_template_sha256",
    "observed_input_tokens", "observed_cached_input_tokens", "same_work_lineage",
    "context_plan_sha256", "telemetry_lineage_id", "evidence_sha256"]

def cacheCounters : List String :=
  ["total_context_tokens_p90", "stable_context_tokens_p90", "expected_reuse_opportunities",
    "repeatable_unit_count", "observed_input_tokens", "observed_cached_input_tokens"]

/-- `_sha256(value, field, nullable=True)`. -/
def requireNullableSha256 (label : String) (value : Json) : Except PyError Unit :=
  if value = .null then .ok () else requireSha256 label value

def strippedOrNull (value : Json) : Json := if value = .null then .null else stripped value

/-- The rules on where a cache profile comes from. -/
def requireProvenance (profile context : Json) : Except PyError Unit := do
  let lineage := profile.value "telemetry_lineage_id"
  if profile.value "source" = .str "deterministic-context-plan" then
    require (decide (profile.value "context_plan_sha256" ≠ .null))
      "predicted cache evidence requires context_plan_sha256"
    require (decide (lineage = .null ∧ profile.value "same_work_lineage" = .bool false))
      "predicted cache evidence must not claim session telemetry lineage"
  else
    require (nonblank lineage) "observed cache evidence requires telemetry_lineage_id"
    require (decide (profile.value "same_work_lineage" =
      .bool (decide (lineage = context.value "work_lineage_id"))))
      "cache_profile.same_work_lineage contradicts telemetry lineage"
    require (decide (profile.value "context_plan_sha256" = .null))
      "observed cache evidence must not claim context-plan provenance"

def normalizedProfile (profile : Json) : Json :=
  ((profile.set "repeat_template_sha256" (strippedOrNull (profile.value "repeat_template_sha256"))).set
    "context_plan_sha256" (strippedOrNull (profile.value "context_plan_sha256"))).set
    "evidence_sha256" (stripped (profile.value "evidence_sha256"))

def validateCacheProfile (profile context : Json) : Except PyError Json := do
  require (profile.hasExactly cacheProfileFields) "fallback cache profile has missing or unknown fields"
  require (isOneOf ["deterministic-context-plan", "trusted-session-telemetry"] (profile.value "source"))
    "fallback cache profile source is invalid"
  let _ ← parseTime clock "cache_profile.observed_at" (profile.value "observed_at")
  cacheCounters.forM fun field =>
    require (isIntFrom 0 (profile.value field))
      ("cache_profile." ++ field ++ " must be a non-negative integer")
  require (decide (numberOf (profile.value "stable_context_tokens_p90") ≤
    numberOf (profile.value "total_context_tokens_p90")))
    "cache_profile stable context cannot exceed total context"
  require (decide (numberOf (profile.value "observed_cached_input_tokens") ≤
    numberOf (profile.value "observed_input_tokens")))
    "cache_profile cached input cannot exceed observed input"
  require (isBool (profile.value "same_work_lineage")) "cache_profile.same_work_lineage must be boolean"
  ["repeat_template_sha256", "context_plan_sha256"].forM fun field =>
    requireNullableSha256 ("cache_profile." ++ field) (profile.value field)
  requireSha256 "cache_profile.evidence_sha256" (profile.value "evidence_sha256")
  require (decide (profile.value "telemetry_lineage_id" = .null) ||
    nonblank (profile.value "telemetry_lineage_id"))
    "cache_profile.telemetry_lineage_id must be null or a non-empty string"
  requireProvenance profile context
  return normalizedProfile profile

/-- An age that the policy allows; only an overflow gets past the handler. -/
def fresh (observedAt evaluatedAt : Json) : Except PyError Bool :=
  if policy.maxAgeSeconds ≤ 0 ∨ policy.futureSkewSeconds < 0 then .ok false
  else
    let ages := do
      let observed ← parseTime clock "observed_at" observedAt
      let evaluated ← parseTime clock "evaluated_at" evaluatedAt
      return evaluated - observed
    match ages with
    | .ok age =>
      .ok (decide (-policy.futureSkewSeconds * 1000000 ≤ age ∧ age ≤ policy.maxAgeSeconds * 1000000))
    | .error error => if error.kind = .value then .ok false else .error error

structure Classification where
  substantial : Bool
  substantialSignalCount : Nat
  cacheHeavy : Bool
  cacheEvidenceFresh : Bool
  cachePath : String
  deterministic : Bool
  narrow : Bool
  repeatableHighVolume : Bool
  lunaFit : Bool
  workRouteEligible : Bool
  boundedSemanticReadonly : Bool

def Classification.json (classification : Classification) : Json :=
  .obj [("substantial", .bool classification.substantial),
    ("substantial_signal_count", .nat classification.substantialSignalCount),
    ("cache_heavy", .bool classification.cacheHeavy),
    ("cache_evidence_fresh", .bool classification.cacheEvidenceFresh),
    ("cache_path", .str classification.cachePath),
    ("deterministic", .bool classification.deterministic),
    ("narrow", .bool classification.narrow),
    ("repeatable_high_volume", .bool classification.repeatableHighVolume),
    ("luna_fit", .bool classification.lunaFit),
    ("work_route_eligible", .bool classification.workRouteEligible),
    ("bounded_semantic_readonly", .bool classification.boundedSemanticReadonly)]

/-- The quotient as a double, or zero. -/
def fraction (part whole : Int) : ℚ := if 0 < whole then binary64 (part / whole) else 0

def substantialSignals (rule : SubstantialRule) (estimate : WorkEstimate) : Nat :=
  [decide (rule.contextTokensP90Min ≤ estimate.contextTokensP90),
    decide (rule.toolCallsP90Min ≤ estimate.toolCallsP90),
    decide (rule.runtimeSecondsP90Min ≤ estimate.runtimeSecondsP90),
    decide (rule.estimatedDiffP90Min ≤ estimate.estimatedDiffP90),
    decide (rule.writePathsMin ≤ estimate.writePaths),
    decide (rule.behavioralChangesMin ≤ estimate.behavioralChanges)].countP id

def predictedCacheHeavy (rule : PredictedRule) (cacheFresh : Bool) (profile : Json) : Bool :=
  let total := numberOf (profile.value "total_context_tokens_p90")
  let stable := numberOf (profile.value "stable_context_tokens_p90")
  cacheFresh && decide (profile.value "source" = .str rule.requiredSource) &&
    decide (profile.value "context_plan_sha256" ≠ .null) &&
    decide ((rule.stableContextTokensP90Min : Int) ≤ stable) &&
    decide (rule.stableContextFractionMin ≤ fraction stable total) &&
    decide ((rule.expectedReuseOpportunitiesMin : Int) ≤
      numberOf (profile.value "expected_reuse_opportunities"))

def observedCacheHeavy (rule : ObservedRule) (cacheFresh : Bool) (profile : Json) : Bool :=
  let input := numberOf (profile.value "observed_input_tokens")
  let cached := numberOf (profile.value "observed_cached_input_tokens")
  cacheFresh && decide (profile.value "source" = .str rule.requiredSource) &&
    decide (profile.value "same_work_lineage" = .bool true) && decide (0 < input) &&
    decide ((rule.observedCachedInputTokensMin : Int) ≤ cached) &&
    decide (rule.cachedInputFractionMin ≤ fraction cached input)

def boundedReadonly (rule : ReadonlyRule) (estimate : WorkEstimate) (workRouteEligible : Bool) : Bool :=
  rule.enabled && decide (estimate.taskClass = rule.taskClass) &&
    decide (estimate.fitMode = rule.requiredFitMode) && workRouteEligible && estimate.readOnly &&
    decide (estimate.expectedMutations = 0 ∧ estimate.estimatedDiffP50 = 0 ∧
      estimate.estimatedDiffP90 = 0 ∧ estimate.behavioralChanges = 0 ∧
      estimate.stateMachineChanges = 0 ∧ estimate.schemaChanges = 0) &&
    decide (estimate.expectedContextReads ≤ rule.maxContextReads ∧
      estimate.commandComplexity ≤ rule.commandComplexityMax ∧
      estimate.testConstructionComplexity ≤ rule.testConstructionComplexityMax ∧
      estimate.selfHostingRisk ≤ rule.selfHostingRiskMax ∧
      estimate.liveControlRisk ≤ rule.liveControlRiskMax) &&
    decide (estimate.toolCallsP90 ≤ rule.maxToolCallsP90 ∧
      estimate.runtimeSecondsP90 ≤ rule.maxRuntimeSecondsP90)

def classifyTaskSelectedFit (estimate : WorkEstimate) (profile : Json)
    (evaluatedAt : Json) : Except PyError Classification := do
  let policy := policies.routing
  let luna := policy.lunaFit
  let signals := substantialSignals policy.substantial estimate
  let resolved := decide (estimate.unresolvedDecisions = 0)
  let cacheFresh ← fresh clock policy (profile.value "observed_at") evaluatedAt
  let predicted := predictedCacheHeavy policy.predicted cacheFresh profile
  let observed := observedCacheHeavy policy.observed cacheFresh profile
  let narrow := decide (estimate.estimatedDiffP90 ≤ luna.estimatedDiffP90Max ∧
    estimate.writePaths ≤ luna.writePathsMax ∧ estimate.behavioralChanges ≤ luna.behavioralChangesMax ∧
    estimate.toolCallsP90 ≤ luna.toolCallsP90Max)
  let repeatable := decide ((luna.repeatableUnitCountMin : Int) ≤
    numberOf (profile.value "repeatable_unit_count")) &&
    decide (profile.value "repeat_template_sha256" ≠ .null) && resolved
  let deterministic := decide (estimate.fitMode = luna.requiredFitMode) && resolved &&
    decide (estimate.commandComplexity ≤ luna.commandComplexityMax) &&
    decide (estimate.testConstructionComplexity ≤ luna.testConstructionComplexityMax)
  let eligible := decide (estimate.route = "spark" ∧ estimate.operativeRoute = "spark" ∧
    estimate.authorityRoute = "spark") && resolved
  let readonly := boundedReadonly policies.task.boundedSemanticReadonly estimate eligible
  return {
    substantial := decide (estimate.taskClass = policy.substantial.requiredTaskClass) && resolved &&
      decide (policy.substantial.minimumSignals ≤ signals)
    substantialSignalCount := signals
    cacheHeavy := predicted || observed
    cacheEvidenceFresh := cacheFresh
    cachePath := if predicted then "predicted" else if observed then "observed" else "none"
    deterministic
    narrow
    repeatableHighVolume := repeatable
    lunaFit := (deterministic && (narrow || repeatable)) || readonly
    workRouteEligible := eligible
    boundedSemanticReadonly := readonly }

structure Candidate where
  executor : String
  model : String
  displayName : String
  rank : Nat
  taskFit : String
  quotaDomain : Json
  cachedInputMeteringDomain : Json
  liveAvailable : Bool
  evidenceFresh : Bool
  exactModel : Bool
  controlEligible : Bool
  riskEligible : Bool
  dataSensitivityEligible : Bool
  headroomSufficient : Bool
  aggregateBudgetSufficient : Bool
  modelEvidenceSha256 : Digest
  inclusionReasons : List String
  exclusionReasons : List String

namespace Candidate

def eligible (candidate : Candidate) : Bool := candidate.exclusionReasons.isEmpty

def json (candidate : Candidate) : Json :=
  .obj [("executor", .str candidate.executor), ("model", .str candidate.model),
    ("display_name", .str candidate.displayName), ("policy_rank", .nat candidate.rank),
    ("rank", .nat candidate.rank), ("task_fit", .str candidate.taskFit),
    ("cache_strategy_valid", .bool false), ("quota_domain", candidate.quotaDomain),
    ("cached_input_metering_domain", candidate.cachedInputMeteringDomain),
    ("domain_independent", .bool false), ("live_available", .bool candidate.liveAvailable),
    ("evidence_fresh", .bool candidate.evidenceFresh), ("exact_model", .bool candidate.exactModel),
    ("control_eligible", .bool candidate.controlEligible), ("risk_eligible", .bool candidate.riskEligible),
    ("data_sensitivity_eligible", .bool candidate.dataSensitivityEligible),
    ("headroom_sufficient", .bool candidate.headroomSufficient),
    ("aggregate_budget_sufficient", .bool candidate.aggregateBudgetSufficient),
    ("eligible", .bool candidate.eligible), ("model_evidence_sha256", candidate.modelEvidenceSha256.json),
    ("inclusion_reasons", .strings candidate.inclusionReasons),
    ("exclusion_reasons", .strings candidate.exclusionReasons), ("task_fit_warning", .null),
    ("acknowledgement_required", .bool false)]

end Candidate

/-- `RISK_ORDER.index(level) <= RISK_ORDER.index(maximum)`, where both are in the list. -/
def levelAllowed (order : List String) (level maximum : String) : Bool :=
  order.contains level && order.contains maximum && decide (order.idxOf level ≤ order.idxOf maximum)

def liveModelRecords (evidence : Json) : List Json :=
  let records :=
    if evidence.value "operative_models" = .null then evidence.value "fallbacks"
    else evidence.value "operative_models"
  (records.elements?.getD []).filter Json.isObject

def modelRecord (evidence : Json) (executor model : String) : Json :=
  ((liveModelRecords evidence).find? fun record =>
    decide (stripped (record.value "executor") = .str executor ∧
      stripped (record.value "model") = .str model)).getD .objEnd

def isTrue (value : Json) : Bool := decide (value = .bool true)

def surfaceControlsValid (surface : Json) : Bool :=
  isTrue (surface.value "fresh_session_supported") &&
    isTrue (surface.value "exact_model_attestation_supported") &&
    policy.requiredLifecycleControls.all (fun control =>
      (stringList (surface.value "lifecycle_controls")).contains (.str control)) &&
    isTrue (surface.value "workspace_enforced") && isTrue (surface.value "mutation_enforced")

def isPlainText : Json → Bool
  | .str _ => true
  | .sha256 _ => true
  | _ => false

/-- The part of the context window rule that reads no time. -/
def windowMatches (model : String) (recordSource headroom source : Json) : Bool :=
  headroom.hasExactly ["basis", "context_window_tokens", "reserved_output_tokens", "source_sha256"] &&
    source.hasExactly ["source", "observed_at", "model", "context_window_tokens"] &&
    decide (headroom.value "basis" = .str "fresh-segment-context-window") &&
    isIntFrom 1 (headroom.value "context_window_tokens") &&
    isIntFrom 1 (headroom.value "reserved_output_tokens") &&
    decide (source.value "context_window_tokens" = headroom.value "context_window_tokens") &&
    tidyText (source.value "source") && tidyText (source.value "model") &&
    tidyText (source.value "observed_at") && decide (source.value "model" = .str model) &&
    decide (source.value "source" = recordSource) &&
    policy.trustedEvidenceSources.any (fun trusted => decide (source.value "source" = .str trusted))

def maintenanceContextHeadroomSufficient (record : Json)
    (model : String) (requiredInput : Nat) (recordSource evaluatedAt : Json) : Except PyError Bool := do
  let headroom := record.value "context_headroom"
  let source := record.value "context_window_source"
  if (record.get? "remaining_input_tokens").isSome then return false
  if windowMatches policy model recordSource headroom source = false then return false
  let recent ← fresh clock policy (source.value "observed_at") evaluatedAt
  return recent && isPlainText (headroom.value "source_sha256") &&
    decide (headroom.value "source_sha256" = (canonicalSha256 source).json) &&
    decide ((requiredInput : Int) + numberOf (headroom.value "reserved_output_tokens") ≤
      numberOf (headroom.value "context_window_tokens"))

/-- The rule of a finite budget: enough input tokens, and no claim about context windows. -/
def quotaHeadroomSufficient (record : Json) (requiredInput : Nat) : Bool :=
  isIntFrom requiredInput (record.value "remaining_input_tokens") &&
    (record.get? "context_headroom").isNone && (record.get? "context_window_source").isNone

def taskSelectedBudgetCovers (estimate : WorkEstimate) (budget : Json) : Bool :=
  let reservation := budget.value "reservation"
  let toolCalls := if isMaintenance budget then reservation.value "tool_calls" else budget.value "tool_calls_hard"
  let runtime :=
    if isMaintenance budget then reservation.value "runtime_seconds" else budget.value "runtime_seconds_hard"
  isIntFrom estimate.toolCallsP90 toolCalls && isIntFrom estimate.runtimeSecondsP90 runtime

def textOrNull (value : Json) : Json := if nonblank value then stripped value else .null

def taskSelectedCandidateFit (executorKey model : String) (rank : Nat)
    (evidence : Json) (estimate : WorkEstimate) (classification : Classification) (budget : Json)
    (evaluatedAt : Json) (riskLevel dataSensitivity : String) : Except PyError Candidate := do
  let policy := policies.routing
  let executor := policies.executor executorKey
  let record := modelRecord evidence executorKey model
  let present := record.truthy
  let recordSource :=
    if nonblank (record.value "source") then stripped (record.value "source")
    else stripped (evidence.value "source")
  let recordFresh ← if present then fresh clock policy (record.value "observed_at") evaluatedAt else .ok false
  let exactModel := present && isTrue (record.value "exact_model_available") &&
    decide (stripped (record.value "model") = .str model)
  let controls := present && surfaceControlsValid policy record
  let risk := levelAllowed riskOrder riskLevel executor.maxRisk
  let sensitivity := levelAllowed dataSensitivityOrder dataSensitivity executor.maxDataSensitivity
  let headroom ←
    if isMaintenance budget then
      maintenanceContextHeadroomSufficient clock policy record model estimate.contextTokensP90 recordSource
        evaluatedAt
    else .ok (present && quotaHeadroomSufficient record estimate.contextTokensP90)
  let covered := taskSelectedBudgetCovers estimate budget
  let usable := decide (stripped (record.value "quota_status") = .str "usable")
  let available := decide (stripped (record.value "capacity_status") = .str "available")
  let lunaUnfit := decide (model = lunaModel) && !classification.lunaFit
  let exclusions := [(!present, "trusted-live-model-evidence-missing"),
    (present && !policy.trustedEvidenceSources.any (fun trusted => decide (recordSource = .str trusted)),
      "model-evidence-source-untrusted"),
    (present && !recordFresh, "model-evidence-stale"),
    (present && !exactModel, "exact-model-evidence-mismatch"),
    (present && !isTrue (record.value "available"), "model-not-live-available"),
    (present && !usable, "model-quota-not-usable"),
    (present && !available, "model-capacity-not-available"),
    (present && !controls, "required-operative-controls-missing"),
    (decide (executor.modelRole ≠ "operative-worker") || executor.external,
      "executor-not-internal-operative-worker"),
    (!executor.supportsRepoRead || !executor.supportsRepoWrite || !executor.supportsShell,
      "executor-operative-io-capability-missing"),
    (!executor.explicitOptInRequired || !executor.fallbackOnly, "executor-fallback-opt-in-policy-missing"),
    (!risk, "executor-risk-limit-exceeded"),
    (!sensitivity, "executor-data-sensitivity-limit-exceeded"),
    (!classification.workRouteEligible, "work-estimate-not-operative-route"),
    (!headroom, "model-headroom-insufficient"),
    (!covered, "aggregate-budget-insufficient"),
    (lunaUnfit, "luna-fit-required")].filterMap fun (excluded, reason) => if excluded then some reason else none
  let inclusions :=
    if exclusions.isEmpty then
      ["trusted-live-exact-model", "operative-controls-valid", "executor-risk-and-sensitivity-eligible",
        "headroom-and-aggregate-budget-sufficient",
        if model = lunaModel then "luna-fit-work" else "terra-escalation-portfolio-member"] ++
        (if isMaintenance budget then ["fresh-context-window-covers-estimate"] else []) ++
        (if model = lunaModel ∧ classification.boundedSemanticReadonly then
          ["bounded-semantic-readonly-fit"] else [])
    else []
  return {
    executor := executorKey
    model
    displayName := if executor.displayName = "" then executorKey else executor.displayName
    rank
    taskFit := if lunaUnfit then "ineligible" else if model = lunaModel then "preferred" else "compatible"
    quotaDomain := textOrNull (record.value "quota_domain")
    cachedInputMeteringDomain := textOrNull (record.value "cached_input_metering_domain")
    liveAvailable := present && isTrue (record.value "available") && usable && available
    evidenceFresh := recordFresh
    exactModel
    controlEligible := controls
    riskEligible := risk
    dataSensitivityEligible := sensitivity
    headroomSufficient := headroom
    aggregateBudgetSufficient := covered
    modelEvidenceSha256 := canonicalSha256 record
    inclusionReasons := inclusions
    exclusionReasons := exclusions }

structure Fit where
  evaluatedAt : Json
  workEstimateSha256 : Digest
  neutralWorkEstimateSha256 : Digest
  policySha256 : Digest
  capabilityEvidenceSha256 : Digest
  aggregateBudgetSha256 : Digest
  context : Json
  cacheProfile : Json
  classifications : Classification
  candidates : List Candidate

namespace Fit

/-- The fields that the digest of the fit covers. -/
def fields (fit : Fit) : List (String × Json) :=
  [("fit_type", .str "cwo-task-selected-fit"), ("version", .int 3), ("binding_rule_version", .int 1),
    ("evaluated_at", fit.evaluatedAt), ("work_estimate_sha256", fit.workEstimateSha256.json),
    ("neutral_work_estimate_sha256", fit.neutralWorkEstimateSha256.json), ("policy_version", .int 3),
    ("policy_sha256", fit.policySha256.json),
    ("capability_evidence_sha256", fit.capabilityEvidenceSha256.json),
    ("aggregate_budget_sha256", fit.aggregateBudgetSha256.json), ("context", fit.context),
    ("cache_profile", fit.cacheProfile), ("classifications", fit.classifications.json),
    ("candidates", .arr (fit.candidates.map Candidate.json))]

def sha256 (fit : Fit) : Digest := canonicalSha256 (.obj fit.fields)

def json (fit : Fit) : Json := .obj (fit.fields ++ [("fit_sha256", fit.sha256.json)])

end Fit

structure FitRequest where
  inputs : Json
  executionEnvironment : String
  riskLevel : String
  dataSensitivity : String
  evaluatedAt : Json

def candidateFit (request : FitRequest) (estimate : WorkEstimate)
    (classification : Classification) (model : String) (rank : Nat) : Except PyError Candidate :=
  taskSelectedCandidateFit clock policies (policies.executorByModel request.executionEnvironment model) model
    rank (request.inputs.value "capability_evidence") estimate classification
    (request.inputs.value "aggregate_budget") request.evaluatedAt request.riskLevel request.dataSensitivity

def buildTaskSelectedFit (sizing : WorkSizing) (request : FitRequest) :
    Except PyError Fit := do
  let inputs := request.inputs
  require (decide (policies.routing.version = 2)) "operative routing policy version 2 is required"
  let (estimate, estimateSha) ← validatedWorkEstimate sizing (inputs.value "work_estimate")
  validateContext (inputs.value "context")
  let cache ← validateCacheProfile clock (inputs.value "cache_profile") (inputs.value "context")
  let budget ← normalizeCurrentBudget (inputs.value "aggregate_budget")
  let _ ← parseTime clock "evaluated_at" request.evaluatedAt
  let neutralSha ← neutralWorkEstimate sizing (inputs.value "work_estimate")
  let classification ← classifyTaskSelectedFit clock policies estimate cache request.evaluatedAt
  let luna ← candidateFit clock policies request estimate classification lunaModel 1
  let terra ← candidateFit clock policies request estimate classification terraModel 2
  return {
    evaluatedAt := request.evaluatedAt
    workEstimateSha256 := estimateSha
    neutralWorkEstimateSha256 := neutralSha
    policySha256 := policies.taskSelectedPolicySha256 request.executionEnvironment
    capabilityEvidenceSha256 := canonicalSha256 (inputs.value "capability_evidence")
    aggregateBudgetSha256 := canonicalSha256 budget
    context := inputs.value "context"
    cacheProfile := cache
    classifications := classification
    candidates := [luna, terra] }

end WorkOrchestration.Routing.TaskSelectedFit
