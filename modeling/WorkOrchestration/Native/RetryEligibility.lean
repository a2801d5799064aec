import Mathlib.Algebra.Order.Floor.Ring
import WorkOrchestration.Native.LiveLedger
import WorkOrchestration.Native.ValueEquality

/-!
# Retry eligibility

A retry shares the allowance of its work plan with the attempts before it.  Their usage is counted in
whole units, each source of it rounded down.
-/

namespace WorkOrchestration.Native.RetryEligibility

open List Lib.Checks Lib.Results Lib.Text Artifacts ValueEquality
open LiveLedger (sortedSet sortedSet_eq_nil)

inductive Dimension where
  | toolCalls
  | runtimeSeconds
  deriving DecidableEq

namespace Dimension

def all : List Dimension := [.toolCalls, .runtimeSeconds]

def field : Dimension → String
  | .toolCalls => "tool_calls"
  | .runtimeSeconds => "runtime_seconds"

def hardField (dimension : Dimension) : String := dimension.field ++ "_hard"

end Dimension

structure Usage where
  toolCalls : Int
  runtimeSeconds : Int
  deriving DecidableEq

def Usage.read (usage : Usage) : Dimension → Int
  | .toolCalls => usage.toolCalls
  | .runtimeSeconds => usage.runtimeSeconds

def mapping (value : Json) (label : String) : Except PyError Unit :=
  if value.isObject then .ok () else .error (valueError (label ++ " must be an object"))

/-- The value of a counter; a missing one stands at zero. -/
def counter (source : Json) (dimension : Dimension) : Json :=
  (source.get? dimension.field).getD (.int 0)

/-- `int(value)` for a non-negative number. -/
def count (source : Json) (label : String) (dimension : Dimension) : Except PyError Int :=
  let refused := valueError (label ++ "." ++ dimension.field ++ " must be a non-negative number")
  match counter source dimension with
  | .int value => if value < 0 then .error refused else .ok value
  | .ratio numerator denominator =>
    if numerator < 0 then .error refused
    else if denominator ≠ 0 then .ok (numerator / denominator)
    else if numerator = 0 then .error (valueError "cannot convert float NaN to integer")
    else .error ⟨.other, "OverflowError", "cannot convert float infinity to integer"⟩
  | _ => .error refused

def usage (source : Json) (label : String) : Except PyError Usage := do
  let toolCalls ← count source label .toolCalls
  let runtimeSeconds ← count source label .runtimeSeconds
  return ⟨toolCalls, runtimeSeconds⟩

def integer? : Json → Option Int
  | .int value => some value
  | _ => none

def natural? (value : Json) : Option Int := (integer? value).filter (0 ≤ ·)

def nonempty? : Json → Option String
  | .str text => if Nonempty text then some text else none
  | _ => none

def nonemptyTexts? (value : Json) : Option (List String) :=
  value.elements?.bind fun items => items.mapM nonempty?

section

variable (packet state policy : Json)

def policyReasons : List String :=
  reject (policy.value "enabled" ≠ .bool true) "recovery-disabled" ++
  reject (policy.value "max_retries" ≠ .int 1) "invalid-retry-policy" ++
  reject (nonemptyTexts? (policy.value "eligible_semantic_statuses") = none) "invalid-retry-policy" ++
  reject (nonemptyTexts? (policy.value "eligible_interrupt_reasons") = none) "invalid-retry-policy"

def interruptReasons : List String :=
  match (nonemptyTexts? (state.value "reasons")).getD [] with
  | [] => ["invalid-supervisor-reasons"]
  | reasons =>
    let eligible := (nonemptyTexts? (policy.value "eligible_interrupt_reasons")).getD []
    reject (∃ reason ∈ reasons, reason ∉ eligible) "ineligible-interrupt-reason"

def stateReasons : List String :=
  let timing := state.value "control_timing"
  reject (state.value "decision" ≠ .str "interrupt") "supervisor-not-interrupted" ++
  interruptReasons state policy ++
  reject (equal (state.value "requested_model") (packet.value "requested_model") = false)
    "model-mismatch" ++
  reject (timing.isObject = false ∨ timing.value "monitor_armed_before_dispatch" ≠ .bool true ∨
    (timing.value "late_poll_count").equalsNat 0 = false) "control-loss"

def observed : Json := (state.get? "observed").getD .objEnd

def observedReasons : List String :=
  reject ((observed state).value "context_compactions" |>.equalsNat 0 |>.not) "context-compaction" ++
  reject ((observed state).value "full_suite_runs" |>.equalsNat 0 |>.not) "full-suite-run"

def workspaceReasons (workspace : Json) : List String :=
  ["mutation_detected", "unexpected_mutation_detected", "attribution_ambiguous",
    "incomplete"].flatMap fun field =>
      reject (workspace.value field ≠ .bool false) ("workspace-" ++ replaceChar '_' '-' field)

def semanticReasons (semantic : Json) : List String :=
  reject (semantic.value "trusted" ≠ .bool true) "untrusted-semantic-evidence" ++
  reject (semantic.value "artifact_accepted" ≠ .bool false) "artifact-already-accepted" ++
  reject (semantic.value "contradiction" ≠ .bool false) "semantic-contradiction" ++
  reject ((semantic.value "status").isOneOf
    ((nonemptyTexts? (policy.value "eligible_semantic_statuses")).getD []) = false)
    "ineligible-semantic-status"

/-- The mapping under a field, or an empty one in place of anything else. -/
def mappingOr (document : Json) (field : String) : Json :=
  if (document.value field).isObject then document.value field else .objEnd

def recovery : Json := mappingOr state "recovery"

def cumulative : Json := mappingOr (recovery state) "cumulative_usage"

def maxRetries : Int := if policy.value "max_retries" = .int 1 then 1 else 0

def attempt : Int :=
  (natural? (((recovery state).get? "attempt").getD (.int 0))).getD (maxRetries policy)

def recoveryReasons : List String :=
  reject (((state.get? "recovery").getD .objEnd).isObject = false) "invalid-recovery-state" ++
  reject (natural? (((recovery state).get? "attempt").getD (.int 0)) = none)
    "invalid-recovery-attempt" ++
  reject (maxRetries policy ≤ attempt state policy) "retry-exhausted"

def allowance : Json := (packet.value "work_plan").value "aggregate_allowance"

/-- What the allowance leaves of a dimension. -/
def remaining (used : Usage) (dimension : Dimension) : Int :=
  (natural? ((allowance packet).value dimension.hardField)).getD 0 - used.read dimension

def retryBudget (dimension : Dimension) : Json := (packet.value "budget").value dimension.hardField

def allowanceReasons (used : Usage) (dimension : Dimension) : List String :=
  reject (natural? ((allowance packet).value dimension.hardField) = none)
    "invalid-aggregate-allowance" ++
  reject (remaining packet used dimension < 0) "aggregate-allowance-exhausted"

def budgetReasons (used : Usage) (dimension : Dimension) : List String :=
  match natural? (retryBudget packet dimension) with
  | none => ["invalid-retry-budget"]
  | some budget =>
    reject (remaining packet used dimension < budget) "insufficient-aggregate-retry-budget"

end

def immutableWorkFields : List String :=
  ["bead_id", "lane", "requested_model", "tool_policy", "scope", "acceptance_checks", "budget",
    "return_contract", "work_plan"]

/-- What `canonical_work_payload` complains about first. -/
def workError? (packet : Json) : Option String :=
  let missing := immutableWorkFields.filter fun field => (packet.get? field).isNone
  let checks := packet.value "acceptance_checks"
  if missing ≠ [] then some ("packet missing immutable work field(s): " ++ joinWith ", " missing)
  else if ∃ field ∈ ["bead_id", "lane", "requested_model"], nonempty? (packet.value field) = none then
    some "packet work identity fields must be non-empty strings"
  else if (packet.value "scope").isObject = false then some "packet.scope must be an object"
  else if (nonemptyTexts? checks).getD [] = [] then
    some "packet.acceptance_checks must be non-empty strings"
  else (["budget", "return_contract", "work_plan"].find? fun field =>
    !(packet.value field).isObject).map fun field => "packet." ++ field ++ " must be an object"

def canonicalWorkSha256 (packet : Json) : Except PyError Digest :=
  match workError? packet with
  | some message => .error (valueError message)
  | none => .ok (canonicalSha256 (Json.obj (immutableWorkFields.map fun field =>
      (field, packet.value field))).canonical)

structure Eligibility where
  reasons : List String
  workSha256 : Digest
  attempt : Int
  cumulativeUsage : Usage
  remainingBeforeRetry : Usage
  retryBudget : Json × Json

def Eligibility.eligible (result : Eligibility) : Bool := result.reasons = []

def Eligibility.nextAction (result : Eligibility) : String :=
  if result.eligible then "await-verified-recovery-action" else "protected-stop"

section

variable (packet state workspace semantic policy : Json)

/-- The reasons that no usage counter has a part in. -/
def plainReasons : List String :=
  policyReasons policy ++ stateReasons packet state policy ++ observedReasons state ++
    workspaceReasons workspace ++ semanticReasons policy semantic ++ recoveryReasons state policy

def usageReasons (used : Usage) : List String :=
  Dimension.all.flatMap (allowanceReasons packet used) ++
    Dimension.all.flatMap (budgetReasons packet used)

def judged (current before : Usage) (workSha256 : Digest) : Eligibility :=
  let used : Usage := ⟨before.toolCalls + current.toolCalls, before.runtimeSeconds + current.runtimeSeconds⟩
  { reasons := sortedSet (plainReasons packet state workspace semantic policy ++
      usageReasons packet used)
    workSha256, attempt := attempt state policy, cumulativeUsage := used
    remainingBeforeRetry := ⟨remaining packet used .toolCalls, remaining packet used .runtimeSeconds⟩
    retryBudget := (retryBudget packet .toolCalls, retryBudget packet .runtimeSeconds) }

def evaluateRetryEligibility : Except PyError Eligibility := do
  mapping packet "packet"
  mapping state "supervision_state"
  mapping workspace "workspace_report"
  mapping semantic "semantic_result"
  mapping policy "recovery_policy"
  mapping (observed state) "supervision_state.observed"
  let current ← usage (observed state) "supervision_state.observed"
  let before ← usage (cumulative state) "supervision_state.recovery.cumulative_usage"
  mapping (packet.value "work_plan") "packet.work_plan"
  mapping (allowance packet) "packet.work_plan.aggregate_allowance"
  mapping (packet.value "budget") "packet.budget"
  let workSha256 ← canonicalWorkSha256 packet
  return judged packet state workspace semantic policy current before workSha256

end

/-- The exact value of a counter that can be read. -/
def amount? : Json → Option ℚ
  | .int value => if 0 ≤ value then some value else none
  | .ratio numerator denominator =>
    if 0 ≤ numerator ∧ denominator ≠ 0 then some (numerator / denominator) else none
  | _ => none

variable {packet state workspace semantic policy : Json} {result : Eligibility} {used : Usage}
  {dimension : Dimension} {source : Json} {label : String}

theorem count_of_amount {amount : ℚ} (read : amount? (counter source dimension) = some amount) :
    count source label dimension = .ok ⌊amount⌋ := by
  unfold count
  unfold amount? at read
  split at read
  · split at read
    · rename_i natural
      cases read
      simp [not_lt.mpr natural]
    · cases read
  · split at read
    · rename_i finite
      cases read
      simp [not_lt.mpr finite.1, finite.2, Rat.floor_intCast_div_natCast]
    · cases read
  · cases read

theorem amount_of_count {value : Int} (read : count source label dimension = .ok value) :
    ∃ amount, amount? (counter source dimension) = some amount ∧ value = ⌊amount⌋ := by
  have known : ∃ amount, amount? (counter source dimension) = some amount := by
    unfold count at read
    split at read
    · rename_i number held
      split at read
      · cases read
      · rename_i natural
        exact ⟨_, by rw [held, amount?, if_pos (not_lt.mp natural)]⟩
    · rename_i numerator denominator held
      split at read
      · cases read
      rename_i natural
      split at read
      · rename_i finite
        exact ⟨_, by rw [held, amount?, if_pos ⟨not_lt.mp natural, finite⟩]⟩
      · split at read <;> cases read
    · cases read
  obtain ⟨amount, held⟩ := known
  have counted := @count_of_amount _ _ label _ held
  rw [read] at counted
  exact ⟨amount, held, Except.ok.inj counted⟩

theorem usage_eq_ok : usage source label = .ok used ↔
    ∀ dimension, ∃ amount, amount? (counter source dimension) = some amount ∧
      used.read dimension = ⌊amount⌋ := by
  constructor
  · intro read
    obtain ⟨calls, readCalls, read⟩ := bind_eq_ok.mp read
    obtain ⟨seconds, readSeconds, read⟩ := bind_eq_ok.mp read
    cases read
    intro dimension
    cases dimension with
    | toolCalls => exact amount_of_count readCalls
    | runtimeSeconds => exact amount_of_count readSeconds
  · intro read
    obtain ⟨calls, readCalls, sameCalls⟩ := read .toolCalls
    obtain ⟨seconds, readSeconds, sameSeconds⟩ := read .runtimeSeconds
    refine bind_eq_ok.mpr ⟨_, count_of_amount readCalls, bind_eq_ok.mpr ⟨_, count_of_amount readSeconds, ?_⟩⟩
    rw [← sameCalls, ← sameSeconds]
    rfl

theorem usageReasons_eq_nil : usageReasons packet used = [] ↔ ∀ dimension, ∃ limit budget,
    natural? ((allowance packet).value dimension.hardField) = some limit ∧
    natural? (retryBudget packet dimension) = some budget ∧
    used.read dimension + budget ≤ limit := by
  have each (dimension : Dimension) : allowanceReasons packet used dimension = [] ∧
      budgetReasons packet used dimension = [] ↔ ∃ limit budget,
        natural? ((allowance packet).value dimension.hardField) = some limit ∧
        natural? (retryBudget packet dimension) = some budget ∧
        used.read dimension + budget ≤ limit := by
    unfold allowanceReasons budgetReasons remaining
    cases natural? ((allowance packet).value dimension.hardField) with
    | none => simp
    | some limit =>
      cases planned : natural? (retryBudget packet dimension) with
      | none => simp
      | some budget =>
        have natural : 0 ≤ budget := by
          simpa using (Option.filter_eq_some_iff.mp planned).2
        simp
        omega
  have parts : usageReasons packet used = [] ↔
      ∀ dimension, allowanceReasons packet used dimension = [] ∧
        budgetReasons packet used dimension = [] := by
    simp only [usageReasons, Dimension.all, append_eq_nil_iff, flatMap_cons, flatMap_nil, and_true]
    constructor
    · rintro ⟨⟨calls, seconds⟩, callBudget, secondBudget⟩ dimension
      cases dimension with
      | toolCalls => exact ⟨calls, callBudget⟩
      | runtimeSeconds => exact ⟨seconds, secondBudget⟩
    · intro each
      exact ⟨⟨(each .toolCalls).1, (each .runtimeSeconds).1⟩, (each .toolCalls).2,
        (each .runtimeSeconds).2⟩
  rw [parts]
  exact forall_congr' each

theorem attempt_eq_zero (plain : recoveryReasons state policy = []) : attempt state policy = 0 := by
  simp only [recoveryReasons, append_eq_nil_iff, reject_eq_nil] at plain
  obtain ⟨⟨_, readable⟩, fewer⟩ := plain
  obtain ⟨value, read⟩ := Option.ne_none_iff_exists'.mp readable
  have natural : 0 ≤ value := by simpa using (Option.filter_eq_some_iff.mp read).2
  unfold attempt maxRetries at *
  rw [read] at fewer ⊢
  simp only [Option.getD_some] at *
  split at fewer <;> omega

theorem mapping_ok {value : Json} {done : Unit} :
    mapping value label = .ok done ↔ value.isObject = true := by
  unfold mapping
  split <;> simp_all

theorem evaluate_eq_ok :
    evaluateRetryEligibility packet state workspace semantic policy = .ok result ↔
      (∀ value ∈ [packet, state, workspace, semantic, policy, observed state,
        packet.value "work_plan", allowance packet, packet.value "budget"], value.isObject = true) ∧
      ∃ current before work, usage (observed state) "supervision_state.observed" = .ok current ∧
        usage (cumulative state) "supervision_state.recovery.cumulative_usage" = .ok before ∧
        canonicalWorkSha256 packet = .ok work ∧
        result = judged packet state workspace semantic policy current before work := by
  unfold evaluateRetryEligibility
  simp only [bind_eq_ok, pure_eq_ok, mapping_ok, exists_const, forall_mem_cons,
    not_mem_nil, false_imp_iff, implies_true, and_true]
  constructor
  · rintro ⟨one, two, three, four, five, six, current, seen, before, spent, plan, total, budget, work,
      hashed, same⟩
    exact ⟨⟨one, two, three, four, five, six, plan, total, budget⟩, current, before, work, seen, spent,
      hashed, same.symm⟩
  · rintro ⟨⟨one, two, three, four, five, six, plan, total, budget⟩, current, before, work, seen,
      spent, hashed, same⟩
    exact ⟨one, two, three, four, five, six, current, seen, before, spent, plan, total, budget, work,
      hashed, same.symm⟩

theorem judged_eligible {current before : Usage} {work : Digest} :
    (judged packet state workspace semantic policy current before work).eligible = true ↔
      plainReasons packet state workspace semantic policy = [] ∧ ∀ dimension, ∃ limit budget,
        natural? ((allowance packet).value dimension.hardField) = some limit ∧
        natural? (retryBudget packet dimension) = some budget ∧
        before.read dimension + current.read dimension + budget ≤ limit := by
  rw [Eligibility.eligible, decide_eq_true_eq, judged, sortedSet_eq_nil, append_eq_nil_iff,
    usageReasons_eq_nil]
  refine and_congr_right fun _ => forall_congr' fun dimension => ?_
  cases dimension <;> rfl

/-- An evaluation stays eligible when counters fall. -/
theorem eligible_of_less {lighter : Json}
    (evaluated : evaluateRetryEligibility packet state workspace semantic policy = .ok result)
    (eligible : result.eligible = true) (object : lighter.isObject = true)
    (seen : (observed lighter).isObject = true)
    (plain : plainReasons packet lighter workspace semantic policy =
      plainReasons packet state workspace semantic policy)
    (less : ∀ dimension, ∀ source ∈ [observed, cumulative], ∀ large,
      amount? (counter (source state) dimension) = some large →
        ∃ small, amount? (counter (source lighter) dimension) = some small ∧ small ≤ large) :
    ∃ after, evaluateRetryEligibility packet lighter workspace semantic policy = .ok after ∧
      after.eligible = true := by
  obtain ⟨objects, current, before, work, readCurrent, readBefore, hashed, rfl⟩ :=
    evaluate_eq_ok.mp evaluated
  obtain ⟨free, within⟩ := judged_eligible.mp eligible
  have fallen {source : Json → Json} {label : String} {used : Usage}
      (listed : source ∈ [observed, cumulative]) (read : usage (source state) label = .ok used) :
      ∃ fewer, usage (source lighter) label = .ok fewer ∧
        ∀ dimension, fewer.read dimension ≤ used.read dimension := by
    have each (dimension : Dimension) : ∃ small, amount? (counter (source lighter) dimension) =
        some small ∧ ⌊small⌋ ≤ used.read dimension := by
      obtain ⟨large, held, whole⟩ := usage_eq_ok.mp read dimension
      obtain ⟨small, found, le⟩ := less dimension source listed large held
      exact ⟨small, found, whole ▸ Int.floor_le_floor le⟩
    obtain ⟨calls, readCalls, fewerCalls⟩ := each .toolCalls
    obtain ⟨seconds, readSeconds, fewerSeconds⟩ := each .runtimeSeconds
    refine ⟨⟨⌊calls⌋, ⌊seconds⌋⟩, usage_eq_ok.mpr fun dimension => ?_, fun dimension => ?_⟩
    · cases dimension with
      | toolCalls => exact ⟨calls, readCalls, rfl⟩
      | runtimeSeconds => exact ⟨seconds, readSeconds, rfl⟩
    · cases dimension with
      | toolCalls => exact fewerCalls
      | runtimeSeconds => exact fewerSeconds
  obtain ⟨fewerCurrent, lighterCurrent, lessCurrent⟩ := fallen (by simp) readCurrent
  obtain ⟨fewerBefore, lighterBefore, lessBefore⟩ := fallen (by simp) readBefore
  refine ⟨_, evaluate_eq_ok.mpr ⟨?_, fewerCurrent, fewerBefore, work, lighterCurrent, lighterBefore,
    hashed, rfl⟩, judged_eligible.mpr ⟨plain.trans free, fun dimension => ?_⟩⟩
  · simp only [forall_mem_cons] at objects ⊢
    exact ⟨objects.1, object, objects.2.2.1, objects.2.2.2.1, objects.2.2.2.2.1, seen,
      objects.2.2.2.2.2.2⟩
  · obtain ⟨limit, budget, limited, planned, le⟩ := within dimension
    have one := lessCurrent dimension
    have other := lessBefore dimension
    exact ⟨limit, budget, limited, planned, by omega⟩

/-- A place of the supervision state that holds usage counters. -/
inductive Place where
  | observed
  | cumulative

/-- The state with another value in a counter. -/
def Place.write (state : Json) (dimension : Dimension) (value : Json) : Place → Json
  | .observed => state.set "observed" ((RetryEligibility.observed state).set dimension.field value)
  | .cumulative => state.set "recovery" ((recovery state).set "cumulative_usage"
      ((RetryEligibility.cumulative state).set dimension.field value))

theorem plainReasons_write (place : Place) (state value : Json) :
    plainReasons packet (place.write state dimension value) workspace semantic policy =
      plainReasons packet (place.write state dimension .null) workspace semantic policy := by
  have calls : dimension.field ≠ "context_compactions" := by cases dimension <;> decide
  have runs : dimension.field ≠ "full_suite_runs" := by cases dimension <;> decide
  cases place with
  | observed =>
    simp [plainReasons, stateReasons, interruptReasons, observedReasons, recoveryReasons, attempt,
      Place.write, RetryEligibility.observed, recovery, mappingOr, Json.get?_set, Json.value_set,
      calls, runs]
  | cumulative =>
    simp [plainReasons, stateReasons, interruptReasons, observedReasons, recoveryReasons, attempt,
      Place.write, RetryEligibility.observed, recovery, mappingOr, Json.get?_set, Json.value_set,
      Json.isObject_set]

theorem counter_write (place : Place) (state : Json) (source : Json → Json) (other : Dimension)
    (listed : source ∈ [observed, cumulative]) :
    (∀ value, counter (source (place.write state dimension value)) other = value) ∨
      ∀ value, counter (source (place.write state dimension value)) other =
        counter (source (place.write state dimension .null)) other := by
  have inOther (document value : Json) (apart : dimension ≠ other) :
      counter (document.set dimension.field value) other = counter document other := by
    rw [counter, Json.get?_set, if_neg (by cases dimension <;> cases other <;> simp_all [Dimension.field])]
    rfl
  have inSame (document value : Json) : counter (document.set dimension.field value) dimension = value := by
    rw [counter, Json.get?_set, if_pos rfl, Option.getD_some]
  simp only [mem_cons, not_mem_nil, or_false] at listed
  cases place <;> obtain rfl | rfl := listed <;> by_cases same : dimension = other <;>
    simp_all [Place.write, observed, cumulative, recovery, mappingOr, Json.get?_set, Json.value_set,
      Json.isObject_set]

theorem eligible_of_write (place : Place) {smaller larger : Json} {small large : ℚ}
    (readSmall : amount? smaller = some small) (readLarge : amount? larger = some large)
    (le : small ≤ large)
    (evaluated : evaluateRetryEligibility packet (place.write state dimension larger) workspace
      semantic policy = .ok result) (eligible : result.eligible = true) :
    ∃ after, evaluateRetryEligibility packet (place.write state dimension smaller) workspace
      semantic policy = .ok after ∧ after.eligible = true := by
  have object (value : Json) : (place.write state dimension value).isObject = true := by
    cases place <;> exact Json.isObject_set ..
  have seen (value : Json) : (observed (place.write state dimension value)).isObject =
      (observed (place.write state dimension .null)).isObject := by
    cases place <;> simp [Place.write, observed, Json.get?_set, Json.isObject_set]
  have objects := (evaluate_eq_ok.mp evaluated).1
  refine eligible_of_less evaluated eligible (object smaller) ?_
    ((plainReasons_write place state smaller).trans (plainReasons_write place state larger).symm) ?_
  · rw [seen, ← seen larger]
    exact objects _ (by simp)
  · intro other source listed amount held
    rcases @counter_write dimension place state source other listed with written | kept
    · rw [written] at held ⊢
      obtain rfl := Option.some.inj (readLarge.symm.trans held)
      exact ⟨small, readSmall, le⟩
    · rw [kept, ← kept smaller] at held
      exact ⟨amount, held, le_rfl⟩

/-- The exact numbers that a retry is about. -/
structure Figures (packet state : Json) (dimension : Dimension) (before current : ℚ)
    (limit budget : ℤ) : Prop where
  before : amount? (counter (cumulative state) dimension) = some before
  current : amount? (counter (observed state) dimension) = some current
  limit : natural? ((allowance packet).value dimension.hardField) = some limit
  budget : natural? (retryBudget packet dimension) = some budget

/-- What was used, exactly, and the budget of the retry are within the allowance. -/
def WithinAllowance (packet state : Json) (dimension : Dimension) : Prop :=
  ∃ before current limit budget, Figures packet state dimension before current limit budget ∧
    before + current + budget ≤ limit

/-- The fractions that counting in whole units drops have room: there are none, or a unit is left and
they make up no more than one, or two units are left. -/
def FractionsCovered (packet state : Json) (dimension : Dimension) : Prop :=
  ∃ before current limit budget, Figures packet state dimension before current limit budget ∧
    let room := limit - budget - ⌊before⌋ - ⌊current⌋
    (Int.fract before = 0 ∧ Int.fract current = 0) ∨
      (1 ≤ room ∧ Int.fract before + Int.fract current ≤ 1) ∨ 2 ≤ room

theorem within_iff_covered {before current : ℚ} {limit budget : ℤ}
    (counted : ⌊before⌋ + ⌊current⌋ + budget ≤ limit) :
    before + current + budget ≤ limit ↔ (Int.fract before = 0 ∧ Int.fract current = 0) ∨
        (1 ≤ limit - budget - ⌊before⌋ - ⌊current⌋ ∧ Int.fract before + Int.fract current ≤ 1) ∨
        2 ≤ limit - budget - ⌊before⌋ - ⌊current⌋ := by
  have exact : before + current + budget ≤ limit ↔
      Int.fract before + Int.fract current ≤ ((limit - budget - ⌊before⌋ - ⌊current⌋ : ℤ) : ℚ) := by
    have whole := Int.floor_add_fract before
    have other := Int.floor_add_fract current
    push_cast
    constructor <;> intro le <;> linarith
  rw [exact]
  have natural : 0 ≤ limit - budget - ⌊before⌋ - ⌊current⌋ := by omega
  generalize limit - budget - ⌊before⌋ - ⌊current⌋ = room at *
  have less := Int.fract_lt_one before
  have other := Int.fract_lt_one current
  have least := Int.fract_nonneg before
  have otherLeast := Int.fract_nonneg current
  by_cases two : 2 ≤ room
  · have enough : (2 : ℚ) ≤ room := by exact_mod_cast two
    simp only [two, or_true, iff_true]
    linarith
  by_cases one : 1 ≤ room
  · obtain rfl : room = 1 := by omega
    simp only [Int.cast_one, le_refl, true_and, two, or_false]
    constructor
    · exact .inr
    · rintro (⟨first, second⟩ | le)
      · linarith
      · exact le
  · obtain rfl : room = 0 := by omega
    simp only [Int.cast_zero, one, false_and, two, or_false]
    constructor
    · intro le
      constructor <;> linarith
    · rintro ⟨first, second⟩
      linarith

/-- An eligible retry is the first, and in each dimension the exact numbers are within the allowance
exactly when it covers the dropped fractions; eligibility is kept when a usage counter falls. -/
theorem eligible_within_allowance_iff (packet state workspace semantic policy : Json) :
    (∀ result, evaluateRetryEligibility packet state workspace semantic policy = .ok result →
      result.eligible = true → result.attempt = 0 ∧
        ∀ dimension, WithinAllowance packet state dimension ↔
          FractionsCovered packet state dimension) ∧
    ∀ (place : Place) (dimension : Dimension) (smaller larger : Json) (small large : ℚ) (result : Eligibility),
      amount? smaller = some small → amount? larger = some large → small ≤ large →
      evaluateRetryEligibility packet (place.write state dimension larger) workspace semantic
        policy = .ok result → result.eligible = true →
      ∃ after, evaluateRetryEligibility packet (place.write state dimension smaller) workspace
        semantic policy = .ok after ∧ after.eligible = true := by
  refine ⟨fun result evaluated eligible => ?_, fun place dimension smaller larger small large result
    readSmall readLarge le evaluated eligible =>
      eligible_of_write place readSmall readLarge le evaluated eligible⟩
  obtain ⟨_, current, before, work, readCurrent, readBefore, _, rfl⟩ := evaluate_eq_ok.mp evaluated
  obtain ⟨plain, within⟩ := judged_eligible.mp eligible
  refine ⟨attempt_eq_zero (append_eq_nil_iff.mp plain).2, fun dimension => ?_⟩
  obtain ⟨limit, budget, limited, planned, counted⟩ := within dimension
  obtain ⟨exactBefore, heldBefore, floorBefore⟩ := usage_eq_ok.mp readBefore dimension
  obtain ⟨exactCurrent, heldCurrent, floorCurrent⟩ := usage_eq_ok.mp readCurrent dimension
  rw [floorBefore, floorCurrent] at counted
  refine exists_congr fun first => exists_congr fun second => exists_congr fun third =>
    exists_congr fun fourth => and_congr_right fun figures => ?_
  obtain rfl := Option.some.inj (heldBefore.symm.trans figures.before)
  obtain rfl := Option.some.inj (heldCurrent.symm.trans figures.current)
  obtain rfl := Option.some.inj (limited.symm.trans figures.limit)
  obtain rfl := Option.some.inj (planned.symm.trans figures.budget)
  exact within_iff_covered counted

def samplePacket : Json := .obj [("bead_id", .str "b-1"), ("lane", .str "fast"),
  ("requested_model", .str "m"), ("tool_policy", .null), ("scope", .objEnd),
  ("acceptance_checks", .item (.str "tests") .arrEnd),
  ("budget", .obj [("tool_calls_hard", .int 0), ("runtime_seconds_hard", .int 10)]),
  ("return_contract", .objEnd),
  ("work_plan", .obj [("aggregate_allowance",
    .obj [("tool_calls_hard", .int 0), ("runtime_seconds_hard", .int 10)])])]

def sampleState : Json := .obj [("decision", .str "interrupt"),
  ("reasons", .item (.str "runtime") .arrEnd), ("requested_model", .str "m"),
  ("control_timing", .obj [("monitor_armed_before_dispatch", .bool true), ("late_poll_count", .int 0)]),
  ("observed", .obj [("context_compactions", .int 0), ("full_suite_runs", .int 0),
    ("runtime_seconds", .ratio 9 10)]),
  ("recovery", .obj [("cumulative_usage", .obj [("runtime_seconds", .ratio 9 10)])])]

def sampleWorkspace : Json := .obj (["mutation_detected", "unexpected_mutation_detected",
  "attribution_ambiguous", "incomplete"].map fun field => (field, .bool false))

def sampleSemantic : Json := .obj [("trusted", .bool true), ("artifact_accepted", .bool false),
  ("contradiction", .bool false), ("status", .str "partial")]

def samplePolicy : Json := .obj [("enabled", .bool true), ("max_retries", .int 1),
  ("eligible_semantic_statuses", .item (.str "partial") .arrEnd),
  ("eligible_interrupt_reasons", .item (.str "runtime") .arrEnd)]

/-- The fractions of a used-up allowance are dropped twice. -/
theorem fractions_exceed_allowance :
    ∃ result, evaluateRetryEligibility samplePacket sampleState sampleWorkspace sampleSemantic
      samplePolicy = .ok result ∧ result.eligible = true ∧
      ¬ WithinAllowance samplePacket sampleState .runtimeSeconds := by
  refine ⟨_, evaluate_eq_ok.mpr ⟨by decide +kernel, ⟨0, 0⟩, ⟨0, 0⟩, _, by decide +kernel, by decide +kernel,
    rfl, rfl⟩, judged_eligible.mpr ⟨by decide +kernel, ?_⟩, ?_⟩
  · intro dimension
    cases dimension with
    | toolCalls => exact ⟨0, 0, by decide +kernel, by decide +kernel, by decide⟩
    | runtimeSeconds => exact ⟨10, 10, by decide +kernel, by decide +kernel, by decide⟩
  · rintro ⟨before, current, limit, budget, figures, le⟩
    have tenths : amount? (.ratio 9 10) = some (9 / 10) := by norm_num [amount?]
    obtain rfl := Option.some.inj (tenths.symm.trans figures.before)
    obtain rfl := Option.some.inj (tenths.symm.trans figures.current)
    obtain rfl : 10 = limit := Option.some.inj figures.limit
    obtain rfl : 10 = budget := Option.some.inj figures.budget
    norm_num at le

end WorkOrchestration.Native.RetryEligibility
