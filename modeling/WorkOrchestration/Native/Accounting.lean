import Mathlib.Algebra.Ring.Nat
import Mathlib.Data.List.Nodup
import Mathlib.Logic.Function.Basic
import WorkOrchestration.Lib.Checks
import WorkOrchestration.Native.Artifacts

/-!
# Usage accounting

Cumulative counters of one child, their sum over a cohort, and the ledger that
takes one cumulative observation at a time.  Token counters are either all
available, and then reconcile, or are all withheld with a reason.
-/

namespace WorkOrchestration.Native.Accounting

open Lib.Text Artifacts

/-- `TOKEN_COUNTER_FIELDS`, with the total equal to the sum of the others. -/
structure TokenCounters where
  input : Nat
  cachedInput : Nat
  output : Nat
  reasoning : Nat
  total : Nat
  reconciled : total = input + cachedInput + output + reasoning
  deriving DecidableEq

inductive TokenUsage where
  | available (counters : TokenCounters)
  | unavailable (reason : Name)
  deriving DecidableEq

def zeroTokenUsage : TokenUsage :=
  .unavailable ⟨"trusted-token-telemetry-unavailable", by decide⟩

/-- `USAGE_FIELDS`. -/
structure Usage where
  toolCalls : Nat
  runtimeSeconds : Nat
  compactions : Nat
  fullSuiteRuns : Nat
  mutations : Nat
  tokens : TokenUsage
  deriving DecidableEq

def zeroUsage : Usage := ⟨0, 0, 0, 0, 0, zeroTokenUsage⟩

def TokenUsage.json : TokenUsage → Json
  | .available counters =>
    .obj
      [("availability", .str "available"), ("input", .nat counters.input),
        ("cached_input", .nat counters.cachedInput), ("output", .nat counters.output),
        ("reasoning", .nat counters.reasoning), ("total", .nat counters.total),
        ("unavailable_reason", .null)]
  | .unavailable reason =>
    .obj
      [("availability", .str "unavailable"), ("input", .null), ("cached_input", .null),
        ("output", .null), ("reasoning", .null), ("total", .null),
        ("unavailable_reason", .str reason.text)]

def Usage.json (usage : Usage) : Json :=
  .obj
    [("tool_calls", .nat usage.toolCalls), ("runtime_seconds", .nat usage.runtimeSeconds),
      ("compactions", .nat usage.compactions), ("full_suite_runs", .nat usage.fullSuiteRuns),
      ("mutations", .nat usage.mutations), ("tokens", usage.tokens.json)]

/-- `PoolAccountingError`. -/
def accountingError (message : String) : PyError := ⟨.value, "PoolAccountingError", message⟩

def nonnegativeInt (value : Option Json) (field : String) : Except PyError Nat :=
  match value with
  | some (.int (.ofNat count)) => .ok count
  | _ => .error (accountingError (field ++ "-must-be-nonnegative-integer"))

def tokenFields : List String :=
  ["availability", "input", "cached_input", "output", "reasoning", "total", "unavailable_reason"]

def usageFields : List String :=
  ["tool_calls", "runtime_seconds", "compactions", "full_suite_runs", "mutations", "tokens"]

/-- The token part of `normalize_usage`. -/
def normalizeTokens (tokens : Json) : Except PyError TokenUsage := do
  if !tokens.hasExactly tokenFields then
    throw (accountingError "token-usage-fields-invalid")
  if tokens.get? "availability" = some (.str "available") then
    let input ← nonnegativeInt (tokens.get? "input") "tokens-input"
    let cachedInput ← nonnegativeInt (tokens.get? "cached_input") "tokens-cached-input"
    let output ← nonnegativeInt (tokens.get? "output") "tokens-output"
    let reasoning ← nonnegativeInt (tokens.get? "reasoning") "tokens-reasoning"
    let total ← nonnegativeInt (tokens.get? "total") "tokens-total"
    if tokens.get? "unavailable_reason" ≠ some .null then
      throw (accountingError "available-token-usage-has-unavailable-reason")
    if reconciled : total = input + cachedInput + output + reasoning then
      return .available ⟨input, cachedInput, output, reasoning, total, reconciled⟩
    else throw (accountingError "token-total-mismatch")
  else if tokens.get? "availability" = some (.str "unavailable") then
    if ["input", "cached_input", "output", "reasoning", "total"].any
        (fun field => tokens.get? field ≠ some .null) then
      throw (accountingError "unavailable-token-usage-has-counters")
    match tokens.get? "unavailable_reason" with
    | some (.str reason) =>
      if visible : Nonempty reason then return .unavailable ⟨reason, visible⟩
      else throw (accountingError "unavailable-token-usage-missing-reason")
    | _ => throw (accountingError "unavailable-token-usage-missing-reason")
  else throw (accountingError "token-availability-invalid")

def normalizeUsage (value : Json) : Except PyError Usage := do
  if !value.hasExactly usageFields then
    throw (accountingError "usage-fields-invalid")
  let toolCalls ← nonnegativeInt (value.get? "tool_calls") "usage-tool-calls"
  let runtimeSeconds ← nonnegativeInt (value.get? "runtime_seconds") "usage-runtime-seconds"
  let compactions ← nonnegativeInt (value.get? "compactions") "usage-compactions"
  let fullSuiteRuns ← nonnegativeInt (value.get? "full_suite_runs") "usage-full-suite-runs"
  let mutations ← nonnegativeInt (value.get? "mutations") "usage-mutations"
  let tokens ← normalizeTokens ((value.get? "tokens").getD .null)
  return ⟨toolCalls, runtimeSeconds, compactions, fullSuiteRuns, mutations, tokens⟩

/-- `TokenCounters` of a cohort. -/
def TokenCounters.add (left right : TokenCounters) : TokenCounters where
  input := left.input + right.input
  cachedInput := left.cachedInput + right.cachedInput
  output := left.output + right.output
  reasoning := left.reasoning + right.reasoning
  total := left.total + right.total
  reconciled := by
    have first := left.reconciled
    have second := right.reconciled
    omega

def TokenCounters.zero : TokenCounters := ⟨0, 0, 0, 0, 0, rfl⟩

def availableCounters : List TokenUsage → Option (List TokenCounters)
  | [] => some []
  | .available counters :: rest => (availableCounters rest).map (counters :: ·)
  | .unavailable _ :: _ => none

def usageSum (values : List Usage) : Usage where
  toolCalls := (values.map Usage.toolCalls).sum
  runtimeSeconds := (values.map Usage.runtimeSeconds).sum
  compactions := (values.map Usage.compactions).sum
  fullSuiteRuns := (values.map Usage.fullSuiteRuns).sum
  mutations := (values.map Usage.mutations).sum
  tokens :=
    match availableCounters (values.map Usage.tokens) with
    | some counters => .available (counters.foldr TokenCounters.add .zero)
    | none => zeroTokenUsage

def sumCumulativeUsage (values : List Usage) : Usage :=
  if values = [] then zeroUsage else usageSum values

/-- The counter that `usage_delta` finds to have gone back, in the order of its checks. -/
def firstReset (fields : List (String × Nat × Nat)) : Option String :=
  (fields.find? fun entry => entry.2.2 < entry.2.1).map Prod.fst

/-- `usage_delta`, whose difference the coordinator does not read. -/
def usageDelta (previous current : Usage) : Except PyError Unit := do
  match firstReset
      [("tool-calls", previous.toolCalls, current.toolCalls),
        ("runtime-seconds", previous.runtimeSeconds, current.runtimeSeconds),
        ("compactions", previous.compactions, current.compactions),
        ("full-suite-runs", previous.fullSuiteRuns, current.fullSuiteRuns),
        ("mutations", previous.mutations, current.mutations)] with
  | some field => throw (accountingError ("cumulative-" ++ field ++ "-reset"))
  | none => pure ()
  match previous.tokens, current.tokens with
  | .available before, .available after =>
    match firstReset
        [("input", before.input, after.input), ("cached-input", before.cachedInput, after.cachedInput),
          ("output", before.output, after.output), ("reasoning", before.reasoning, after.reasoning),
          ("total", before.total, after.total)] with
    | some field => throw (accountingError ("cumulative-token-" ++ field ++ "-reset"))
    | none => pure ()
  | .unavailable _, .unavailable _ => pure ()
  | _, _ => throw (accountingError "token-availability-changed")

/-- `aggregate_hard_budget`. -/
structure Budget where
  toolCalls : Nat
  runtimeSeconds : Nat
  compactions : Nat
  fullSuiteRuns : Nat
  mutations : Nat

def exhaustedBudget (usage : Usage) (budget : Budget) : List String :=
  open WorkOrchestration.Lib.Checks in
  reject (budget.toolCalls < usage.toolCalls) "aggregate-tool-calls-exhausted" ++
  reject (budget.runtimeSeconds < usage.runtimeSeconds) "aggregate-runtime-seconds-exhausted" ++
  reject (budget.compactions < usage.compactions) "aggregate-compactions-exhausted" ++
  reject (budget.fullSuiteRuns < usage.fullSuiteRuns) "aggregate-full-suite-runs-exhausted" ++
  reject (budget.mutations < usage.mutations) "aggregate-mutations-exhausted"

/-- `AggregateUsageLedger` over a fixed cohort. -/
structure Ledger where
  latest : Name → Usage
  seen : List (Name × Digest × Nat)

namespace Ledger

def initial : Ledger := ⟨fun _ => zeroUsage, []⟩

def aggregate (childIds : List Name) (ledger : Ledger) : Usage :=
  sumCumulativeUsage (childIds.map ledger.latest)

/-- `observe`, for a child of the cohort. -/
def observe (ledger : Ledger) (childId : Name) (childStateSha256 : Digest)
    (decisionSequence : Nat) (cumulative : Usage) : Except PyError Ledger :=
  if (childId, childStateSha256, decisionSequence) ∈ ledger.seen then
    .error (accountingError "usage-observation-replay")
  else
    match usageDelta (ledger.latest childId) cumulative with
    | .error error => .error error
    | .ok () =>
      .ok
        { latest := Function.update ledger.latest childId cumulative
          seen := (childId, childStateSha256, decisionSequence) :: ledger.seen }

end Ledger

end WorkOrchestration.Native.Accounting
