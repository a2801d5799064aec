import WorkOrchestration.Lib.DecimalContext
import WorkOrchestration.Lib.Sorting
import WorkOrchestration.Native.ProtectedChanges

/-!
# Schedulability of a worker pool

The budget proof of a pool size.  Ceilings, overhead and interval are read through their decimal
strings and therefore exact, but the demand is computed in the default decimal context.
-/

namespace WorkOrchestration.Native.Schedulability

open Lib.DecimalContext
open Lib.Sorting (sortByKey)
open Artifacts
open Artifacts.Json (digitLimit)
open ProtectedChanges (digitsError)

/-- The decimal string of a finite float, of seventeen digits at most. -/
structure FloatText where
  coefficient : Int
  exponent : Int
  short : coefficient.natAbs < 10 ^ 17
  low : -342 ≤ exponent
  high : exponent ≤ 308

inductive Number where
  | int (value : Int)
  | float (text : FloatText)

/-- What the decimal string of a number denotes. -/
def Number.value : Number → ℚ
  | .int value => value
  | .float text => text.coefficient * (10 : ℚ) ^ text.exponent

inductive Scalar where
  | number (number : Number)
  | bool (value : Bool)
  | infinite
  | notANumber
  | other (typeName : String)

def schedulabilityError (message : String) : PyError := ⟨.value, "PoolSchedulabilityError", message⟩

def require (condition : Bool) (message : String) : Except PyError Unit :=
  if condition then .ok () else .error (schedulabilityError message)

/-- `Decimal(str(value))`. -/
def decimalOf (field : String) : Scalar → Except PyError ℚ
  | .number (.int value) =>
    if value.natAbs < digitLimit then .ok value else .error digitsError
  | .number (.float text) => .ok (Number.float text).value
  | _ => .error (schedulabilityError (field ++ "-must-be-finite-number"))

def decimalNumber (value : Scalar) (field : String) (strictlyPositive : Bool) : Except PyError ℚ := do
  let normalized ← decimalOf field value
  require (decide (0 ≤ normalized) && !(strictlyPositive && decide (normalized = 0)))
    (field ++ "-must-be-" ++ if strictlyPositive then "positive" else "nonnegative")
  return normalized

/-- A number of the proof: an integer, or the float nearest to a decimal. -/
inductive PlainNumber where
  | int (value : Int)
  | nearest (value : ℚ)

def plainNumber (value : ℚ) : PlainNumber :=
  if value.isInt then .int value.num else .nearest value

def precision : Nat := 28

/-- The largest exponent of a leading digit. -/
def maxExponent : Int := 999999

def overflowError : PyError := ⟨.other, "Overflow", "[<class 'decimal.Overflow'>]"⟩

/-- The result of an operation, given the exact one. -/
def operate (value : ℚ) : Except PyError ℚ :=
  if Int.log 10 |rounded precision value| ≤ maxExponent then .ok (rounded precision value)
  else .error overflowError

/-- A key of the map of ceilings. -/
inductive CallbackName where
  | text (name : String)
  | other (number : Nat)
  deriving DecidableEq

/-- `SchedulingBudgetProof`. -/
structure SchedulingBudgetProof where
  requestedWorkers : Nat
  certifiedCallbackMaxMs : List (String × PlainNumber)
  lifecycleMaxMs : PlainNumber
  checkMaxMs : PlainNumber
  schedulerOverheadMs : PlainNumber
  pollIntervalMs : PlainNumber
  totalDemandMs : PlainNumber
  slackMs : PlainNumber
  accepted : Bool

def readWorkers : Scalar → Except PyError Nat
  | .number (.int value) => do
      require (decide (1 ≤ value)) "requested-workers-must-be-positive-integer"
      return value.toNat
  | _ => .error (schedulabilityError "requested-workers-must-be-positive-integer")

/-- One item of the map, normalized. -/
def normalizedCallback : CallbackName × Scalar → Except PyError (String × ℚ)
  | (.other _, _) =>
    .error (schedulabilityError "certified-callback-name-must-be-nonempty-string")
  | (.text name, value) => do
      require (decide (name ≠ "")) "certified-callback-name-must-be-nonempty-string"
      return (name, ← decimalNumber value ("certified-callback-" ++ name ++ "-ms") false)

/-- The items of a map of ceilings; `none` is no map. -/
def readCeilings : Option (List (CallbackName × Scalar)) → Except PyError (List (String × ℚ))
  | none => .error (schedulabilityError "certified-callback-max-ms-must-contain-check")
  | some items => do
      require (items.any fun item => item.1 = .text "check")
        "certified-callback-max-ms-must-contain-check"
      items.mapM normalizedCallback

/-- `lifecycle_max + Decimal(requested_workers) * check_max + overhead`. -/
def totalDemand (lifecycleMax checkMax overhead : ℚ) (workers : Nat) : Except PyError ℚ := do
  let checks ← operate (workers * checkMax)
  let callbacks ← operate (lifecycleMax + checks)
  operate (callbacks + overhead)

/-- The proof that is returned, given the demand and the slack. -/
def budgetProof (workers : Nat) (normalizedCallbacks : List (String × ℚ))
    (lifecycleMax checkMax overhead pollInterval total slack : ℚ) : SchedulingBudgetProof where
  requestedWorkers := workers
  certifiedCallbackMaxMs :=
    (sortByKey Prod.fst normalizedCallbacks).map fun item => (item.1, plainNumber item.2)
  lifecycleMaxMs := plainNumber lifecycleMax
  checkMaxMs := plainNumber checkMax
  schedulerOverheadMs := plainNumber overhead
  pollIntervalMs := plainNumber pollInterval
  totalDemandMs := plainNumber total
  slackMs := plainNumber slack
  accepted := decide (0 ≤ slack)

def schedulingBudgetProof (requestedWorkers : Scalar)
    (certifiedCallbackMaxMs : Option (List (CallbackName × Scalar)))
    (certifiedSchedulerOverheadMs pollIntervalMs : Scalar) :
    Except PyError SchedulingBudgetProof := do
  let workers ← readWorkers requestedWorkers
  let normalizedCallbacks ← readCeilings certifiedCallbackMaxMs
  let overhead ← decimalNumber certifiedSchedulerOverheadMs "certified-scheduler-overhead-ms" false
  let pollInterval ← decimalNumber pollIntervalMs "poll-interval-ms" true
  -- The map has an item named `check`, so neither default is ever taken.
  let lifecycleMax := (normalizedCallbacks.map Prod.snd).max?.getD 0
  let checkMax := (normalizedCallbacks.lookup "check").getD 0
  let total ← totalDemand lifecycleMax checkMax overhead workers
  let slack ← operate (pollInterval - total)
  return budgetProof workers normalizedCallbacks lifecycleMax checkMax overhead pollInterval total slack

end WorkOrchestration.Native.Schedulability
