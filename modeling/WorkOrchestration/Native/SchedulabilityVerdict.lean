import Mathlib.Data.List.MinMax
import WorkOrchestration.Native.Schedulability

/-!
# The verdict of a budget proof

The acceptance of a pool size against the inequality it stands for.  Certified inputs are accepted
if the demand as the decimal context computes it fits the interval; that demand rises with every
input, and differs from the exact one by a few units of its last digit at most.
-/

namespace WorkOrchestration.Native.SchedulabilityVerdict

open List Lib.Binary64 Lib.DecimalContext Artifacts
open Artifacts.Json (digitLimit)
open Schedulability
open Schedulability (require)

/-- An integer that `str` writes out, or any finite float. -/
def Readable : Number → Prop
  | .int value => value.natAbs < digitLimit
  | .float _ => True

/-- A finite nonnegative number. -/
structure Amount where
  number : Number
  readable : Readable number
  nonneg : 0 ≤ number.value

def Amount.value (amount : Amount) : ℚ := amount.number.value

/-- Inputs that the budget proof is made of. -/
structure Certified where
  workers : Nat
  ceilings : List (String × Amount)
  overhead : Amount
  interval : Amount
  staffed : 0 < workers
  named : ∀ ceiling ∈ ceilings, ceiling.1 ≠ ""
  distinct : (ceilings.map Prod.fst).Nodup
  checked : "check" ∈ ceilings.map Prod.fst
  positive : 0 < interval.value

namespace Certified

variable (inputs : Certified)

def proof : Except PyError SchedulingBudgetProof :=
  schedulingBudgetProof (.number (.int inputs.workers))
    (some (inputs.ceilings.map fun ceiling => (.text ceiling.1, .number ceiling.2.number)))
    (.number inputs.overhead.number) (.number inputs.interval.number)

def Accepts : Prop := ∃ proof, inputs.proof = .ok proof ∧ proof.accepted = true

def values : List (String × ℚ) :=
  inputs.ceilings.map fun ceiling => (ceiling.1, ceiling.2.value)

def largest : ℚ := (inputs.values.map Prod.snd).max?.getD 0

/-- The ceiling of `check`. -/
def check : ℚ := (inputs.values.lookup "check").getD 0

def exactDemand : ℚ :=
  inputs.largest + inputs.workers * inputs.check + inputs.overhead.value

/-- The demand as the decimal context has it. -/
def roundedDemand : ℚ :=
  rounded precision
    (rounded precision (inputs.largest + rounded precision (inputs.workers * inputs.check)) +
      inputs.overhead.value)

/-- No operation of the demand has more digits than the context. -/
def Unrounded : Prop :=
  Fits precision (inputs.workers * inputs.check) ∧
    Fits precision (inputs.largest + inputs.workers * inputs.check) ∧
    Fits precision inputs.exactDemand

/-- The interval is apart from the demand by more than rounding can move it. -/
def Distant : Prop :=
  2 / 10 ^ 27 * inputs.exactDemand < |inputs.interval.value - inputs.exactDemand|

/-- Every input asks for no more than in another pool. -/
structure Easier (inputs harder : Certified) : Prop where
  workers : inputs.workers ≤ harder.workers
  ceilings : ∀ ceiling ∈ inputs.ceilings, ∃ amount,
    (ceiling.1, amount) ∈ harder.ceilings ∧ ceiling.2.value ≤ amount.value
  overhead : inputs.overhead.value ≤ harder.overhead.value
  interval : harder.interval.value ≤ inputs.interval.value

variable (inputs : Certified) {value : ℚ}

theorem mem_values {name : String} :
    (name, value) ∈ inputs.values ↔ ∃ amount, (name, amount) ∈ inputs.ceilings ∧ amount.value = value := by
  simp [values]

theorem largest_spec : (∃ ceiling ∈ inputs.ceilings, ceiling.2.value = inputs.largest) ∧
    ∀ ceiling ∈ inputs.ceilings, ceiling.2.value ≤ inputs.largest := by
  have filled : inputs.values.map Prod.snd ≠ [] := by
    obtain ⟨ceiling, present, _⟩ := mem_map.mp inputs.checked
    simp [values, ne_nil_of_mem present]
  obtain ⟨largest, found⟩ := Option.ne_none_iff_exists'.mp (mt max?_eq_none_iff.mp filled)
  have same : inputs.largest = largest := by simp [Certified.largest, found]
  obtain ⟨reached, bound⟩ := max?_eq_some_iff.mp found
  rw [same]
  constructor
  · simpa [values] using reached
  · intro ceiling present
    exact bound _ (by simpa [values] using ⟨ceiling.1, ceiling.2, present, rfl⟩)

theorem lookup_eq_some_of_mem {values : List (String × ℚ)} (distinct : (values.map Prod.fst).Nodup)
    {name : String} (present : (name, value) ∈ values) :
    values.lookup name = some value := by
  induction values with
  | nil => simp at present
  | cons head rest ih =>
    obtain ⟨other, first⟩ := head
    simp only [map_cons, nodup_cons] at distinct
    rcases mem_cons.mp present with here | later
    · obtain ⟨rfl, rfl⟩ := Prod.mk.injEq .. ▸ here
      simp
    · have apart : name ≠ other := by
        rintro rfl
        exact distinct.1 (mem_map_of_mem (f := Prod.fst) later)
      rw [lookup_cons, beq_false_of_ne apart]
      exact ih distinct.2 later

theorem check_unique {amount : Amount} (present : ("check", amount) ∈ inputs.ceilings) :
    amount.value = inputs.check := by
  have distinct : (inputs.values.map Prod.fst).Nodup := by
    simpa [values, Function.comp_def] using inputs.distinct
  rw [check, lookup_eq_some_of_mem distinct ((mem_values inputs).mpr ⟨amount, present, rfl⟩)]
  rfl

theorem check_spec : ∃ amount, ("check", amount) ∈ inputs.ceilings ∧ amount.value = inputs.check := by
  obtain ⟨⟨name, amount⟩, present, named⟩ := mem_map.mp inputs.checked
  obtain rfl : name = "check" := named
  exact ⟨amount, present, check_unique inputs present⟩

theorem check_nonneg : 0 ≤ inputs.check := by
  obtain ⟨amount, _, same⟩ := check_spec inputs
  exact same ▸ amount.nonneg

theorem largest_nonneg : 0 ≤ inputs.largest := by
  obtain ⟨ceiling, _, same⟩ := (largest_spec inputs).1
  exact same ▸ ceiling.2.nonneg

theorem checks_nonneg : 0 ≤ inputs.workers * inputs.check :=
  mul_nonneg (Nat.cast_nonneg _) (check_nonneg inputs)

variable {number : Number}

theorem value_lt (readable : Readable number) : number.value < (10 : ℚ) ^ (4300 : ℤ) := by
  cases number with
  | int value =>
    have below : value < (digitLimit : ℤ) := by
      have size : value.natAbs < digitLimit := readable
      omega
    have cast : ((digitLimit : ℤ) : ℚ) = (10 : ℚ) ^ (4300 : ℤ) := by
      rw [digitLimit, ← pow_mul, Nat.cast_pow, Int.cast_pow]
      exact (zpow_natCast (10 : ℚ) (100 * 43)).symm
    rw [← cast]
    exact Int.cast_lt.mpr below
  | float text =>
    have size : text.coefficient < 10 ^ 17 := by
      have short := text.short
      omega
    have most : (text.coefficient : ℚ) < (10 : ℚ) ^ (17 : ℤ) := by exact_mod_cast size
    calc (text.coefficient : ℚ) * (10 : ℚ) ^ text.exponent
        < (10 : ℚ) ^ (17 : ℤ) * (10 : ℚ) ^ text.exponent :=
          mul_lt_mul_of_pos_right most (zpow_pos (by norm_num) _)
      _ = (10 : ℚ) ^ (17 + text.exponent) := (zpow_add₀ (by norm_num) _ _).symm
      _ ≤ (10 : ℚ) ^ (4300 : ℤ) := zpow_le_zpow_right₀ (by norm_num) (by have := text.high; omega)

theorem operate_eq_ok {value result : ℚ} (done : operate value = .ok result) :
    result = rounded precision value := by
  unfold operate at done
  split at done
  · cases done
    rfl
  · cases done

/-- Far below the largest exponent nothing overflows. -/
theorem operate_of_lt (nonneg : 0 ≤ value) (below : value < (10 : ℚ) ^ (5000 : ℤ)) :
    operate value = .ok (rounded precision value) := by
  have fits : Int.log 10 |rounded precision value| ≤ maxExponent := by
    rcases (rounded_nonneg precision nonneg).eq_or_lt with zero | positive
    · rw [← zero, abs_zero, Int.log_zero_right]
      decide
    · have larger : 0 < value := by
        refine nonneg.lt_of_ne fun zero => positive.ne' ?_
        rw [← zero, rounded_zero]
      have logarithm : Int.log 10 |value| < 5000 := by
        have below := (zpow_log_le larger.ne').trans_lt ((abs_of_pos larger).trans_lt below)
        exact (zpow_lt_zpow_iff_right₀ (by norm_num)).mp below
      have power : (10 : ℚ) ^ Int.log 10 |rounded precision value| ≤ (10 : ℚ) ^ (Int.log 10 |value| + 1) :=
        (zpow_log_le positive.ne').trans
          ((abs_of_pos positive).trans_le (rounded_le_zpow precision))
      have order := (zpow_le_zpow_iff_right₀ (by norm_num)).mp power
      unfold maxExponent
      omega
  rw [operate, if_pos fits]

theorem decimalNumber_readable (readable : Readable number) (nonneg : 0 ≤ number.value)
    (field : String) : decimalNumber (.number number) field false = .ok number.value := by
  have read : decimalOf field (.number number) = .ok number.value := by
    cases number with
    | int value => exact if_pos readable
    | float text => rfl
  simp [decimalNumber, read, nonneg, require, bind, Except.bind, pure, Except.pure]

theorem decimalNumber_positive (readable : Readable number) (positive : 0 < number.value)
    (field : String) : decimalNumber (.number number) field true = .ok number.value := by
  have read : decimalOf field (.number number) = .ok number.value := by
    cases number with
    | int value => exact if_pos readable
    | float text => rfl
  simp [decimalNumber, read, positive.le, positive.ne', require, bind, Except.bind, pure,
    Except.pure]

theorem mapM_normalizedCallback {ceilings : List (String × Amount)}
    (named : ∀ ceiling ∈ ceilings, ceiling.1 ≠ "") :
    (ceilings.map fun ceiling => (CallbackName.text ceiling.1, Scalar.number ceiling.2.number)).mapM
        normalizedCallback = .ok (ceilings.map fun ceiling => (ceiling.1, ceiling.2.value)) := by
  induction ceilings with
  | nil => rfl
  | cons head rest ih =>
    have first : normalizedCallback (.text head.1, .number head.2.number) =
        .ok (head.1, head.2.value) := by
      simp [normalizedCallback, require, named head (by simp),
        decimalNumber_readable head.2.readable head.2.nonneg, bind, Except.bind, pure, Except.pure,
        Amount.value]
    rw [map_cons, mapM_cons, first, ih fun ceiling present => named ceiling (by simp [present])]
    rfl

theorem readCeilings_certified : readCeilings (some (inputs.ceilings.map fun ceiling =>
      (.text ceiling.1, .number ceiling.2.number))) = .ok inputs.values := by
  have checked : (inputs.ceilings.map fun ceiling =>
      (CallbackName.text ceiling.1, Scalar.number ceiling.2.number)).any
        (fun item => item.1 = .text "check") = true := by
    obtain ⟨ceiling, present, named⟩ := mem_map.mp inputs.checked
    simp only [any_map, any_eq_true]
    exact ⟨ceiling, present, by simp [named]⟩
  rw [readCeilings, checked]
  exact mapM_normalizedCallback inputs.named

theorem totalDemand_eq_ok {total : ℚ}
    (done : totalDemand inputs.largest inputs.check inputs.overhead.value inputs.workers = .ok total) :
    total = inputs.roundedDemand := by
  obtain ⟨checks, first, later⟩ := bind_ok done
  obtain ⟨callbacks, second, last⟩ := bind_ok later
  rw [operate_eq_ok last, operate_eq_ok second, operate_eq_ok first]
  rfl

theorem le_two_mul_rounded (nonneg : 0 ≤ value) : value ≤ 2 * rounded precision value := by
  have error := (abs_le.mp (abs_rounded_sub_le precision value)).1
  rw [abs_of_nonneg nonneg, precision] at error
  rw [precision]
  linarith

theorem readWorkers_certified : readWorkers (.number (.int inputs.workers)) = .ok inputs.workers := by
  have staffed := inputs.staffed
  have counted : (1 : Int) ≤ inputs.workers := by omega
  simp [readWorkers, require, counted, bind, Except.bind, pure, Except.pure]

theorem proof_eq : inputs.proof =
    totalDemand inputs.largest inputs.check inputs.overhead.value inputs.workers >>= fun total =>
      operate (inputs.interval.value - total) >>= fun slack =>
        .ok (budgetProof inputs.workers inputs.values inputs.largest inputs.check inputs.overhead.value
          inputs.interval.value total slack) := by
  have overhead := decimalNumber_readable inputs.overhead.readable inputs.overhead.nonneg
  have interval := decimalNumber_positive inputs.interval.readable inputs.positive "poll-interval-ms"
  rw [proof, schedulingBudgetProof, readWorkers_certified, readCeilings_certified, overhead, interval]
  rfl

theorem interval_lt : 8 * inputs.interval.value < (10 : ℚ) ^ (5000 : ℤ) := by
  have below : inputs.interval.value < (10 : ℚ) ^ (4300 : ℤ) := value_lt inputs.interval.readable
  have power : (0 : ℚ) < (10 : ℚ) ^ (4300 : ℤ) := zpow_pos (by norm_num) _
  calc 8 * inputs.interval.value < 8 * (10 : ℚ) ^ (4300 : ℤ) := mul_lt_mul_of_pos_left below (by norm_num)
    _ ≤ (10 : ℚ) ^ (1 : ℤ) * (10 : ℚ) ^ (4300 : ℤ) :=
        mul_le_mul_of_nonneg_right (by norm_num) power.le
    _ = (10 : ℚ) ^ (1 + 4300 : ℤ) := (zpow_add₀ (by norm_num) _ _).symm
    _ ≤ (10 : ℚ) ^ (5000 : ℤ) := zpow_le_zpow_right₀ (by norm_num) (by decide)

theorem roundedDemand_nonneg : 0 ≤ inputs.roundedDemand := by
  have checks := rounded_nonneg precision (checks_nonneg inputs)
  have callbacks := rounded_nonneg precision (add_nonneg (largest_nonneg inputs) checks)
  exact rounded_nonneg precision (add_nonneg callbacks inputs.overhead.nonneg)

theorem exact_le_of_le {bound : ℚ} (within : inputs.roundedDemand ≤ bound) :
    inputs.workers * inputs.check ≤ 8 * bound ∧
      inputs.largest + rounded precision (inputs.workers * inputs.check) ≤ 8 * bound ∧
      rounded precision (inputs.largest + rounded precision (inputs.workers * inputs.check)) +
        inputs.overhead.value ≤ 8 * bound := by
  have largest := largest_nonneg inputs
  have overhead : 0 ≤ inputs.overhead.value := inputs.overhead.nonneg
  have checks := rounded_nonneg precision (checks_nonneg inputs)
  have callbacks := rounded_nonneg precision (add_nonneg largest checks)
  have first := le_two_mul_rounded (checks_nonneg inputs)
  have second := le_two_mul_rounded (add_nonneg largest checks)
  have third := le_two_mul_rounded (add_nonneg callbacks overhead)
  rw [roundedDemand] at within
  refine ⟨?_, ?_, ?_⟩ <;> linarith

theorem totalDemand_of_le (within : inputs.roundedDemand ≤ inputs.interval.value) :
    totalDemand inputs.largest inputs.check inputs.overhead.value inputs.workers =
      .ok inputs.roundedDemand := by
  have reach := interval_lt inputs
  obtain ⟨first, second, third⟩ := exact_le_of_le inputs within
  have checks := rounded_nonneg precision (checks_nonneg inputs)
  have sum := add_nonneg (largest_nonneg inputs) checks
  have whole := add_nonneg (rounded_nonneg precision sum) inputs.overhead.nonneg
  rw [totalDemand, operate_of_lt (checks_nonneg inputs) (first.trans_lt reach)]
  change (operate (inputs.largest + rounded precision (inputs.workers * inputs.check)) >>= _) = _
  rw [operate_of_lt sum (second.trans_lt reach)]
  exact operate_of_lt whole (third.trans_lt reach)

/-- The inputs are accepted if the computed demand fits the interval. -/
theorem accepts_iff : inputs.Accepts ↔ inputs.roundedDemand ≤ inputs.interval.value := by
  have below : inputs.roundedDemand ≤ inputs.interval.value →
      inputs.interval.value - inputs.roundedDemand < (10 : ℚ) ^ (5000 : ℤ) := by
    intro within
    have least : inputs.interval.value - inputs.roundedDemand ≤ 8 * inputs.interval.value := by
      linarith [inputs.positive, roundedDemand_nonneg inputs]
    exact least.trans_lt (interval_lt inputs)
  constructor
  · rintro ⟨proof, made, fits⟩
    rw [proof_eq] at made
    obtain ⟨total, demanded, later⟩ := bind_ok made
    obtain ⟨slack, left, last⟩ := bind_ok later
    cases last
    rw [operate_eq_ok left, totalDemand_eq_ok inputs demanded] at fits
    exact sub_nonneg.mp ((rounded_nonneg_iff (by decide)).mp (of_decide_eq_true fits))
  · intro within
    have slack := operate_of_lt (sub_nonneg.mpr within) (below within)
    have made : inputs.proof = .ok (budgetProof inputs.workers inputs.values inputs.largest inputs.check
        inputs.overhead.value inputs.interval.value inputs.roundedDemand
        (rounded precision (inputs.interval.value - inputs.roundedDemand))) := by
      rw [proof_eq, totalDemand_of_le inputs within]
      change (operate _ >>= _) = _
      rw [slack]
      rfl
    exact ⟨_, made, decide_eq_true (rounded_nonneg precision (sub_nonneg.mpr within))⟩

theorem roundedDemand_of_unrounded (unrounded : inputs.Unrounded) :
    inputs.roundedDemand = inputs.exactDemand := by
  obtain ⟨checks, callbacks, total⟩ := unrounded
  rw [roundedDemand, rounded_of_fits precision checks, rounded_of_fits precision callbacks]
  exact rounded_of_fits precision total

/-- The roundings move the demand by less than two units of the last of its digits. -/
theorem abs_roundedDemand_sub_le :
    |inputs.roundedDemand - inputs.exactDemand| ≤ 2 / 10 ^ 27 * inputs.exactDemand := by
  have largest := largest_nonneg inputs
  have overhead : 0 ≤ inputs.overhead.value := inputs.overhead.nonneg
  have exact := checks_nonneg inputs
  have checks := rounded_nonneg precision exact
  have callbacks := rounded_nonneg precision (add_nonneg largest checks)
  have first := abs_rounded_sub_le precision (inputs.workers * inputs.check)
  have second := abs_rounded_sub_le precision
    (inputs.largest + rounded precision (inputs.workers * inputs.check))
  have third := abs_rounded_sub_le precision
    (rounded precision (inputs.largest + rounded precision (inputs.workers * inputs.check)) +
      inputs.overhead.value)
  rw [abs_of_nonneg exact, abs_le] at first
  rw [abs_of_nonneg (add_nonneg largest checks), abs_le] at second
  rw [abs_of_nonneg (add_nonneg callbacks overhead), abs_le] at third
  have factor : (5 : ℚ) / 10 ^ precision = 5 / 10 ^ 28 := rfl
  rw [factor] at first second third
  rw [roundedDemand, exactDemand, abs_le]
  constructor
  · linarith [first.1, second.1, third.1]
  · linarith [first.2, second.2, third.2]

theorem accepts_iff_of_distant (distant : inputs.Distant) :
    inputs.Accepts ↔ inputs.exactDemand ≤ inputs.interval.value := by
  rw [accepts_iff]
  have error := abs_le.mp (abs_roundedDemand_sub_le inputs)
  rcases lt_abs.mp distant with above | below
  · have early : inputs.roundedDemand ≤ inputs.interval.value := by linarith [error.2]
    have exact : inputs.exactDemand ≤ inputs.interval.value := by linarith [error.1, error.2]
    exact iff_of_true early exact
  · have late : ¬inputs.roundedDemand ≤ inputs.interval.value := by linarith [error.1]
    have exact : ¬inputs.exactDemand ≤ inputs.interval.value := by linarith [error.1, error.2]
    exact iff_of_false late exact

variable {inputs} {harder : Certified}

section

variable (easier : inputs.Easier harder)

include easier

theorem Easier.largest_le : inputs.largest ≤ harder.largest := by
  obtain ⟨ceiling, present, reached⟩ := (largest_spec inputs).1
  obtain ⟨amount, above, ordered⟩ := easier.ceilings ceiling present
  rw [← reached]
  exact ordered.trans ((largest_spec harder).2 _ above)

theorem Easier.check_le : inputs.check ≤ harder.check := by
  obtain ⟨amount, present, same⟩ := check_spec inputs
  obtain ⟨other, above, ordered⟩ := easier.ceilings _ present
  rw [← same, ← check_unique harder above]
  exact ordered

theorem Easier.roundedDemand_le : inputs.roundedDemand ≤ harder.roundedDemand := by
  have workers : (inputs.workers : ℚ) ≤ harder.workers := by exact_mod_cast easier.workers
  have checks : inputs.workers * inputs.check ≤ harder.workers * harder.check :=
    mul_le_mul workers easier.check_le (check_nonneg inputs) (Nat.cast_nonneg _)
  have present : 0 < precision := by decide
  have first := rounded_mono present (checks_nonneg inputs) checks
  have callbacks : 0 ≤ inputs.largest + rounded precision (inputs.workers * inputs.check) :=
    add_nonneg (largest_nonneg inputs) (rounded_nonneg _ (checks_nonneg inputs))
  have second := rounded_mono present callbacks (add_le_add easier.largest_le first)
  exact rounded_mono present (add_nonneg (rounded_nonneg _ callbacks) inputs.overhead.nonneg)
    (add_le_add second easier.overhead)

theorem Easier.accepts (accepted : harder.Accepts) : inputs.Accepts := by
  rw [accepts_iff] at accepted ⊢
  calc inputs.roundedDemand ≤ harder.roundedDemand := easier.roundedDemand_le
    _ ≤ harder.interval.value := accepted
    _ ≤ inputs.interval.value := easier.interval

end

/-- The verdict is the exact inequality if no operation rounds, or if the interval is not near the
demand; and asking for less never loses an acceptance. -/
theorem verdict_exact_when (inputs : Certified) : (inputs.Unrounded ∨ inputs.Distant →
      (inputs.Accepts ↔ inputs.exactDemand ≤ inputs.interval.value)) ∧
    ∀ harder : Certified, inputs.Easier harder → harder.Accepts → inputs.Accepts := by
  constructor
  · rintro (unrounded | distant)
    · rw [accepts_iff, roundedDemand_of_unrounded inputs unrounded]
    · exact accepts_iff_of_distant inputs distant
  · intro harder easier accepted
    exact easier.accepts accepted

end Certified

def whole (value : Nat) (short : value < digitLimit) : Amount where
  number := .int value
  readable := short
  nonneg := Int.cast_nonneg (Int.natCast_nonneg value)

/-- One worker, a ceiling besides `check`, and no overhead. -/
def singleWorker (ceiling interval : Nat) (short : ceiling < digitLimit) (brief : interval < digitLimit)
    (positive : 0 < interval) : Certified where
  workers := 1
  ceilings := [("check", whole 0 (by decide +kernel)), ("send_input", whole ceiling short)]
  overhead := whole 0 (by decide +kernel)
  interval := whole interval brief
  staffed := by decide
  named := by simp
  distinct := by simp
  checked := by simp
  positive := Int.cast_pos.mpr (Int.natCast_pos.mpr positive)

def boundary : Certified :=
  singleWorker (10 ^ 28 + 1) (10 ^ 28) (by decide +kernel) (by decide +kernel) (by decide)

/-- The ceiling exceeds the interval by one and is accepted. -/
theorem exceeded_interval_accepted :
    boundary.Accepts ∧ ¬boundary.exactDemand ≤ boundary.interval.value := by
  rw [Certified.accepts_iff]
  decide +kernel

def brief : Certified := singleWorker 150 1000 (by decide +kernel) (by decide +kernel) (by decide)

def long : Certified := singleWorker 200 1000 (by decide +kernel) (by decide +kernel) (by decide)

theorem brief_easier : brief.Easier long where
  workers := le_rfl
  ceilings := by
    intro ceiling present
    rcases mem_pair.mp present with rfl | rfl
    · exact ⟨whole 0 (by decide +kernel), mem_cons_self, le_rfl⟩
    · exact ⟨whole 200 (by decide +kernel), mem_cons_of_mem _ mem_cons_self, by decide +kernel⟩
  overhead := le_rfl
  interval := le_rfl

theorem verdict_exact_when_short :
    (long.Accepts ↔ long.exactDemand ≤ long.interval.value) ∧ (long.Accepts → brief.Accepts) := by
  constructor
  · refine (Certified.verdict_exact_when long).1 (.inl ⟨?_, ?_, ?_⟩)
    · exact ⟨0, 0, by decide, by decide +kernel⟩
    · exact ⟨200, 0, by decide, by decide +kernel⟩
    · exact ⟨200, 0, by decide, by decide +kernel⟩
  · exact (Certified.verdict_exact_when brief).2 long brief_easier

end WorkOrchestration.Native.SchedulabilityVerdict
