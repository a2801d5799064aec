import Mathlib.Data.List.Forall2
import Mathlib.Tactic.Common

/-!
# Results that may be errors

When a computation in `Except` succeeds: a sequence of steps, a check, a loop of checks and a
loop that collects its results.
-/

namespace WorkOrchestration.Lib.Results

variable {ε α β : Type}

theorem bind_eq_ok {first : Except ε α} {next : α → Except ε β} {result : β} :
    (first >>= next) = .ok result ↔ ∃ value, first = .ok value ∧ next value = .ok result := by
  cases first with
  | error | ok => simp [bind, Except.bind]

theorem ok_bind (value : α) (next : α → Except ε β) : (.ok value >>= next) = next value := rfl

theorem pure_eq_ok {value result : α} : (pure value : Except ε α) = .ok result ↔ value = result :=
  ⟨fun same => Except.ok.inj same, fun same => congrArg Except.ok same⟩

theorem map_eq_ok {result : Except ε α} {f : α → β} {value : β} :
    result.map f = .ok value ↔ ∃ inner, result = .ok inner ∧ f inner = value := by
  cases result with
  | error | ok => simp [Except.map]

theorem ite_eq_ok {condition : Bool} {error : ε} {done : Unit} :
    (if condition then Except.ok () else .error error) = .ok done ↔ condition = true := by
  cases condition with
  | false => simp
  | true => simp

theorem forM_eq_ok {items : List α} {check : α → Except ε Unit} {done : Unit} :
    items.forM check = .ok done ↔ ∀ item ∈ items, check item = .ok () := by
  induction items with
  | nil => simp [List.forM, pure, Except.pure]
  | cons item rest ih =>
    simp only [List.forM, List.forall_mem_cons]
    rw [bind_eq_ok]
    constructor
    · rintro ⟨_, here, later⟩
      exact ⟨here, ih.mp later⟩
    · rintro ⟨here, later⟩
      exact ⟨(), here, ih.mpr later⟩

theorem mapM_eq_ok {items : List α} {f : α → Except ε β} {results : List β} :
    items.mapM f = .ok results ↔
      List.Forall₂ (fun item result => f item = .ok result) items results := by
  induction items generalizing results with
  | nil =>
    rw [List.mapM_nil, pure_eq_ok, List.forall₂_nil_left_iff]
    exact eq_comm
  | cons item rest ih =>
    rw [List.mapM_cons, bind_eq_ok, List.forall₂_cons_left_iff]
    constructor
    · rintro ⟨head, here, later⟩
      obtain ⟨tail, others, done⟩ := bind_eq_ok.mp later
      exact ⟨head, tail, here, ih.mp others, (pure_eq_ok.mp done).symm⟩
    · rintro ⟨head, tail, here, later, rfl⟩
      exact ⟨head, here, bind_eq_ok.mpr ⟨tail, ih.mpr later, rfl⟩⟩

end WorkOrchestration.Lib.Results
