import Mathlib.Data.List.Basic
import Mathlib.Tactic.Common

/-!
# Validators as error lists

A validator reports one text for each rule that its argument breaks and accepts
exactly the arguments for which the list is empty.  `reject` is one rule, stated
by the condition under which it complains.
-/

namespace WorkOrchestration.Lib.Checks

def reject (broken : Prop) [Decidable broken] (error : String) : List String :=
  if broken then [error] else []

@[simp]
theorem reject_eq_nil {broken : Prop} [Decidable broken] {error : String} :
    reject broken error = [] ↔ ¬ broken := by
  unfold reject
  split <;> simp_all

/-- Report the errors of every element together with its position. -/
def forEach {α : Type} (items : List α) (errors : Nat → α → List String) : List String :=
  (items.zipIdx.map fun entry => errors entry.2 entry.1).flatten

theorem forEach_eq_nil {α : Type} {items : List α} {errors : Nat → α → List String} :
    forEach items errors = [] ↔
      ∀ index item, items[index]? = some item → errors index item = [] := by
  simp only [forEach, List.flatten_eq_nil_iff, List.mem_map, Prod.exists, List.mem_zipIdx_iff_getElem?]
  constructor
  · intro all index item found
    exact all _ ⟨item, index, found, rfl⟩
  · rintro all _ ⟨item, index, found, rfl⟩
    exact all index item found

end WorkOrchestration.Lib.Checks
