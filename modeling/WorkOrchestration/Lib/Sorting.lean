import Mathlib.Data.List.Basic
import Mathlib.Order.Lattice

/-!
# Sorting by a key

Stable sorting by the keys of the elements.  A sorted list is left alone, and
where keys tell elements apart the order in which they were supplied is lost.
-/

namespace WorkOrchestration.Lib.Sorting

variable {α κ : Type} [LinearOrder κ] (key : α → κ)

def sortByKey (items : List α) : List α :=
  items.mergeSort fun left right => decide (key left ≤ key right)

theorem sortByKey_perm (items : List α) : (sortByKey key items).Perm items :=
  List.mergeSort_perm _ _

theorem mem_sortByKey {items : List α} {item : α} : item ∈ sortByKey key items ↔ item ∈ items :=
  (sortByKey_perm key items).mem_iff

theorem pairwise_sortByKey (items : List α) :
    (sortByKey key items).Pairwise fun left right => key left ≤ key right := by
  have sorted := @List.pairwise_mergeSort _ (fun left right => decide (key left ≤ key right))
    (fun first second third => by simpa using le_trans)
    (fun first second => by simpa using le_total (key first) (key second)) items
  exact sorted.imp fun ordered => of_decide_eq_true ordered

@[simp]
theorem sortByKey_sortByKey (items : List α) :
    sortByKey key (sortByKey key items) = sortByKey key items :=
  List.mergeSort_of_pairwise ((pairwise_sortByKey key items).imp fun ordered => decide_eq_true ordered)

theorem sortByKey_congr {left right : List α} (same : left.Perm right)
    (apart : ∀ first ∈ left, ∀ second ∈ left, key first = key second → first = second) :
    sortByKey key left = sortByKey key right := by
  have whole : (sortByKey key left).Perm (sortByKey key right) :=
    (sortByKey_perm key left).trans (same.trans (sortByKey_perm key right).symm)
  refine whole.eq_of_pairwise (fun first second inLeft inRight before after => ?_)
    (pairwise_sortByKey key left) (pairwise_sortByKey key right)
  exact apart first ((mem_sortByKey key).mp inLeft) second
    (same.mem_iff.mpr ((mem_sortByKey key).mp inRight)) (le_antisymm before after)

end WorkOrchestration.Lib.Sorting
