import Mathlib.Data.List.Pairwise
import Mathlib.Data.List.Sort
import Mathlib.Order.Defs.LinearOrder

/-!
# Sorting by a key
-/

section Sorting

variable {α κ : Type} [LinearOrder κ]

/-- The items in the order of their keys. -/
def sortedBy (key : α → κ) (items : List α) : List α :=
  items.insertionSort fun left right => key left ≤ key right

namespace SortedBy

variable {key : α → κ} {items : List α} {item : α}

theorem mem_sortedBy : item ∈ sortedBy key items ↔ item ∈ items :=
  List.mem_insertionSort _

theorem length_sortedBy : (sortedBy key items).length = items.length :=
  List.length_insertionSort _ _

theorem perm_sortedBy : (sortedBy key items).Perm items :=
  List.perm_insertionSort _ _

theorem pairwise_sortedBy :
    (sortedBy key items).Pairwise
      fun left right => key left ≤ key right := by
  have total : Std.Total fun left right : α => key left ≤ key right :=
    ⟨fun left right => le_total (key left) (key right)⟩
  have trans : IsTrans α fun left right : α => key left ≤ key right :=
    ⟨fun _ _ _ => le_trans⟩
  exact List.pairwise_insertionSort _ _

theorem sortedBy_of_pairwise
    (sorted : items.Pairwise fun left right => key left ≤ key right) :
    sortedBy key items = items :=
  sorted.insertionSort_eq

end SortedBy

end Sorting
