import EditorShell.Sorting
import Mathlib.Data.List.Sort

/-!
# The order of a sorted list

`Sorting.sort` is the insertion sort of the library (`sort_eq_insertionSort`), so what is known of
that holds of it: the result is a permutation (`sort_perm`), and it is in order when any two
elements can be compared and the order is transitive (`pairwise_sort`).
-/

namespace EditorShell.Sorting

variable {α : Type} {before : α → α → Bool}

theorem place_eq_orderedInsert (x : α) (xs : List α) :
    place before x xs = xs.orderedInsert (fun first second => before first second = true) x := by
  induction xs with
  | nil => rfl
  | cons y rest ih => rw [place, List.orderedInsert, ih]

theorem sort_eq_insertionSort (xs : List α) :
    sort before xs = xs.insertionSort fun first second => before first second = true := by
  induction xs with
  | nil => rfl
  | cons x rest ih => rw [sort, ih, place_eq_orderedInsert, List.insertionSort_cons]

theorem sort_perm (xs : List α) : (sort before xs).Perm xs := by
  rw [sort_eq_insertionSort]
  exact List.perm_insertionSort _ xs

@[simp]
theorem mem_sort {x : α} {xs : List α} : x ∈ sort before xs ↔ x ∈ xs := (sort_perm xs).mem_iff

theorem pairwise_sort (htotal : ∀ x y, before x y = true ∨ before y x = true)
    (htrans : ∀ x y z, before x y = true → before y z = true → before x z = true) (xs : List α) :
    (sort before xs).Pairwise fun first second => before first second = true := by
  have : Std.Total fun first second => before first second = true := ⟨htotal⟩
  have : IsTrans α fun first second => before first second = true := ⟨htrans⟩
  rw [sort_eq_insertionSort]
  exact List.pairwise_insertionSort _ xs

end EditorShell.Sorting
