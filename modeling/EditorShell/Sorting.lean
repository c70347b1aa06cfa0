/-!
# Sorting

`sort before` puts a list in the order in which `before first second` says that `first` may come
first.  Elements that may come either way round keep the order they had.
-/

namespace EditorShell.Sorting

variable {α : Type}

/-- Puts an element before the first one that it may come before. -/
def place (before : α → α → Bool) (x : α) : List α → List α
  | [] => [x]
  | y :: rest => if before x y then x :: y :: rest else y :: place before x rest

/-- The elements of a list in order. -/
def sort (before : α → α → Bool) : List α → List α
  | [] => []
  | x :: rest => place before x (sort before rest)

end EditorShell.Sorting
