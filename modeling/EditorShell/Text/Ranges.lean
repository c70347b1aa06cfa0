/-!
# Ranges of code points

A property of characters is stored as a list of ranges in ascending order, each with its first and
its last member.
-/

namespace EditorShell.Text

/-- Whether a code point lies in one of the ranges of an ascending table. -/
def inRanges (code : Nat) : List (Nat × Nat) → Bool
  | [] => false
  | (first, last) :: rest =>
    if code < first then false else if code ≤ last then true else inRanges code rest

end EditorShell.Text
