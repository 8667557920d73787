/-!
# Sets of characters as ranges

A table of a character property is a list of ranges of code points, first and last included.
-/

namespace Turnstile.Text

/-- Some range of the table holds `n`. -/
def inRanges (table : List (Nat × Nat)) (n : Nat) : Bool :=
  table.any fun r => r.1 ≤ n && n ≤ r.2

end Turnstile.Text
