/-!
Sets of code points given as closed intervals in ascending order.
-/

set_option autoImplicit false
set_option relaxedAutoImplicit false

namespace Exemplar.Text

/-- Whether a character lies in one of the intervals. The intervals ascend, so the search ends at
the first one that begins behind the character. -/
def inRanges : List (Nat × Nat) → Char → Bool
  | [], _ => false
  | range :: ranges, c =>
    if c.toNat < range.1 then false else c.toNat ≤ range.2 || inRanges ranges c

end Exemplar.Text
