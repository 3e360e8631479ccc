/-!
# Ranges of characters

Classes of characters are given by ranges of code points, both ends included.
-/

namespace Dialogue.Text

/-- Whether the code point of a character lies in one of several ranges. -/
def isIn (ranges : List (Nat × Nat)) (c : Char) : Bool :=
  ranges.any fun range => range.1 ≤ c.toNat && c.toNat ≤ range.2

end Dialogue.Text
