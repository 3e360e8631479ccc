import Dialogue.Text.Range

/-!
# Blank characters

A character is blank when Unicode lists it as white space.  Trimming a text
removes the blank characters at both of its ends and nothing else; a text is
blank when nothing remains of it.
-/

namespace Dialogue.Text

/-- The ranges of code points that Unicode lists as white space. -/
def blankRanges : List (Nat × Nat) :=
  [(0x09, 0x0D), (0x20, 0x20), (0x85, 0x85), (0xA0, 0xA0), (0x1680, 0x1680),
    (0x2000, 0x200A), (0x2028, 0x2029), (0x202F, 0x202F), (0x205F, 0x205F),
    (0x3000, 0x3000)]

/-- Whether a character is white space. -/
def isBlank (c : Char) : Bool :=
  isIn blankRanges c

/-- A text without the blank characters at its end. -/
def trimEnd (cs : List Char) : List Char :=
  (cs.reverse.dropWhile isBlank).reverse

/-- A text without the blank characters at its two ends. -/
def trimmed (cs : List Char) : List Char :=
  trimEnd (cs.dropWhile isBlank)

/-- A text without the blank characters at its two ends. -/
def trim (s : String) : String :=
  String.ofList (trimmed s.toList)

/-- Whether a text has no character that is not blank. -/
def isBlankText (s : String) : Bool :=
  s.toList.all isBlank

end Dialogue.Text
