import Dialogue.Text.Invisible

/-!
# Texts with all characters visible

A text between quotes in which nothing is hidden: quotes and backslashes get a
backslash, the commonest control characters a letter, and every other
character that cannot be seen on its own its code point.
-/

namespace Dialogue.Text

/-- The code point of a character in hexadecimal digits. -/
def codePoint (c : Char) : List Char :=
  ['\\', 'u', '\x7b'] ++ Nat.toDigits 16 c.toNat ++ ['\x7d']

/-- A character with nothing hidden. -/
def visible (c : Char) : List Char :=
  match c with
  | '"' => ['\\', '"']
  | '\\' => ['\\', '\\']
  | '\n' => ['\\', 'n']
  | '\r' => ['\\', 'r']
  | '\t' => ['\\', 't']
  | '\x00' => ['\\', '0']
  | c => if isInvisible c then codePoint c else [c]

/-- A text between quotes with nothing hidden. -/
def quoted (s : String) : String :=
  String.ofList ('"' :: (s.toList.flatMap visible ++ ['"']))

end Dialogue.Text
