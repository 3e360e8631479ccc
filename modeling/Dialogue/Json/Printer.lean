import Dialogue.Json.Basic
import Dialogue.Decimal.Notation

/-!
# Writing documents

A document has two written forms.  The compact form has no space at all; the
indented form puts every item of a list or record on a line of its own, two
spaces further in than the bracket around it, and keeps empty ones closed.
Both write texts and numbers the same way.
-/

namespace Dialogue.Json

/-! ## Texts and numbers -/

/-- A hexadecimal digit in lower case. -/
def hexDigit (n : Nat) : Char :=
  Nat.digitChar (n % 16)

/-- A character as it stands inside quotes.  Quotes and backslashes get a
backslash, control characters a short name or their code point. -/
def escaped (c : Char) : List Char :=
  match c with
  | '"' => ['\\', '"']
  | '\\' => ['\\', '\\']
  | '\n' => ['\\', 'n']
  | '\r' => ['\\', 'r']
  | '\t' => ['\\', 't']
  | '\x08' => ['\\', 'b']
  | '\x0c' => ['\\', 'f']
  | c =>
      if c.toNat < 0x20 then
        ['\\', 'u', '0', '0', hexDigit (c.toNat / 16), hexDigit c.toNat]
      else
        [c]

/-- A text between quotes. -/
def quoted (cs : List Char) : List Char :=
  '"' :: (cs.flatMap escaped ++ ['"'])

/-- An integer in decimal. -/
def integerText (n : Int) : List Char :=
  match n with
  | .ofNat n => Nat.toDigits 10 n
  | .negSucc n => '-' :: Nat.toDigits 10 (n + 1)

/-- A double; what is no number is written as null. -/
def floatText (x : Float) : List Char :=
  if x.isFinite then Decimal.documentText x else ['n', 'u', 'l', 'l']

/-- A truth value. -/
def boolText (b : Bool) : List Char :=
  if b then ['t', 'r', 'u', 'e'] else ['f', 'a', 'l', 's', 'e']

/-! ## The compact form -/

mutual

/-- A document without any space. -/
def compact : Json → List Char
  | .null => ['n', 'u', 'l', 'l']
  | .bool b => boolText b
  | .int n => integerText n
  | .float x => floatText x
  | .text s => quoted s.toList
  | .list items => '[' :: (compactItems items ++ [']'])
  | .record fields => '{' :: (compactFields fields ++ ['}'])

/-- The items of a list, with commas between them. -/
def compactItems : List Json → List Char
  | [] => []
  | item :: rest => compact item ++ compactMoreItems rest

/-- The items of a list, each behind a comma. -/
def compactMoreItems : List Json → List Char
  | [] => []
  | item :: rest => ',' :: (compact item ++ compactMoreItems rest)

/-- The fields of a record, with commas between them. -/
def compactFields : List (String × Json) → List Char
  | [] => []
  | field :: rest => compactField field ++ compactMoreFields rest

/-- The fields of a record, each behind a comma. -/
def compactMoreFields : List (String × Json) → List Char
  | [] => []
  | field :: rest => ',' :: (compactField field ++ compactMoreFields rest)

/-- A field: its name, a colon and its document. -/
def compactField : String × Json → List Char
  | (name, value) => quoted name.toList ++ ':' :: compact value

end

/-! ## The indented form -/

/-- A line break and the indentation of a level. -/
def newLine (level : Nat) : List Char :=
  '\n' :: List.replicate (2 * level) ' '

mutual

/-- A document whose brackets stand at an indentation level. -/
def indented (level : Nat) : Json → List Char
  | .null => ['n', 'u', 'l', 'l']
  | .bool b => boolText b
  | .int n => integerText n
  | .float x => floatText x
  | .text s => quoted s.toList
  | .list [] => ['[', ']']
  | .list (item :: rest) =>
      '[' :: (newLine (level + 1) ++ indented (level + 1) item ++
        indentedMoreItems (level + 1) rest ++ newLine level ++ [']'])
  | .record [] => ['{', '}']
  | .record (field :: rest) =>
      '{' :: (newLine (level + 1) ++ indentedField (level + 1) field ++
        indentedMoreFields (level + 1) rest ++ newLine level ++ ['}'])

/-- The items of a list, each behind a comma and a line break. -/
def indentedMoreItems (level : Nat) : List Json → List Char
  | [] => []
  | item :: rest =>
      ',' :: (newLine level ++ indented level item ++ indentedMoreItems level rest)

/-- The fields of a record, each behind a comma and a line break. -/
def indentedMoreFields (level : Nat) : List (String × Json) → List Char
  | [] => []
  | field :: rest =>
      ',' :: (newLine level ++ indentedField level field ++
        indentedMoreFields level rest)

/-- A field: its name, a colon, a space and its document. -/
def indentedField (level : Nat) : String × Json → List Char
  | (name, value) => quoted name.toList ++ ':' :: ' ' :: indented level value

end

/-- The compact text of a document. -/
def toText (document : Json) : String :=
  String.ofList (compact document)

/-- The indented text of a document. -/
def toIndentedText (document : Json) : String :=
  String.ofList (indented 0 document)

end Dialogue.Json
