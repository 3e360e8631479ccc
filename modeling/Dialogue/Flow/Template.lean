import Dialogue.Dictionary
import Dialogue.Value.Basic

/-!
# Placeholders

A text may hold placeholders: a key between braces, or a key and a default
with a bar between them.  Keys are letters and digits of ASCII, underscores,
points and hyphens; a default holds no brace.  A placeholder stands for the
text of the value under its key, or for the default when there is none or it
is null.  Placeholders are found from left to right, and what they stand for
is not looked at again.
-/

namespace Dialogue.Flow

/-- Whether a character can stand in the key of a placeholder. -/
def isKeyChar (c : Char) : Bool :=
  c.isAlphanum || c = '_' || c = '.' || c = '-'

/-- Whether a character can stand in the default of a placeholder. -/
def isDefaultChar (c : Char) : Bool :=
  c != '\x7b' && c != '\x7d'

/-- A key and a default, and the number of characters behind the opening brace
that they and the closing brace take. -/
structure Placeholder where
  key : List Char
  default : List Char
  length : Nat

/-- The placeholder that an opening brace begins, given what follows it. -/
def placeholder? (cs : List Char) : Option Placeholder :=
  let key := cs.takeWhile isKeyChar
  if key.isEmpty then
    none
  else
    match cs.dropWhile isKeyChar with
    | '\x7d' :: _ => some { key, default := [], length := key.length + 1 }
    | '|' :: rest =>
        let default := rest.takeWhile isDefaultChar
        match rest.dropWhile isDefaultChar with
        | '\x7d' :: _ =>
            some { key, default, length := key.length + default.length + 2 }
        | _ => none
    | _ => none

/-- What a placeholder stands for. -/
def Placeholder.content (p : Placeholder) (state : Dictionary Value) : List Char :=
  match (state.get? (String.ofList p.key)).filter fun value => !value.isNull with
  | some value => value.display.toList
  | none => p.default

/-- Replace the placeholders of a text, with `skip` characters of one still to
be passed over. -/
def substituteFrom (state : Dictionary Value) : Nat → List Char → List Char
  | _, [] => []
  | skip + 1, _ :: rest => substituteFrom state skip rest
  | 0, c :: rest =>
      if c = '\x7b' then
        match placeholder? rest with
        | some p => p.content state ++ substituteFrom state p.length rest
        | none => c :: substituteFrom state 0 rest
      else
        c :: substituteFrom state 0 rest

/-- Replace the placeholders of a text. -/
def substitute (state : Dictionary Value) (text : String) : String :=
  String.ofList (substituteFrom state 0 text.toList)

end Dialogue.Flow
