import Dialogue.Json.Number
import Dialogue.Json.Quoted

/-!
# Reading drafts

`readDraft` reads a text into a draft and returns what follows the document,
unless reading had to stop.  Every bracket, comma and colon is looked for
behind white space, of which documents know four characters.

Each call of the three readers is justified by fuel.  A reader that opens a
list or record has taken a character, and a reader of items or fields hands on
at most the characters it was given, so twice the length of the text and two
more are always enough.
-/

namespace Dialogue.Json

/-- White space between the parts of a document. -/
def isSpace (c : Char) : Bool :=
  c = ' ' || c = '\n' || c = '\t' || c = '\r'

/-- A text without the white space in front. -/
def skipSpace (cs : List Char) : List Char :=
  cs.dropWhile isSpace

/-- Read the rest of a word whose first letter has been read. -/
def readWord (value : Draft) : List Char → List Char → Draft × Option (List Char)
  | [], cs => (value, some cs)
  | _ :: _, [] => (.cutWord, none)
  | w :: word, c :: cs =>
      if w = c then readWord value word cs else (.broken .malformed, none)

/-- Read a number. -/
def readNumber (cs : List Char) : Draft × Option (List Char) :=
  match scanNumber cs with
  | .ok (number, rest) => (number.draft, some rest)
  | .error .unfinished => (.cutNumber, none)
  | .error fault => (.broken fault, none)

/-- Items or fields with the fault behind the last one, or what follows the
closing bracket; neither when the last one is broken itself. -/
structure Run (α : Type) where
  parts : List α
  stop : Option Fault
  rest : Option (List Char)

/-- A run with one more part in front. -/
def Run.cons {α : Type} (part : α) (run : Run α) : Run α :=
  { run with parts := part :: run.parts }

/-- A run of nothing but a closing bracket. -/
def Run.closed {α : Type} (rest : List Char) : Run α :=
  { parts := [], stop := none, rest := some rest }

/-- A run that ends at a fault. -/
def Run.stopped {α : Type} (fault : Fault) : Run α :=
  { parts := [], stop := some fault, rest := none }

/-- A run whose last part is broken. -/
def Run.brokenAt {α : Type} (part : α) : Run α :=
  { parts := [part], stop := none, rest := none }

mutual

/-- Read a document. -/
def readValue : Nat → List Char → Draft × Option (List Char)
  | 0, _ => (.broken .malformed, none)
  | fuel + 1, cs =>
      match skipSpace cs with
      | [] => (.broken .unfinished, none)
      | '"' :: rest => scanText rest
      | '[' :: rest =>
          let run := readItems fuel true rest
          (.list run.parts run.stop, run.rest)
      | '{' :: rest =>
          let run := readFields fuel true rest
          (.record run.parts run.stop, run.rest)
      | 'n' :: rest => readWord .null ['u', 'l', 'l'] rest
      | 't' :: rest => readWord (.bool true) ['r', 'u', 'e'] rest
      | 'f' :: rest => readWord (.bool false) ['a', 'l', 's', 'e'] rest
      | c :: rest =>
          if c = '-' || c.isDigit then readNumber (c :: rest)
          else (.broken .malformed, none)

/-- Read items up to the closing bracket of a list.  An empty list may close
at once. -/
def readItems : Nat → Bool → List Char → Run Draft
  | 0, _, _ => .stopped .malformed
  | fuel + 1, mayClose, cs =>
      match mayClose, skipSpace cs with
      | true, ']' :: rest => .closed rest
      | _, cs =>
          match readValue fuel cs with
          | (item, none) => .brokenAt item
          | (item, some rest) =>
              match skipSpace rest with
              | [] => (Run.stopped .unfinished).cons item
              | ',' :: rest => (readItems fuel false rest).cons item
              | ']' :: rest => (Run.closed rest).cons item
              | _ => (Run.stopped .malformed).cons item

/-- Read fields up to the closing bracket of a record.  An empty record may
close at once. -/
def readFields : Nat → Bool → List Char → Run (Draft × Draft)
  | 0, _, _ => .stopped .malformed
  | fuel + 1, mayClose, cs =>
      match mayClose, skipSpace cs with
      | true, '}' :: rest => .closed rest
      | _, '"' :: rest =>
          match scanText rest with
          | (key, none) => .brokenAt (key, .broken .malformed)
          | (key, some rest) =>
              match skipSpace rest with
              | [] => .brokenAt (key, .broken .unfinished)
              | ':' :: rest =>
                  match readValue fuel rest with
                  | (value, none) => .brokenAt (key, value)
                  | (value, some rest) =>
                      match skipSpace rest with
                      | [] => (Run.stopped .unfinished).cons (key, value)
                      | ',' :: rest => (readFields fuel false rest).cons (key, value)
                      | '}' :: rest => (Run.closed rest).cons (key, value)
                      | _ => (Run.stopped .malformed).cons (key, value)
              | _ => .brokenAt (key, .broken .malformed)
      | _, [] => .brokenAt (.broken .unfinished, .broken .unfinished)
      | _, _ => .brokenAt (.broken .malformed, .broken .malformed)

end

/-- Read the document that a text starts with. -/
def readDraft (cs : List Char) : Draft × Option (List Char) :=
  readValue (2 * cs.length + 2) cs

end Dialogue.Json
