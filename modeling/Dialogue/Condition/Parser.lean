import Dialogue.Condition.Basic
import Dialogue.Text.Blank
import Dialogue.Text.Numeral
import Dialogue.Text.Separator

/-!
# Reading conditions

A condition is written as comparisons `key op literal`, joined by `&&` and,
more loosely, by `||`.  Both signs are only looked for outside of quotes.  A
literal in quotes is a text as it stands; without quotes it is a truth value,
null, a number, or else a text that holds no sign of an operator.  If any part
of it cannot be read, the whole condition cannot.
-/

namespace Dialogue.Condition

/-! ## Splitting -/

/-- Whether a character opens and closes a quoted text. -/
def isQuote (c : Char) : Bool :=
  c = '"' || c = '\''

/-- Split a text where a sign occurs twice in a row outside of quotes, given
the quote that is open. -/
def splitOutsideQuotes (sign : Char) : Option Char → List Char → List (List Char)
  | _, [] => [[]]
  | some quote, c :: rest =>
      Text.consHead c
        (splitOutsideQuotes sign (if c = quote then none else some quote) rest)
  | none, [c] => [[c]]
  | none, c :: d :: rest =>
      if isQuote c then
        Text.consHead c (splitOutsideQuotes sign (some c) (d :: rest))
      else if c = sign && d = sign then
        [] :: splitOutsideQuotes sign none rest
      else
        Text.consHead c (splitOutsideQuotes sign none (d :: rest))

/-! ## Comparisons -/

/-- Whether a character can be the first one of an operator. -/
def isOperatorChar (c : Char) : Bool :=
  c = '=' || c = '!' || c = '<' || c = '>'

/-- The operator at the front of a text, and what follows it. -/
def operator? : List Char → Option (Operator × List Char)
  | '=' :: '=' :: rest => some (.eq, rest)
  | '!' :: '=' :: rest => some (.ne, rest)
  | '>' :: '=' :: rest => some (.ge, rest)
  | '<' :: '=' :: rest => some (.le, rest)
  | '>' :: rest => some (.gt, rest)
  | '<' :: rest => some (.lt, rest)
  | _ => none

/-- The literal that a text without quotes stands for. -/
def bareLiteral? (cs : List Char) : Option Value :=
  let s := String.ofList cs
  if s = "true" then
    some (.bool true)
  else if s = "false" then
    some (.bool false)
  else if s = "null" then
    some .null
  else
    match (Text.integer? cs).bind Value.ofInt? with
    | some value => some value
    | none =>
        match Text.decimal? cs with
        | some decimal => some (.float decimal.toFloat)
        | none => if cs.any isOperatorChar then none else some (.text s)

/-- The literal that a trimmed text stands for. -/
def trimmedLiteral? (cs : List Char) : Option Value :=
  match cs.head?, cs.getLast? with
  | some first, some last =>
      if cs.length ≥ 2 && isQuote first && last = first then
        some (.text (String.ofList (cs.drop 1).dropLast))
      else if isQuote first || isQuote last then
        none
      else
        bareLiteral? cs
  | _, _ => none

/-- The literal that a text stands for. -/
def literal? (cs : List Char) : Option Value :=
  trimmedLiteral? (Text.trimmed cs)

/-- Whether a text can be the key of a comparison. -/
def isKey (cs : List Char) : Bool :=
  !cs.isEmpty && !cs.any fun c => Text.isBlank c || isQuote c

/-- The comparison that a text stands for. -/
def comparison? (cs : List Char) : Option Comparison :=
  let cs := Text.trimmed cs
  let key := Text.trimmed (cs.takeWhile fun c => !isOperatorChar c)
  if !isKey key then
    none
  else
    match operator? (cs.dropWhile fun c => !isOperatorChar c) with
    | none => none
    | some (op, rest) =>
        (literal? rest).map fun literal => { key := String.ofList key, op, literal }

/-! ## Conditions -/

/-- The values of all parts of a text, if each of them has one. -/
def each? {α : Type} (read? : List Char → Option α) :
    List (List Char) → Option (List α)
  | [] => some []
  | part :: rest =>
      match read? part, each? read? rest with
      | some value, some values => some (value :: values)
      | _, _ => none

/-- The condition that a text without `||` stands for. -/
def conjunction? (cs : List Char) : Option Condition :=
  match splitOutsideQuotes '&' none cs with
  | [part] => (comparison? part).map .compare
  | parts => (each? (fun part => (comparison? part).map .compare) parts).map .all

/-- The condition that a text stands for. -/
def parse? (s : String) : Option Condition :=
  match splitOutsideQuotes '|' none s.toList with
  | [part] => conjunction? part
  | parts => (each? conjunction? parts).map .any

/-- Whether the condition that a text stands for holds in a state; a text that
is no condition does not hold. -/
def evaluate (s : String) (state : Dictionary Value) : Bool :=
  match parse? s with
  | some condition => condition.holds state
  | none => false

end Dialogue.Condition
