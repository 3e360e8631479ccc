import Dialogue.Decimal.Nearest

/-!
# Numbers written in a text

The three spellings of a number that people write into conditions, weekday
lists and answers: a natural number, an integer, and a decimal fraction with
an optional exponent.  Each reader takes a whole text, digits are ASCII, and a
single sign may stand in front.
-/

namespace Dialogue.Text

/-- A non-empty run of ASCII digits, as a number. -/
def digits? (cs : List Char) : Option Nat :=
  if !cs.isEmpty && cs.all Char.isDigit then some (Nat.ofDigitChars 10 cs 0) else none

/-- A natural number; a plus sign may stand in front. -/
def natural? : List Char → Option Nat
  | '+' :: rest => digits? rest
  | cs => digits? cs

/-- An integer; a plus or minus sign may stand in front. -/
def integer? : List Char → Option Int
  | '-' :: rest => (digits? rest).map fun n => -(n : Int)
  | '+' :: rest => (digits? rest).map Int.ofNat
  | cs => (digits? cs).map Int.ofNat

/-- A power of ten, as written after the letter `e`. -/
def power? : List Char → Option Int
  | [] => some 0
  | c :: rest => if c = 'e' || c = 'E' then integer? rest else none

/-- A decimal fraction without its sign: digits, a point that may be missing
or stand at either end, and an optional power of ten. -/
def unsignedDecimal? (cs : List Char) : Option Decimal :=
  let whole := cs.takeWhile Char.isDigit
  let afterWhole := cs.dropWhile Char.isDigit
  let (fraction, afterFraction) :=
    match afterWhole with
    | '.' :: rest => (rest.takeWhile Char.isDigit, rest.dropWhile Char.isDigit)
    | _ => ([], afterWhole)
  if whole.isEmpty && fraction.isEmpty then
    none
  else
    (power? afterFraction).map fun power =>
      { negative := false
        digits := Nat.ofDigitChars 10 (whole ++ fraction) 0
        exponent := power - fraction.length }

/-- A decimal fraction; a plus or minus sign may stand in front. -/
def decimal? : List Char → Option Decimal
  | '-' :: rest => (unsignedDecimal? rest).map fun d => { d with negative := true }
  | '+' :: rest => unsignedDecimal? rest
  | cs => unsignedDecimal? cs

end Dialogue.Text
