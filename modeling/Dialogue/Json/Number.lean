import Dialogue.Json.Draft
import Dialogue.Decimal.Nearest

/-!
# Numbers in documents

A number without a fraction and an exponent is an integer if it fits in 64
bits, with or without a sign.  Every other number, and minus zero, is a
double.  Its digits are gathered into a significand of at most 64 bits; the
digits that do not fit any more only count as places.  The significand,
rounded to a double, is then multiplied or divided by one power of ten, or
divided by `10 ^ 308` before that as often as the power asks for it.
-/

namespace Dialogue.Json

/-- The parts of a number as it is written. -/
structure NumberText where
  negative : Bool
  whole : List Char
  fraction : Option (List Char)
  power : Option Int

/-! ## Scanning -/

/-- A run of digits that must not be empty, and what follows it. -/
def scanDigits (cs : List Char) : Except Fault (List Char × List Char) :=
  match cs with
  | [] => .error .unfinished
  | c :: _ =>
      if c.isDigit then .ok (cs.takeWhile Char.isDigit, cs.dropWhile Char.isDigit)
      else .error .malformed

/-- The whole part of a number: a zero that stands alone, or digits that do
not start with a zero. -/
def scanWhole (cs : List Char) : Except Fault (List Char × List Char) :=
  match scanDigits cs with
  | .ok ('0' :: _ :: _, _) => .error .malformed
  | outcome => outcome

/-- The part of a number behind a point, if there is one. -/
def scanFraction (cs : List Char) :
    Except Fault (Option (List Char) × List Char) :=
  match cs with
  | '.' :: rest => (scanDigits rest).map fun (digits, rest) => (some digits, rest)
  | _ => .ok (none, cs)

/-- The power of ten of a number, if there is one. -/
def scanPower (cs : List Char) : Except Fault (Option Int × List Char) :=
  match cs with
  | [] => .ok (none, cs)
  | c :: rest =>
      if c = 'e' || c = 'E' then
        let (negative, digits) :=
          match rest with
          | '-' :: rest => (true, rest)
          | '+' :: rest => (false, rest)
          | _ => (false, rest)
        (scanDigits digits).map fun (digits, rest) =>
          let size : Int := Nat.ofDigitChars 10 digits 0
          (some (if negative then -size else size), rest)
      else
        .ok (none, cs)

/-- A number and what follows it. -/
def scanNumber (cs : List Char) : Except Fault (NumberText × List Char) :=
  let (negative, cs) :=
    match cs with
    | '-' :: rest => (true, rest)
    | _ => (false, cs)
  match scanWhole cs with
  | .error fault => .error fault
  | .ok (whole, cs) =>
      match scanFraction cs with
      | .error fault => .error fault
      | .ok (fraction, cs) =>
          match scanPower cs with
          | .error fault => .error fault
          | .ok (power, cs) => .ok ({ negative, whole, fraction, power }, cs)

/-! ## Values -/

/-- Append digits to a significand as long as it fits in 64 bits; the number
of digits that did fit comes along. -/
def absorb (significand : Nat) : List Char → Nat × Nat
  | [] => (significand, 0)
  | c :: rest =>
      let next := significand * 10 + (c.toNat - '0'.toNat)
      if next < UInt64.size then
        let (final, count) := absorb next rest
        (final, count + 1)
      else
        (significand, 0)

/-- Divide by a power of ten, `10 ^ 308` at a time. -/
def shrink (x : Float) (places : Nat) : Float :=
  if places ≤ 308 then
    x / Decimal.tenTo places
  else if x == 0 then
    x
  else
    shrink (x / Decimal.tenTo 308) (places - 308)
termination_by places

/-- A significand times a power of ten, unless that is too large. -/
def scaled (significand : Nat) (exponent : Int) : Option Float :=
  let x := significand.toUInt64.toFloat
  if exponent < 0 then
    some (shrink x exponent.natAbs)
  else if exponent ≤ 308 then
    let product := x * Decimal.tenTo exponent.toNat
    if product.isInf then none else some product
  else if significand = 0 then
    some x
  else
    none

/-- The double that a number with a fraction or an exponent stands for, or
an integer that is too large. -/
def NumberText.double? (number : NumberText) : Option Float :=
  let (significand, used) := absorb 0 number.whole
  let (significand, behind) := absorb significand (number.fraction.getD [])
  let exponent : Int := (number.whole.length : Int) - used - behind
  let x := scaled significand (exponent + number.power.getD 0)
  if number.negative then x.map (- ·) else x

/-- The draft of a number. -/
def NumberText.draft (number : NumberText) : Draft :=
  let size := Nat.ofDigitChars 10 number.whole 0
  let integer :=
    if number.negative then 0 < size && 2 * size ≤ UInt64.size else size < UInt64.size
  if number.fraction.isNone && number.power.isNone && integer then
    .int (if number.negative then -(size : Int) else size)
  else
    match number.double? with
    | some x => .float x
    | none => .unfit none

end Dialogue.Json
