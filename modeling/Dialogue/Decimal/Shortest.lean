/-!
# The shortest decimal of a double

A double stands for every real number that rounds to it.  Among the decimals
in that interval `shortest` takes one with the fewest digits, and of those the
nearest to the double.  Which of two equally near ones it takes is up to the
caller: the even one, or the one farther from zero.

All arithmetic is on natural numbers.  A positive double is `m * 2 ^ q`, and
its interval reaches from `(4 * m - 2) * 2 ^ (q - 2)` to
`(4 * m + 2) * 2 ^ (q - 2)`; just above a power of two it starts at
`(4 * m - 1) * 2 ^ (q - 2)`, since the doubles below are closer together.  The
ends belong to it exactly when `m` is even.
-/

namespace Dialogue.Decimal

/-- Which of two equally near decimals is taken. -/
inductive Tie where
  | toEven
  | fromZero
deriving DecidableEq, Repr

/-- Whether the lower one of two equally near neighbours is taken. -/
def Tie.takesLower (tie : Tie) (lower : Nat) : Bool :=
  match tie with
  | .toEven => lower % 2 = 0
  | .fromZero => false

/-- A positive double `significand * 2 ^ exponent`. -/
structure Binary where
  significand : Nat
  exponent : Int
  /-- The next double below is half as far away as the next one above. -/
  closeBelow : Bool
deriving Repr

/-- The parts of the double whose bits, sign aside, are `bits`. -/
def Binary.ofBits (bits : Nat) : Binary :=
  let fraction : Nat := bits % Nat.pow 2 52
  let field : Nat := bits / Nat.pow 2 52 % Nat.pow 2 11
  if field = 0 then
    { significand := fraction, exponent := -1074, closeBelow := false }
  else
    { significand := Nat.pow 2 52 + fraction
      exponent := (field : Int) - 1075
      closeBelow := fraction = 0 && field > 1 }

/-- A decimal `digits * 10 ^ exponent`. -/
structure Digits where
  digits : Nat
  exponent : Int
deriving DecidableEq, Repr

/-- The number of decimal places in front of the point of a positive double;
it is negative when zeros follow the point. -/
def Binary.places (b : Binary) : Int :=
  let scaled := b.significand * Nat.pow 2 b.exponent.toNat * Nat.pow 10 340 /
    Nat.pow 2 (-b.exponent).toNat
  (Nat.toDigits 10 scaled).length - 340

/-- The better of the two multiples of `10 ^ exponent` next to a double, if
one of them rounds to it. -/
def Binary.onGrid (b : Binary) (tie : Tie) (exponent : Int) : Option Digits :=
  let scale := Nat.pow 2 (b.exponent - 2).toNat * Nat.pow 10 (-exponent).toNat
  let unit := Nat.pow 10 exponent.toNat * Nat.pow 2 (2 - b.exponent).toNat
  let value := 4 * b.significand * scale
  let least := (4 * b.significand - (if b.closeBelow then 1 else 2)) * scale
  let greatest := (4 * b.significand + 2) * scale
  let endsIncluded := b.significand % 2 = 0
  let below := value / unit
  let above := below + 1
  let inside := fun (n : Nat) =>
    if endsIncluded then least ≤ n * unit && n * unit ≤ greatest
    else least < n * unit && n * unit < greatest
  let belowIsNearer :=
    let down := value - below * unit
    let up := above * unit - value
    down < up || (down = up && tie.takesLower below)
  if inside below && (belowIsNearer || !inside above) then
    some { digits := below, exponent := exponent }
  else if inside above then
    some { digits := above, exponent := exponent }
  else
    none

/-- The first grid with a hit, from `count` digits on, among `fuel` grids. -/
def Binary.search (b : Binary) (tie : Tie) (places : Int) :
    Nat → Nat → Option Digits
  | 0, _ => none
  | fuel + 1, count =>
      match b.onGrid tie (places - count) with
      | some found => some found
      | none => b.search tie places fuel (count + 1)

/-- The same number without zeros at the end of its digits. -/
def Digits.withoutZeros (d : Digits) : Nat → Digits
  | 0 => d
  | fuel + 1 =>
      if d.digits % 10 = 0 && d.digits > 0 then
        withoutZeros { digits := d.digits / 10, exponent := d.exponent + 1 } fuel
      else
        d

/-- The shortest decimal of the positive double whose bits are `bits`.
Seventeen digits always suffice. -/
def shortest (tie : Tie) (bits : Nat) : Digits :=
  let b := Binary.ofBits bits
  match b.search tie b.places 17 1 with
  | some found => found.withoutZeros 20
  | none => { digits := 0, exponent := 0 }

end Dialogue.Decimal
