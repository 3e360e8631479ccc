/-!
# Decimals and the doubles nearest to them

A decimal is a whole number of powers of ten with a sign.  `toFloat` is the
double nearest to it; beyond the largest double it is infinite, and below the
smallest it is zero.
-/

namespace Dialogue

/-- The number `digits * 10 ^ exponent`, negated when `negative` is set. -/
structure Decimal where
  negative : Bool
  digits : Nat
  exponent : Int
deriving DecidableEq, Repr

namespace Decimal

/-- The double with every exponent bit set and no fraction. -/
def infinity : Float :=
  Float.ofBits 0x7FF0000000000000

/-- The double nearest to the magnitude of a decimal.  A magnitude of at
least `10 ^ 310` is infinite and one below `10 ^ (-330)` is zero, so the
powers that are computed stay small. -/
def magnitude (d : Decimal) : Float :=
  let places := d.exponent + (Nat.toDigits 10 d.digits).length
  if d.digits = 0 || places < -330 then
    Float.ofBits 0
  else if places > 311 then
    infinity
  else
    Float.ofScientific d.digits (d.exponent < 0) d.exponent.natAbs

/-- The double nearest to a decimal. -/
def toFloat (d : Decimal) : Float :=
  if d.negative then -d.magnitude else d.magnitude

/-- The double nearest to a power of ten. -/
def tenTo (n : Nat) : Float :=
  magnitude { negative := false, digits := 1, exponent := n }

end Decimal

end Dialogue
