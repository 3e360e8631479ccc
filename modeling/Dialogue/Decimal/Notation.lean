import Dialogue.Decimal.Shortest

/-!
# Writing a double

Two ways of writing the shortest decimal of a double: positional, where every
power of ten is spelled out with zeros, and scientific, with one digit in
front of the point and an exponent.
-/

namespace Dialogue.Decimal

/-- The digits of a decimal and the place of its point: the number is
`0.digits * 10 ^ point`. -/
structure Spelling where
  digits : List Char
  point : Int

/-- The spelling of the shortest decimal of a positive double. -/
def Spelling.ofBits (tie : Tie) (bits : Nat) : Spelling :=
  let d := shortest tie bits
  let digits := Nat.toDigits 10 d.digits
  { digits := digits, point := digits.length + d.exponent }

/-- Whether no digit stands behind the point. -/
def Spelling.isWhole (s : Spelling) : Bool :=
  s.point ≥ s.digits.length

/-- Positional notation: zeros fill the places between digits and point. -/
def Spelling.positional (s : Spelling) : List Char :=
  if s.point ≤ 0 then
    '0' :: '.' :: (List.replicate (-s.point).toNat '0' ++ s.digits)
  else if s.isWhole then
    s.digits ++ List.replicate (s.point.toNat - s.digits.length) '0'
  else
    s.digits.take s.point.toNat ++ '.' :: s.digits.drop s.point.toNat

/-- Scientific notation: one digit, the others behind a point if there are
any, and the exponent with its sign. -/
def Spelling.scientific (s : Spelling) : List Char :=
  let exponent := s.point - 1
  let mark := if exponent < 0 then ['e', '-'] else ['e', '+']
  let power := mark ++ Nat.toDigits 10 exponent.natAbs
  match s.digits with
  | [] => power
  | [digit] => digit :: power
  | digit :: others => digit :: '.' :: (others ++ power)

/-- The bits of a double without its sign. -/
def magnitudeBits (x : Float) : Nat :=
  x.toBits.toNat % Nat.pow 2 63

/-- Whether the sign bit of a double is set. -/
def isNegative (x : Float) : Bool :=
  x.toBits.toNat / Nat.pow 2 63 = 1

/-- A double as people read it: positional, without a point when it is whole,
and the names of what is no number.  Of two equally near shortest decimals it
is the one farther from zero. -/
def displayText (x : Float) : List Char :=
  if x.isNaN then
    ['N', 'a', 'N']
  else
    let sign := if isNegative x then ['-'] else []
    if x.isInf then
      sign ++ ['i', 'n', 'f']
    else if magnitudeBits x = 0 then
      sign ++ ['0']
    else
      sign ++ (Spelling.ofBits .fromZero (magnitudeBits x)).positional

/-- A finite double as documents hold it: positional from `10 ^ (-5)` up to
below `10 ^ 16`, with a zero behind the point of a whole number, and
scientific otherwise.  Of two equally near shortest decimals it is the even
one. -/
def documentText (x : Float) : List Char :=
  let sign := if isNegative x then ['-'] else []
  if magnitudeBits x = 0 then
    sign ++ ['0', '.', '0']
  else
    let s := Spelling.ofBits .toEven (magnitudeBits x)
    if -4 ≤ s.point && s.point ≤ 16 then
      sign ++ s.positional ++ (if s.isWhole then ['.', '0'] else [])
    else
      sign ++ s.scientific

end Dialogue.Decimal
