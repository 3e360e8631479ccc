import Dialogue.Decimal.Notation

/-!
# Values

A value is what a conversation remembers under a key: null, a truth value, an
integer of 64 bits, a double, a text, or a list of values.

Conditions compare values loosely.  Integers and doubles share one domain of
numbers, in which an integer stands for the double nearest to it; so two
integers are compared by their leading 53 bits.  Texts are ordered by code
points, and everything else is only equal or not.
-/

namespace Dialogue

/-- A remembered value. -/
inductive Value where
  | null
  | bool (b : Bool)
  | int (n : Int64)
  | float (x : Float)
  | text (s : String)
  | list (items : List Value)

namespace Value

instance : Inhabited Value :=
  ⟨.null⟩

/-- The integer value of a whole number, if it fits in 64 bits. -/
def ofInt? (n : Int) : Option Value :=
  if Int64.minValue.toInt ≤ n && n ≤ Int64.maxValue.toInt then some (.int (Int64.ofInt n))
  else none

/-! ## Kinds -/

/-- Whether a value is null. -/
def isNull : Value → Bool
  | .null => true
  | _ => false

/-- Whether a value is an integer or a double. -/
def isNumber : Value → Bool
  | .int _ | .float _ => true
  | _ => false

/-- The truth value, if it is one. -/
def bool? : Value → Option Bool
  | .bool b => some b
  | _ => none

/-- The text, if it is one. -/
def text? : Value → Option String
  | .text s => some s
  | _ => none

/-- The items, if it is a list. -/
def list? : Value → Option (List Value)
  | .list items => some items
  | _ => none

/-- The double nearest to a number. -/
def float? : Value → Option Float
  | .int n => some (Float.ofInt n.toInt)
  | .float x => some x
  | _ => none

/-- The name of a value's kind. -/
def kindName : Value → String
  | .null => "null"
  | .bool _ => "boolean"
  | .int _ => "integer"
  | .float _ => "float"
  | .text _ => "string"
  | .list _ => "list"

/-- The value of the same kind that counts as nothing; null stays null. -/
def zeroLike : Value → Value
  | .null => .null
  | .bool _ => .bool false
  | .int _ => .int 0
  | .float _ => .float (Float.ofBits 0)
  | .text _ => .text ""
  | .list _ => .list []

/-! ## Equality and order -/

mutual

/-- Whether two values are the same, doubles being compared as numbers. -/
def same : Value → Value → Bool
  | .null, .null => true
  | .bool a, .bool b => a == b
  | .int a, .int b => a == b
  | .float a, .float b => a == b
  | .text a, .text b => a == b
  | .list a, .list b => sameItems a b
  | _, _ => false

/-- Whether two lists hold the same values in the same order. -/
def sameItems : List Value → List Value → Bool
  | [], [] => true
  | a :: as, b :: bs => same a b && sameItems as bs
  | _, _ => false

end

/-- The integer nearest to `n` among those with at most 53 significant bits;
of two equally near ones, the one whose last significant bit is zero. -/
def leadingBits (n : Int) : Int :=
  let size := n.natAbs
  if size < Nat.pow 2 53 then
    n
  else
    let unit := Nat.pow 2 (size.log2 - 52)
    let count := size / unit
    let remainder := size % unit
    let up := 2 * remainder > unit || (2 * remainder = unit && count % 2 = 1)
    let rounded : Nat := (if up then count + 1 else count) * unit
    if n < 0 then -(rounded : Int) else rounded

/-- The order of two doubles, if they are comparable. -/
def compareFloats (a b : Float) : Option Ordering :=
  if a == b then some .eq
  else if a < b then some .lt
  else if a > b then some .gt
  else none

/-- The order of two texts by code points. -/
def compareTexts (a b : String) : Ordering :=
  if a < b then .lt else if b < a then .gt else .eq

/-- The order of two numbers, if both values are numbers and comparable. -/
def compareNumbers : Value → Value → Option Ordering
  | .int a, .int b => some (compare (leadingBits a.toInt) (leadingBits b.toInt))
  | a, b =>
      match a.float?, b.float? with
      | some x, some y => compareFloats x y
      | _, _ => none

/-- Equality in which integers and doubles share one domain of numbers. -/
def looseEq (a b : Value) : Bool :=
  if a.isNumber && b.isNumber then compareNumbers a b == some .eq else same a b

/-- The order of two numbers or of two texts; nothing else is ordered. -/
def looseCompare : Value → Value → Option Ordering
  | .text a, .text b => some (compareTexts a b)
  | a, b => compareNumbers a b

/-! ## Text form -/

mutual

/-- A value as people read it.  The items of a list are joined by a comma and
a space, without brackets. -/
def display : Value → String
  | .null => "null"
  | .bool b => if b then "true" else "false"
  | .int n => toString n.toInt
  | .float x => String.ofList (Decimal.displayText x)
  | .text s => s
  | .list items => String.intercalate ", " (displayItems items)

/-- The items of a list as people read them. -/
def displayItems : List Value → List String
  | [] => []
  | item :: rest => display item :: displayItems rest

end

end Value

end Dialogue
