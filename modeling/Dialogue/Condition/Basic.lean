import Dialogue.Dictionary
import Dialogue.Value.Basic

/-!
# Conditions

A condition compares what is remembered under keys with fixed values.  A key
that is missing makes a comparison false, whatever its operator; null does
not.
-/

namespace Dialogue

/-- A way of comparing two values. -/
inductive Operator where
  | eq
  | ne
  | gt
  | ge
  | lt
  | le
deriving DecidableEq, Repr

namespace Operator

/-- The sign of an operator. -/
def sign : Operator → String
  | .eq => "=="
  | .ne => "!="
  | .gt => ">"
  | .ge => ">="
  | .lt => "<"
  | .le => "<="

/-- Whether two values are in the relation of an operator. -/
def holds (op : Operator) (value literal : Value) : Bool :=
  match op with
  | .eq => value.looseEq literal
  | .ne => !value.looseEq literal
  | .gt => value.looseCompare literal == some .gt
  | .ge =>
      let order := value.looseCompare literal
      order == some .gt || order == some .eq
  | .lt => value.looseCompare literal == some .lt
  | .le =>
      let order := value.looseCompare literal
      order == some .lt || order == some .eq

end Operator

/-- The comparison of a remembered value with a fixed one. -/
structure Comparison where
  key : String
  op : Operator
  literal : Value

/-- Whether a comparison holds in a state. -/
def Comparison.holds (comparison : Comparison) (state : Dictionary Value) : Bool :=
  match state.get? comparison.key with
  | none => false
  | some value => comparison.op.holds value comparison.literal

/-- A condition on what is remembered. -/
inductive Condition where
  | compare (comparison : Comparison)
  /-- All of several conditions. -/
  | all (conditions : List Condition)
  /-- At least one of several conditions. -/
  | any (conditions : List Condition)

namespace Condition

mutual

/-- Whether a condition holds in a state. -/
def holds (state : Dictionary Value) : Condition → Bool
  | .compare comparison => comparison.holds state
  | .all conditions => allHold state conditions
  | .any conditions => anyHolds state conditions

/-- Whether each of several conditions holds. -/
def allHold (state : Dictionary Value) : List Condition → Bool
  | [] => true
  | condition :: rest => holds state condition && allHold state rest

/-- Whether at least one of several conditions holds. -/
def anyHolds (state : Dictionary Value) : List Condition → Bool
  | [] => false
  | condition :: rest => holds state condition || anyHolds state rest

end

end Condition

end Dialogue
