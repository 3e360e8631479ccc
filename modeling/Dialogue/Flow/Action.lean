import Dialogue.Flow.Agenda
import Dialogue.Flow.Error

/-!
# Applying actions

An action sets, raises, lowers or resets what is remembered under its key.
Integers stay integers as long as the amount is whole, and never wrap around;
everything else that is counted is a double, and what is no number counts as
zero.  An action that fails changes nothing.
-/

namespace Dialogue.Flow

/-! ## Counting -/

/-- The whole number that a double stands for, if it is at most `2 ^ 53`. -/
def wholeFloat? (x : Float) : Option Int :=
  if x.isFinite then
    let b := Decimal.Binary.ofBits (Decimal.magnitudeBits x)
    let scaled := b.significand * Nat.pow 2 b.exponent.toNat
    let unit := Nat.pow 2 (-b.exponent).toNat
    if scaled % unit = 0 && scaled / unit ≤ Nat.pow 2 53 then
      let size : Int := (scaled / unit : Nat)
      some (if Decimal.isNegative x then -size else size)
    else
      none
  else
    none

/-- The whole number that an amount stands for. -/
def wholeAmount? : Value → Option Int
  | .int n => some n.toInt
  | .float x => wholeFloat? x
  | _ => none

/-- A value raised or lowered by an amount, unless it leaves the integers. -/
def counted? (lower : Bool) (current amount : Value) : Option Value :=
  let base := if current.isNumber then current else .int 0
  match base, wholeAmount? amount with
  | .int n, some step => Value.ofInt? (if lower then n.toInt - step else n.toInt + step)
  | base, _ =>
      match base.float?, amount.float? with
      | some x, some step => some (.float (if lower then x - step else x + step))
      | _, _ => none

/-! ## Actions -/

/-- A change of a state as the outcome of an action. -/
def changed (outcome : Except StateError State) : Except Error State :=
  outcome.mapError .state

/-- Set a key to the value that an action's value stands for. -/
def applySet (agenda : Agenda) (key : String) (value : Option Value)
    (state : State) : Except Error State :=
  match value with
  | none => .error (.invalidAction key .missingValue)
  | some value => changed (state.set key (agenda.resolve state.values value))

/-- Raise or lower the number under a key; the amount is usually one. -/
def applyCount (lower : Bool) (key : String) (amount : Option Value)
    (state : State) : Except Error State :=
  let amount := amount.getD (.int 1)
  if !amount.isNumber then
    .error (.invalidAction key (.amountNotNumeric amount.kindName))
  else
    match counted? lower ((state.get? key).getD .null) amount with
    | none => .error (.invalidAction key .overflow)
    | some next => changed (state.set key next)

/-- Replace the value under a key by the one that counts as nothing; null is
forgotten. -/
def applyReset (key : String) (state : State) : Except Error State :=
  match (state.get? key).filter fun value => !value.isNull with
  | some value => changed (state.set key value.zeroLike)
  | none => changed (state.remove key)

/-- Apply an action to a state. -/
def applyAction (agenda : Agenda) (action : Action) (state : State) :
    Except Error State :=
  let key := Text.trim action.key
  if key.isEmpty then
    .error (.invalidAction action.key .emptyKey)
  else
    match action.kind with
    | .set => applySet agenda key action.value state
    | .increment => applyCount false key action.value state
    | .decrement => applyCount true key action.value state
    | .reset => applyReset key state

/-- Apply actions in order, passing over those that fail. -/
def applyActions (agenda : Agenda) (actions : List Action) (state : State) : State :=
  actions.foldl
    (fun state action =>
      match applyAction agenda action state with
      | .ok state => state
      | .error _ => state)
    state

end Dialogue.Flow
