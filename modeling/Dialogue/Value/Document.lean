import Dialogue.Json.Decode
import Dialogue.Json.Printer
import Dialogue.Value.Basic

/-!
# Values in documents

Every value has a document: integers and doubles are numbers, and a list is a
list.  In the other direction a number is an integer when it is whole and fits
in 64 bits, and the nearest double otherwise; a record is no value.
-/

namespace Dialogue.Value

open Json (Fault)

mutual

/-- The document of a value. -/
def toJson : Value → Json
  | .null => .null
  | .bool b => .bool b
  | .int n => .int n.toInt
  | .float x => .float x
  | .text s => .text s
  | .list items => .list (itemsToJson items)

/-- The documents of the items of a list. -/
def itemsToJson : List Value → List Json
  | [] => []
  | item :: rest => toJson item :: itemsToJson rest

end

/-- The value of a whole number: an integer if it fits in 64 bits. -/
def ofInt (n : Int) : Value :=
  (ofInt? n).getD (.float (Float.ofInt n))

mutual

/-- The value that a draft without faults stands for. -/
def ofDraft? : Draft → Option Value
  | .null => some .null
  | .bool b => some (.bool b)
  | .int n => some (ofInt n)
  | .float x => some (.float x)
  | .text s => some (.text s)
  | .list items _ => (itemsOfDraft? items).map .list
  | _ => none

/-- The values that the items of a list stand for. -/
def itemsOfDraft? : List Draft → Option (List Value)
  | [] => some []
  | item :: rest =>
      match ofDraft? item, itemsOfDraft? rest with
      | some value, some values => some (value :: values)
      | _, _ => none

end

/-- Take a value out of a draft.  A fault anywhere in it is met before its
kind is looked at. -/
def decode : Decoder Value :=
  fun room draft =>
    match draft.fault? room with
    | some fault => .error fault
    | none =>
        match ofDraft? draft with
        | some value => .ok value
        | none => .error .mismatched

/-- The document of a state: a record of its values in the order of keys. -/
def stateToJson (state : Dictionary Value) : Json :=
  .record (state.entries.map fun entry => (entry.1, entry.2.toJson))

end Dialogue.Value
