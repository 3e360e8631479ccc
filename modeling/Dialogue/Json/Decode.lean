import Dialogue.Dictionary
import Dialogue.Json.Reader

/-!
# Taking typed values out of drafts

A decoder takes a value of one type out of a draft, going through it in
reading order and stopping at the first fault.  Its first argument is the
number of levels of nesting that it may still go down into.

Scalars look at the draft alone.  A list hands its items on, a dictionary its
values, and a record puts its known fields, each at most once, into a partial
value; a record may also be written as the list of its fields in order.
Unknown fields are passed over.
-/

namespace Dialogue

open Json (Fault)

/-- A reader of one type of values. -/
abbrev Decoder (α : Type) : Type :=
  Nat → Draft → Except Fault α

namespace Decoder

variable {α π : Type}

/-! ## Scalars -/

/-- A text. -/
def text : Decoder String
  | _, .text s => .ok s
  | _, draft => .error draft.mismatch

/-- A truth value. -/
def bool : Decoder Bool
  | _, .bool b => .ok b
  | _, draft => .error draft.mismatch

/-- A natural number below a bound. -/
def natBelow (bound : Nat) : Decoder Nat
  | _, .int n =>
      if 0 ≤ n && n < bound then .ok n.toNat else .error .mismatched
  | _, draft => .error draft.mismatch

/-- A number of 32 bits. -/
def word : Decoder UInt32 :=
  fun room draft => (natBelow UInt32.size room draft).map UInt32.ofNat

/-- A number of 64 bits. -/
def longWord : Decoder UInt64 :=
  fun room draft => (natBelow UInt64.size room draft).map UInt64.ofNat

/-- A value, or null where it is missing. -/
def optional (decode : Decoder α) : Decoder (Option α)
  | _, .null => .ok none
  | room, draft => (decode room draft).map some

/-! ## Names of alternatives -/

/-- One of several names; it may also be written as a record whose only field
has that name and holds null. -/
def oneOf (names : List (String × α)) : Decoder α
  | _, .text name =>
      match names.lookup name with
      | some value => .ok value
      | none => .error .mismatched
  | 0, .record _ _ => .error .malformed
  | _ + 1, .record [] stop => .error (stop.getD .malformed)
  | _ + 1, .record ((.text name, content) :: rest) stop =>
      match names.lookup name, content, rest, stop with
      | none, _, _, _ => .error .mismatched
      | some value, .null, [], none => .ok value
      | some _, .null, [], some fault => .error fault
      | some _, .null, _ :: _, _ => .error .malformed
      | some _, content, _, _ => .error content.mismatch
  | _ + 1, .record ((key, _) :: _) _ => .error key.keyFault
  | _, .broken fault => .error fault
  | _, _ => .error .malformed

/-! ## Lists and dictionaries -/

/-- The fault at the end of a list or record, or a value. -/
def endingWith (stop : Option Fault) (value : α) : Except Fault α :=
  match stop with
  | none => .ok value
  | some fault => .error fault

/-- The values of items, in order. -/
def items (decode : Draft → Except Fault α) (stop : Option Fault) :
    List Draft → Except Fault (List α)
  | [] => endingWith stop []
  | item :: rest =>
      match decode item with
      | .error fault => .error fault
      | .ok value => (items decode stop rest).map (value :: ·)

/-- A list. -/
def list (decode : Decoder α) : Decoder (List α)
  | 0, .list _ _ => .error .malformed
  | room + 1, .list parts stop => items (decode room) stop parts
  | _, draft => .error draft.mismatch

/-- The entries of a dictionary; the last one of a key counts. -/
def entries (decode : Draft → Except Fault α) (stop : Option Fault)
    (found : Dictionary α) : List (Draft × Draft) → Except Fault (Dictionary α)
  | [] => endingWith stop found
  | (.text key, content) :: rest =>
      match decode content with
      | .error fault => .error fault
      | .ok value => entries decode stop (found.insert key value) rest
  | (key, _) :: _ => .error key.keyFault

/-- A dictionary. -/
def dictionary (decode : Decoder α) : Decoder (Dictionary α)
  | 0, .record _ _ => .error .malformed
  | room + 1, .record parts stop => entries (decode room) stop .empty parts
  | _, draft => .error draft.mismatch

/-! ## Records -/

/-- Put the named fields of a record into a partial value. -/
def namedFields (names : List String) (put : String → Draft → π → Except Fault π)
    (stop : Option Fault) :
    List String → List (Draft × Draft) → π → Except Fault π
  | _, [], found => endingWith stop found
  | seen, (.text name, content) :: rest, found =>
      if names.contains name then
        if seen.contains name then
          .error .mismatched
        else
          match put name content found with
          | .error fault => .error fault
          | .ok found => namedFields names put stop (name :: seen) rest found
      else
        match content.skipFault? with
        | some fault => .error fault
        | none => namedFields names put stop seen rest found
  | _, (key, _) :: _, _ => .error key.keyFault

/-- Put the fields of a record that is written as a list into a partial
value. -/
def orderedFields (put : String → Draft → π → Except Fault π)
    (stop : Option Fault) : List String → List Draft → π → Except Fault π
  | _, [], found => endingWith stop found
  | [], _ :: _, _ => .error .malformed
  | name :: names, content :: rest, found =>
      match put name content found with
      | .error fault => .error fault
      | .ok found => orderedFields put stop names rest found

/-- A record with the given fields, in order: `put` decodes one of them into
the partial value, and `complete` finds out whether a required one is
missing. -/
def record (names : List String) (blank : π) (put : String → Decoder (π → π))
    (complete : π → Option α) : Decoder α
  | 0, .record _ _ => .error .malformed
  | 0, .list _ _ => .error .malformed
  | room + 1, .record parts stop =>
      match namedFields names (place room) stop [] parts blank with
      | .error fault => .error fault
      | .ok found => finish found
  | room + 1, .list parts stop =>
      match orderedFields (place room) stop names parts blank with
      | .error fault => .error fault
      | .ok found => finish found
  | _, draft => .error draft.mismatch
where
  /-- Decode one field and put it in. -/
  place (room : Nat) (name : String) (content : Draft) (found : π) :
      Except Fault π :=
    (put name room content).map fun change => change found
  /-- The complete value, unless a required field is missing. -/
  finish (found : π) : Except Fault α :=
    match complete found with
    | some value => .ok value
    | none => .error .mismatched

/-! ## Whole texts -/

/-- Take a value out of a text that holds one document and nothing else. -/
def decodeText (decode : Decoder α) (s : String) : Except Fault α :=
  match Json.readDraft s.toList with
  | (draft, rest) =>
      match decode Json.maxDepth draft with
      | .error fault => .error fault
      | .ok value =>
          match rest.map Json.skipSpace with
          | some [] => .ok value
          | _ => .error .malformed

end Decoder

end Dialogue
