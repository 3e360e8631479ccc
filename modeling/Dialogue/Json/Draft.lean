/-!
# Drafts: documents as far as they can be read

A draft is what a text shows of a document.  Where reading has to stop, the
draft holds the fault that stopped it, at the place where it was met; whoever
takes a typed value out of a draft walks it in reading order, and so finds
either a fault of the text or a field that does not fit, whichever comes
first.

Some faults lie in a part that nobody asks for.  A text with half of a
surrogate pair, or a number beyond every double, has no value, but it can be
passed over; such a scalar is `unfit`.  Nesting is limited in the same way:
only what is taken has to keep to the limit.  A number or word that the end of
the text cuts off is only unfinished for whoever reads it: a number that is
passed over is malformed, and so is either where a name is wanted.
-/

namespace Dialogue

namespace Json

/-- Why no value can be taken from a text. -/
inductive Fault where
  /-- The text is no document. -/
  | malformed
  /-- The text ends inside a document. -/
  | unfinished
  /-- The text is a document, but not one of the wanted kind. -/
  | mismatched
deriving DecidableEq, Repr

/-- The wording of a fault. -/
def Fault.message : Fault → String
  | .malformed => "json error: the text is malformed"
  | .unfinished => "json error: the text ends too early"
  | .mismatched => "json error: the document does not fit"

/-- The levels of nesting that a reader goes down into. -/
def maxDepth : Nat := 127

end Json

open Json (Fault)

/-- A document as far as its text can be read. -/
inductive Draft where
  | null
  | bool (b : Bool)
  | int (n : Int)
  | float (x : Float)
  | text (s : String)
  /-- A scalar without a value.  Taking it is malformed; passing over it
  goes on, or ends with the given fault. -/
  | unfit (after : Option Fault)
  /-- A list; reading may stop behind an item. -/
  | list (items : List Draft) (stop : Option Fault)
  /-- A record of keys and values; reading may stop behind a value.  Only a
  text can be a key, but a draft holds what stands in its place. -/
  | record (fields : List (Draft × Draft)) (stop : Option Fault)
  /-- The text ends inside a number. -/
  | cutNumber
  /-- The text ends inside a word. -/
  | cutWord
  /-- Reading stopped before anything was seen. -/
  | broken (fault : Fault)

namespace Draft

/-- The fault met when something else than this kind of draft is wanted. -/
def mismatch : Draft → Fault
  | .unfit _ => .malformed
  | .cutNumber => .unfinished
  | .cutWord => .unfinished
  | .broken fault => fault
  | _ => .mismatched

/-- The fault met when a draft stands in the place of a key. -/
def keyFault : Draft → Fault
  | .broken fault => fault
  | _ => .malformed

mutual

/-- The first fault met when a draft is taken as a whole, with `room` levels
of nesting left. -/
def fault? (room : Nat) : Draft → Option Fault
  | .unfit _ => some .malformed
  | .cutNumber => some .unfinished
  | .cutWord => some .unfinished
  | .broken fault => some fault
  | .list items stop =>
      match room with
      | 0 => some .malformed
      | room + 1 => (itemsFault? room items).or stop
  | .record fields stop =>
      match room with
      | 0 => some .malformed
      | room + 1 => (fieldsFault? room fields).or stop
  | _ => none

/-- The first fault in the items of a list. -/
def itemsFault? (room : Nat) : List Draft → Option Fault
  | [] => none
  | item :: rest => (fault? room item).or (itemsFault? room rest)

/-- The first fault in the fields of a record. -/
def fieldsFault? (room : Nat) : List (Draft × Draft) → Option Fault
  | [] => none
  | field :: rest => (fieldFault? room field).or (fieldsFault? room rest)

/-- The first fault in a field of a record. -/
def fieldFault? (room : Nat) : Draft × Draft → Option Fault
  | (.text _, value) => fault? room value
  | (key, _) => some key.keyFault

end

mutual

/-- The fault met when a draft is passed over, however deep it is. -/
def skipFault? : Draft → Option Fault
  | .unfit after => after
  | .cutNumber => some .malformed
  | .cutWord => some .unfinished
  | .broken fault => some fault
  | .list items stop => (itemsSkipFault? items).or stop
  | .record fields stop => (fieldsSkipFault? fields).or stop
  | _ => none

/-- The fault met when the items of a list are passed over. -/
def itemsSkipFault? : List Draft → Option Fault
  | [] => none
  | item :: rest => (skipFault? item).or (itemsSkipFault? rest)

/-- The fault met when the fields of a record are passed over. -/
def fieldsSkipFault? : List (Draft × Draft) → Option Fault
  | [] => none
  | field :: rest => (fieldSkipFault? field).or (fieldsSkipFault? rest)

/-- The fault met when a field of a record is passed over. -/
def fieldSkipFault? : Draft × Draft → Option Fault
  | (.text _, value) => skipFault? value
  | (.unfit none, value) => skipFault? value
  | (.unfit (some fault), _) => some fault
  | (key, _) => some key.keyFault

end

end Draft

end Dialogue
