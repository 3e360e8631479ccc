import Dialogue.Flow.Error
import Dialogue.Flow.Walk
import Dialogue.Sequence.Source
import Std.Data.TreeMap

/-!
# The active sequence

A conversation has at most one active sequence, with an index of the places of
its messages.  It is replaced only by a sequence that has been loaded, can be
used and has been indexed; a load that fails leaves it as it is.
-/

namespace Dialogue.Flow

/-- The places of messages, of which the first has the given number.  Of two
messages with one number the last counts. -/
def ActiveSequence.indexFrom (place : Nat) (index : Std.TreeMap MessageId Nat) :
    List Message → Std.TreeMap MessageId Nat
  | [] => index
  | message :: rest => indexFrom (place + 1) (index.insert message.id place) rest

/-- A sequence and the places of its messages. -/
structure ActiveSequence where
  sequence : Sequence
  index : Std.TreeMap MessageId Nat
  indexed : index = ActiveSequence.indexFrom 0 ∅ sequence.messages

namespace ActiveSequence

/-- A sequence with its index. -/
def of (sequence : Sequence) : ActiveSequence :=
  { sequence, index := indexFrom 0 ∅ sequence.messages, indexed := rfl }

/-- The message with a number, found through the index. -/
def message? (active : ActiveSequence) : Lookup :=
  fun id => (active.index[id]?).bind fun place => active.sequence.messages[place]?

end ActiveSequence

/-- A sequence from a source, checked and indexed. -/
def loadSequence (source : Source) (files : Files) (id : String) :
    Except Error ActiveSequence :=
  match source files id with
  | .error error => .error (.sequence error)
  | .ok sequence =>
      match sequence.validate with
      | .error error => .error (.sequence error)
      | .ok _ => .ok (.of sequence)

/-- The messages of a sequence that may be missing. -/
def activeLookup (active : Option ActiveSequence) : Lookup :=
  fun id => active.bind fun active => active.message? id

/-- The number of the message where a sequence begins that may be missing. -/
def activeFirst? (active : Option ActiveSequence) : Option MessageId :=
  active.bind fun active => active.sequence.first?

end Dialogue.Flow
