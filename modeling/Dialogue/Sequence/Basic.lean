import Dialogue.Message.Basic
import Dialogue.Storage.Files
import Dialogue.Text.Blank
import Dialogue.Json.Draft

/-!
# Sequences

A sequence is a segment of a conversation: messages under their numbers.  The
order of the messages says where the segment begins, and nothing else.  A
sequence can be used when its id is not blank and no number occurs twice.
-/

namespace Dialogue

/-- A named collection of messages. -/
structure Sequence where
  id : String
  name : String := ""
  /-- Notes for authors. -/
  description : String := ""
  messages : List Message := []

/-- Why a sequence cannot be loaded. -/
inductive SequenceError where
  /-- No sequence has this id. -/
  | notFound (id : String)
  /-- Two messages share a number. -/
  | duplicateMessage (sequence : String) (id : MessageId)
  /-- The id is blank. -/
  | blankId (sequence : String)
  /-- The file of the sequence cannot be read. -/
  | unreadable (error : FileError)
  /-- The file of the sequence holds something else. -/
  | undecodable (fault : Json.Fault)
deriving DecidableEq, Repr

/-- The wording of an error. -/
def SequenceError.message : SequenceError → String
  | .notFound id => "sequence not found: \"" ++ id ++ "\""
  | .duplicateMessage sequence id =>
      "sequence \"" ++ sequence ++ "\" has duplicate message id " ++ toString id.toNat
  | .blankId sequence => "invalid sequence \"" ++ sequence ++ "\": sequence id is empty"
  | .unreadable error => error.message
  | .undecodable fault => fault.message

namespace Sequence

/-- A sequence without messages whose name is its id. -/
def named (id : String) : Sequence :=
  { id, name := id }

/-- The message with a number; the first one counts. -/
def message? (sequence : Sequence) (id : MessageId) : Option Message :=
  sequence.messages.find? fun message => message.id == id

/-- Whether a number has a message. -/
def has (sequence : Sequence) (id : MessageId) : Bool :=
  (sequence.message? id).isSome

/-- The number of the message where the sequence begins. -/
def first? (sequence : Sequence) : Option MessageId :=
  sequence.messages.head?.map (·.id)

/-- The number of the earliest message whose number occurred before it. -/
def firstRepeated? (seen : List MessageId) : List Message → Option MessageId
  | [] => none
  | message :: rest =>
      if seen.contains message.id then some message.id
      else firstRepeated? (message.id :: seen) rest

/-- Check that a sequence can be used. -/
def validate (sequence : Sequence) : Except SequenceError Unit :=
  if Text.isBlankText sequence.id then
    .error (.blankId sequence.id)
  else
    match firstRepeated? [] sequence.messages with
    | some id => .error (.duplicateMessage sequence.id id)
    | none => .ok ()

end Sequence

end Dialogue
