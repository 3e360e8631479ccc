import Dialogue.Sequence.Basic
import Dialogue.Storage.State

/-!
# Errors of a conversation

Why an operation on a conversation fails, and the wording of each cause.
-/

namespace Dialogue.Flow

/-! ## Answers -/

/-- A user's answer to a message. -/
inductive Answer where
  /-- The number of the picked choice, from 0. -/
  | choice (index : Nat)
  /-- A text. -/
  | text (s : String)
deriving DecidableEq, Repr

/-! ## Causes -/

/-- Why an action cannot be applied. -/
inductive ActionFault where
  | emptyKey
  | missingValue
  /-- The amount of an increment or decrement is of another kind. -/
  | amountNotNumeric (kind : String)
  | overflow
deriving DecidableEq, Repr

/-- Why an answer does not fit a message. -/
inductive AnswerFault where
  | outOfRange (index count : Nat)
  | wrongKind (answer : Answer) (kind : MessageKind)
deriving DecidableEq, Repr

/-- Why an operation fails. -/
inductive Error where
  /-- A walk did not end within its limit. -/
  | tooDeep (start : MessageId) (limit : Nat)
  | noActiveSequence
  | messageNotFound (id : MessageId)
  | invalidAction (key : String) (fault : ActionFault)
  | invalidAnswer (id : MessageId) (fault : AnswerFault)
  | sequence (error : SequenceError)
  | state (error : StateError)
deriving DecidableEq, Repr

end Dialogue.Flow
