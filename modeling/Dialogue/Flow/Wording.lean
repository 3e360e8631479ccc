import Dialogue.Flow.Error
import Dialogue.Text.Quoted

/-!
# The wording of errors

What is said about each cause.  An answer that does not fit is quoted with all
characters visible.
-/

namespace Dialogue.Flow

/-- The wording of a fault in an action. -/
def ActionFault.message : ActionFault → String
  | .emptyKey => "empty key"
  | .missingValue => "set requires a value"
  | .amountNotNumeric kind => "delta must be numeric, got " ++ kind
  | .overflow => "numeric overflow"

/-- An answer as it is quoted. -/
def Answer.quoted : Answer → String
  | .choice index => "Choice(" ++ toString index ++ ")"
  | .text s => "Text(" ++ Text.quoted s ++ ")"

/-- The wording of a fault in an answer. -/
def AnswerFault.message : AnswerFault → String
  | .outOfRange index count =>
      "choice " ++ toString index ++ " out of range (" ++ toString count ++ " choices)"
  | .wrongKind answer kind =>
      answer.quoted ++ " does not answer a " ++ kind.name ++ " message"

/-- The wording of an error. -/
def Error.message : Error → String
  | .tooDeep start limit =>
      "walk from message " ++ toString start.toNat ++ " exceeded " ++
        toString limit ++ " steps"
  | .noActiveSequence => "no active sequence"
  | .messageNotFound id => "message not found: " ++ toString id.toNat
  | .invalidAction key fault =>
      "invalid data action on \"" ++ key ++ "\": " ++ fault.message
  | .invalidAnswer id fault =>
      "invalid response to message " ++ toString id.toNat ++ ": " ++ fault.message
  | .sequence error => error.message
  | .state error => error.message

end Dialogue.Flow
