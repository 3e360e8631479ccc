import Dialogue.Flow.Session
import Dialogue.Flow.Wording

/-!
# Playing a conversation

A conversation is played line by line: whenever a message waits, the player is
prompted, and the next line answers it.  A choice is picked by its number from
1; anything else is a text.  A line that asks to quit ends the play, and so
does the end of the lines.  What happens is a list of events, from which the
text on the screen is made.
-/

namespace Dialogue.Console

open Dialogue.Flow

/-! ## Events -/

/-- Something that the player sees. -/
inductive Event where
  /-- Messages are shown. -/
  | shown (messages : List DisplayMessage)
  /-- The player is told how to quit. -/
  | quitHint
  /-- The player is asked for a line. -/
  | prompt
  /-- The line is no number of a choice. -/
  | notANumber
  /-- The answer failed. -/
  | failed (error : Error)
  /-- The conversation has ended. -/
  | closed (outcome : Engine.Outcome)

namespace Event

/-- A message and its choices on the screen. -/
def messageText (message : DisplayMessage) : String :=
  "  " ++ message.text ++ "\n" ++
    String.join (message.choices.map fun choice =>
      "    " ++ toString (choice.index + 1) ++ ") " ++ choice.text ++ "\n")

/-- An event on the screen. -/
def text : Event → String
  | .shown messages => String.join (messages.map messageText) ++ "\n"
  | .quitHint => "  Type 'quit' to exit.\n\n"
  | .prompt => "> "
  | .notANumber => "Pick a choice by its number.\n\n"
  | .failed error => error.message ++ "\n\n"
  | .closed .complete => "  Conversation complete.\n"
  | .closed .truncated => "  Conversation stopped early: too many routing cycles.\n"
  | .closed (.awaiting _) => ""

end Event

/-! ## Lines -/

/-- Whether a line asks to quit. -/
def asksToQuit (line : String) : Bool :=
  let lower := line.map Char.toLower
  lower = "quit" || lower = "q"

/-- The answer that a trimmed line gives to a message of some kind. -/
def answerOf? (kind : Option MessageKind) (line : String) : Option Answer :=
  match kind with
  | some .choice =>
      match (Text.natural? line.toList).filter fun n => 1 ≤ n && n < UInt64.size with
      | some n => some (.choice (n - 1))
      | none => none
  | _ => some (.text line)

/-- The kind of the message that waits. -/
def waitingKind (session : Session) (id : MessageId) : Option MessageKind :=
  (session.engine.lookup id).map (·.kind)

/-- Answer the message that waits with a trimmed line that does not ask to
quit. -/
def answerLine (session : Session) (id : MessageId) (line : String) :
    Event × Session :=
  match answerOf? (waitingKind session id) line with
  | none => (.notANumber, session)
  | some answer =>
      match session.submit id answer with
      | (.error error, session) => (.failed error, session)
      | (.ok result, session) => (.shown result.messages, session)

/-- The turn that a line takes while a message waits; a line that asks to quit
takes none. -/
def takeTurn? (session : Session) (id : MessageId) (line : String) :
    Option (Event × Session) :=
  let line := Text.trim line
  if asksToQuit line then none else some (answerLine session id line)

/-- What is seen at the end, when no message waits. -/
def closing (session : Session) : List Event :=
  match session.last with
  | some result => [.closed result.outcome]
  | none => []

/-- Play a conversation on lines. -/
def playLines (session : Session) : List String → List Event × Session
  | [] =>
      match session.awaiting with
      | none => (closing session, session)
      | some _ => ([.prompt], session)
  | line :: rest =>
      match session.awaiting with
      | none => (closing session, session)
      | some id =>
          match takeTurn? session id line with
          | none => ([.prompt], session)
          | some (event, session) =>
              let (events, session) := playLines session rest
              (.prompt :: event :: events, session)

/-- Start a sequence, which must succeed before anything is shown. -/
def startPlay (session : Session) (sequence : String) :
    Except Error (List Event) × Session :=
  match session.start sequence with
  | (.error error, session) => (.error error, session)
  | (.ok result, session) => (.ok [.shown result.messages, .quitHint], session)

/-- The lines of an input. -/
def inputLines (input : String) : List String :=
  let lines := Text.piecesAt '\n' input
  if input.isEmpty || input.endsWith "\n" then lines.dropLast else lines

end Dialogue.Console
