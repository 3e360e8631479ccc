import Dialogue.Flow.Engine

/-!
# Sessions

A session is a conversation driven by a user's answers.  It remembers the
result of the last operation that succeeded, and through it the message that
waits for an answer.  An answer is checked against the message it is given to
before anything is written; then it is remembered under the key of the
message, and the conversation goes on behind it.
-/

namespace Dialogue.Flow

/-- A conversation and the result of its last operation. -/
structure Session where
  engine : Engine
  last : Option Engine.Result := none

namespace Session

/-- The message that waits for an answer. -/
def awaiting (session : Session) : Option MessageId :=
  match session.last with
  | some { outcome := .awaiting id, .. } => some id
  | _ => none

/-- A session after an operation of its engine; only a success becomes its
last result. -/
def record (session : Session) (outcome : Except Error Engine.Result × Engine) :
    Except Error Engine.Result × Session :=
  match outcome with
  | (.error error, engine) => (.error error, { session with engine })
  | (.ok result, engine) => (.ok result, { engine, last := some result })

/-- Load a sequence and run it from where it begins. -/
def start (session : Session) (sequence : String) :
    Except Error Engine.Result × Session :=
  match session.engine.load sequence with
  | (.error error, engine) => (.error error, { session with engine })
  | (.ok _, engine) =>
      session.record (engine.runFrom (activeFirst? engine.active))

/-! ## Answers -/

/-- What an answer means: the value to remember, the key to remember it under,
and where the conversation goes on. -/
structure Meaning where
  value : Value
  storeKey : Option String
  next : Option MessageId

/-- What an answer to a message means, if it fits the message. -/
def meaning (message : Message) (id : MessageId) (answer : Answer) :
    Except Error Meaning :=
  let behind := message.next.or (MessageId.following? id)
  match message.kind, answer with
  | .choice, .choice index =>
      match message.choices[index]? with
      | none => .error (.invalidAnswer id (.outOfRange index message.choices.length))
      | some choice =>
          .ok
            { value := choice.storedValue
              storeKey := message.storeKey
              next := choice.next.or behind }
  | .textInput, .text s =>
      .ok { value := .text s, storeKey := message.storeKey, next := behind }
  | kind, answer => .error (.invalidAnswer id (.wrongKind answer kind))

/-- What an answer to a message of the active sequence means. -/
def interpret (engine : Engine) (id : MessageId) (answer : Answer) :
    Except Error Meaning :=
  match engine.active with
  | none => .error .noActiveSequence
  | some active =>
      match active.message? id with
      | none => .error (.messageNotFound id)
      | some message => meaning message id answer

/-- Remember an answer. -/
def store (engine : Engine) (meaning : Meaning) : Except Error Engine :=
  match meaning.storeKey with
  | none => .ok engine
  | some key =>
      match engine.state.set key meaning.value with
      | .error error => .error (.state error)
      | .ok state => .ok { engine with state }

/-- Answer a message and go on behind it. -/
def submit (session : Session) (id : MessageId) (answer : Answer) :
    Except Error Engine.Result × Session :=
  match interpret session.engine id answer with
  | .error error => (.error error, session)
  | .ok meaning =>
      match store session.engine meaning with
      | .error error => (.error error, session)
      | .ok engine => session.record (engine.runFrom meaning.next)

end Session

end Dialogue.Flow
