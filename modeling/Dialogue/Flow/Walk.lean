import Dialogue.Message.Basic

/-!
# Walks

A walk follows a sequence from message to message: to the authored next
message, or else to the one with the next number.  It stops at a message that
needs the user, at one that branches and at one that moves on to another
sequence; it ends where no message is left; and it is given up when it has
visited as many messages as it may and another one is waiting.
-/

namespace Dialogue.Flow

/-- Messages under their numbers. -/
abbrev Lookup : Type :=
  MessageId → Option Message

/-- Where and why a walk stopped. -/
inductive Stop where
  /-- A message needs the user. -/
  | interactive (id : MessageId)
  /-- A message branches. -/
  | branch (id : MessageId)
  /-- A message moves on to another sequence. -/
  | boundary (id : MessageId) (target : String)
  /-- No message is left. -/
  | finished
  /-- More messages are left than may be visited. -/
  | tooDeep
deriving DecidableEq, Repr

namespace Stop

/-- The name of the reason. -/
def name : Stop → String
  | .interactive _ => "interactiveMessage"
  | .branch _ | .finished => "endOfChain"
  | .boundary _ _ => "sequenceBoundary"
  | .tooDeep => "maxDepthReached"

/-- The message that the walk stopped on, if it stopped on one. -/
def message? : Stop → Option MessageId
  | .interactive id | .branch id | .boundary id _ => some id
  | .finished | .tooDeep => none

/-- The sequence that the walk leads to. -/
def target? : Stop → Option String
  | .boundary _ target => some target
  | _ => none

end Stop

/-- The messages that a walk visited, in order, and where it stopped. -/
structure Walk where
  messages : List Message
  stop : Stop

/-- The reason to stop on a message, if there is one. -/
def stopOn? (id : MessageId) (message : Message) : Option Stop :=
  if message.kind.isInteractive then some (.interactive id)
  else if message.kind = .autoroute then some (.branch id)
  else message.sequence.map (.boundary id)

/-- Walk from a message, visiting at most `limit` messages. -/
def walkFrom (lookup : Lookup) : Nat → MessageId → Walk
  | 0, id =>
      match lookup id with
      | none => { messages := [], stop := .finished }
      | some _ => { messages := [], stop := .tooDeep }
  | limit + 1, id =>
      match lookup id with
      | none => { messages := [], stop := .finished }
      | some message =>
          match stopOn? id message with
          | some stop => { messages := [message], stop }
          | none =>
              match message.next.or (MessageId.following? id) with
              | none => { messages := [message], stop := .finished }
              | some next =>
                  let walk := walkFrom lookup limit next
                  { walk with messages := message :: walk.messages }

end Dialogue.Flow
