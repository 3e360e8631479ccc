import Dialogue.Value.Basic

/-!
# Messages

A message is one step of a scripted conversation.  Text and system messages
are shown; choices and text inputs are shown and wait for an answer; routing
messages are never shown: an autoroute branches on what is remembered, and a
data action changes it.
-/

namespace Dialogue

/-- The number of a message, unique within its sequence. -/
abbrev MessageId : Type :=
  UInt32

/-- The number after a message's, which the largest number does not have. -/
def MessageId.following? (id : MessageId) : Option MessageId :=
  if id.toNat + 1 < UInt32.size then some (id + 1) else none

/-! ## Kinds of messages -/

/-- What a message does. -/
inductive MessageKind where
  | text
  | choice
  | textInput
  | autoroute
  | dataAction
  | system
deriving DecidableEq, Repr

namespace MessageKind

/-- Whether the conversation waits for the user after such a message. -/
def isInteractive : MessageKind → Bool
  | .choice | .textInput => true
  | _ => false

/-- Whether such a message is resolved rather than shown. -/
def isRouting : MessageKind → Bool
  | .autoroute | .dataAction => true
  | _ => false

/-- The name of a kind. -/
def name : MessageKind → String
  | .text => "text"
  | .choice => "choice"
  | .textInput => "textInput"
  | .autoroute => "autoroute"
  | .dataAction => "dataAction"
  | .system => "system"

/-- Every kind, under its name. -/
def named : List (String × MessageKind) :=
  [.text, .choice, .textInput, .autoroute, .dataAction, .system].map
    fun kind => (kind.name, kind)

end MessageKind

/-! ## Choices -/

/-- An option that a choice message offers. -/
structure Choice where
  /-- The label. -/
  text : String
  /-- The content key of a label that replaces the literal one. -/
  contentKey : Option String := none
  /-- What is remembered when the option is picked, instead of its label. -/
  value : Option Value := none
  /-- Where the conversation goes on. -/
  next : Option MessageId := none

/-- The value that is remembered when a choice is picked. -/
def Choice.storedValue (choice : Choice) : Value :=
  choice.value.getD (.text choice.text)

/-! ## Routes -/

/-- A place where a conversation can go on. -/
inductive Target where
  /-- A message of the active sequence. -/
  | message (id : MessageId)
  /-- The first message of another sequence. -/
  | sequence (id : String)
deriving DecidableEq, Repr

/-- A branch of an autoroute message. -/
structure Route where
  /-- The condition under which the branch is taken; a default route ignores
  it. -/
  condition : Option String := none
  /-- The branch is only taken when no conditional one is. -/
  isDefault : Bool := false
  /-- The message that the branch leads to. -/
  next : Option MessageId := none
  /-- The sequence that the branch leads to if it names no message. -/
  sequence : Option String := none
deriving DecidableEq, Repr

namespace Route

/-- The place that a route leads to; a message wins over a sequence. -/
def target (route : Route) : Option Target :=
  match route.next with
  | some id => some (.message id)
  | none => route.sequence.map .sequence

/-- A route to a message under a condition. -/
def when (condition : String) (next : MessageId) : Route :=
  { condition := some condition, next := some next }

/-- A route into another sequence under a condition. -/
def whenSequence (condition sequence : String) : Route :=
  { condition := some condition, sequence := some sequence }

/-- A default route to a message. -/
def fallback (next : MessageId) : Route :=
  { isDefault := true, next := some next }

/-- A default route into another sequence. -/
def fallbackSequence (sequence : String) : Route :=
  { isDefault := true, sequence := some sequence }

end Route

/-! ## Actions -/

/-- How an action changes what is remembered. -/
inductive ActionKind where
  | set
  | increment
  | decrement
  | reset
deriving DecidableEq, Repr

namespace ActionKind

/-- The name of a kind. -/
def name : ActionKind → String
  | .set => "set"
  | .increment => "increment"
  | .decrement => "decrement"
  | .reset => "reset"

/-- Every kind, under its name. -/
def named : List (String × ActionKind) :=
  [.set, .increment, .decrement, .reset].map fun kind => (kind.name, kind)

end ActionKind

/-- One change of what is remembered. -/
structure Action where
  kind : ActionKind
  key : String
  /-- The value to remember, or the amount of an increment or decrement. -/
  value : Option Value := none

/-! ## Messages -/

/-- One step of a scripted conversation. -/
structure Message where
  id : MessageId
  kind : MessageKind
  /-- The literal text. -/
  text : String := ""
  /-- How long to wait before it is shown, in milliseconds. -/
  delay : UInt64 := 0
  /-- The message that follows, instead of the one with the next number. -/
  next : Option MessageId := none
  /-- The sequence that the conversation moves on to behind this message. -/
  sequence : Option String := none
  /-- The key under which the user's answer is remembered. -/
  storeKey : Option String := none
  /-- The content key of a text that replaces the literal one. -/
  contentKey : Option String := none
  choices : List Choice := []
  routes : List Route := []
  actions : List Action := []

end Dialogue
