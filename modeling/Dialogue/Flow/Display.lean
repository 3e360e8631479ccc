import Dialogue.Content.Resolver
import Dialogue.Flow.Template
import Dialogue.Message.Basic

/-!
# Displayed messages

What the user is shown.  Routing messages are left out.  The text of any other
message is the line of its content key, or else its literal text, with the
placeholders replaced; a text with several parts is shown as several messages,
of which the last one offers the choices.
-/

namespace Dialogue.Flow

open Content (Resolver)

/-- A choice as it is shown. -/
structure DisplayChoice where
  /-- The number by which the choice is picked, from 0. -/
  index : Nat
  text : String
deriving DecidableEq, Repr

/-- A message as it is shown. -/
structure DisplayMessage where
  /-- The number of the authored message. -/
  id : MessageId
  kind : MessageKind
  text : String
  delay : UInt64
  choices : List DisplayChoice
  storeKey : Option String
deriving DecidableEq, Repr

/-- What texts are made from: the state, the variants of content keys, and the
separator of parts. -/
structure Renderer where
  state : Dictionary Value
  variants : String → List String
  delimiter : String

namespace Renderer

/-- The text for a literal one and a content key. -/
def resolveText (renderer : Renderer) (resolver : Resolver) (literal : String)
    (contentKey : Option String) : String × Resolver :=
  match contentKey with
  | none => (substitute renderer.state literal, resolver)
  | some key =>
      let (line, resolver) := resolver.resolve renderer.variants key literal
      (substitute renderer.state line, resolver)

/-- The choices of a message, numbered from `index` on. -/
def resolveChoices (renderer : Renderer) (index : Nat) (resolver : Resolver) :
    List Choice → List DisplayChoice × Resolver
  | [] => ([], resolver)
  | choice :: rest =>
      let (text, resolver) := renderer.resolveText resolver choice.text choice.contentKey
      let (others, resolver) := renderer.resolveChoices (index + 1) resolver rest
      ({ index, text } :: others, resolver)

/-- The parts of a text.  A text that does not hold the separator is its only
part; otherwise the parts are trimmed and blank ones dropped, and when none is
left the only part is empty. -/
def parts (renderer : Renderer) (text : String) : List String :=
  let delimiter := renderer.delimiter.toList
  if delimiter.isEmpty || !Text.occurs delimiter text.toList then
    [text]
  else
    let kept := ((Text.pieces delimiter text.toList).map Text.trimmed).filter
      fun part => !part.isEmpty
    if kept.isEmpty then [""] else kept.map String.ofList

/-- Show the parts of a message; the last one offers the choices. -/
def block (message : Message) (choices : List DisplayChoice) :
    List String → List DisplayMessage
  | [] => []
  | [text] =>
      [{ id := message.id, kind := message.kind, text, delay := message.delay, choices,
         storeKey := message.storeKey }]
  | text :: rest =>
      { id := message.id, kind := message.kind, text, delay := message.delay,
        choices := [], storeKey := message.storeKey } :: block message choices rest

/-- Show a message. -/
def renderMessage (renderer : Renderer) (resolver : Resolver) (message : Message) :
    List DisplayMessage × Resolver :=
  let (text, resolver) := renderer.resolveText resolver message.text message.contentKey
  let (choices, resolver) := renderer.resolveChoices 0 resolver message.choices
  (block message choices (renderer.parts text), resolver)

/-- Show messages in order, leaving out routing messages. -/
def render (renderer : Renderer) (resolver : Resolver) :
    List Message → List DisplayMessage × Resolver
  | [] => ([], resolver)
  | message :: rest =>
      if message.kind.isRouting then
        renderer.render resolver rest
      else
        let (shown, resolver) := renderer.renderMessage resolver message
        let (others, resolver) := renderer.render resolver rest
        (shown ++ others, resolver)

end Renderer

end Dialogue.Flow
