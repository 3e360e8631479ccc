import Dialogue.Message.Basic
import Dialogue.Value.Document

/-!
# Messages in documents

The documents of messages and their parts.  A field that is missing is left
out, and so are empty lists of choices, routes and actions; the text and delay
of a message and the default mark of a route are always written.  Reading
accepts what writing produces, records with unknown fields, and records
written as the list of their fields.
-/

namespace Dialogue

open Json (optionalField listField)

/-- A required field that has been found. -/
abbrev Found (α : Type) : Type :=
  Option α

/-! ## Kinds -/

/-- The document of a message kind: its name. -/
def MessageKind.toJson (kind : MessageKind) : Json :=
  .text kind.name

/-- A message kind, by its name. -/
def MessageKind.decode : Decoder MessageKind :=
  .oneOf MessageKind.named

/-- The document of an action kind: its name. -/
def ActionKind.toJson (kind : ActionKind) : Json :=
  .text kind.name

/-- An action kind, by its name. -/
def ActionKind.decode : Decoder ActionKind :=
  .oneOf ActionKind.named

/-- The document of a message number. -/
def MessageId.toJson (id : MessageId) : Json :=
  .nat id.toNat

/-! ## Choices -/

namespace Choice

/-- The document of a choice. -/
def toJson (choice : Choice) : Json :=
  .record
    ([("text", .text choice.text)] ++
      optionalField "contentKey" (choice.contentKey.map .text) ++
      optionalField "value" (choice.value.map Value.toJson) ++
      optionalField "nextMessageId" (choice.next.map MessageId.toJson))

/-- The fields of a choice, in order. -/
def fieldNames : List String :=
  ["text", "contentKey", "value", "nextMessageId"]

/-- Put a field into a choice whose label may still be missing. -/
def putField (name : String) :
    Decoder (Found String × Choice → Found String × Choice) :=
  fun room draft =>
    match name with
    | "text" =>
        (Decoder.text room draft).map fun text found => (some text, found.2)
    | "contentKey" =>
        (Decoder.optional .text room draft).map fun key found =>
          (found.1, { found.2 with contentKey := key })
    | "value" =>
        (Decoder.optional Value.decode room draft).map fun value found =>
          (found.1, { found.2 with value := value })
    | "nextMessageId" =>
        (Decoder.optional .word room draft).map fun next found =>
          (found.1, { found.2 with next := next })
    | _ => .ok id

/-- A choice; its label is required. -/
def decode : Decoder Choice :=
  .record fieldNames (none, { text := "" }) putField fun
    | (some text, choice) => some { choice with text := text }
    | _ => none

end Choice

/-! ## Routes -/

namespace Route

/-- The document of a route. -/
def toJson (route : Route) : Json :=
  .record
    (optionalField "condition" (route.condition.map .text) ++
      [("isDefault", .bool route.isDefault)] ++
      optionalField "nextMessageId" (route.next.map MessageId.toJson) ++
      optionalField "sequenceId" (route.sequence.map .text))

/-- The fields of a route, in order. -/
def fieldNames : List String :=
  ["condition", "isDefault", "nextMessageId", "sequenceId"]

/-- Put a field into a route. -/
def putField (name : String) : Decoder (Route → Route) :=
  fun room draft =>
    match name with
    | "condition" =>
        (Decoder.optional .text room draft).map fun condition found =>
          { found with condition := condition }
    | "isDefault" =>
        (Decoder.bool room draft).map fun isDefault found =>
          { found with isDefault := isDefault }
    | "nextMessageId" =>
        (Decoder.optional .word room draft).map fun next found =>
          { found with next := next }
    | "sequenceId" =>
        (Decoder.optional .text room draft).map fun sequence found =>
          { found with sequence := sequence }
    | _ => .ok id

/-- A route; no field of it is required. -/
def decode : Decoder Route :=
  .record fieldNames {} putField some

end Route

/-! ## Actions -/

namespace Action

/-- The document of an action. -/
def toJson (action : Action) : Json :=
  .record
    ([("type", action.kind.toJson), ("key", .text action.key)] ++
      optionalField "value" (action.value.map Value.toJson))

/-- The fields of an action, in order. -/
def fieldNames : List String :=
  ["type", "key", "value"]

/-- The parts of an action that have been found. -/
structure Parts where
  kind : Found ActionKind := none
  key : Found String := none
  value : Option Value := none

/-- Put a field into the parts of an action. -/
def putField (name : String) : Decoder (Parts → Parts) :=
  fun room draft =>
    match name with
    | "type" =>
        (ActionKind.decode room draft).map fun kind found =>
          { found with kind := some kind }
    | "key" =>
        (Decoder.text room draft).map fun key found =>
          { found with key := some key }
    | "value" =>
        (Decoder.optional Value.decode room draft).map fun value found =>
          { found with value := value }
    | _ => .ok id

/-- An action whose kind and key have been found. -/
def Parts.complete? : Parts → Option Action
  | { kind := some kind, key := some key, value } => some { kind, key, value }
  | _ => none

/-- An action; its kind and key are required. -/
def decode : Decoder Action :=
  .record fieldNames {} putField Parts.complete?

end Action

/-! ## Messages -/

namespace Message

/-- The document of a message. -/
def toJson (message : Message) : Json :=
  .record
    ([("id", message.id.toJson), ("type", message.kind.toJson),
        ("text", .text message.text), ("delay", .nat message.delay.toNat)] ++
      optionalField "nextMessageId" (message.next.map MessageId.toJson) ++
      optionalField "sequenceId" (message.sequence.map .text) ++
      optionalField "storeKey" (message.storeKey.map .text) ++
      optionalField "contentKey" (message.contentKey.map .text) ++
      listField "choices" (message.choices.map Choice.toJson) ++
      listField "routes" (message.routes.map Route.toJson) ++
      listField "dataActions" (message.actions.map Action.toJson))

/-- The fields of a message, in order. -/
def fieldNames : List String :=
  ["id", "type", "text", "delay", "nextMessageId", "sequenceId", "storeKey",
    "contentKey", "choices", "routes", "dataActions"]

/-- A message whose number and kind may still be missing. -/
structure Parts where
  id : Found MessageId := none
  kind : Found MessageKind := none
  /-- The fields that have a value of their own when they are missing. -/
  others : Message := { id := 0, kind := .text }

/-- Put a field other than the number and the kind into a message. -/
def putOther (name : String) : Decoder (Message → Message) :=
  fun room draft =>
    match name with
    | "text" =>
        (Decoder.text room draft).map fun text found =>
          { found with text := text }
    | "delay" =>
        (Decoder.longWord room draft).map fun delay found =>
          { found with delay := delay }
    | "nextMessageId" =>
        (Decoder.optional .word room draft).map fun next found =>
          { found with next := next }
    | "sequenceId" =>
        (Decoder.optional .text room draft).map fun sequence found =>
          { found with sequence := sequence }
    | "storeKey" =>
        (Decoder.optional .text room draft).map fun key found =>
          { found with storeKey := key }
    | "contentKey" =>
        (Decoder.optional .text room draft).map fun key found =>
          { found with contentKey := key }
    | "choices" =>
        (Decoder.list Choice.decode room draft).map fun choices found =>
          { found with choices := choices }
    | "routes" =>
        (Decoder.list Route.decode room draft).map fun routes found =>
          { found with routes := routes }
    | "dataActions" =>
        (Decoder.list Action.decode room draft).map fun actions found =>
          { found with actions := actions }
    | _ => .ok fun found => found

/-- Put a field into the parts of a message. -/
def putField (name : String) : Decoder (Parts → Parts) :=
  fun room draft =>
    match name with
    | "id" =>
        (Decoder.word room draft).map fun id found => { found with id := some id }
    | "type" =>
        (MessageKind.decode room draft).map fun kind found =>
          { found with kind := some kind }
    | _ =>
        (putOther name room draft).map fun change found =>
          { found with others := change found.others }

/-- A message whose number and kind have been found. -/
def Parts.complete? : Parts → Option Message
  | { id := some id, kind := some kind, others } => some { others with id, kind }
  | _ => none

/-- A message; its number and kind are required. -/
def decode : Decoder Message :=
  .record fieldNames {} putField Parts.complete?

end Message

end Dialogue
