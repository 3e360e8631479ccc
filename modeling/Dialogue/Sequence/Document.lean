import Dialogue.Message.Document
import Dialogue.Sequence.Basic

/-!
# Sequences in documents

The document of a sequence holds all of its fields.  Only the id is required
when it is read.
-/

namespace Dialogue.Sequence

/-- The document of a sequence. -/
def toJson (sequence : Sequence) : Json :=
  .record
    [("id", .text sequence.id), ("name", .text sequence.name),
      ("description", .text sequence.description),
      ("messages", .list (sequence.messages.map Message.toJson))]

/-- The fields of a sequence, in order. -/
def fieldNames : List String :=
  ["id", "name", "description", "messages"]

/-- Put a field into a sequence whose id may still be missing. -/
def putField (name : String) :
    Decoder (Found String × Sequence → Found String × Sequence) :=
  fun room draft =>
    match name with
    | "id" =>
        (Decoder.text room draft).map fun id found => (some id, found.2)
    | "name" =>
        (Decoder.text room draft).map fun text found =>
          (found.1, { found.2 with name := text })
    | "description" =>
        (Decoder.text room draft).map fun text found =>
          (found.1, { found.2 with description := text })
    | "messages" =>
        (Decoder.list Message.decode room draft).map fun messages found =>
          (found.1, { found.2 with messages := messages })
    | _ => .ok fun found => found

/-- A sequence; its id is required. -/
def decode : Decoder Sequence :=
  .record fieldNames (none, { id := "" }) putField fun
    | (some id, sequence) => some { sequence with id := id }
    | _ => none

end Dialogue.Sequence
