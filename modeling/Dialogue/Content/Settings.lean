import Dialogue.Json.Decode
import Dialogue.Json.Printer

/-!
# Content settings

How authored lines are looked up: the seed of the choice among variants, the
generic subjects that stand in for specific ones, and the modifiers that are
tried on a bare key.
-/

namespace Dialogue.Content

/-- How authored lines are looked up. -/
structure Settings where
  /-- The seed of the choice among variants. -/
  seed : UInt64 := 42
  /-- The generic subject that is tried after a specific one. -/
  aliases : Dictionary String :=
    .ofList [("completion", "task"), ("streak", "progress"), ("reminder", "checkin")]
  /-- The modifiers that are tried behind a bare key. -/
  defaultModifiers : List String := ["positive", "neutral"]

namespace Settings

instance : Inhabited Settings :=
  ⟨{}⟩

/-- The generic subject of a subject, if it has another one than itself. -/
def aliasOf? (settings : Settings) (subject : String) : Option String :=
  (settings.aliases.get? subject).filter fun generic => generic != subject

/-- Settings with another seed. -/
def withSeed (settings : Settings) (seed : UInt64) : Settings :=
  { settings with seed }

/-- Settings with a generic subject for a subject. -/
def withAlias (settings : Settings) (subject generic : String) : Settings :=
  { settings with aliases := settings.aliases.insert subject generic }

/-- Settings with other default modifiers. -/
def withDefaultModifiers (settings : Settings) (modifiers : List String) :
    Settings :=
  { settings with defaultModifiers := modifiers }

/-! ## Documents -/

/-- The document of settings. -/
def toJson (settings : Settings) : Json :=
  .record
    [("seed", .nat settings.seed.toNat),
      ("subjectAliases",
        .record (settings.aliases.entries.map fun entry => (entry.1, .text entry.2))),
      ("defaultModifiers", .list (settings.defaultModifiers.map .text))]

/-- The fields of settings, in order. -/
def fieldNames : List String :=
  ["seed", "subjectAliases", "defaultModifiers"]

/-- Put a field into settings. -/
def putField (name : String) : Decoder (Settings → Settings) :=
  fun room draft =>
    match name with
    | "seed" =>
        (Decoder.longWord room draft).map fun seed found => { found with seed := seed }
    | "subjectAliases" =>
        (Decoder.dictionary .text room draft).map fun aliases found =>
          { found with aliases := aliases }
    | "defaultModifiers" =>
        (Decoder.list .text room draft).map fun modifiers found =>
          { found with defaultModifiers := modifiers }
    | _ => .ok fun found => found

/-- Settings; a missing field has its usual value. -/
def decode : Decoder Settings :=
  .record fieldNames {} putField some

end Settings

end Dialogue.Content
