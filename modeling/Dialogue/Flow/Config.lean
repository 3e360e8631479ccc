import Dialogue.Content.Settings

/-!
# Flow settings

The limits of a run, the separator of the parts of a text, where the active
weekdays of the user are remembered, and the content settings.
-/

namespace Dialogue.Flow

/-- How conversations are run. -/
structure Config where
  /-- How many messages one walk may visit. -/
  maxWalkDepth : Nat := 50
  /-- How many walks one run may take. -/
  maxCycles : Nat := 25
  /-- The separator of the parts of a text that are shown one by one. -/
  partDelimiter : String := "|||"
  /-- The key under which the user's active weekdays are remembered. -/
  activeDaysKey : String := "user.activeDays"
  /-- The weekdays, from 1 for Monday, that count when none are remembered. -/
  defaultActiveDays : List Nat := [1, 2, 3, 4, 5, 6, 7]
  content : Content.Settings := {}

namespace Config

instance : Inhabited Config :=
  ⟨{}⟩

/-- A configuration with another limit of walks; it is at least 1. -/
def withMaxWalkDepth (config : Config) (depth : Nat) : Config :=
  { config with maxWalkDepth := max depth 1 }

/-- A configuration with another limit of cycles; it is at least 1. -/
def withMaxCycles (config : Config) (cycles : Nat) : Config :=
  { config with maxCycles := max cycles 1 }

/-- A configuration with another separator of parts. -/
def withPartDelimiter (config : Config) (delimiter : String) : Config :=
  { config with partDelimiter := delimiter }

/-- A configuration with another key of active weekdays. -/
def withActiveDaysKey (config : Config) (key : String) : Config :=
  { config with activeDaysKey := key }

/-- A configuration with other usual weekdays; numbers that are no weekday are
dropped. -/
def withDefaultActiveDays (config : Config) (days : List Nat) : Config :=
  { config with defaultActiveDays := days.filter fun day => 1 ≤ day && day ≤ 7 }

/-- A configuration with other content settings. -/
def withContent (config : Config) (content : Content.Settings) : Config :=
  { config with content }

/-! ## Documents -/

/-- The document of a configuration. -/
def toJson (config : Config) : Json :=
  .record
    [("maxWalkDepth", .nat config.maxWalkDepth), ("maxCycles", .nat config.maxCycles),
      ("partDelimiter", .text config.partDelimiter),
      ("activeDaysKey", .text config.activeDaysKey),
      ("defaultActiveDays", .list (config.defaultActiveDays.map .nat)),
      ("content", config.content.toJson)]

/-- The fields of a configuration, in order. -/
def fieldNames : List String :=
  ["maxWalkDepth", "maxCycles", "partDelimiter", "activeDaysKey",
    "defaultActiveDays", "content"]

/-- Put a field into a configuration. -/
def putField (name : String) : Decoder (Config → Config) :=
  fun room draft =>
    match name with
    | "maxWalkDepth" =>
        (Decoder.natBelow UInt64.size room draft).map fun depth found =>
          { found with maxWalkDepth := depth }
    | "maxCycles" =>
        (Decoder.natBelow UInt64.size room draft).map fun cycles found =>
          { found with maxCycles := cycles }
    | "partDelimiter" =>
        (Decoder.text room draft).map fun delimiter found =>
          { found with partDelimiter := delimiter }
    | "activeDaysKey" =>
        (Decoder.text room draft).map fun key found =>
          { found with activeDaysKey := key }
    | "defaultActiveDays" =>
        (Decoder.list (.natBelow UInt32.size) room draft).map fun days found =>
          { found with defaultActiveDays := days }
    | "content" =>
        (Content.Settings.decode room draft).map fun content found =>
          { found with content := content }
    | _ => .ok fun found => found

/-- A configuration; a missing field has its usual value. -/
def decode : Decoder Config :=
  .record fieldNames {} putField some

end Config

end Dialogue.Flow
