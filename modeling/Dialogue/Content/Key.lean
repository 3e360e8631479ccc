import Dialogue.Content.Settings
import Dialogue.Text.Blank
import Dialogue.Text.Separator

/-!
# Content keys

A content key names a family of authored lines: who speaks, what is done, what
it is about, and modifiers from the most general to the most specific one, all
joined by points.  When a key has no lines, less specific keys are tried: the
modifiers are dropped from the end one at a time, then each default modifier
is tried on the bare key, and then the same is done for the generic subject.
-/

namespace Dialogue.Content

/-- The name of a family of authored lines. -/
structure Key where
  actor : String
  action : String
  subject : String
  modifiers : List String
deriving DecidableEq, Repr

namespace Key

/-- Names joined by points. -/
def dotted (names : List String) : String :=
  String.intercalate "." names

/-- The key that a text stands for: at least three names that are not blank,
joined by points. -/
def parse? (text : String) : Option Key :=
  let names := Text.piecesAt '.' (Text.trim text)
  if names.any Text.isBlankText then
    none
  else
    match names with
    | actor :: action :: subject :: modifiers =>
        some { actor, action, subject, modifiers }
    | _ => none

/-- The text of a key. -/
def text (key : Key) : String :=
  dotted ([key.actor, key.action, key.subject] ++ key.modifiers)

/-- The keys that are tried for one subject, in order: with all modifiers,
with fewer and fewer of them, with none, and with each default modifier. -/
def levels (key : Key) (subject : String) (defaults : List String) : List String :=
  let base := [key.actor, key.action, subject]
  let counts := (List.range (key.modifiers.length + 1)).reverse
  (counts.map fun count => dotted (base ++ key.modifiers.take count)) ++
    defaults.map fun modifier => dotted (base ++ [modifier])

/-- The keys that are tried for a key, in order and with repetitions. -/
def candidates (key : Key) (settings : Settings) : List String :=
  key.levels key.subject settings.defaultModifiers ++
    match settings.aliasOf? key.subject with
    | some generic => key.levels generic settings.defaultModifiers
    | none => []

/-- The keys that are tried for a key, each where it occurs first. -/
def chain (key : Key) (settings : Settings) : List String :=
  (key.candidates settings).eraseDups

end Key

end Dialogue.Content
