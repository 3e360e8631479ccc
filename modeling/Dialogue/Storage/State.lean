import Dialogue.Storage.Files
import Dialogue.Text.Blank
import Dialogue.Value.Document

/-!
# State

The state of a conversation is what it remembers: a value under each key.  It
is kept in memory alone, or in a file as well, which then holds the indented
document of the values after every change.  A change whose file cannot be
written does not happen.

Keys are plain texts; the points in them are only a custom.  A blank key cannot
be set.
-/

namespace Dialogue

/-- Why a state cannot be opened or changed. -/
inductive StateError where
  | blankKey (key : String)
  | unreachable (error : FileError)
  | undecodable (fault : Json.Fault)
deriving DecidableEq, Repr

/-- The wording of an error. -/
def StateError.message : StateError → String
  | .blankKey key => "invalid state key: \"" ++ key ++ "\""
  | .unreachable error => error.message
  | .undecodable fault => fault.message

/-- What a conversation remembers, where it is kept, and the files. -/
structure State where
  values : Dictionary Value
  /-- The file that the values are kept in as well. -/
  file : Option Path := none
  files : Files := {}

namespace State

/-- A state that is kept in memory alone. -/
def inMemory (values : Dictionary Value) (files : Files) : State :=
  { values, files }

/-- The value under a key. -/
def get? (state : State) (key : String) : Option Value :=
  state.values.get? key

/-- The keys in ascending order. -/
def keys (state : State) : List String :=
  state.values.keys

/-- The text that a file of values holds. -/
def fileText (values : Dictionary Value) : String :=
  (Value.stateToJson values).toIndentedText

/-- Open the state that a file holds.  A file that is missing or blank holds
no values. -/
def openFile (files : Files) (path : Path) : Except StateError State :=
  if files.exists? path then
    match files.read path with
    | .error error => .error (.unreachable error)
    | .ok text =>
        if Text.isBlankText text then
          .ok { values := .empty, file := some path, files }
        else
          match Decoder.decodeText (.dictionary Value.decode) text with
          | .error fault => .error (.undecodable fault)
          | .ok values => .ok { values, file := some path, files }
  else
    .ok { values := .empty, file := some path, files }

/-- Replace the values, in the file first. -/
def replace (state : State) (values : Dictionary Value) :
    Except StateError State :=
  match state.file with
  | none => .ok { state with values }
  | some path =>
      match state.files.write path (fileText values) with
      | .error error => .error (.unreachable error)
      | .ok files => .ok { state with values, files }

/-- Remember a value under a key. -/
def set (state : State) (key : String) (value : Value) :
    Except StateError State :=
  if Text.isBlankText key then .error (.blankKey key)
  else state.replace (state.values.insert key value)

/-- Forget a key.  Nothing happens when it is not there. -/
def remove (state : State) (key : String) : Except StateError State :=
  if state.values.contains key then state.replace (state.values.erase key)
  else .ok state

end State

end Dialogue
