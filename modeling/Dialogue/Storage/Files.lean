import Dialogue.Text.Separator

/-!
# Files and folders

The files that a conversation reads and writes, as a value.  Folders and
files stand under the list of names that leads to them from the topmost
folder, which always exists.  A path is a text as a user writes it, with names
below it.  It starts at the topmost folder if a slash stands in front, and
otherwise at the working folder; it is followed one name at a time, and every
name that is passed must be a folder.
-/

namespace Dialogue

/-! ## Paths -/

/-- A path as it is written, and names below it. -/
structure Path where
  written : String
  below : List String := []
deriving DecidableEq, Repr

namespace Path

/-- A path one name further down. -/
def child (path : Path) (name : String) : Path :=
  { path with below := path.below ++ [name] }

/-- A name behind a text and a slash; the slash is left out where it is not
needed. -/
def joinText (front name : String) : String :=
  if front.isEmpty || front.endsWith "/" then front ++ name
  else front ++ "/" ++ name

/-- The text of a path. -/
def text (path : Path) : String :=
  path.below.foldl joinText path.written

/-- The names between the slashes of a text. -/
def namesOf (written : String) : List String :=
  (Text.piecesAt '/' written).filter fun name => !name.isEmpty

/-- The names that a path leads through. -/
def names (path : Path) : List String :=
  namesOf path.written ++ path.below

/-- Whether a path starts at the topmost folder. -/
def isAbsolute (path : Path) : Bool :=
  path.written.startsWith "/"

/-- Whether a path can only lead to a folder, because a slash ends it. -/
def namesFolder (path : Path) : Bool :=
  path.text.endsWith "/"

end Path

/-! ## Faults -/

/-- Why a file or folder cannot be used. -/
inductive FileFault where
  | missing
  | notAFolder
  | isAFolder
  /-- A name, or the path as a whole, has more bytes than it can have. -/
  | nameTooLong
  /-- The path holds a zero character. -/
  | zeroInName
  | notText
deriving DecidableEq, Repr

/-- The wording of a fault. -/
def FileFault.message : FileFault → String
  | .missing => "No such file or directory (os error 2)"
  | .notAFolder => "Not a directory (os error 20)"
  | .isAFolder => "Is a directory (os error 21)"
  | .nameTooLong => "File name too long (os error 36)"
  | .zeroInName => "file name contained an unexpected NUL byte"
  | .notText => "stream did not contain valid UTF-8"

/-- A fault and the path where it was met. -/
structure FileError where
  path : Path
  fault : FileFault
deriving DecidableEq, Repr

/-- The wording of an error. -/
def FileError.message (error : FileError) : String :=
  "io error on " ++ error.path.text ++ ": " ++ error.fault.message

/-! ## Files -/

/-- What stands under a path. -/
inductive Entry where
  | file (bytes : ByteArray)
  | folder

/-- Files and folders under the names that lead to them, and the names that
lead to the working folder. -/
structure Files where
  entries : List (List String × Entry) := []
  working : List String := []

namespace Files

instance : Inhabited Files :=
  ⟨{}⟩

/-- What stands at a place; the topmost folder is always there. -/
def entry? (files : Files) (place : List String) : Option Entry :=
  match place with
  | [] => some .folder
  | _ => files.entries.lookup place

/-- The bytes that a name can have at most. -/
def nameLimit : Nat := 255

/-- The bytes that a path can have at most. -/
def pathLimit : Nat := 4095

/-- Follow names from a place.  The last one need not exist. -/
def follow (files : Files) (place : List String) :
    List String → Except FileFault (List String)
  | [] => .ok place
  | name :: rest =>
      match files.entry? place with
      | none => .error .missing
      | some (.file _) => .error .notAFolder
      | some .folder =>
          if name.utf8ByteSize > nameLimit then .error .nameTooLong
          else if name = "." then follow files place rest
          else if name = ".." then follow files place.dropLast rest
          else follow files (place ++ [name]) rest

/-- The place where a path starts. -/
def start (files : Files) (path : Path) : List String :=
  if path.isAbsolute then [] else files.working

/-- The place that a path leads to, where something need not exist.  A path
without a text leads nowhere, and neither does one that no file can have. -/
def placeOf (files : Files) (path : Path) : Except FileFault (List String) :=
  if path.text.isEmpty then .error .missing
  else if path.text.toList.contains '\x00' then .error .zeroInName
  else if path.text.utf8ByteSize > pathLimit then .error .nameTooLong
  else files.follow (files.start path) path.names

/-- What stands at the end of a path. -/
def find (files : Files) (path : Path) : Except FileFault Entry :=
  match files.placeOf path with
  | .error fault => .error fault
  | .ok place =>
      match files.entry? place with
      | none => .error .missing
      | some .folder => .ok .folder
      | some (.file bytes) =>
          if path.namesFolder then .error .notAFolder else .ok (.file bytes)

/-- Whether something stands at the end of a path. -/
def exists? (files : Files) (path : Path) : Bool :=
  match files.find path with
  | .ok _ => true
  | .error _ => false

/-- Whether a file stands at the end of a path. -/
def isFile (files : Files) (path : Path) : Bool :=
  match files.find path with
  | .ok (.file _) => true
  | _ => false

/-- The text of a file. -/
def read (files : Files) (path : Path) : Except FileError String :=
  match files.find path with
  | .error fault => .error { path, fault }
  | .ok .folder => .error { path, fault := .isAFolder }
  | .ok (.file bytes) =>
      match String.fromUTF8? bytes with
      | some text => .ok text
      | none => .error { path, fault := .notText }

/-- The names in a folder. -/
def namesIn (files : Files) (path : Path) : Except FileError (List String) :=
  match files.placeOf path with
  | .error fault => .error { path, fault }
  | .ok place =>
      match files.entry? place with
      | none => .error { path, fault := .missing }
      | some (.file _) => .error { path, fault := .notAFolder }
      | some .folder =>
          .ok (files.entries.filterMap fun (other, _) =>
            if other.dropLast = place then other.getLast? else none)

/-- Put an entry at a place, instead of one that is there. -/
def put (files : Files) (place : List String) (entry : Entry) : Files :=
  { files with
    entries := (files.entries.filter fun other => other.1 != place) ++ [(place, entry)] }

/-- Write a text to a file whose folder exists. -/
def write (files : Files) (path : Path) (text : String) :
    Except FileError Files :=
  match files.placeOf path with
  | .error fault => .error { path, fault }
  | .ok place =>
      match files.entry? place with
      | some .folder => .error { path, fault := .isAFolder }
      | _ =>
          if path.namesFolder then .error { path, fault := .isAFolder }
          else .ok (files.put place (.file text.toUTF8))

/-! ## Setting up -/

/-- Remove what stands at a place and everything below it. -/
def remove (files : Files) (place : List String) : Files :=
  { files with entries := files.entries.filter fun other => !place.isPrefixOf other.1 }

/-- Make the folders that lead to a place. -/
def makeFolders (files : Files) (place : List String) : Files :=
  (List.range place.length).foldl
    (fun files count =>
      let folder := place.take count
      match files.entry? folder with
      | some .folder => files
      | _ => files.put folder .folder)
    files

/-- Put an entry at a place, instead of everything that is there, and make the
folders that lead to it. -/
def place (files : Files) (names : List String) (entry : Entry) : Files :=
  ((files.remove names).makeFolders names).put names entry

/-- Nothing but a working folder, and the folders that lead to it. -/
def emptyAt (working : List String) : Files :=
  place { working } working .folder

end Files

end Dialogue
