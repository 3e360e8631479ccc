import Dialogue.Console.Program
import Std.Time.Format

/-!
# The program

The command line with the files of the disk, the lines of the user and the day
of today.  The files that a command can use are taken from the disk first, and
the state file is written back whenever its text has changed.
-/

namespace Dialogue.Disk

open Dialogue.Flow Dialogue.Console

/-! ## Taking files -/

/-- The text that names a place on the disk. -/
def textOf (place : List String) : String :=
  "/" ++ String.intercalate "/" place

/-- Take what stands at a place, but not what a folder holds. -/
def takeEntry (files : Files) (place : List String) : IO Files := do
  match ← (IO.FS.realPath (textOf place)).toBaseIO with
  | .error _ => return files
  | .ok path =>
      if ← path.isDir then
        return files.put place .folder
      else
        return files.put place (.file (← IO.FS.readBinFile path))

/-- Take what stands along names from a place. -/
def takeAlong (files : Files) (place : List String) : List String → IO Files
  | [] => return files
  | name :: rest => do
      let next :=
        if name = "." then place
        else if name = ".." then place.dropLast
        else place ++ [name]
      takeAlong (← takeEntry files next) next rest

/-- Take what stands along a path. -/
def takePath (files : Files) (path : Path) : IO Files :=
  takeAlong files (files.start path) path.names

/-- Take what a folder holds, down to some depth. -/
def takeContents (files : Files) (place : List String) : Nat → IO Files
  | 0 => return files
  | depth + 1 => do
      let folder ← IO.FS.realPath (textOf place)
      let mut files := files
      for item in ← folder.readDir do
        let inner := place ++ [item.fileName]
        files ← takeEntry files inner
        match files.entry? inner with
        | some .folder => files ← takeContents files inner depth
        | _ => pure ()
      return files

/-- Take a folder and what it holds, down to some depth. -/
def takeFolder (files : Files) (path : Path) (depth : Nat) : IO Files := do
  let files ← takePath files path
  match files.placeOf path with
  | .error _ => return files
  | .ok place =>
      match files.entry? place with
      | some .folder => takeContents files place depth
      | _ => return files

/-- The depth down to which a folder of lines is taken. -/
def contentDepth : Nat := 64

/-- Take the files that a command can use. -/
def takeFor (command : Command) : IO Files := do
  let files := Files.emptyAt (Path.namesOf (← IO.currentDir).toString)
  match command with
  | .check folder | .walk _ _ folder => takeFolder files (pathOf folder) 1
  | .play _ folder content state config =>
      let mut files ← takeFolder files (pathOf folder) 1
      if let some content := content then
        files ← takeFolder files (pathOf content) contentDepth
      for file in [state, config] do
        if let some file := file then
          files ← takePath files (pathOf file)
      return files

/-! ## Playing -/

/-- The text of the state file in the files of a session. -/
def stateText? (session : Session) : Option String :=
  let state := session.engine.state
  state.file.bind fun path => (state.files.read path).toOption

/-- Write the state file of a session, if its text is not the one before. -/
def save (before after : Session) : IO Unit :=
  match after.engine.state.file, stateText? after with
  | some path, some text =>
      if stateText? before = some text then pure ()
      else IO.FS.writeFile path.text text
  | _, _ => pure ()

/-- Show events at once. -/
def showEvents (events : List Event) : IO Unit := do
  let output ← IO.getStdout
  output.putStr (screen events)
  output.flush

/-- Say why a command fails. -/
def fail (failure : String) : IO UInt32 := do
  IO.eprintln ("error: " ++ failure)
  return 1

/-- Play on, line by line, as long as a message waits. -/
def playOn (opening : Session) : IO Unit := do
  let input ← IO.getStdin
  let mut session := opening
  repeat
    match session.awaiting with
    | none =>
        showEvents (closing session)
        break
    | some id =>
        showEvents [.prompt]
        let line ← input.getLine
        if line.isEmpty then break
        match takeTurn? session id line with
        | none => break
        | some (event, next) =>
            save session next
            session := next
            showEvents [event]

/-- Play a sequence. -/
def play (files : Files) (today : Date) (folder : Path) (sequence : String)
    (content state config : Option Path) : IO UInt32 :=
  match openSession files today folder content state config with
  | .error failure => fail failure
  | .ok session => do
      let (started, next) := startPlay session sequence
      save session next
      match started with
      | .error error => fail error.message
      | .ok opening =>
          showEvents opening
          playOn next
          return 0

/-! ## Running -/

/-- The day of today. -/
def today : IO Date := do
  let now ← Std.Time.PlainDate.now
  match Date.of? now.year now.month.toNat now.day.toNat with
  | some date => return date
  | none => throw (IO.userError "the day of today is out of reach")

/-- Run the program on its arguments. -/
def run (arguments : List String) : IO UInt32 := do
  let today ← today
  match request? arguments with
  | some (.run (.play sequence folder content state config)) =>
      let files ← takeFor (.play sequence folder content state config)
      play files today (pathOf folder) sequence (content.map pathOf) (state.map pathOf)
        (config.map pathOf)
  | request =>
      let files ←
        match request with
        | some (.run command) => takeFor command
        | _ => pure {}
      let report := runProgram files today arguments []
      IO.print report.output
      IO.eprint report.errors
      return UInt32.ofNat report.exitCode

end Dialogue.Disk

/-- Run the program; what the disk refuses ends it. -/
def main (arguments : List String) : IO UInt32 :=
  try Dialogue.Disk.run arguments
  catch failure => Dialogue.Disk.fail failure.toString
