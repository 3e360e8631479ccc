import Dialogue.Console.Arguments
import Dialogue.Console.Play
import Dialogue.Console.Table
import Dialogue.Sequence.Lint

/-!
# The command line

What each command prints, and whether it succeeds.  A command that fails says
why on the error output and exits with 1; arguments that are not understood
exit with 2.
-/

namespace Dialogue.Console

open Dialogue.Flow

/-- What a command leaves behind. -/
structure Report where
  exitCode : Nat
  output : String
  errors : String
  files : Files

/-! ## Loading -/

/-- A sequence of a folder that can be used. -/
def loadUsable (files : Files) (folder : Path) (id : String) :
    Except String Sequence :=
  match Source.folder folder files id with
  | .error error => .error ("cannot load '" ++ id ++ "': " ++ error.message)
  | .ok sequence =>
      match sequence.validate with
      | .error error => .error error.message
      | .ok _ => .ok sequence

/-- The configuration in a file, or the usual one without a file. -/
def loadConfig (files : Files) (path : Option Path) : Except String Config :=
  match path with
  | none => .ok {}
  | some path =>
      match files.read path with
      | .error error => .error ("cannot read " ++ path.text ++ ": " ++ error.fault.message)
      | .ok text =>
          match Decoder.decodeText Config.decode text with
          | .error fault => .error ("invalid config " ++ path.text ++ ": " ++ fault.message)
          | .ok config => .ok config

/-! ## Checking -/

/-- What stands in a table for nothing. -/
def dash : String := "—"

/-- A sequence that was checked, under the id of its file. -/
abbrev Checked : Type :=
  String × Except String Sequence

/-- The row of a checked sequence. -/
def checkRow : Checked → List String
  | (id, .error _) => [id, dash, dash, "error"]
  | (_, .ok sequence) =>
      [sequence.id, sequence.name, toString sequence.messages.length,
        toString sequence.lint.length]

/-- The warnings of a checked sequence. -/
def checkWarnings : Checked → List String
  | (_, .error _) => []
  | (id, .ok sequence) =>
      sequence.lint.map fun issue => "  warning " ++ id ++ ": " ++ issue.text ++ "\n"

/-- The failure of a checked sequence, if it could not be loaded. -/
def checkFailures : Checked → List String
  | (_, .error failure) => ["  error " ++ failure ++ "\n"]
  | (_, .ok _) => []

/-- The report of a command that succeeds. -/
def succeed (files : Files) (output : String) : Report :=
  { exitCode := 0, output, errors := "", files }

/-- The report of a command that fails. -/
def fail (files : Files) (output error : String) : Report :=
  { exitCode := 1, output, errors := "error: " ++ error ++ "\n", files }

/-- Check every sequence of a folder. -/
def runCheck (files : Files) (folder : Path) : Report :=
  match Source.idsIn files folder with
  | .error error => fail files "" error.message
  | .ok [] => succeed files ("  No sequences found in " ++ folder.text ++ ".\n")
  | .ok ids =>
      let checked := ids.map fun id => (id, loadUsable files folder id)
      let table : Table :=
        { header := ["Sequence", "Name", "Messages", "Issues"]
          rows := checked.map checkRow }
      let warnings := checked.flatMap checkWarnings
      let failures := checked.flatMap checkFailures
      let output := table.text ++ "\n" ++ String.join warnings ++ String.join failures
      let count := toString ids.length
      if failures.isEmpty then
        succeed files (output ++ "  ok " ++ count ++ " sequences, " ++
          toString warnings.length ++ " warnings\n")
      else
        fail files output
          (toString failures.length ++ " of " ++ count ++ " sequences failed to load")

/-! ## Walking -/

/-- A text on one line, cut to a width; a dash stands for an empty one. -/
def preview (limit : Nat) (text : String) : String :=
  let flat := text.toList.map fun c => if c = '\n' then ' ' else c
  if flat.length > limit then String.ofList (flat.take (limit - 3)) ++ "..."
  else if flat.isEmpty then dash
  else String.ofList flat

/-- The row of a visited message. -/
def walkRow (message : Message) : List String :=
  [toString message.id.toNat, message.kind.name, preview 60 message.text]

/-- Where a walk stopped. -/
def stopText (stop : Stop) : String :=
  let place :=
    match stop.message? with
    | some id => " at " ++ toString id.toNat
    | none => ""
  let target :=
    match stop.target? with
    | some target => " -> sequence '" ++ target ++ "'"
    | none => ""
  "  Stopped: " ++ stop.name ++ place ++ target ++ "\n"

/-- Show the walk of a sequence. -/
def runWalk (files : Files) (folder : Path) (id : String)
    (start : Option MessageId) : Report :=
  match loadUsable files folder id with
  | .error failure => fail files "" failure
  | .ok sequence =>
      match start.or sequence.first? with
      | none => fail files "" ("sequence '" ++ id ++ "' has no messages")
      | some start =>
          let usual : Config := {}
          let walk := walkFrom sequence.message? usual.maxWalkDepth start
          let table : Table :=
            { header := ["Id", "Type", "Text"], rows := walk.messages.map walkRow }
          succeed files (table.text ++ "\n\n" ++ stopText walk.stop)

/-! ## Playing -/

/-- The state that a play begins with. -/
def openState (files : Files) (path : Option Path) : Except String State :=
  match path with
  | none => .ok (.inMemory .empty files)
  | some path => (State.openFile files path).mapError (·.message)

/-- The lines that a play draws on. -/
def openLibrary (path : Option Path) : Content.Library :=
  match path with
  | none => .memory .empty
  | some path => .folder path

/-- The session that a play begins with. -/
def openSession (files : Files) (today : Date) (folder : Path)
    (content state config : Option Path) : Except String Session :=
  match loadConfig files config with
  | .error failure => .error failure
  | .ok config =>
      match openState files state with
      | .error failure => .error failure
      | .ok state =>
          .ok { engine := .new config today (.folder folder) (openLibrary content) state }

/-- The text of events on the screen. -/
def screen (events : List Event) : String :=
  String.join (events.map Event.text)

/-- Play a sequence on lines. -/
def runPlay (files : Files) (today : Date) (folder : Path) (sequence : String)
    (content state config : Option Path) (lines : List String) : Report :=
  match openSession files today folder content state config with
  | .error failure => fail files "" failure
  | .ok session =>
      match startPlay session sequence with
      | (.error error, session) => fail session.engine.state.files "" error.message
      | (.ok opening, session) =>
          let (events, session) := playLines session lines
          succeed session.engine.state.files (screen (opening ++ events))

/-! ## The program -/

/-- A path as it was written. -/
def pathOf (written : String) : Path :=
  { written }

/-- Run a command. -/
def Command.run (command : Command) (files : Files) (today : Date)
    (lines : List String) : Report :=
  match command with
  | .check folder => runCheck files (pathOf folder)
  | .walk sequence start folder => runWalk files (pathOf folder) sequence start
  | .play sequence folder content state config =>
      runPlay files today (pathOf folder) sequence (content.map pathOf)
        (state.map pathOf) (config.map pathOf) lines

/-- The name of the program. -/
def programName : String := "chatflow"

/-- How the program is used. -/
def usage : String :=
  "Run and inspect scripted conversation flows\n\n" ++
    "Usage: " ++ programName ++ " [OPTIONS] <COMMAND>\n\n" ++
    "Commands:\n" ++
    "  check [-d <DIR>]                        Report the problems of all sequences\n" ++
    "  walk <SEQUENCE> [-f <FROM>] [-d <DIR>]  Print the raw walk of a sequence\n" ++
    "  play <SEQUENCE> [-d <DIR>] [-c <CONTENT>] [-s <STATE>] [--config <CONFIG>]\n" ++
    "                                          Play a sequence interactively\n"

/-- What is said about the version of the program or a command. -/
def versionText (command : Option String) : String :=
  let name :=
    match command with
    | some command => programName ++ "-" ++ command
    | none => programName
  name ++ " 0.1.0\n"

/-- Run the program. -/
def runProgram (files : Files) (today : Date) (arguments lines : List String) :
    Report :=
  match request? arguments with
  | none => { exitCode := 2, output := "", errors := usage, files }
  | some .help => succeed files usage
  | some (.version command) => succeed files (versionText command)
  | some (.run command) => command.run files today lines

end Dialogue.Console
