import Dialogue.Message.Basic
import Dialogue.Text.Numeral

/-!
# Arguments of the command line

The command line takes one of three commands with options of their own.  An
option has a long name, and some have a letter; its value follows it, or
stands behind an equals sign or directly behind the letter.  Letters without
values can be joined.  Options may stand anywhere behind their command, each
at most once, and what follows two hyphens is no option.

Arguments are read from left to right.  The first one that is not understood
ends the reading, and so does an option that asks for information; so one that
is asked for behind a mistake is not given.
-/

namespace Dialogue.Console

/-- What the command line is asked to do. -/
inductive Command where
  /-- Report the problems of all sequences of a folder. -/
  | check (folder : String)
  /-- Show the walk of a sequence. -/
  | walk (sequence : String) (start : Option MessageId) (folder : String)
  /-- Play a sequence. -/
  | play (sequence folder : String) (content state config : Option String)
deriving DecidableEq, Repr

/-- What arguments are understood as. -/
inductive Request where
  | run (command : Command)
  /-- Explain the use of the program. -/
  | help
  /-- Name the program, or one of its commands, and its version. -/
  | version (command : Option String)
deriving DecidableEq, Repr

/-! ## Options -/

/-- The number of a message that a text stands for. -/
def messageNumber? (text : String) : Option MessageId :=
  match Text.integer? text.toList with
  | some n =>
      if 0 ≤ n && n < UInt32.size then some (UInt32.ofNat n.toNat) else none
  | none => none

/-- What an option takes as its value. -/
inductive Taking where
  | nothing
  /-- The path of a file or folder, which is not empty. -/
  | path
  /-- The number of a message. -/
  | number
deriving DecidableEq, Repr

/-- Whether a text can be the value of an option. -/
def Taking.accepts (taking : Taking) (text : String) : Bool :=
  match taking with
  | .nothing => false
  | .path => !text.isEmpty
  | .number => (messageNumber? text).isSome

/-- An option: its name, its letter, and what it takes as its value. -/
structure Flag where
  name : String
  letter : Option Char
  taking : Taking

namespace Flag

/-- Whether an option takes a value. -/
def takesValue (flag : Flag) : Bool :=
  flag.taking != .nothing

/-- The options that every command has. -/
def general : List Flag :=
  [⟨"verbose", some 'v', .nothing⟩, ⟨"help", some 'h', .nothing⟩,
    ⟨"version", some 'V', .nothing⟩]

/-- The option of a folder of sequences. -/
def folder : Flag :=
  ⟨"dir", some 'd', .path⟩

/-- The options of a command, by its name. -/
def ofCommand : String → List Flag
  | "walk" => general ++ [⟨"from", some 'f', .number⟩, folder]
  | "play" =>
      general ++ [folder, ⟨"content", some 'c', .path⟩, ⟨"state", some 's', .path⟩,
        ⟨"config", none, .path⟩]
  | _ => general ++ [folder]

end Flag

/-- How many arguments that are no options a command takes. -/
def operandsOf : String → Nat
  | "check" => 0
  | _ => 1

/-! ## Scanning -/

/-- Options with their values, and arguments that are no options. -/
structure Scan where
  options : List (String × String) := []
  operands : List String := []
  /-- An option that asks for information and ends the scan. -/
  asked : Option String := none

namespace Scan

/-- Add an option, unless it is there already. -/
def add? (scan : Scan) (name value : String) : Option Scan :=
  if (scan.options.lookup name).isSome then none
  else some { scan with options := scan.options ++ [(name, value)] }

/-- Add an argument that is no option, unless `limit` of them are there. -/
def addOperand? (scan : Scan) (limit : Nat) (operand : String) : Option Scan :=
  if scan.operands.length < limit then
    some { scan with operands := scan.operands ++ [operand] }
  else
    none

/-- Add arguments that are no options. -/
def addOperands? (scan : Scan) (limit : Nat) : List String → Option Scan
  | [] => some scan
  | operand :: rest =>
      (scan.addOperand? limit operand).bind fun scan => addOperands? scan limit rest

/-- The value of an option. -/
def value? (scan : Scan) (name : String) : Option String :=
  scan.options.lookup name

end Scan

/-- Whether an argument begins another option. -/
def beginsOption (argument : String) : Bool :=
  argument.startsWith "-" && argument != "-"

/-- The outcome of reading one argument that begins an option. -/
inductive FlagOutcome where
  | scanned (scan : Scan)
  /-- The value of the option is the argument that follows. -/
  | valueFollows (flag : Flag) (scan : Scan)
  | informationAsked (name : String)
  | invalid

/-- Read an option without a value. -/
def plainFlag (scan : Scan) (flag : Flag) : FlagOutcome :=
  if flag.name = "help" || flag.name = "version" then
    .informationAsked flag.name
  else
    match scan.add? flag.name "" with
    | some scan => .scanned scan
    | none => .invalid

/-- Add an option with its value, if it accepts that. -/
def Scan.addValued? (scan : Scan) (flag : Flag) (value : String) : Option Scan :=
  if flag.taking.accepts value then scan.add? flag.name value else none

/-- Read an option with its value. -/
def valuedFlag (scan : Scan) (flag : Flag) (value : String) : FlagOutcome :=
  match scan.addValued? flag value with
  | some scan => .scanned scan
  | none => .invalid

/-- Read an option by its name, with a value if one stands behind an equals
sign. -/
def longFlag (flags : List Flag) (scan : Scan) (cs : List Char) : FlagOutcome :=
  let name := String.ofList (cs.takeWhile (· != '='))
  match flags.find? (fun flag => flag.name == name), cs.dropWhile (· != '=') with
  | none, _ => .invalid
  | some flag, [] =>
      if flag.takesValue then .valueFollows flag scan else plainFlag scan flag
  | some flag, _ :: value =>
      if flag.takesValue then valuedFlag scan flag (String.ofList value) else .invalid

/-- Read options by their letters. -/
def shortFlags (flags : List Flag) (scan : Scan) : List Char → FlagOutcome
  | [] => .scanned scan
  | letter :: rest =>
      match flags.find? fun flag => flag.letter == some letter with
      | none => .invalid
      | some flag =>
          if flag.takesValue then
            match rest with
            | [] => .valueFollows flag scan
            | '=' :: value => valuedFlag scan flag (String.ofList value)
            | value => valuedFlag scan flag (String.ofList value)
          else
            match plainFlag scan flag with
            | .scanned scan => shortFlags flags scan rest
            | outcome => outcome

/-- Read an argument that begins an option. -/
def readFlag (flags : List Flag) (scan : Scan) (argument : String) : FlagOutcome :=
  match argument.toList with
  | '-' :: '-' :: cs => longFlag flags scan cs
  | _ :: cs => shortFlags flags scan cs
  | [] => .invalid

/-- Read all arguments of a command, which takes up to `limit` arguments that
are no options. -/
def scanArguments (flags : List Flag) (limit : Nat) (scan : Scan) :
    List String → Option Scan
  | [] => some scan
  | argument :: rest =>
      if argument = "--" then
        scan.addOperands? limit rest
      else if beginsOption argument then
        match readFlag flags scan argument, rest with
        | .scanned scan, rest => scanArguments flags limit scan rest
        | .informationAsked name, _ => some { scan with asked := some name }
        | .valueFollows flag scan, value :: rest =>
            if beginsOption value then none
            else
              match scan.addValued? flag value with
              | some scan => scanArguments flags limit scan rest
              | none => none
        | .valueFollows _ _, [] => none
        | .invalid, _ => none
      else
        match scan.addOperand? limit argument with
        | some scan => scanArguments flags limit scan rest
        | none => none

/-! ## Commands -/

/-- The command that scanned arguments stand for, unless one is missing. -/
def commandOf? (name : String) (scan : Scan) : Option Command :=
  let folder := (scan.value? "dir").getD "."
  match name, scan.operands with
  | "check", [] => some (.check folder)
  | "walk", [sequence] =>
      some (.walk sequence ((scan.value? "from").bind messageNumber?) folder)
  | "play", [sequence] =>
      some (.play sequence folder (scan.value? "content") (scan.value? "state")
        (scan.value? "config"))
  | _, _ => none

/-- The names of the commands. -/
def commandNames : List String :=
  ["check", "walk", "play"]

/-- What an option that asks for information is answered with. -/
def information (option : String) (command : Option String) : Request :=
  if option = "version" then .version command else .help

/-- What the arguments of a command are understood as. -/
def commandRequest? (name : String) (arguments : List String) : Option Request :=
  match scanArguments (Flag.ofCommand name) (operandsOf name) {} arguments with
  | none => none
  | some scan =>
      match scan.asked with
      | some option => some (information option (some name))
      | none => (commandOf? name scan).map .run

/-- What arguments are understood as, given the options read so far. -/
def requestFrom? (scan : Scan) : List String → Option Request
  | [] => none
  | argument :: rest =>
      if beginsOption argument then
        match readFlag Flag.general scan argument with
        | .scanned scan => requestFrom? scan rest
        | .informationAsked name => some (information name none)
        | _ => none
      else if commandNames.contains argument then
        commandRequest? argument rest
      else if argument = "help" then
        match rest with
        | [] => some .help
        | [name] => if commandNames.contains name || name = "help" then some .help else none
        | _ => none
      else
        none

/-- What arguments are understood as. -/
def request? (arguments : List String) : Option Request :=
  requestFrom? {} arguments

end Dialogue.Console
