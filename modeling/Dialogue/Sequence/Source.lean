import Dialogue.Sequence.Document

/-!
# Where sequences come from

A source answers what is known under an id, given the files as they are.  One
kind keeps its sequences in memory; the other reads the file `<id>.json` of a
folder each time it is asked.  Loading does not check whether a sequence can
be used.
-/

namespace Dialogue

/-- What is known under an id. -/
abbrev Source : Type :=
  Files → String → Except SequenceError Sequence

namespace Source

/-- Sequences in memory, under their ids. -/
def memory (sequences : Dictionary Sequence) : Source :=
  fun _ id =>
    match sequences.get? id with
    | some sequence => .ok sequence
    | none => .error (.notFound id)

/-- Sequences in memory; a later one replaces an earlier one with its id. -/
def ofList (sequences : List Sequence) : Source :=
  memory (.ofList (sequences.map fun sequence => (sequence.id, sequence)))

/-- The ending of the names of sequence files. -/
def fileEnding : String :=
  ".json"

/-- Whether an id can name a file of a folder: it is not empty, holds no
slash or backslash and does not start with a point. -/
def namesFile (id : String) : Bool :=
  let cs := id.toList
  !cs.isEmpty && !cs.contains '/' && !cs.contains '\\' && cs.head? != some '.'

/-- Sequences in the files of a folder. -/
def folder (path : Path) : Source :=
  fun files id =>
    let file := path.child (id ++ fileEnding)
    if !namesFile id || !files.isFile file then
      .error (.notFound id)
    else
      match files.read file with
      | .error error => .error (.unreadable error)
      | .ok text =>
          match Decoder.decodeText Sequence.decode text with
          | .error fault => .error (.undecodable fault)
          | .ok sequence => .ok sequence

/-- The id that the name of a sequence file stands for. -/
def idOfFile? (name : String) : Option String :=
  let ending := fileEnding.toList
  let cs := name.toList
  if ending.isSuffixOf cs && cs.length > ending.length then
    some (String.ofList (cs.take (cs.length - ending.length)))
  else
    none

/-- The ids that the names in a folder stand for, in ascending order. -/
def idsIn (files : Files) (path : Path) : Except FileError (List String) :=
  (files.namesIn path).map fun names =>
    (names.filterMap idOfFile?).mergeSort fun a b => !(b < a)

end Source

end Dialogue
