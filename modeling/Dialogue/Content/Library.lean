import Dialogue.Content.Key
import Dialogue.Storage.Files

/-!
# Authored lines

A library holds the variants of each key, given the files as they are.  A
variant that is blank cannot be used.  One kind of library keeps its variants
in memory; the other reads the variants of `a.b.c` from the file `a/b/c.json`
of a folder, which holds a list of texts or a record with such a list.
-/

namespace Dialogue.Content

/-- The usable variants of a key. -/
abbrev Library : Type :=
  Files → String → List String

/-- The variants that are not blank. -/
def usable (variants : List String) : List String :=
  variants.filter fun variant => !Text.isBlankText variant

namespace Library

/-- Variants in memory, under their keys. -/
def memory (variants : Dictionary (List String)) : Library :=
  fun _ key => usable ((variants.get? key).getD [])

/-- Whether a part of a key can name a file or folder. -/
def namesFile (part : String) : Bool :=
  !part.isEmpty && !part.toList.contains '/' && !part.toList.contains '\\'

/-- A list of names whose last one gets the ending of content files. -/
def withEnding : List String → List String
  | [] => []
  | [last] => [last ++ ".json"]
  | name :: rest => name :: withEnding rest

/-- The names that lead to the file of a key, if its parts can be names. -/
def fileNames? (key : String) : Option (List String) :=
  let parts := Text.piecesAt '.' key
  if parts.all namesFile then some (withEnding parts) else none

/-- The file of a key below a folder. -/
def pathOf? (root : Path) (key : String) : Option Path :=
  (fileNames? key).map fun names => { root with below := root.below ++ names }

/-- The texts of a list that holds nothing else. -/
def texts? : List Draft → Option (List String)
  | [] => some []
  | .text s :: rest => (texts? rest).map (s :: ·)
  | _ => none

/-- The content of the only field with a name. -/
def onlyField? (name : String) (fields : List (Draft × Draft)) : Option Draft :=
  match fields.filter fun | (.text key, _) => key == name | _ => false with
  | [(_, content)] => some content
  | _ => none

/-- The variants that a content file holds: a list of texts, or a record with
such a list. -/
def variantsOfDraft? : Draft → Option (List String)
  | .list items _ => texts? items
  | .record fields _ =>
      match onlyField? "variants" fields with
      | some (.list items _) => texts? items
      | _ => none
  | _ => none

/-- Take the variants out of a content file; it must be free of faults as a
whole. -/
def decodeVariants : Decoder (List String) :=
  fun room draft =>
    match draft.fault? room with
    | some fault => .error fault
    | none =>
        match variantsOfDraft? draft with
        | some variants => .ok variants
        | none => .error .mismatched

/-- Variants in the files of a folder.  A file that cannot be read or holds
something else has none. -/
def folder (root : Path) : Library :=
  fun files key =>
    match pathOf? root key with
    | none => []
    | some path =>
        match files.read path with
        | .error _ => []
        | .ok text =>
            match Decoder.decodeText decodeVariants text with
            | .error _ => []
            | .ok variants => usable variants

end Library

end Dialogue.Content
