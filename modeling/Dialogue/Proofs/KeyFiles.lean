import Dialogue.Content.Library
import Dialogue.Proofs.Json.Records
import Dialogue.Proofs.PlacedFiles

/-!
# The files of content keys

The points of a key part its segments, so no segment holds one, and the ending of content
files does.  A file of one key can therefore be no folder on the way to the file of another
key, and neither a segment nor a file name can mean a folder itself or the one above it.  So
every key leads to a file of its own below the root, and the variants of any keys can be
written to their files one after another.
-/

namespace Dialogue.Content.Library

/-! ## Segments -/

/-- The segments of a key hold no points, and joined by points they are the key. -/
structure Segments (key : String) (segments : List String) : Prop where
  nonempty : segments ≠ []
  plain : ∀ segment ∈ segments, '.' ∉ segment.toList
  joined : String.intercalate "." segments = key

/-- Every key has segments, and only these. -/
theorem segments_iff {key : String} {segments : List String} :
    Segments key segments ↔ segments = Text.piecesAt '.' key := by
  constructor
  · rintro ⟨nonempty, plain, rfl⟩
    exact (Text.piecesAt_intercalate nonempty plain).symm
  · rintro rfl
    exact ⟨Text.piecesAt_ne_nil '.' key, fun _ member => Text.not_mem_of_mem_piecesAt member,
      Text.intercalate_piecesAt '.' key⟩

/-- A segment is not empty and holds neither a slash nor a backslash. -/
structure CanName (segment : String) : Prop where
  nonempty : segment ≠ ""
  noSlash : '/' ∉ segment.toList
  noBackslash : '\\' ∉ segment.toList

theorem namesFile_iff (segment : String) : namesFile segment = true ↔ CanName segment := by
  constructor
  · intro names
    simp only [namesFile, Bool.and_eq_true, Bool.not_eq_true', String.isEmpty_eq_false_iff,
      List.contains_eq_mem, decide_eq_false_iff_not] at names
    exact ⟨names.1.1, names.1.2, names.2⟩
  · rintro ⟨nonempty, noSlash, noBackslash⟩
    simp [namesFile, String.isEmpty_eq_false_iff.mpr nonempty, noSlash, noBackslash]

/-- The segments of a key can all be names: those of folders, and the last one, with the
ending of content files, that of the file. -/
structure Shelved (key : String) (folders : List String) (last : String) : Prop where
  segments : Segments key (folders ++ [last])
  canName : ∀ segment ∈ folders ++ [last], CanName segment

/-- The names that lead to the file of a key. -/
def shelf (folders : List String) (last : String) : List String :=
  folders ++ [last ++ ".json"]

theorem withEnding_append (folders : List String) (last : String) :
    withEnding (folders ++ [last]) = shelf folders last := by
  induction folders with
  | nil => rfl
  | cons folder rest ih =>
      rw [List.cons_append, withEnding, ih]
      · rfl
      · simp

theorem fileNames?_eq_some_iff {key : String} {names : List String} :
    fileNames? key = some names ↔
      ∃ folders last, Shelved key folders last ∧ names = shelf folders last := by
  have all : (Text.piecesAt '.' key).all namesFile = true ↔
      ∀ segment ∈ Text.piecesAt '.' key, CanName segment := by
    simp only [List.all_eq_true, namesFile_iff]
  constructor
  · intro found
    simp only [fileNames?, Option.ite_none_right_eq_some, Option.some.injEq, all] at found
    obtain ⟨canName, rfl⟩ := found
    obtain ⟨folders, last, split⟩ :=
      (List.eq_nil_or_concat _).resolve_left (Text.piecesAt_ne_nil '.' key)
    rw [List.concat_eq_append] at split
    rw [split] at canName
    exact ⟨folders, last, ⟨segments_iff.mpr split.symm, canName⟩,
      by rw [split, withEnding_append]⟩
  · rintro ⟨folders, last, ⟨segments, canName⟩, rfl⟩
    have split := segments_iff.mp segments
    have named := all.mpr (split ▸ canName)
    rw [← split] at named
    rw [fileNames?]
    simp only [← split, named, if_true, withEnding_append]

theorem pathOf?_eq_some_iff {root path : Path} {key : String} :
    pathOf? root key = some path ↔
      ∃ folders last, Shelved key folders last ∧ path = root.further (shelf folders last) := by
  rw [pathOf?, Option.map_eq_some_iff]
  constructor
  · rintro ⟨names, found, rfl⟩
    obtain ⟨folders, last, shelved, rfl⟩ := fileNames?_eq_some_iff.mp found
    exact ⟨folders, last, shelved, rfl⟩
  · rintro ⟨folders, last, shelved, rfl⟩
    exact ⟨_, fileNames?_eq_some_iff.mpr ⟨folders, last, shelved, rfl⟩, rfl⟩

/-! ## Files apart -/

section Apart

variable {key other : String} {folders otherFolders : List String} {last otherLast : String}

theorem toList_file (last : String) :
    (last ++ ".json").toList = last.toList ++ ['.', 'j', 's', 'o', 'n'] := by
  rw [String.toList_append]
  rfl

theorem Shelved.isName (shelved : Shelved key folders last) :
    ∀ name ∈ shelf folders last, Path.IsName name := by
  have isName : ∀ segment ∈ folders ++ [last], Path.IsName segment := fun segment member =>
    ⟨(shelved.canName segment member).nonempty, (shelved.canName segment member).noSlash⟩
  intro name member
  rcases List.mem_append.mp member with folder | file
  · exact isName name (List.mem_append_left _ folder)
  · rw [List.mem_singleton.mp file]
    exact (isName last (by simp)).json

theorem Shelved.leadDown (shelved : Shelved key folders last) :
    Files.LeadDown (shelf folders last) := by
  intro name member
  rcases List.mem_append.mp member with folder | file
  · -- A segment holds no point.
    have plain := shelved.segments.plain name (List.mem_append_left _ folder)
    constructor
    · rintro rfl
      exact plain (by decide)
    · rintro rfl
      exact plain (by decide)
  · rw [List.mem_singleton.mp file]
    exact Path.json_down last

/-- What leads to the file of a key leads neither to nor through the file of another key. -/
theorem Shelved.eq_of_prefix (shelved : Shelved key folders last)
    (others : Shelved other otherFolders otherLast)
    (leads : shelf folders last <+: shelf otherFolders otherLast) : key = other := by
  rcases List.prefix_concat_iff.mp leads with same | through
  · obtain ⟨rfl, ending⟩ := List.append_inj' same rfl
    have names : last = otherLast := by
      have characters := congrArg String.toList (List.singleton_inj.mp ending)
      rw [toList_file, toList_file] at characters
      exact String.toList_inj.mp (List.append_inj_left' characters rfl)
    rw [← shelved.segments.joined, ← others.segments.joined, names]
  · -- The file would be a folder, whose name is a segment.
    have folder : last ++ ".json" ∈ otherFolders := through.subset (by simp [shelf])
    have plain := others.segments.plain _ (List.mem_append_left _ folder)
    rw [toList_file] at plain
    simp at plain

end Apart

/-! ## Variants side by side -/

/-- The text of a content file with some variants. -/
def variantsText (variants : List String) : String :=
  (Json.list (variants.map .text)).toText

theorem texts?_itemDrafts (variants : List String) :
    texts? (Json.itemDrafts (variants.map .text)) = some variants := by
  induction variants with
  | nil => rfl
  | cons variant rest ih =>
      rw [List.map_cons, Json.itemDrafts, Json.draft, texts?, ih, Option.map_some]

theorem itemsFault?_itemDrafts (room : Nat) (variants : List String) :
    Draft.itemsFault? room (Json.itemDrafts (variants.map .text)) = none := by
  induction variants with
  | nil => rfl
  | cons variant rest ih =>
      have first : Draft.fault? room (.text variant) = none := by simp [Draft.fault?]
      rw [List.map_cons, Json.itemDrafts, Json.draft, Draft.itemsFault?, first, ih, Option.none_or]

/-- The variants are taken out of the text again. -/
theorem decodeText_variantsText (variants : List String) :
    Decoder.decodeText decodeVariants (variantsText variants) = .ok variants := by
  apply Decoder.Takes.decodeText_toText
  constructor
  · rw [Json.readable, Json.readableItems_iff]
    intro item member
    obtain ⟨variant, -, rfl⟩ := List.mem_map.mp member
    rfl
  · have sound : Draft.fault? Json.maxDepth (.list (Json.itemDrafts (variants.map .text)) none) =
        none := by
      rw [Json.maxDepth, Draft.fault?, itemsFault?_itemDrafts, Option.none_or]
    rw [decodeVariants, Json.draft, sound]
    simp only [variantsOfDraft?, texts?_itemDrafts]

/-- Write the variants of a key to its file below a folder, if it has one. -/
def putOnShelf (base : List String) (variants : String → List String) (files : Files)
    (key : String) : Files :=
  match fileNames? key with
  | none => files
  | some names => files.place (base ++ names) (.file (variantsText (variants key)).toUTF8)

/-- Write the variants of some keys, one after another. -/
def stock (base : List String) (variants : String → List String) (files : Files)
    (keys : List String) : Files :=
  keys.foldl (putOnShelf base variants) files

section Shelves

variable {key : String} {folders : List String} {last : String}

theorem Shelved.putOnShelf_eq (shelved : Shelved key folders last) (base : List String)
    (variants : String → List String) (files : Files) :
    putOnShelf base variants files key =
      files.place (base ++ shelf folders last) (.file (variantsText (variants key)).toUTF8) := by
  rw [putOnShelf, fileNames?_eq_some_iff.mpr ⟨folders, last, shelved, rfl⟩]

/-- What is written for another key leaves the file of a key as it is. -/
theorem Shelved.holds_putOnShelf (shelved : Shelved key folders last) {base : List String}
    {files : Files} {bytes : ByteArray} (holds : files.Holds (base ++ shelf folders last) bytes)
    (variants : String → List String) {other : String} (different : key ≠ other) :
    (putOnShelf base variants files other).Holds (base ++ shelf folders last) bytes := by
  cases found : fileNames? other with
  | none =>
      rw [putOnShelf, found]
      exact holds
  | some names =>
      obtain ⟨otherFolders, otherLast, others, rfl⟩ := fileNames?_eq_some_iff.mp found
      rw [others.putOnShelf_eq]
      apply holds.of_place
      · intro through
        rw [List.prefix_append_right_inj] at through
        exact different (shelved.eq_of_prefix others through)
      · intro through
        rw [List.prefix_append_right_inj] at through
        exact different (others.eq_of_prefix shelved through).symm

/-- When the variants of some keys have been written, the file of each of them holds its own. -/
theorem Shelved.holds_stock (shelved : Shelved key folders last) (base : List String)
    (variants : String → List String) (files : Files) {keys : List String}
    (member : key ∈ keys) :
    (stock base variants files keys).Holds (base ++ shelf folders last)
      (variantsText (variants key)).toUTF8 := by
  induction keys using List.reverseRecOn with
  | nil => cases member
  | append_singleton keys other ih =>
      rw [stock, List.foldl_append, List.foldl_cons, List.foldl_nil]
      by_cases same : key = other
      · subst same
        rw [shelved.putOnShelf_eq]
        exact Files.holds_place _ (by simp [shelf]) _
      · apply shelved.holds_putOnShelf _ variants same
        exact ih (by simpa [same] using member)

end Shelves

/-- Content keys lead to files of their own.

Every key has its segments, and it leads to a file exactly if all of them can be names.  The
path of the file is the root with one name for each segment behind it; none of these means a
folder itself or the one above it, so that the file is below whatever the root leads to.  The
path of one key is neither the path of another one nor that of a folder on its way.  So the
variants of any keys can be written side by side, and for each key its own ones are read. -/
theorem keys_have_own_files (root : Path) :
    (∀ key, ∃! segments, Segments key segments) ∧
      (∀ key path, pathOf? root key = some path ↔
        ∃ folders last, Shelved key folders last ∧ path = root.further (shelf folders last)) ∧
      (∀ key folders last, Shelved key folders last →
        let path := root.further (shelf folders last)
        (∀ name ∈ shelf folders last, name ≠ "." ∧ name ≠ "..") ∧
          root.text.toList <+: path.text.toList ∧
          Path.namesOf path.text = Path.namesOf root.text ++ shelf folders last ∧
          ∀ (files : Files) place, files.placeOf path = .ok place →
            ∃ base, files.follow (files.start root) root.names = .ok base ∧
              place = base ++ shelf folders last) ∧
      (∀ first firstPath second secondPath,
        pathOf? root first = some firstPath → pathOf? root second = some secondPath →
          Path.namesOf firstPath.text <+: Path.namesOf secondPath.text → first = second) ∧
      ∀ (files : Files) base variants (keys : List String),
        let stocked := stock base variants files keys
        stocked.follow (stocked.start root) root.names = .ok base →
          ∀ key ∈ keys, ∀ path, pathOf? root key = some path → path.Allowed →
            folder root stocked key = usable (variants key) := by
  have names {key : String} {folders : List String} {last : String}
      (shelved : Shelved key folders last) :
      Path.namesOf (root.further (shelf folders last)).text =
        Path.namesOf root.text ++ shelf folders last := by
    rw [Path.text_further]
    exact Path.namesOf_foldl_joinText shelved.isName root.text
  refine ⟨?_, fun key path => pathOf?_eq_some_iff, ?_, ?_, ?_⟩
  · intro key
    exact ⟨_, segments_iff.mpr rfl, fun segments is => segments_iff.mp is⟩
  · intro key folders last shelved path
    refine ⟨shelved.leadDown, ?_, names shelved, ?_⟩
    · rw [Path.text_further]
      exact Path.prefix_foldl_joinText _ _
    · intro files place leads
      exact Files.exists_of_placeOf_further shelved.leadDown leads
  · intro first firstPath second secondPath firstFound secondFound through
    obtain ⟨folders, last, shelved, rfl⟩ := pathOf?_eq_some_iff.mp firstFound
    obtain ⟨otherFolders, otherLast, others, rfl⟩ := pathOf?_eq_some_iff.mp secondFound
    rw [names shelved, names others, List.prefix_append_right_inj] at through
    exact shelved.eq_of_prefix others through
  · intro files base variants keys stocked leads key member path found allowed
    obtain ⟨folders, last, shelved, rfl⟩ := pathOf?_eq_some_iff.mp found
    have holds : stocked.Holds (base ++ shelf folders last) (variantsText (variants key)).toUTF8 :=
      shelved.holds_stock base variants files member
    have read : stocked.read (root.further (shelf folders last)) =
        .ok (variantsText (variants key)) :=
      holds.read leads shelved.isName shelved.leadDown allowed
    simp only [folder, found, read, decodeText_variantsText]

/-- Greetings for everybody, and for users; the file of the former stands beside the folder of
the latter. -/
def welcome (key : String) : List String :=
  if key = "bot.greet" then ["Hello"] else ["Hi", " "]

theorem keys_have_own_files_welcome :
    let root : Path := { written := "/content" }
    let everybody : Path := { written := "/content", below := ["bot", "greet.json"] }
    let users : Path := { written := "/content", below := ["bot", "greet", "user.json"] }
    let stocked := stock ["content"] welcome {} ["bot.greet", "bot.greet.user"]
    stocked.follow (stocked.start root) root.names = .ok ["content"] ∧
      pathOf? root "bot.greet" = some everybody ∧ pathOf? root "bot.greet.user" = some users ∧
      everybody.Allowed ∧ users.Allowed ∧
      Shelved "bot.greet" ["bot"] "greet" ∧
      stocked.placeOf everybody = .ok ["content", "bot", "greet.json"] ∧
      (∃ base, stocked.follow (stocked.start root) root.names = .ok base ∧
        ["content", "bot", "greet.json"] = base ++ shelf ["bot"] "greet") ∧
      ¬Path.namesOf everybody.text <+: Path.namesOf users.text ∧
      folder root stocked "bot.greet" = ["Hello"] ∧
      folder root stocked "bot.greet.user" = ["Hi"] := by
  intro root everybody users stocked
  obtain ⟨-, leads, below, apart, sideBySide⟩ := keys_have_own_files root
  have names : root.names = ["content"] := by decide +kernel
  have start : stocked.start root = [] := if_pos (by decide +kernel)
  have rooted : stocked.follow (stocked.start root) root.names = .ok ["content"] := by
    rw [names, start]
    rfl
  have shelved : Shelved "bot.greet" ["bot"] "greet" := by
    constructor
    · exact segments_iff.mpr (by decide +kernel)
    · intro segment member
      rw [← namesFile_iff]
      revert segment member
      decide +kernel
  have further : root.further (shelf ["bot"] "greet") = everybody := by decide +kernel
  have toEverybody : pathOf? root "bot.greet" = some everybody :=
    (leads "bot.greet" everybody).mpr ⟨["bot"], "greet", shelved, further.symm⟩
  have toUsers : pathOf? root "bot.greet.user" = some users := by decide +kernel
  have allowedEverybody : everybody.Allowed :=
    ⟨by decide +kernel, by decide +kernel, by decide +kernel⟩
  have allowedUsers : users.Allowed := ⟨by decide +kernel, by decide +kernel, by decide +kernel⟩
  have greetUsable : usable (welcome "bot.greet") = ["Hello"] := by decide +kernel
  have usersUsable : usable (welcome "bot.greet.user") = ["Hi"] := by decide +kernel
  have stands : stocked.Holds (["content"] ++ shelf ["bot"] "greet")
      (variantsText (welcome "bot.greet")).toUTF8 :=
    shelved.holds_stock ["content"] welcome {} (by simp)
  have placed : stocked.placeOf (root.further (shelf ["bot"] "greet")) =
      .ok (["content"] ++ shelf ["bot"] "greet") := by
    apply stands.placeOf rooted (by simp [shelf]) shelved.isName shelved.leadDown
    rw [further]
    exact allowedEverybody
  have place : stocked.placeOf everybody = .ok ["content", "bot", "greet.json"] := further ▸ placed
  obtain ⟨-, -, -, down⟩ := below "bot.greet" ["bot"] "greet" shelved
  have inside := down stocked _ placed
  refine ⟨rooted, toEverybody, toUsers, allowedEverybody, allowedUsers, shelved, place,
    inside, ?_, ?_, ?_⟩
  · intro through
    have same := apart _ _ _ _ toEverybody toUsers through
    exact absurd same (by decide)
  · rw [← greetUsable]
    exact sideBySide {} ["content"] welcome _ rooted _ (by simp) _ toEverybody allowedEverybody
  · rw [← usersUsable]
    exact sideBySide {} ["content"] welcome _ rooted _ (by simp) _ toUsers allowedUsers

end Dialogue.Content.Library
