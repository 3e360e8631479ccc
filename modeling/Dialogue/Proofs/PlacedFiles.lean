import Dialogue.Proofs.Text.Pieces
import Dialogue.Proofs.WrittenFiles
import Mathlib.Data.List.Infix

/-!
# Files that are placed in folders

Placing an entry makes the folders in front of it, removes what stands below it, and leaves
everything else.  So files whose places do not lead through each other can be placed one after
another, and all of them are there in the end.  Names other than the two that mean a folder
itself and the one above it lead down from where they are followed, one folder for each name.
-/

namespace Dialogue

/-! ## What is placed -/

namespace Files

theorem entry?_remove (files : Files) {place : List String} (below : place ≠ [])
    (other : List String) :
    Files.entry? (files.remove place) other =
      if place <+: other then none else files.entry? other := by
  cases other with
  | nil =>
      rw [if_neg (by simpa using below)]
      rfl
  | cons name rest =>
      have stands (files : Files) :
          files.entry? (name :: rest) = files.entries.lookup (name :: rest) := rfl
      rw [stands, stands, remove]
      simp only
      induction files.entries with
      | nil => simp
      | cons first entries ih =>
          obtain ⟨names, entry⟩ := first
          by_cases inside : place <+: names
          · have removed : place.isPrefixOf names = true := List.isPrefixOf_iff_prefix.mpr inside
            rw [List.filter_cons_of_neg (by simp [removed]), ih, List.lookup_cons]
            by_cases same : name :: rest = names
            · rw [same, if_pos inside, if_pos inside]
            · rw [beq_eq_false_iff_ne.mpr same]
          · have kept : place.isPrefixOf names = false := by
              rwa [← Bool.not_eq_true, List.isPrefixOf_iff_prefix]
            rw [List.filter_cons_of_pos (by simp [kept]), List.lookup_cons, List.lookup_cons, ih]
            by_cases same : name :: rest = names
            · simp [same, inside]
            · simp [beq_eq_false_iff_ne.mpr same]

/-- Make sure that a folder stands at a place. -/
def withFolder (files : Files) (folder : List String) : Files :=
  match files.entry? folder with
  | some .folder => files
  | _ => files.put folder .folder

theorem entry?_withFolder (files : Files) (folder other : List String) :
    Files.entry? (files.withFolder folder) other =
      if other = folder then some .folder else files.entry? other := by
  rw [withFolder]
  split
  · rename_i stands
    by_cases same : other = folder
    · rw [if_pos same, same, stands]
    · rw [if_neg same]
  · rename_i noFolder
    have below : folder ≠ [] := by
      rintro rfl
      exact noFolder rfl
    exact entry?_put files below .folder other

theorem entry?_foldl_withFolder (folders : List (List String)) (files : Files)
    (other : List String) :
    Files.entry? (folders.foldl withFolder files) other =
      if other ∈ folders then some .folder else files.entry? other := by
  induction folders generalizing files with
  | nil => simp
  | cons folder rest ih =>
      rw [List.foldl_cons, ih, entry?_withFolder]
      by_cases first : other = folder
      · simp [first]
      · simp [first]

theorem entry?_makeFolders (files : Files) (place other : List String) :
    Files.entry? (files.makeFolders place) other =
      if other <+: place ∧ other ≠ place then some .folder else files.entry? other := by
  have made : files.makeFolders place =
      ((List.range place.length).map fun count => place.take count).foldl withFolder files := by
    rw [List.foldl_map]
    rfl
  have inFront : other ∈ ((List.range place.length).map fun count => place.take count) ↔
      other <+: place ∧ other ≠ place := by
    rw [List.mem_map]
    constructor
    · rintro ⟨count, short, rfl⟩
      rw [List.mem_range] at short
      refine ⟨List.take_prefix count place, fun whole => ?_⟩
      have lengths := congrArg List.length whole
      rw [List.length_take] at lengths
      omega
    · rintro ⟨⟨rest, rfl⟩, notWhole⟩
      have more : rest ≠ [] := by
        rintro rfl
        exact notWhole (List.append_nil other).symm
      have longer := List.length_pos_iff.mpr more
      refine ⟨other.length, ?_, List.take_left⟩
      rw [List.mem_range, List.length_append]
      exact Nat.lt_add_of_pos_right longer
  rw [made, entry?_foldl_withFolder]
  simp only [inFront]

/-- What stands at a place after an entry has been placed: the entry itself, the folders in
front of it, nothing below it, and elsewhere what was there. -/
theorem entry?_place (files : Files) {place : List String} (below : place ≠ []) (entry : Entry)
    (other : List String) :
    Files.entry? (files.place place entry) other =
      if other = place then some entry
      else if other <+: place then some .folder
      else if place <+: other then none
      else files.entry? other := by
  rw [Files.place, entry?_put _ below, entry?_makeFolders, entry?_remove files below]
  by_cases same : other = place
  · simp [same]
  · simp [same]

/-- A file with some bytes stands at a place, and folders lead to it. -/
structure Holds (files : Files) (place : List String) (bytes : ByteArray) : Prop where
  file : files.entry? place = some (.file bytes)
  folders : ∀ front, front <+: place → front ≠ place → files.entry? front = some .folder

variable {files : Files} {place : List String} {bytes : ByteArray}

theorem holds_place (files : Files) (below : place ≠ []) (bytes : ByteArray) :
    (files.place place (.file bytes)).Holds place bytes where
  file := by rw [entry?_place files below, if_pos rfl]
  folders := by
    intro front inFront notWhole
    rw [entry?_place files below, if_neg notWhole, if_pos inFront]

/-- A file stays when something is placed elsewhere, neither below it nor where its folders
lead through. -/
theorem Holds.of_place (holds : files.Holds place bytes) {other : List String}
    (notThrough : ¬place <+: other) (notBelow : ¬other <+: place) (entry : Entry) :
    (files.place other entry).Holds place bytes := by
  have below : other ≠ [] := by
    rintro rfl
    exact notBelow List.nil_prefix
  constructor
  · have different : place ≠ other := by
      rintro rfl
      exact notBelow (List.prefix_refl place)
    rw [entry?_place files below, if_neg different, if_neg notThrough, if_neg notBelow]
    exact holds.file
  · intro front inFront notWhole
    have different : front ≠ other := by
      rintro rfl
      exact notBelow inFront
    have outside : ¬other <+: front := fun inside => notBelow (inside.trans inFront)
    rw [entry?_place files below, if_neg different]
    by_cases leads : front <+: other
    · rw [if_pos leads]
    · rw [if_neg leads, if_neg outside]
      exact holds.folders front inFront notWhole

/-! ## Following names -/

theorem follow_append_eq_ok_iff {start : List String} {first second : List String} :
    files.follow start (first ++ second) = .ok place ↔
      ∃ middle, files.follow start first = .ok middle ∧
        files.follow middle second = .ok place := by
  induction first generalizing start with
  | nil => simp [follow]
  | cons name rest ih =>
      rw [List.cons_append, follow, follow]
      split
      · simp
      · simp
      · split
        · simp
        · split
          · exact ih
          · split
            · exact ih
            · exact ih

/-- Names that mean neither a folder itself nor the one above it. -/
def LeadDown (names : List String) : Prop :=
  ∀ name ∈ names, name ≠ "." ∧ name ≠ ".."

theorem eq_append_of_follow {base names : List String} (down : LeadDown names)
    (follows : files.follow base names = .ok place) : place = base ++ names := by
  induction names generalizing base with
  | nil =>
      rw [List.append_nil]
      exact (Except.ok.inj follows).symm
  | cons name rest ih =>
      obtain ⟨⟨notHere, notUp⟩, others⟩ := List.forall_mem_cons.mp down
      rw [follow] at follows
      split at follows
      · cases follows
      · cases follows
      · split at follows
        · cases follows
        · rw [ih others follows, List.append_assoc, List.singleton_append]

theorem Holds.follow {base names : List String} (holds : files.Holds (base ++ names) bytes)
    (down : LeadDown names) (short : ∀ name ∈ names, name.utf8ByteSize ≤ nameLimit) :
    files.follow base names = .ok (base ++ names) := by
  induction names generalizing base with
  | nil => rw [Files.follow, List.append_nil]
  | cons name rest ih =>
      obtain ⟨⟨notHere, notUp⟩, othersDown⟩ := List.forall_mem_cons.mp down
      obtain ⟨notLong, othersShort⟩ := List.forall_mem_cons.mp short
      have regrouped : base ++ name :: rest = (base ++ [name]) ++ rest := by simp
      have isFolder : files.entry? base = some .folder :=
        holds.folders base (List.prefix_append _ _) (by simp)
      rw [Files.follow, isFolder]
      simp only [if_neg (Nat.not_lt.mpr notLong), if_neg notHere, if_neg notUp]
      rw [regrouped] at holds ⊢
      exact ih holds othersDown othersShort

end Files

/-! ## Paths as texts -/

namespace Path

/-- A path some names further down. -/
def further (path : Path) (names : List String) : Path :=
  { path with below := path.below ++ names }

theorem text_further (path : Path) (names : List String) :
    (path.further names).text = names.foldl joinText path.text :=
  List.foldl_append

theorem names_further (path : Path) (names : List String) :
    (path.further names).names = path.names ++ names :=
  (List.append_assoc _ _ _).symm

theorem endsWith_slash_iff (text : String) :
    text.endsWith "/" = true ↔ ['/'] <:+ text.toList := by
  rw [← String.endsWith_toSlice, String.Slice.endsWith_string_iff, String.copy_toSlice]
  rfl

/-- A text that stands between slashes. -/
structure IsName (name : String) : Prop where
  nonempty : name ≠ ""
  noSlash : '/' ∉ name.toList

/-- A name gets the ending of data files. -/
theorem IsName.json {name : String} (is : IsName name) : IsName (name ++ ".json") where
  nonempty := by simp [is.nonempty]
  noSlash := by
    rw [String.toList_append, List.mem_append, not_or]
    exact ⟨is.noSlash, by decide⟩

/-- The name of a data file means neither a folder itself nor the one above it. -/
theorem json_down (name : String) : name ++ ".json" ≠ "." ∧ name ++ ".json" ≠ ".." := by
  have letter : 'j' ∈ (name ++ ".json").toList := by
    rw [String.toList_append]
    exact List.mem_append_right _ (by decide)
  constructor
  · intro here
    rw [here] at letter
    exact absurd letter (by decide)
  · intro up
    rw [up] at letter
    exact absurd letter (by decide)

theorem namesOf_append (front back : String) :
    namesOf (front ++ "/" ++ back) = namesOf front ++ namesOf back := by
  have characters : (front ++ "/" ++ back).toList = front.toList ++ '/' :: back.toList := by simp
  rw [namesOf, Text.piecesAt_eq, characters, List.splitOn_append_cons_self, List.map_append,
    List.filter_append, ← Text.piecesAt_eq, ← Text.piecesAt_eq]
  rfl

theorem IsName.namesOf_eq {name : String} (is : IsName name) : namesOf name = [name] := by
  have single : Text.piecesAt '/' name = [name] := by
    rw [Text.piecesAt_eq, List.splitOn_eq_singleton is.noSlash]
    simp
  rw [namesOf, single]
  simp [is.nonempty]

/-- A name more behind a text. -/
theorem namesOf_joinText (front : String) {name : String} (is : IsName name) :
    namesOf (joinText front name) = namesOf front ++ [name] := by
  rw [joinText]
  split
  · rename_i bare
    rw [Bool.or_eq_true, String.isEmpty_iff, endsWith_slash_iff] at bare
    rcases bare with rfl | ⟨start, closed⟩
    · rw [String.empty_append, is.namesOf_eq]
      rfl
    · -- There is a slash in front of the name already.
      have split : front = String.ofList start ++ "/" := by
        apply String.toList_inj.mp
        simpa using closed.symm
      have nothing : namesOf "" = [] := rfl
      have before : namesOf front = namesOf (String.ofList start) := by
        have behind := namesOf_append (String.ofList start) ""
        rwa [String.append_empty, nothing, List.append_nil, ← split] at behind
      rw [before, split, namesOf_append, is.namesOf_eq]
  · rw [namesOf_append, is.namesOf_eq]

theorem namesOf_foldl_joinText {names : List String} (are : ∀ name ∈ names, IsName name)
    (front : String) : namesOf (names.foldl joinText front) = namesOf front ++ names := by
  induction names generalizing front with
  | nil => exact (List.append_nil _).symm
  | cons name rest ih =>
      obtain ⟨first, others⟩ := List.forall_mem_cons.mp are
      rw [List.foldl_cons, ih others, namesOf_joinText front first, List.append_assoc,
        List.singleton_append]

theorem prefix_joinText (front name : String) : front.toList <+: (joinText front name).toList := by
  rw [joinText]
  split
  · simp
  · simp

theorem prefix_foldl_joinText (names : List String) (front : String) :
    front.toList <+: (names.foldl joinText front).toList := by
  induction names generalizing front with
  | nil => exact List.prefix_refl _
  | cons name rest ih => exact (prefix_joinText front name).trans (ih _)

/-- A path that ends with a name is not bound to lead to a folder. -/
theorem namesFolder_further (path : Path) (names : List String) {last : String}
    (is : IsName last) : (path.further (names ++ [last])).namesFolder = false := by
  have ending : last.toList <:+ (path.further (names ++ [last])).text.toList := by
    rw [text_further, List.foldl_append, List.foldl_cons, List.foldl_nil, joinText]
    split
    · rw [String.toList_append]
      exact List.suffix_append _ _
    · rw [String.toList_append]
      exact List.suffix_append _ _
  rw [namesFolder, ← Bool.not_eq_true, endsWith_slash_iff]
  intro closed
  have characters : last.toList ≠ [] := by simpa using is.nonempty
  have long : ['/'].length ≤ last.toList.length := List.length_pos_iff.mpr characters
  exact is.noSlash ((List.suffix_of_suffix_length_le closed ending long).subset (by simp))

/-- The limits of the file system allow a path. -/
structure Allowed (path : Path) : Prop where
  noZero : '\x00' ∉ path.text.toList
  short : path.text.utf8ByteSize ≤ Files.pathLimit
  names : ∀ name ∈ path.names, name.utf8ByteSize ≤ Files.nameLimit

end Path

namespace Files

variable {files : Files} {root : Path} {base names : List String}

/-- What is found behind a path leads on to what is found some names further down. -/
theorem exists_of_placeOf_further {place : List String} (down : LeadDown names)
    (leads : files.placeOf (root.further names) = .ok place) :
    ∃ base, files.follow (files.start root) root.names = .ok base ∧ place = base ++ names := by
  obtain ⟨-, -, -, follows⟩ := placeOf_eq_ok_iff.mp leads
  rw [Path.names_further] at follows
  obtain ⟨base, front, behind⟩ := follow_append_eq_ok_iff.mp follows
  exact ⟨base, front, eq_append_of_follow down behind⟩

section Below

variable {text last : String}

/-- A path leads to a file that stands below the place of its front. -/
theorem Holds.placeOf (holds : files.Holds (base ++ names) bytes)
    (leads : files.follow (files.start root) root.names = .ok base) (further : names ≠ [])
    (are : ∀ name ∈ names, Path.IsName name) (down : LeadDown names)
    (allowed : (root.further names).Allowed) :
    files.placeOf (root.further names) = .ok (base ++ names) := by
  have nonempty : (root.further names).text ≠ "" := by
    intro nothing
    have listed := Path.namesOf_foldl_joinText are root.text
    have nameless : Path.namesOf "" = [] := rfl
    rw [← Path.text_further, nothing, nameless] at listed
    exact further (List.append_eq_nil_iff.mp listed.symm).2
  have short : ∀ name ∈ names, name.utf8ByteSize ≤ nameLimit := by
    intro name member
    apply allowed.names
    rw [Path.names_further]
    exact List.mem_append_right _ member
  have followed := follow_append_eq_ok_iff.mpr ⟨base, leads, holds.follow down short⟩
  rw [← Path.names_further] at followed
  exact placeOf_eq_ok_iff.mpr ⟨nonempty, allowed.noZero, allowed.short, followed⟩

/-- The text of a file that stands below the place of a path is read along the path. -/
theorem Holds.read (holds : files.Holds (base ++ (names ++ [last])) text.toUTF8)
    (leads : files.follow (files.start root) root.names = .ok base)
    (are : ∀ name ∈ names ++ [last], Path.IsName name) (down : LeadDown (names ++ [last]))
    (allowed : (root.further (names ++ [last])).Allowed) :
    files.read (root.further (names ++ [last])) = .ok text := by
  have place := holds.placeOf leads (by simp) are down allowed
  have file := Path.namesFolder_further root names (are last (by simp))
  apply read_of_find
  rw [find, place]
  simp only [holds.file, file, Bool.false_eq_true, if_false]

end Below

end Files

end Dialogue
