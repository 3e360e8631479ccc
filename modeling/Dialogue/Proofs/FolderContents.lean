import Dialogue.Proofs.PlacedFiles
import Mathlib.Data.List.Nodup

/-!
# What stands in a folder

A disk sees to it that one thing stands at a place and that everything has a name it can have.
Setting up files keeps this.  So the names in a folder are those of the things that stand one
name further down, each of them once; and a file one name further down is found unless its path
is too long.
-/

namespace Dialogue.Files

variable {files : Files}

/-! ## Names of things -/

/-- A name that something in a folder can have. -/
structure IsEntryName (name : String) : Prop extends Path.IsName name where
  noZero : '\x00' ∉ name.toList
  short : name.utf8ByteSize ≤ nameLimit
  down : name ≠ "." ∧ name ≠ ".."

/-- One thing stands at a place, and everything has a name that it can have. -/
structure Sound (files : Files) : Prop where
  once : (files.entries.map Prod.fst).Nodup
  named : ∀ place ∈ files.entries.map Prod.fst, ∀ name ∈ place, IsEntryName name

/-! ## Setting up -/

section Setup

variable {names : List String} (named : ∀ name ∈ names, IsEntryName name)

theorem Sound.filter (sound : files.Sound) (keep : List String × Entry → Bool) :
    Sound { files with entries := files.entries.filter keep } where
  once := sound.once.sublist (List.filter_sublist.map Prod.fst)
  named other member :=
    sound.named other ((List.filter_sublist.map Prod.fst).subset member)

theorem Sound.remove (sound : files.Sound) (place : List String) : (files.remove place).Sound :=
  sound.filter _

include named

theorem Sound.put (sound : files.Sound) (entry : Entry) : (files.put names entry).Sound := by
  have others := sound.filter fun other => other.1 != names
  have places : (files.put names entry).entries.map Prod.fst =
      (files.entries.filter fun other => other.1 != names).map Prod.fst ++ [names] := by
    rw [Files.put, List.map_append, List.map_singleton]
  constructor
  · rw [places]
    refine others.once.append (List.nodup_singleton names) ?_
    rw [List.disjoint_singleton]
    simp
  · rw [places]
    intro other member
    rcases List.mem_append.mp member with kept | new
    · exact others.named other kept
    · rwa [List.mem_singleton.mp new]

theorem Sound.makeFolders (sound : files.Sound) : (files.makeFolders names).Sound := by
  rw [Files.makeFolders]
  generalize List.range names.length = counts
  induction counts generalizing files with
  | nil => exact sound
  | cons count rest ih =>
      apply ih
      have inFront : ∀ name ∈ names.take count, IsEntryName name := fun name member =>
        named name (List.mem_of_mem_take member)
      change (files.withFolder (names.take count)).Sound
      rw [withFolder]
      split
      · exact sound
      · exact sound.put inFront .folder

/-- Placing something under names that it and its folders can have keeps files sound. -/
theorem Sound.place (sound : files.Sound) (entry : Entry) : (files.place names entry).Sound :=
  ((sound.remove names).makeFolders named).put named entry

theorem sound_emptyAt : (emptyAt names).Sound := by
  have bare : Sound { working := names } := ⟨List.nodup_nil, List.forall_mem_nil _⟩
  exact bare.place named .folder

end Setup

/-! ## The names in a folder -/

variable {place : List String} {path : Path}

theorem entry?_eq_lookup (below : place ≠ []) :
    files.entry? place = files.entries.lookup place := by
  cases place with
  | nil => exact absurd rfl below
  | cons name rest => rfl

theorem exists_entry?_iff (below : place ≠ []) :
    (∃ entry, files.entry? place = some entry) ↔ place ∈ files.entries.map Prod.fst := by
  rw [entry?_eq_lookup below, ← Option.isSome_iff_exists, List.lookup_isSome_iff, List.mem_map]
  simp only [beq_iff_eq, @eq_comm _ place]

theorem Sound.isEntryName (sound : files.Sound) {name : String} {entry : Entry}
    (stands : files.entry? (place ++ [name]) = some entry) : IsEntryName name := by
  have listed := (exists_entry?_iff (by simp)).mp ⟨entry, stands⟩
  exact sound.named _ listed name (by simp)

/-- A path leads to a folder at a place. -/
structure LeadsToFolder (files : Files) (path : Path) (place : List String) : Prop where
  leads : files.placeOf path = .ok place
  folder : files.entry? place = some .folder

/-- The name of what stands directly below a place. -/
def nameBelow? (place other : List String) : Option String :=
  if other.dropLast = place then other.getLast? else none

theorem nameBelow?_eq_some_iff {other : List String} {name : String} :
    nameBelow? place other = some name ↔ other = place ++ [name] := by
  rw [nameBelow?, Option.ite_none_right_eq_some, List.getLast?_eq_some_iff]
  constructor
  · rintro ⟨front, others, rfl⟩
    rw [List.dropLast_concat] at front
    rw [front]
  · rintro rfl
    exact ⟨List.dropLast_concat, place, rfl⟩

theorem LeadsToFolder.namesIn_eq (toFolder : files.LeadsToFolder path place) :
    files.namesIn path = .ok ((files.entries.map Prod.fst).filterMap (nameBelow? place)) := by
  rw [namesIn, toFolder.leads, List.filterMap_map]
  simp only [toFolder.folder]
  rfl

/-- The names in a folder are those of the things directly below its place, each of them
once. -/
theorem LeadsToFolder.exists_names (toFolder : files.LeadsToFolder path place)
    (sound : files.Sound) :
    ∃ names, files.namesIn path = .ok names ∧ names.Nodup ∧
      ∀ name, name ∈ names ↔ ∃ entry, files.entry? (place ++ [name]) = some entry := by
  refine ⟨_, toFolder.namesIn_eq, ?_, ?_⟩
  · refine sound.once.filterMap fun first second name of ofSecond => ?_
    rw [nameBelow?_eq_some_iff.mp of, nameBelow?_eq_some_iff.mp ofSecond]
  · intro name
    rw [List.mem_filterMap, exists_entry?_iff (by simp)]
    simp only [nameBelow?_eq_some_iff, exists_eq_right]

/-- Only a folder has names in it. -/
theorem exists_of_namesIn {names : List String} (listed : files.namesIn path = .ok names) :
    ∃ place, files.LeadsToFolder path place := by
  rw [namesIn] at listed
  split at listed
  · cases listed
  · rename_i place leads
    split at listed
    · cases listed
    · cases listed
    · rename_i folder
      exact ⟨place, leads, folder⟩

/-! ## The files in a folder -/

theorem follow_singleton_iff {base : List String} {name : String}
    (down : name ≠ "." ∧ name ≠ "..") :
    files.follow base [name] = .ok place ↔
      files.entry? base = some .folder ∧ name.utf8ByteSize ≤ nameLimit ∧
        place = base ++ [name] := by
  rw [follow]
  split
  · rename_i missing
    simp [missing]
  · rename_i file
    simp [file]
  · rename_i folder
    by_cases long : name.utf8ByteSize > nameLimit
    · simp [long, Nat.not_le.mpr long]
    · simp [folder, down, long, Nat.not_lt.mp long, follow, eq_comm]

theorem isFile_iff :
    files.isFile path = true ↔
      ∃ place bytes, files.placeOf path = .ok place ∧
        files.entry? place = some (.file bytes) ∧ path.namesFolder = false := by
  rw [isFile, find]
  cases leads : files.placeOf path with
  | error fault => simp
  | ok place =>
      rcases stands : files.entry? place with _ | (bytes | _)
      · simp [stands]
      · cases folder : path.namesFolder <;> simp [stands]
      · simp [stands]

end Dialogue.Files

/-! ## One name further down -/

namespace Dialogue.Path

variable (root : Path) (name : String)

/-- A name more stands behind a path, with a slash in front of it or not. -/
theorem exists_text_child :
    ∃ gap, (gap = "" ∨ gap = "/") ∧ (root.child name).text = root.text ++ gap ++ name := by
  have text : (root.child name).text = joinText root.text name := root.text_further [name]
  rw [text, joinText]
  split
  · exact ⟨"", .inl rfl, by simp⟩
  · exact ⟨"/", .inr rfl, rfl⟩

theorem utf8ByteSize_text_le : root.text.utf8ByteSize ≤ (root.child name).text.utf8ByteSize := by
  obtain ⟨gap, -, text⟩ := root.exists_text_child name
  simp only [text, String.utf8ByteSize_append]
  omega

theorem mem_text_child_iff {c : Char} (notSlash : c ≠ '/') :
    c ∈ (root.child name).text.toList ↔ c ∈ root.text.toList ∨ c ∈ name.toList := by
  obtain ⟨gap, rfl | rfl, text⟩ := root.exists_text_child name
  · simp [text]
  · simp [text, notSlash]

variable {name}

theorem text_child_ne_empty (nonempty : name ≠ "") : (root.child name).text ≠ "" := by
  obtain ⟨gap, -, text⟩ := root.exists_text_child name
  simp [text, nonempty]

theorem namesFolder_child (is : IsName name) : (root.child name).namesFolder = false :=
  root.namesFolder_further [] is

end Dialogue.Path

namespace Dialogue.Files

section Below

variable {files : Files} {root : Path} {base place : List String} {name : String}
  (is : Path.IsName name) (down : name ≠ "." ∧ name ≠ "..")

include is down

/-- A path and one more name lead to a place if the path leads to a folder, and the limits of
the file system allow both. -/
theorem placeOf_child_iff (nonempty : root.text ≠ "") :
    files.placeOf (root.child name) = .ok place ↔
      ∃ base, files.LeadsToFolder root base ∧ '\x00' ∉ name.toList ∧
        name.utf8ByteSize ≤ nameLimit ∧ (root.child name).text.utf8ByteSize ≤ pathLimit ∧
          place = base ++ [name] := by
  have front := root.utf8ByteSize_text_le name
  have names : (root.child name).names = root.names ++ [name] := root.names_further [name]
  have start : files.start (root.child name) = files.start root := rfl
  rw [placeOf_eq_ok_iff, root.mem_text_child_iff name (by decide), not_or, names, start,
    follow_append_eq_ok_iff]
  constructor
  · rintro ⟨-, ⟨noZero, noZeroName⟩, short, base, leads, last⟩
    obtain ⟨folder, shortName, rfl⟩ := (follow_singleton_iff down).mp last
    exact ⟨base, ⟨placeOf_eq_ok_iff.mpr ⟨nonempty, noZero, front.trans short, leads⟩, folder⟩,
      noZeroName, shortName, short, rfl⟩
  · rintro ⟨base, ⟨toBase, folder⟩, noZeroName, shortName, short, rfl⟩
    obtain ⟨-, noZero, -, leads⟩ := placeOf_eq_ok_iff.mp toBase
    exact ⟨root.text_child_ne_empty is.nonempty, ⟨noZero, noZeroName⟩, short, base, leads,
      (follow_singleton_iff down).mpr ⟨folder, shortName, rfl⟩⟩

/-- Where a file is found one name further down, there is a folder. -/
theorem exists_leadsToFolder (nonempty : root.text ≠ "")
    (found : files.isFile (root.child name) = true) :
    ∃ base, files.LeadsToFolder root base := by
  obtain ⟨place, bytes, leads, -, -⟩ := isFile_iff.mp found
  obtain ⟨base, toFolder, -⟩ := (placeOf_child_iff is down nonempty).mp leads
  exact ⟨base, toFolder⟩

/-- A file in a folder is found unless its path is too long. -/
theorem LeadsToFolder.isFile_child_iff (toFolder : files.LeadsToFolder root base)
    (sound : files.Sound) :
    files.isFile (root.child name) = true ↔
      (root.child name).text.utf8ByteSize ≤ pathLimit ∧
        ∃ bytes, files.entry? (base ++ [name]) = some (.file bytes) := by
  have nonempty : root.text ≠ "" := (placeOf_eq_ok_iff.mp toFolder.leads).1
  rw [isFile_iff]
  constructor
  · rintro ⟨place, bytes, leads, file, -⟩
    obtain ⟨other, toOther, -, -, short, rfl⟩ := (placeOf_child_iff is down nonempty).mp leads
    obtain rfl : base = other := Except.ok.inj (toFolder.leads.symm.trans toOther.leads)
    exact ⟨short, bytes, file⟩
  · rintro ⟨short, bytes, file⟩
    have entry := sound.isEntryName file
    have leads := (placeOf_child_iff is down nonempty).mpr
      ⟨base, toFolder, entry.noZero, entry.short, short, rfl⟩
    exact ⟨_, bytes, leads, file, root.namesFolder_child is⟩

end Below

end Dialogue.Files
