import Dialogue.Storage.Files

/-!
# Files after writing

A text that could be written to a file is what the file holds afterwards.  The folders
that the path leads through are still there, since only a place that is no folder can be
written to.
-/

namespace Dialogue.Files

theorem lookup_put (place other : List String) (entry : Entry)
    (entries : List (List String × Entry)) :
    ((entries.filter fun entry => entry.1 != place) ++ [(place, entry)]).lookup other =
      if other = place then some entry else entries.lookup other := by
  induction entries with
  | nil => by_cases same : other = place <;> simp [same]
  | cons first rest ih =>
      obtain ⟨names, content⟩ := first
      by_cases replaced : names = place
      · subst replaced
        rw [List.filter_cons_of_neg (by simp), ih, List.lookup_cons]
        by_cases asked : other = names
        · simp [asked]
        · simp [asked, beq_eq_false_iff_ne.mpr asked]
      · rw [List.filter_cons_of_pos (by simpa using replaced), List.cons_append,
          List.lookup_cons, List.lookup_cons, ih]
        by_cases asked : other = names
        · simp [asked, replaced]
        · simp [beq_eq_false_iff_ne.mpr asked]

/-- Putting an entry at a place changes what stands there, and nothing else. -/
theorem entry?_put (files : Files) {place : List String} (below : place ≠ []) (entry : Entry)
    (other : List String) :
    Files.entry? (files.put place entry) other =
      if other = place then some entry else files.entry? other := by
  cases other with
  | nil =>
      rw [if_neg (Ne.symm below)]
      rfl
  | cons name names => exact lookup_put place (name :: names) entry files.entries

/-- Names lead to the same place when an entry is put where no folder is. -/
theorem follow_put {files : Files} {place : List String} (entry : Entry)
    (noFolder : files.entry? place ≠ some .folder) {names first last : List String}
    (follows : files.follow first names = .ok last) :
    (files.put place entry).follow first names = .ok last := by
  have below : place ≠ [] := by
    rintro rfl
    exact noFolder rfl
  induction names generalizing first with
  | nil => exact follows
  | cons name rest ih =>
      rw [follow] at follows ⊢
      match stands : files.entry? first with
      | none =>
          rw [stands] at follows
          cases follows
      | some (.file bytes) =>
          rw [stands] at follows
          cases follows
      | some .folder =>
          have different : first ≠ place := by
            rintro rfl
            exact noFolder stands
          have still : Files.entry? (files.put place entry) first = some .folder := by
            rw [entry?_put files below, if_neg different, stands]
          simp only [stands] at follows
          simp only [still]
          split at follows
          · cases follows
          · rename_i short
            rw [if_neg short]
            split at follows
            · rename_i here
              rw [if_pos here]
              exact ih follows
            · rename_i notHere
              rw [if_neg notHere]
              split at follows
              · rename_i up
                rw [if_pos up]
                exact ih follows
              · rename_i down
                rw [if_neg down]
                exact ih follows

/-- A path leads somewhere if it has a text that the limits of the file system allow, and its
names lead on from where it starts. -/
theorem placeOf_eq_ok_iff {files : Files} {path : Path} {place : List String} :
    files.placeOf path = .ok place ↔
      path.text ≠ "" ∧ '\x00' ∉ path.text.toList ∧ path.text.utf8ByteSize ≤ pathLimit ∧
        files.follow (files.start path) path.names = .ok place := by
  rw [placeOf]
  by_cases empty : path.text = ""
  · simp [empty]
  by_cases zero : '\x00' ∈ path.text.toList
  · simp [empty, zero]
  by_cases long : path.text.utf8ByteSize > pathLimit
  · simp [empty, zero, long, Nat.not_le.mpr long]
  · simp [empty, zero, long, Nat.not_lt.mp long]

theorem placeOf_put {files : Files} {path : Path} {place last : List String} (entry : Entry)
    (noFolder : files.entry? place ≠ some .folder) (leads : files.placeOf path = .ok last) :
    (files.put place entry).placeOf path = .ok last := by
  obtain ⟨nonempty, noZero, short, follows⟩ := placeOf_eq_ok_iff.mp leads
  exact placeOf_eq_ok_iff.mpr ⟨nonempty, noZero, short, follow_put entry noFolder follows⟩

/-- A path leads to a place where a file can be written. -/
structure LeadsToFile (files : Files) (path : Path) (place : List String) : Prop where
  leads : files.placeOf path = .ok place
  noFolder : files.entry? place ≠ some .folder
  namesFile : path.namesFolder = false

/-- A text can be written if its path leads to a place for a file, and is put there. -/
theorem write_eq_ok_iff {files later : Files} {path : Path} {text : String} :
    files.write path text = .ok later ↔
      ∃ place, files.LeadsToFile path place ∧ files.put place (.file text.toUTF8) = later := by
  constructor
  · intro written
    rw [write] at written
    split at written
    · cases written
    · rename_i place leads
      split at written
      · cases written
      · rename_i noFolder
        split at written
        · cases written
        · rename_i namesFile
          exact ⟨place, ⟨leads, noFolder, Bool.eq_false_iff.mpr namesFile⟩,
            Except.ok.inj written⟩
  · rintro ⟨place, ⟨leads, noFolder, namesFile⟩, rfl⟩
    simp [write, leads, namesFile]

theorem LeadsToFile.entry?_put {files : Files} {path : Path} {place : List String}
    (toFile : files.LeadsToFile path place) (entry : Entry) :
    Files.entry? (files.put place entry) place = some entry := by
  have below : place ≠ [] := by
    rintro rfl
    exact toFile.noFolder rfl
  rw [Files.entry?_put files below, if_pos rfl]

/-- A file that was written holds the text. -/
theorem find_of_write {files later : Files} {path : Path} {text : String}
    (written : files.write path text = .ok later) :
    later.find path = .ok (.file text.toUTF8) := by
  obtain ⟨place, toFile, rfl⟩ := write_eq_ok_iff.mp written
  have stands := toFile.entry?_put (.file text.toUTF8)
  rw [find, placeOf_put _ toFile.noFolder toFile.leads]
  simp only [stands, toFile.namesFile]
  rfl

theorem exists?_of_write {files later : Files} {path : Path} {text : String}
    (written : files.write path text = .ok later) : later.exists? path = true := by
  rw [exists?, find_of_write written]

theorem read_of_find {files : Files} {path : Path} {text : String}
    (found : files.find path = .ok (.file text.toUTF8)) : files.read path = .ok text := by
  have decoded : String.fromUTF8? text.toUTF8 = some text := by
    rw [String.fromUTF8?, String.toUTF8_eq_toByteArray]
    exact dif_pos text.isValidUTF8
  rw [read, found]
  simp only [decoded]

theorem read_of_write {files later : Files} {path : Path} {text : String}
    (written : files.write path text = .ok later) : later.read path = .ok text :=
  read_of_find (find_of_write written)

end Dialogue.Files
