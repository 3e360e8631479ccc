import Dialogue.Proofs.StoredValues
import Dialogue.Proofs.WrittenFiles

/-!
# States that are opened again

A state that is kept in a file can be left and opened again at any time: the file holds
what the state remembers, from the moment when it is opened, while the file is still
missing, through any changes.  This takes values that a file can hold, and nobody else who
writes to the file.  A change that fails, because its key is blank or the file is out of
reach, changes neither the file nor the state.
-/

namespace Dialogue.State

/-! ## Changes -/

/-- What can happen to a state that is kept in a file. -/
inductive Change where
  | set (key : String) (value : Value)
  | remove (key : String)
  /-- Files change without the state. -/
  | elsewhere (files : Files)

/-- Make a change to a state. -/
def change (state : State) : Change → Except StateError State
  | .set key value => state.set key value
  | .remove key => state.remove key
  | .elsewhere files => .ok { state with files }

/-- The state behind a change; one that fails leaves it as it is. -/
def behind (state : State) (change : Change) : State :=
  match state.change change with
  | .ok next => next
  | .error _ => state

/-- The state behind some changes. -/
def changeAll (state : State) : List Change → State
  | [] => state
  | change :: rest => (state.behind change).changeAll rest

/-- A change does no harm to a file: a value that is set can be stored, and what happens
elsewhere leaves the file alone. -/
def Harmless (path : Path) (state : State) : Change → Prop
  | .set _ value => value.Storable
  | .remove _ => True
  | .elsewhere files => files.find path = state.files.find path

/-! ## What is kept -/

/-- Opening a state looks at its file only. -/
theorem openFile_of_find_eq {files later : Files} {path : Path}
    (same : later.find path = files.find path) :
    openFile later path = (openFile files path).map fun state => { state with files := later } := by
  have there : later.exists? path = files.exists? path := by
    rw [Files.exists?, Files.exists?, same]
  have content : later.read path = files.read path := by
    rw [Files.read, Files.read, same]
  rw [openFile, openFile, there, content]
  split
  · split
    · rfl
    · split
      · rfl
      · split <;> rfl
  · rfl

/-- A state that is opened from a file is kept in it. -/
theorem file_of_openFile {files : Files} {path : Path} {state : State}
    (opened : openFile files path = .ok state) : state.file = some path := by
  rw [openFile] at opened
  split at opened
  · split at opened
    · cases opened
    · split at opened
      · cases opened
        rfl
      · split at opened
        · cases opened
        · cases opened
          rfl
  · cases opened
    rfl

/-- A state that is opened from a missing file remembers nothing. -/
theorem openFile_of_missing {files : Files} {path : Path}
    (missing : files.exists? path = false) :
    openFile files path = .ok { values := .empty, file := some path, files } := by
  rw [openFile, missing]
  rfl

/-- What was written is what is opened. -/
theorem openFile_of_write {files later : Files} {path : Path} {values : Dictionary Value}
    (storable : ∀ entry ∈ values.entries, entry.2.Storable)
    (written : files.write path (fileText values) = .ok later) :
    openFile later path = .ok { values, file := some path, files := later } := by
  simp [openFile, Files.exists?_of_write written, Files.read_of_write written,
    isBlankText_fileText, decodeText_fileText storable]

/-- A state can be opened again, and the values in it can be stored. -/
structure KeptIn (path : Path) (state : State) : Prop where
  storable : ∀ entry ∈ state.values.entries, entry.2.Storable
  reopens : openFile state.files path = .ok state

namespace KeptIn

variable {path : Path} {state next : State}

theorem replace (kept : KeptIn path state) {values : Dictionary Value}
    (storable : ∀ entry ∈ values.entries, entry.2.Storable)
    (replaced : state.replace values = .ok next) : KeptIn path next := by
  rw [State.replace, file_of_openFile kept.reopens] at replaced
  split at replaced
  · rename_i noFile
    cases noFile
  · rename_i there same
    cases same
    split at replaced
    · cases replaced
    · rename_i files written
      cases replaced
      exact ⟨storable, openFile_of_write storable written⟩

theorem set (kept : KeptIn path state) {key : String} {value : Value}
    (storable : value.Storable) (came : state.set key value = .ok next) :
    KeptIn path next := by
  rw [State.set] at came
  split at came
  · cases came
  · apply kept.replace _ came
    rintro ⟨other, content⟩ member
    rw [Dictionary.mem_entries_iff, Dictionary.get?_insert] at member
    split at member
    · cases member
      exact storable
    · exact kept.storable (other, content) ((Dictionary.mem_entries_iff _ _ _).mpr member)

theorem remove (kept : KeptIn path state) {key : String}
    (came : state.remove key = .ok next) : KeptIn path next := by
  rw [State.remove] at came
  split at came
  · apply kept.replace _ came
    rintro ⟨other, content⟩ member
    rw [Dictionary.mem_entries_iff, Dictionary.get?_erase] at member
    split at member
    · cases member
    · exact kept.storable (other, content) ((Dictionary.mem_entries_iff _ _ _).mpr member)
  · cases came
    exact kept

theorem elsewhere (kept : KeptIn path state) {files : Files}
    (same : files.find path = state.files.find path) : KeptIn path { state with files } := by
  refine ⟨kept.storable, ?_⟩
  rw [openFile_of_find_eq same, kept.reopens]
  rfl

/-- A harmless change leaves a state that can be opened again. -/
theorem behind (kept : KeptIn path state) {change : Change}
    (harmless : state.Harmless path change) : KeptIn path (state.behind change) := by
  rw [State.behind]
  split
  · rename_i next came
    cases change with
    | set key value => exact kept.set harmless came
    | remove key => exact kept.remove came
    | elsewhere files =>
        cases came
        exact kept.elsewhere harmless
  · exact kept

theorem changeAll (kept : KeptIn path state) {changes : List Change}
    (harmless : ∀ earlier change later, changes = earlier ++ change :: later →
      (state.changeAll earlier).Harmless path change) :
    KeptIn path (state.changeAll changes) := by
  induction changes generalizing state with
  | nil => exact kept
  | cons change rest ih =>
      apply ih (kept.behind (harmless [] change rest rfl))
      intro earlier other later split
      apply harmless (change :: earlier) other later
      rw [split, List.cons_append]

end KeptIn

/-- A file of values holds exactly these values, and a state that is kept in a file can be
opened again.

The text that is written for values that can be stored is read as these values.  A missing
file can be opened as a state, and after any harmless changes, opening it again gives the
state as it then is, with the same value under each key and the same keys. -/
theorem openFile_changeAll :
    (∀ values : Dictionary Value, (∀ entry ∈ values.entries, entry.2.Storable) →
      Decoder.decodeText (.dictionary Value.decode) (fileText values) = .ok values) ∧
    ∀ files path, files.exists? path = false →
      ∃ start, openFile files path = .ok start ∧
        ∀ changes,
          (∀ earlier change later, changes = earlier ++ change :: later →
            (start.changeAll earlier).Harmless path change) →
          openFile (start.changeAll changes).files path = .ok (start.changeAll changes) := by
  constructor
  · intro values storable
    exact decodeText_fileText storable
  · intro files path missing
    have opened := openFile_of_missing missing
    refine ⟨_, opened, ?_⟩
    intro changes harmless
    have start : KeptIn path { values := .empty, file := some path, files } := by
      constructor
      · intro entry member
        cases member
      · exact opened
    exact (start.changeAll harmless).reopens

/-- Values of several kinds under keys of several kinds. -/
def notes : Dictionary Value :=
  .ofList [("", .list [.null, .bool true, .list []]), ("say \"hi\"\n", .int (-5)),
    ("größe", .text "\x01\\ \x7b")]

/-- Changes that remember something, and one that fails. -/
def noting : List Change :=
  [.set "mood" (.list [.text "fine", .int 3]), .set " " .null, .set "größe" .null,
    .remove "mood"]

theorem openFile_changeAll_noting :
    (∀ entry ∈ notes.entries, entry.2.Storable) ∧
      Decoder.decodeText (.dictionary Value.decode) (fileText notes) = .ok notes ∧
      Files.exists? {} { written := "state.json" } = false ∧
      ∃ start, openFile {} { written := "state.json" } = .ok start ∧
        (∀ earlier change later, noting = earlier ++ change :: later →
          (start.changeAll earlier).Harmless { written := "state.json" } change) ∧
        openFile (start.changeAll noting).files { written := "state.json" } =
          .ok (start.changeAll noting) := by
  have storable : ∀ entry ∈ notes.entries, entry.2.Storable := by decide +kernel
  have missing : Files.exists? {} { written := "state.json" } = false := by decide +kernel
  obtain ⟨start, opened, reopens⟩ := openFile_changeAll.2 {} { written := "state.json" } missing
  have harmless : ∀ earlier change later, noting = earlier ++ change :: later →
      (start.changeAll earlier).Harmless { written := "state.json" } change := by
    intro earlier change later split
    have member : change ∈ noting := by simp [split]
    simp only [noting, List.mem_cons, List.not_mem_nil, or_false] at member
    rcases member with rfl | rfl | rfl | rfl
    · exact ⟨rfl, by decide⟩
    · exact ⟨rfl, by decide⟩
    · exact ⟨rfl, by decide⟩
    · trivial
  exact ⟨storable, openFile_changeAll.1 notes storable, missing, start, opened, harmless,
    reopens noting harmless⟩

end Dialogue.State
