import Dialogue.Proofs.Json.Layout

/-!
# Reading what was written

Reading a document that is written in any layout gives the draft that shows all of it, and
stops right behind it.  It takes at most two calls of a reader for each character: one for
the value that starts there, and one for the list or record that it is a part of.
-/

namespace Dialogue.Json

/-! ## White space -/

/-- White space in front of a text does not count. -/
theorem skipSpace_append {gap : List Char} (spaces : ∀ c ∈ gap, isSpace c = true)
    (rest : List Char) : skipSpace (gap ++ rest) = skipSpace rest :=
  List.dropWhile_append_of_pos spaces

theorem skipSpace_cons {c : Char} (solid : isSpace c = false) (rest : List Char) :
    skipSpace (c :: rest) = c :: rest := by
  simp [skipSpace, solid]

/-- A number ends in front of white space and of what ends it itself. -/
theorem endsNumber_append {gap : List Char} (spaces : ∀ c ∈ gap, isSpace c = true)
    {rest : List Char} (ends : endsNumber rest = true) : endsNumber (gap ++ rest) = true := by
  cases gap with
  | nil => exact ends
  | cons c gap =>
      have space := spaces c List.mem_cons_self
      simp only [isSpace, Bool.or_eq_true, decide_eq_true_eq] at space
      rcases space with ((rfl | rfl) | rfl) | rfl <;> rfl

theorem isSpace_of_isDigit {c : Char} (digit : c.isDigit = true) : isSpace c = false := by
  apply Bool.eq_false_iff.mpr
  intro space
  simp only [isSpace, Bool.or_eq_true, decide_eq_true_eq] at space
  rcases space with ((rfl | rfl) | rfl) | rfl <;> exact absurd digit (by decide)

/-! ## How documents start -/

/-- A text starts with something else than white space or a closing bracket. -/
def Opens (cs : List Char) : Prop :=
  ∃ c rest, cs = c :: rest ∧ isSpace c = false ∧ c ≠ ']'

theorem Opens.append {cs : List Char} (opens : Opens cs) (rest : List Char) :
    Opens (cs ++ rest) := by
  obtain ⟨c, tail, rfl, solid, notClosing⟩ := opens
  exact ⟨c, tail ++ rest, rfl, solid, notClosing⟩

theorem Opens.skipSpace {cs : List Char} (opens : Opens cs) : skipSpace cs = cs := by
  obtain ⟨c, rest, rfl, solid, -⟩ := opens
  exact skipSpace_cons solid rest

/-- An integer starts with a sign or a digit. -/
theorem exists_integerText_eq_cons (n : Int) :
    ∃ c rest, integerText n = c :: rest ∧ (c = '-' ∨ c.isDigit = true) := by
  cases n with
  | ofNat size =>
      match shape : Nat.toDigits 10 size with
      | [] => exact absurd shape Nat.toDigits_ne_nil
      | c :: rest =>
          have member : c ∈ Nat.toDigits 10 size := by
            rw [shape]
            exact List.mem_cons_self
          have digit : c.isDigit = true :=
            Nat.isDigit_of_mem_toDigits (by decide) (by decide) member
          exact ⟨c, rest, shape, .inr digit⟩
  | negSucc size => exact ⟨'-', _, rfl, .inl rfl⟩

theorem opens_integerText (n : Int) : Opens (integerText n) := by
  obtain ⟨c, rest, shape, rfl | digit⟩ := exists_integerText_eq_cons n
  · exact ⟨'-', rest, shape, by decide, by decide⟩
  · refine ⟨c, rest, shape, isSpace_of_isDigit digit, ?_⟩
    rintro rfl
    exact absurd digit (by decide)

theorem opens_written (layout : Layout) (level : Nat) {document : Json}
    (readable : document.readable = true) : Opens (written layout level document) := by
  cases document with
  | null => exact ⟨'n', _, rfl, by decide, by decide⟩
  | bool b => cases b with
    | true => exact ⟨'t', _, rfl, by decide, by decide⟩
    | false => exact ⟨'f', _, rfl, by decide, by decide⟩
  | int n => exact opens_integerText n
  | float x => cases readable
  | text s => exact ⟨'"', _, rfl, by decide, by decide⟩
  | list items => exact ⟨'[', _, rfl, by decide, by decide⟩
  | record fields => exact ⟨'{', _, rfl, by decide, by decide⟩

/-! ## Single steps of the readers -/

theorem readValue_append {gap : List Char} (spaces : ∀ c ∈ gap, isSpace c = true)
    (fuel : Nat) (rest : List Char) : readValue fuel (gap ++ rest) = readValue fuel rest := by
  cases fuel with
  | zero => rfl
  | succ fuel => rw [readValue, readValue, skipSpace_append spaces]

theorem readValue_quoted (fuel : Nat) (cs rest : List Char) :
    readValue (fuel + 1) (quoted cs ++ rest) = (.text (String.ofList cs), some rest) := by
  rw [quoted, List.cons_append, List.append_assoc]
  exact scanText_flatMap cs rest

/-- What starts with a sign or a digit is read as a number. -/
theorem readValue_of_number (fuel : Nat) {c : Char} (start : c = '-' ∨ c.isDigit = true)
    (rest : List Char) : readValue (fuel + 1) (c :: rest) = readNumber (c :: rest) := by
  rcases start with rfl | digit
  · rfl
  · rw [readValue, skipSpace_cons (isSpace_of_isDigit digit)]
    split
    · rename_i other
      cases other
    case h_8 =>
      rename_i same
      cases same
      rw [digit, Bool.or_true, if_pos rfl]
    -- The other characters that a document can start with are no digits.
    all_goals
      rename_i same
      cases same
      exact absurd digit (by decide)

theorem readValue_integerText (fuel : Nat) {n : Int} (inRange : fits n = true)
    {rest : List Char} (ends : endsNumber rest = true) :
    readValue (fuel + 1) (integerText n ++ rest) = (.int n, some rest) := by
  rw [← readNumber_integerText inRange ends]
  obtain ⟨c, digits, shape, start⟩ := exists_integerText_eq_cons n
  rw [shape, List.cons_append]
  exact readValue_of_number fuel start (digits ++ rest)

/-- Behind an item, a comma leads to further items and the bracket ends the list. -/
theorem readItems_of_readValue {fuel : Nat} (mayClose : Bool) {gap cs after : List Char}
    {item : Draft} (spaces : ∀ c ∈ gap, isSpace c = true) (opens : Opens cs)
    (read : readValue fuel cs = (item, some after)) :
    (∀ rest, skipSpace after = ',' :: rest →
        readItems (fuel + 1) mayClose (gap ++ cs) = (readItems fuel false rest).cons item) ∧
      ∀ rest, skipSpace after = ']' :: rest →
        readItems (fuel + 1) mayClose (gap ++ cs) = (Run.closed rest).cons item := by
  have skip : skipSpace (gap ++ cs) = cs := by rw [skipSpace_append spaces, opens.skipSpace]
  obtain ⟨c, tail, rfl, _, notClosing⟩ := opens
  rw [readItems.eq_def]
  simp only [skip]
  split
  · rename_i closed
    exact absurd (List.cons.inj closed).1 notClosing
  · simp only [read]
    constructor
    · intro rest more
      simp only [more]
    · intro rest last
      simp only [last]

/-- Behind a field, a comma leads to further fields and the bracket ends the record. -/
theorem readFields_of_readValue {fuel : Nat} (mayClose : Bool) {gap : List Char}
    {name : String} {cs after : List Char} {value : Draft}
    (spaces : ∀ c ∈ gap, isSpace c = true)
    (read : readValue fuel cs = (value, some after)) :
    (∀ rest, skipSpace after = ',' :: rest →
        readFields (fuel + 1) mayClose (gap ++ (quoted name.toList ++ ':' :: cs)) =
          (readFields fuel false rest).cons (.text name, value)) ∧
      ∀ rest, skipSpace after = '}' :: rest →
        readFields (fuel + 1) mayClose (gap ++ (quoted name.toList ++ ':' :: cs)) =
          (Run.closed rest).cons (.text name, value) := by
  have skip : skipSpace (gap ++ (quoted name.toList ++ ':' :: cs)) =
      '"' :: (name.toList.flatMap escaped ++ '"' :: ':' :: cs) := by
    rw [skipSpace_append spaces]
    simp [quoted, skipSpace, isSpace]
  have colon : skipSpace (':' :: cs) = ':' :: cs := skipSpace_cons (by decide) cs
  rw [readFields.eq_def]
  simp only [skip, scanText_flatMap, String.ofList_toList, colon, read]
  constructor
  · intro rest more
    simp only [more]
  · intro rest last
    simp only [last]

/-! ## Whole documents -/

/-- Reading a document in a layout gives its draft and stops behind it. -/
def ReadsBack (layout : Layout) (document : Json) : Prop :=
  ∀ level fuel after, 2 * (written layout level document).length ≤ fuel →
    endsNumber after = true →
      readValue fuel (written layout level document ++ after) = (document.draft, some after)

section Parts

variable (layout : Layout) (level : Nat)

theorem skipSpace_gap {c : Char} (solid : isSpace c = false) (rest : List Char) :
    skipSpace (layout.gap level ++ c :: rest) = c :: rest := by
  rw [skipSpace_append (layout.isSpace_of_mem_gap level), skipSpace_cons solid]

/-- The last item of a list, and its closing bracket. -/
theorem readItems_singleton {item : Json} (readable : item.readable = true)
    (back : ReadsBack layout item) {fuel : Nat} (mayClose : Bool)
    (enough : 2 * (writtenItems layout level [item]).length ≤ fuel) (after : List Char) :
    readItems (fuel + 1) mayClose (writtenItems layout level [item] ++ after) =
      (Run.closed after).cons item.draft := by
  have shape : writtenItems layout level [item] ++ after =
      layout.gap (level + 1) ++ (written layout (level + 1) item ++
        (layout.gap level ++ ']' :: after)) := by
    simp [writtenItems]
  have ends : endsNumber (layout.gap level ++ ']' :: after) = true :=
    endsNumber_append (layout.isSpace_of_mem_gap level) rfl
  simp only [writtenItems, List.length_append] at enough
  have read := back (level + 1) fuel _ (by omega) ends
  have opens := (opens_written layout (level + 1) readable).append
    (layout.gap level ++ ']' :: after)
  have parts := readItems_of_readValue mayClose (layout.isSpace_of_mem_gap (level + 1))
    opens read
  rw [shape, parts.2 after (skipSpace_gap layout level (by decide) after)]

/-- An item in front of others. -/
theorem readItems_cons_cons {item second : Json} {others : List Json}
    (readable : item.readable = true) (back : ReadsBack layout item) {fuel : Nat}
    (mayClose : Bool)
    (enough : 2 * (writtenItems layout level (item :: second :: others)).length ≤ fuel)
    (after : List Char) :
    readItems (fuel + 1) mayClose
        (writtenItems layout level (item :: second :: others) ++ after) =
      (readItems fuel false
        (writtenItems layout level (second :: others) ++ after)).cons item.draft := by
  have shape : writtenItems layout level (item :: second :: others) ++ after =
      layout.gap (level + 1) ++ (written layout (level + 1) item ++
        ',' :: (writtenItems layout level (second :: others) ++ after)) := by
    simp [writtenItems]
  simp only [writtenItems, List.length_append] at enough
  have read := back (level + 1) fuel
    (',' :: (writtenItems layout level (second :: others) ++ after)) (by omega) rfl
  have opens := (opens_written layout (level + 1) readable).append
    (',' :: (writtenItems layout level (second :: others) ++ after))
  have parts := readItems_of_readValue mayClose (layout.isSpace_of_mem_gap (level + 1))
    opens read
  rw [shape, parts.1 _ (skipSpace_cons (by decide) _)]

/-- The items of a list are read back if each of them is. -/
theorem readItems_writtenItems {items : List Json} (readable : readableItems items = true)
    (readsBack : ∀ item ∈ items, ReadsBack layout item) {fuel : Nat} {mayClose : Bool}
    (closing : items = [] → mayClose = true)
    (enough : 2 * (writtenItems layout level items).length ≤ fuel) (after : List Char) :
    readItems (fuel + 1) mayClose (writtenItems layout level items ++ after) =
      { parts := itemDrafts items, stop := none, rest := some after } := by
  induction items generalizing fuel mayClose with
  | nil =>
      rw [closing rfl]
      rfl
  | cons item rest ih =>
      rw [readableItems, Bool.and_eq_true] at readable
      have back : ReadsBack layout item := readsBack item List.mem_cons_self
      cases rest with
      | nil =>
          rw [readItems_singleton layout level readable.1 back mayClose enough after]
          rfl
      | cons second others =>
          rw [readItems_cons_cons layout level readable.1 back mayClose enough after]
          simp only [writtenItems, List.length_append, List.length_cons] at enough
          obtain ⟨less, rfl⟩ : ∃ less, fuel = less + 1 := ⟨fuel - 1, by omega⟩
          rw [ih readable.2 ?_ (by simp) (by omega)]
          · rfl
          · exact fun other member => readsBack other (List.mem_cons_of_mem item member)

/-- The last field of a record, and its closing bracket. -/
theorem readFields_singleton {name : String} {value : Json} (back : ReadsBack layout value)
    {fuel : Nat} (mayClose : Bool)
    (enough : 2 * (writtenFields layout level [(name, value)]).length ≤ fuel)
    (after : List Char) :
    readFields (fuel + 1) mayClose (writtenFields layout level [(name, value)] ++ after) =
      (Run.closed after).cons (.text name, value.draft) := by
  have shape : writtenFields layout level [(name, value)] ++ after =
      layout.gap (level + 1) ++ (quoted name.toList ++
        ':' :: (layout.colonGap ++ (written layout (level + 1) value ++
          (layout.gap level ++ '}' :: after)))) := by
    simp [writtenFields, writtenField]
  have ends : endsNumber (layout.gap level ++ '}' :: after) = true :=
    endsNumber_append (layout.isSpace_of_mem_gap level) rfl
  simp only [writtenFields, writtenField, List.length_append, List.length_cons] at enough
  have read := back (level + 1) fuel _ (by omega) ends
  rw [← readValue_append layout.isSpace_of_mem_colonGap] at read
  have parts := @readFields_of_readValue fuel mayClose _ name _ _ _
    (layout.isSpace_of_mem_gap (level + 1)) read
  rw [shape, parts.2 after (skipSpace_gap layout level (by decide) after)]

/-- A field in front of others. -/
theorem readFields_cons_cons {name : String} {value : Json} {second : String × Json}
    {others : List (String × Json)} (back : ReadsBack layout value) {fuel : Nat}
    (mayClose : Bool)
    (enough :
      2 * (writtenFields layout level ((name, value) :: second :: others)).length ≤ fuel)
    (after : List Char) :
    readFields (fuel + 1) mayClose
        (writtenFields layout level ((name, value) :: second :: others) ++ after) =
      (readFields fuel false
        (writtenFields layout level (second :: others) ++ after)).cons
          (.text name, value.draft) := by
  have shape : writtenFields layout level ((name, value) :: second :: others) ++ after =
      layout.gap (level + 1) ++ (quoted name.toList ++
        ':' :: (layout.colonGap ++ (written layout (level + 1) value ++
          ',' :: (writtenFields layout level (second :: others) ++ after)))) := by
    simp [writtenFields, writtenField]
  simp only [writtenFields, writtenField, List.length_append, List.length_cons] at enough
  have read := back (level + 1) fuel
    (',' :: (writtenFields layout level (second :: others) ++ after)) (by omega) rfl
  rw [← readValue_append layout.isSpace_of_mem_colonGap] at read
  have parts := @readFields_of_readValue fuel mayClose _ name _ _ _
    (layout.isSpace_of_mem_gap (level + 1)) read
  rw [shape, parts.1 _ (skipSpace_cons (by decide) _)]

/-- The fields of a record are read back if their documents are. -/
theorem readFields_writtenFields {fields : List (String × Json)}
    (readsBack : ∀ field ∈ fields, ReadsBack layout field.2) {fuel : Nat} {mayClose : Bool}
    (closing : fields = [] → mayClose = true)
    (enough : 2 * (writtenFields layout level fields).length ≤ fuel) (after : List Char) :
    readFields (fuel + 1) mayClose (writtenFields layout level fields ++ after) =
      { parts := fieldDrafts fields, stop := none, rest := some after } := by
  induction fields generalizing fuel mayClose with
  | nil =>
      rw [closing rfl]
      rfl
  | cons field rest ih =>
      obtain ⟨name, value⟩ := field
      have back : ReadsBack layout value := readsBack (name, value) List.mem_cons_self
      cases rest with
      | nil =>
          rw [readFields_singleton layout level back mayClose enough after]
          rfl
      | cons second others =>
          rw [readFields_cons_cons layout level back mayClose enough after]
          simp only [writtenFields, List.length_append, List.length_cons] at enough
          obtain ⟨less, rfl⟩ : ∃ less, fuel = less + 1 := ⟨fuel - 1, by omega⟩
          rw [ih ?_ (by simp) (by omega)]
          · rfl
          · exact fun other member =>
              readsBack other (List.mem_cons_of_mem (name, value) member)

end Parts

theorem readableItems_iff (items : List Json) :
    readableItems items = true ↔ ∀ item ∈ items, item.readable = true := by
  induction items with
  | nil => simp [readableItems]
  | cons item rest ih => simp [readableItems, ih]

theorem readableFields_iff (fields : List (String × Json)) :
    readableFields fields = true ↔ ∀ field ∈ fields, field.2.readable = true := by
  induction fields with
  | nil => simp [readableFields]
  | cons field rest ih =>
      obtain ⟨name, value⟩ := field
      simp [readableFields, readableField, ih]

/-- A readable document is read back. -/
theorem readsBack_of_readable (layout : Layout) {document : Json}
    (readable : document.readable = true) : ReadsBack layout document := by
  induction document using Json.induction with
  | null =>
      intro level fuel after enough ends
      cases fuel with
      | zero => cases enough
      | succ fuel => rfl
  | bool b =>
      intro level fuel after enough ends
      cases fuel with
      | zero => cases b <;> cases enough
      | succ fuel => cases b <;> rfl
  | int n =>
      intro level fuel after enough ends
      cases fuel with
      | zero =>
          obtain ⟨c, rest, shape, _⟩ := exists_integerText_eq_cons n
          rw [written, shape] at enough
          cases enough
      | succ fuel => exact readValue_integerText fuel readable ends
  | float x => cases readable
  | text s =>
      intro level fuel after enough ends
      cases fuel with
      | zero => cases enough
      | succ fuel =>
          rw [written, readValue_quoted, String.ofList_toList]
          rfl
  | list items ih =>
      intro level fuel after enough ends
      rw [written, List.length_cons] at enough
      obtain ⟨less, rfl⟩ : ∃ less, fuel = less + 2 := ⟨fuel - 2, by omega⟩
      have all := (readableItems_iff items).mp readable
      have read := readItems_writtenItems layout level readable
        (fun item member => ih item member (all item member))
        (fun _ => rfl) (by omega : _ ≤ less) after
      have opened (cs : List Char) : readValue (less + 2) ('[' :: cs) =
          (.list (readItems (less + 1) true cs).parts (readItems (less + 1) true cs).stop,
            (readItems (less + 1) true cs).rest) := rfl
      rw [written, List.cons_append, opened, read]
      rfl
  | record fields ih =>
      intro level fuel after enough ends
      rw [written, List.length_cons] at enough
      obtain ⟨less, rfl⟩ : ∃ less, fuel = less + 2 := ⟨fuel - 2, by omega⟩
      have all := (readableFields_iff fields).mp readable
      have read := readFields_writtenFields layout level
        (fun field member => ih field member (all field member))
        (fun _ => rfl) (by omega : _ ≤ less) after
      have opened (cs : List Char) : readValue (less + 2) ('{' :: cs) =
          (.record (readFields (less + 1) true cs).parts (readFields (less + 1) true cs).stop,
            (readFields (less + 1) true cs).rest) := rfl
      rw [written, List.cons_append, opened, read]
      rfl

/-- A readable document that is written in any layout is read as its draft, with nothing
left behind it. -/
theorem readDraft_written (layout : Layout) {document : Json}
    (readable : document.readable = true) (level : Nat) :
    readDraft (written layout level document) = (document.draft, some []) := by
  have read := readsBack_of_readable layout readable level
    (2 * (written layout level document).length + 2) [] (by omega) rfl
  rw [List.append_nil] at read
  exact read

theorem readDraft_indented {document : Json} (readable : document.readable = true)
    (level : Nat) : readDraft (indented level document) = (document.draft, some []) := by
  rw [← written_lines level]
  exact readDraft_written .lines readable level

end Dialogue.Json
