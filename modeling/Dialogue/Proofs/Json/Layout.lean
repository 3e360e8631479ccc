import Dialogue.Proofs.Json.Scalars

/-!
# Documents read back

The two written forms of a document differ in the white space between its parts only.  A
layout says what stands there, and a document that is written in any layout is read back
as the draft that shows all of it.  Doubles are left out, and integers of more than 64
bits, since these are not read as what they were.
-/

namespace Dialogue.Json

/-- What holds of all parts of a list or record and hence of itself holds of every
document. -/
theorem induction {motive : Json → Prop} (null : motive .null)
    (bool : ∀ b, motive (.bool b)) (int : ∀ n, motive (.int n))
    (float : ∀ x, motive (.float x)) (text : ∀ s, motive (.text s))
    (list : ∀ items, (∀ item ∈ items, motive item) → motive (.list items))
    (record : ∀ fields, (∀ field ∈ fields, motive field.2) → motive (.record fields))
    (document : Json) : motive document :=
  @Json.rec motive (fun items => ∀ item ∈ items, motive item)
    (fun fields => ∀ field ∈ fields, motive field.2) (fun field => motive field.2)
    null bool int float text list record
    (by simp) (fun _ _ first others => List.forall_mem_cons.mpr ⟨first, others⟩)
    (by simp) (fun _ _ first others => List.forall_mem_cons.mpr ⟨first, others⟩)
    (fun _ _ value => value) document

/-! ## Drafts of whole documents -/

mutual

/-- The draft that shows all of a document. -/
def draft : Json → Draft
  | .null => .null
  | .bool b => .bool b
  | .int n => .int n
  | .float x => .float x
  | .text s => .text s
  | .list items => .list (itemDrafts items) none
  | .record fields => .record (fieldDrafts fields) none

/-- The drafts that show all of the items of a list. -/
def itemDrafts : List Json → List Draft
  | [] => []
  | item :: rest => draft item :: itemDrafts rest

/-- The drafts that show all of the fields of a record. -/
def fieldDrafts : List (String × Json) → List (Draft × Draft)
  | [] => []
  | field :: rest => fieldDraft field :: fieldDrafts rest

/-- The drafts that show the name and the document of a field. -/
def fieldDraft : String × Json → Draft × Draft
  | (name, value) => (.text name, draft value)

end

mutual

/-- Whether a document holds no doubles, and only integers that are read as integers. -/
def readable : Json → Bool
  | .null => true
  | .bool _ => true
  | .int n => fits n
  | .float _ => false
  | .text _ => true
  | .list items => readableItems items
  | .record fields => readableFields fields

/-- Whether all items of a list are readable. -/
def readableItems : List Json → Bool
  | [] => true
  | item :: rest => readable item && readableItems rest

/-- Whether all fields of a record are readable. -/
def readableFields : List (String × Json) → Bool
  | [] => true
  | field :: rest => readableField field && readableFields rest

/-- Whether the document of a field is readable. -/
def readableField : String × Json → Bool
  | (_, value) => readable value

end

/-! ## Layouts -/

/-- The white space between the parts of a document. -/
structure Layout where
  /-- What stands in front of an item, a field or a closing bracket of a level. -/
  gap : Nat → List Char
  /-- What stands behind a colon. -/
  colonGap : List Char
  isSpace_of_mem_gap : ∀ level, ∀ c ∈ gap level, isSpace c = true
  isSpace_of_mem_colonGap : ∀ c ∈ colonGap, isSpace c = true

namespace Layout

/-- No white space at all. -/
def tight : Layout :=
  { gap := fun _ => []
    colonGap := []
    isSpace_of_mem_gap := by simp
    isSpace_of_mem_colonGap := by simp }

/-- Every item or field on a line of its own. -/
def lines : Layout :=
  { gap := newLine
    colonGap := [' ']
    isSpace_of_mem_gap := by
      intro level c member
      rcases List.mem_cons.mp member with rfl | space
      · decide
      · rw [List.eq_of_mem_replicate space]
        decide
    isSpace_of_mem_colonGap := by
      intro c member
      rw [List.mem_singleton.mp member]
      decide }

@[simp]
theorem gap_tight (level : Nat) : tight.gap level = [] :=
  rfl

@[simp]
theorem colonGap_tight : tight.colonGap = [] :=
  rfl

@[simp]
theorem gap_lines (level : Nat) : lines.gap level = newLine level :=
  rfl

@[simp]
theorem colonGap_lines : lines.colonGap = [' '] :=
  rfl

end Layout

mutual

/-- A document in a layout, whose brackets stand at a level. -/
def written (layout : Layout) (level : Nat) : Json → List Char
  | .null => ['n', 'u', 'l', 'l']
  | .bool b => boolText b
  | .int n => integerText n
  | .float x => floatText x
  | .text s => quoted s.toList
  | .list items => '[' :: writtenItems layout level items
  | .record fields => '{' :: writtenFields layout level fields

/-- The items of a list and its closing bracket. -/
def writtenItems (layout : Layout) (level : Nat) : List Json → List Char
  | [] => [']']
  | [item] =>
      layout.gap (level + 1) ++ written layout (level + 1) item ++ layout.gap level ++ [']']
  | item :: rest =>
      layout.gap (level + 1) ++ written layout (level + 1) item ++
        ',' :: writtenItems layout level rest

/-- The fields of a record and its closing bracket. -/
def writtenFields (layout : Layout) (level : Nat) : List (String × Json) → List Char
  | [] => ['}']
  | [field] =>
      layout.gap (level + 1) ++ writtenField layout (level + 1) field ++ layout.gap level ++
        ['}']
  | field :: rest =>
      layout.gap (level + 1) ++ writtenField layout (level + 1) field ++
        ',' :: writtenFields layout level rest

/-- A field: its name, a colon and its document. -/
def writtenField (layout : Layout) (level : Nat) : String × Json → List Char
  | (name, value) =>
      quoted name.toList ++ ':' :: (layout.colonGap ++ written layout level value)

end

/-! ### The two written forms -/

theorem writtenItems_tight {level : Nat} {item : Json} {rest : List Json}
    (same : ∀ other ∈ item :: rest, ∀ level, written .tight level other = compact other) :
    writtenItems .tight level (item :: rest) =
      compact item ++ compactMoreItems rest ++ [']'] := by
  induction rest generalizing item with
  | nil =>
      have first := same item List.mem_cons_self (level + 1)
      simp [writtenItems, compactMoreItems, first]
  | cons second others ih =>
      have first := same item List.mem_cons_self (level + 1)
      have further := ih fun other member => same other (List.mem_cons_of_mem item member)
      simp [writtenItems, compactMoreItems, first, further]

theorem writtenField_tight (level : Nat) {field : String × Json}
    (same : ∀ level, written .tight level field.2 = compact field.2) :
    writtenField .tight level field = compactField field := by
  obtain ⟨name, value⟩ := field
  simp [writtenField, compactField, same level]

theorem writtenFields_tight {level : Nat} {field : String × Json}
    {rest : List (String × Json)}
    (same : ∀ other ∈ field :: rest, ∀ level, written .tight level other.2 = compact other.2) :
    writtenFields .tight level (field :: rest) =
      compactField field ++ compactMoreFields rest ++ ['}'] := by
  induction rest generalizing field with
  | nil =>
      have first := writtenField_tight (level + 1) (same field List.mem_cons_self)
      simp [writtenFields, compactMoreFields, first]
  | cons second others ih =>
      have first := writtenField_tight (level + 1) (same field List.mem_cons_self)
      have further := ih fun other member => same other (List.mem_cons_of_mem field member)
      simp [writtenFields, compactMoreFields, first, further]

/-- The compact form is the layout without white space. -/
theorem written_tight (level : Nat) (document : Json) :
    written .tight level document = compact document := by
  induction document using Json.induction generalizing level with
  | null => rfl
  | bool _ => rfl
  | int _ => rfl
  | float _ => rfl
  | text _ => rfl
  | list items ih =>
      match items with
      | [] => rfl
      | item :: rest =>
          rw [written, writtenItems_tight fun other member level => ih other member level,
            compact, compactItems]
  | record fields ih =>
      match fields with
      | [] => rfl
      | field :: rest =>
          rw [written, writtenFields_tight fun other member level => ih other member level,
            compact, compactFields]

theorem writtenItems_lines {level : Nat} {item : Json} {rest : List Json}
    (same : ∀ other ∈ item :: rest, ∀ level, written .lines level other = indented level other) :
    writtenItems .lines level (item :: rest) =
      newLine (level + 1) ++ indented (level + 1) item ++
        indentedMoreItems (level + 1) rest ++ newLine level ++ [']'] := by
  induction rest generalizing item with
  | nil =>
      have first := same item List.mem_cons_self (level + 1)
      simp [writtenItems, indentedMoreItems, first]
  | cons second others ih =>
      have first := same item List.mem_cons_self (level + 1)
      have further := ih fun other member => same other (List.mem_cons_of_mem item member)
      simp [writtenItems, indentedMoreItems, first, further]

theorem writtenField_lines (level : Nat) {field : String × Json}
    (same : ∀ level, written .lines level field.2 = indented level field.2) :
    writtenField .lines level field = indentedField level field := by
  obtain ⟨name, value⟩ := field
  simp [writtenField, indentedField, same level]

theorem writtenFields_lines {level : Nat} {field : String × Json}
    {rest : List (String × Json)}
    (same : ∀ other ∈ field :: rest, ∀ level,
      written .lines level other.2 = indented level other.2) :
    writtenFields .lines level (field :: rest) =
      newLine (level + 1) ++ indentedField (level + 1) field ++
        indentedMoreFields (level + 1) rest ++ newLine level ++ ['}'] := by
  induction rest generalizing field with
  | nil =>
      have first := writtenField_lines (level + 1) (same field List.mem_cons_self)
      simp [writtenFields, indentedMoreFields, first]
  | cons second others ih =>
      have first := writtenField_lines (level + 1) (same field List.mem_cons_self)
      have further := ih fun other member => same other (List.mem_cons_of_mem field member)
      simp [writtenFields, indentedMoreFields, first, further]

/-- The indented form is the layout with every item and field on a line of its own. -/
theorem written_lines (level : Nat) (document : Json) :
    written .lines level document = indented level document := by
  induction document using Json.induction generalizing level with
  | null => rfl
  | bool _ => rfl
  | int _ => rfl
  | float _ => rfl
  | text _ => rfl
  | list items ih =>
      match items with
      | [] => rfl
      | item :: rest =>
          rw [written, writtenItems_lines fun other member level => ih other member level,
            indented]
  | record fields ih =>
      match fields with
      | [] => rfl
      | field :: rest =>
          rw [written, writtenFields_lines fun other member level => ih other member level,
            indented]

end Dialogue.Json
