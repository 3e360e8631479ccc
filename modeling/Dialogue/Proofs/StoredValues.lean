import Dialogue.Proofs.Dictionary
import Dialogue.Proofs.Json.Reading
import Dialogue.Storage.State

/-!
# Values in files

The document of a value holds all of it: the draft of the document has no fault unless the
lists in the value are nested too deeply, and stands for the value.  So values without
doubles can be read from the file that they were written to, which leaves one level of
nesting to the record of them.
-/

namespace Dialogue

namespace Value

/-- What holds of all items of a list and hence of the list holds of every value. -/
theorem induction {motive : Value → Prop} (null : motive .null)
    (bool : ∀ b, motive (.bool b)) (int : ∀ n, motive (.int n))
    (float : ∀ x, motive (.float x)) (text : ∀ s, motive (.text s))
    (list : ∀ items, (∀ item ∈ items, motive item) → motive (.list items))
    (value : Value) : motive value :=
  @Value.rec motive (fun items => ∀ item ∈ items, motive item) null bool int float text list
    (by simp) (fun _ _ first others => List.forall_mem_cons.mpr ⟨first, others⟩) value

mutual

/-- The number of lists that are nested in each other. -/
def depth : Value → Nat
  | .null => 0
  | .bool _ => 0
  | .int _ => 0
  | .float _ => 0
  | .text _ => 0
  | .list items => itemsDepth items + 1

/-- The depth of the deepest item of a list. -/
def itemsDepth : List Value → Nat
  | [] => 0
  | item :: rest => max (depth item) (itemsDepth rest)

end

mutual

/-- Whether a value is a double or holds one. -/
def hasFloat : Value → Bool
  | .null => false
  | .bool _ => false
  | .int _ => false
  | .float _ => true
  | .text _ => false
  | .list items => anyHasFloat items

/-- Whether one of the items of a list is a double or holds one. -/
def anyHasFloat : List Value → Bool
  | [] => false
  | item :: rest => hasFloat item || anyHasFloat rest

end

/-- Integers of 64 bits are read as integers. -/
theorem fits_toInt (n : Int64) : Json.fits n.toInt = true := by
  have lower := n.le_toInt
  have upper := n.toInt_lt
  simp only [Json.fits, UInt64.size, Bool.and_eq_true, decide_eq_true_eq]
  omega

theorem ofInt?_toInt (n : Int64) : ofInt? n.toInt = some (.int n) := by
  have lower := n.le_toInt
  have upper := n.toInt_lt
  have inRange : (Int64.minValue.toInt ≤ n.toInt && n.toInt ≤ Int64.maxValue.toInt) = true := by
    simp only [Int64.toInt_minValue, Int64.toInt_maxValue, Bool.and_eq_true, decide_eq_true_eq]
    omega
  rw [ofInt?, if_pos inRange, Int64.ofInt_toInt]

theorem ofInt_toInt (n : Int64) : ofInt n.toInt = .int n := by
  rw [ofInt, ofInt?_toInt, Option.getD_some]

/-- The document of a value without doubles is readable. -/
theorem readable_toJson {value : Value} (noFloat : value.hasFloat = false) :
    value.toJson.readable = true := by
  induction value using Value.induction with
  | null => rfl
  | bool _ => rfl
  | int n => exact fits_toInt n
  | float x => cases noFloat
  | text _ => rfl
  | list items ih =>
      rw [hasFloat] at noFloat
      rw [toJson, Json.readable]
      induction items with
      | nil => rfl
      | cons item rest step =>
          rw [anyHasFloat, Bool.or_eq_false_iff] at noFloat
          have others := step (fun other member => ih other (List.mem_cons_of_mem item member))
            noFloat.2
          rw [itemsToJson, Json.readableItems, ih item List.mem_cons_self noFloat.1, others]
          rfl

/-- The draft of a value has a fault only if the lists in it are nested too deeply. -/
theorem fault?_draft_toJson (value : Value) (room : Nat) :
    value.toJson.draft.fault? room = none ↔ value.depth ≤ room := by
  induction value using Value.induction generalizing room with
  | null => simp [toJson, Json.draft, Draft.fault?, depth]
  | bool _ => simp [toJson, Json.draft, Draft.fault?, depth]
  | int _ => simp [toJson, Json.draft, Draft.fault?, depth]
  | float _ => simp [toJson, Json.draft, Draft.fault?, depth]
  | text _ => simp [toJson, Json.draft, Draft.fault?, depth]
  | list items ih =>
      rw [toJson, Json.draft, depth]
      cases room with
      | zero => simp [Draft.fault?]
      | succ room =>
          have parts : Draft.itemsFault? room (Json.itemDrafts (itemsToJson items)) = none ↔
              itemsDepth items ≤ room := by
            induction items with
            | nil => simp [itemsToJson, Json.itemDrafts, Draft.itemsFault?, itemsDepth]
            | cons item rest step =>
                have others := step fun other member =>
                  ih other (List.mem_cons_of_mem item member)
                rw [itemsToJson, Json.itemDrafts, Draft.itemsFault?, Option.or_eq_none_iff,
                  ih item List.mem_cons_self, others, itemsDepth, Nat.max_le]
          rw [Draft.fault?, Option.or_none, parts, Nat.succ_le_succ_iff]

/-- The draft of a value stands for the value. -/
theorem ofDraft?_draft_toJson (value : Value) : ofDraft? value.toJson.draft = some value := by
  induction value using Value.induction with
  | null => rfl
  | bool _ => rfl
  | int n => rw [toJson, Json.draft, ofDraft?, ofInt_toInt]
  | float _ => rfl
  | text _ => rfl
  | list items ih =>
      have parts : itemsOfDraft? (Json.itemDrafts (itemsToJson items)) = some items := by
        induction items with
        | nil => rfl
        | cons item rest step =>
            have others := step fun other member => ih other (List.mem_cons_of_mem item member)
            simp only [itemsToJson, Json.itemDrafts, itemsOfDraft?, others,
              ih item List.mem_cons_self]
      rw [toJson, Json.draft, ofDraft?, parts, Option.map_some]

/-- A value is taken out of its draft again, if its lists are not nested too deeply. -/
theorem decode_draft_toJson {value : Value} {room : Nat} (shallow : value.depth ≤ room) :
    decode room value.toJson.draft = .ok value := by
  rw [decode, (fault?_draft_toJson value room).mpr shallow]
  simp only [ofDraft?_draft_toJson]

/-- No other value is taken out of the draft of a value. -/
theorem eq_of_decode_draft_toJson {value taken : Value} {room : Nat}
    (decoded : decode room value.toJson.draft = .ok taken) : taken = value := by
  rw [decode] at decoded
  cases fault : value.toJson.draft.fault? room with
  | some _ =>
      rw [fault] at decoded
      cases decoded
  | none =>
      simp only [fault, ofDraft?_draft_toJson] at decoded
      cases decoded
      rfl

/-! ## Values that can be stored -/

/-- A value that a file can hold: it has no doubles, and at most 126 lists nested in each
other. -/
def Storable (value : Value) : Prop :=
  value.hasFloat = false ∧ value.depth ≤ 126

instance (value : Value) : Decidable value.Storable :=
  inferInstanceAs (Decidable (_ ∧ _))

theorem readableFields_of_storable {entries : List (String × Value)}
    (storable : ∀ entry ∈ entries, entry.2.Storable) :
    Json.readableFields (entries.map fun entry => (entry.1, entry.2.toJson)) = true := by
  rw [Json.readableFields_iff]
  intro field member
  obtain ⟨entry, listed, rfl⟩ := List.mem_map.mp member
  exact readable_toJson (storable entry listed).1

/-- Taking entries out of the draft of a record puts them in one after another. -/
theorem entries_fieldDrafts {entries : List (String × Value)} {room : Nat}
    (shallow : ∀ entry ∈ entries, entry.2.depth ≤ room) (found : Dictionary Value) :
    Decoder.entries (decode room) none found
        (Json.fieldDrafts (entries.map fun entry => (entry.1, entry.2.toJson))) =
      .ok (entries.foldl (fun d entry => d.insert entry.1 entry.2) found) := by
  induction entries generalizing found with
  | nil => rfl
  | cons entry rest ih =>
      have value := decode_draft_toJson (shallow entry List.mem_cons_self)
      rw [List.map_cons, Json.fieldDrafts, Json.fieldDraft, Decoder.entries]
      simp only [value]
      exact ih (fun other member => shallow other (List.mem_cons_of_mem entry member)) _

end Value

/-! ## Files of values -/

namespace State

/-- The text of a file of values holds the values. -/
theorem decodeText_fileText {values : Dictionary Value}
    (storable : ∀ entry ∈ values.entries, entry.2.Storable) :
    Decoder.decodeText (.dictionary Value.decode) (fileText values) = .ok values := by
  have readable : (Value.stateToJson values).readable = true :=
    Value.readableFields_of_storable storable
  have read : Json.readDraft (fileText values).toList =
      ((Value.stateToJson values).draft, some []) := by
    rw [fileText, Json.toIndentedText, String.toList_ofList]
    exact Json.readDraft_indented readable 0
  have taken : Decoder.dictionary Value.decode Json.maxDepth (Value.stateToJson values).draft =
      .ok values := by
    have found := Value.entries_fieldDrafts
      (fun entry member => (storable entry member).2) .empty
    have same : (values.entries.foldl (fun d entry => d.insert entry.1 entry.2) .empty) =
        values :=
      Dictionary.ext (Dictionary.entries_foldl_insert values.ascending)
    rw [same] at found
    exact found
  simp only [Decoder.decodeText, read, taken, Option.map_some]
  rfl

/-- The text of a file of values is not blank. -/
theorem isBlankText_fileText (values : Dictionary Value) :
    Text.isBlankText (fileText values) = false := by
  obtain ⟨rest, start⟩ : ∃ rest, (fileText values).toList = '{' :: rest := by
    rw [fileText, Json.toIndentedText, String.toList_ofList, ← Json.written_lines,
      Value.stateToJson, Json.written]
    exact ⟨_, rfl⟩
  rw [Text.isBlankText, start, List.all_cons]
  rfl

end State

end Dialogue
