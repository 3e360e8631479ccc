import Dialogue.Proofs.Json.Records
import Dialogue.Proofs.StoredValues
import Dialogue.Sequence.Document

/-!
# Sequences read back

The document of a sequence holds all of it.  Every part of a sequence is a record whose
fields are written in the order of their names, and putting them into the blank part one
after another gives the part that was written, since what is left out is what the blank
part has in its place.

Only the values of choices and actions can get lost on the way: null is taken for a value
that is missing, a double may be read as another number, and five levels of nesting go to
the records and lists around a value.  What is read of the document of a message is hence
the message without its nulls.
-/

namespace Dialogue

open Decoder (Takes Fills)

/-! ## Values of fields -/

/-- A value that a field keeps when it may go down into `room` levels of nesting. -/
structure Value.Kept (room : Nat) (value : Value) : Prop where
  present : value ≠ .null
  noFloat : value.hasFloat = false
  shallow : value.depth ≤ room

instance (room : Nat) (value : Value) : Decidable (value.Kept room) :=
  decidable_of_iff (value.isNull = false ∧ value.hasFloat = false ∧ value.depth ≤ room) <| by
    constructor
    · rintro ⟨present, noFloat, shallow⟩
      refine ⟨?_, noFloat, shallow⟩
      rintro rfl
      cases present
    · rintro ⟨present, noFloat, shallow⟩
      refine ⟨?_, noFloat, shallow⟩
      cases value with
      | null => exact absurd rfl present
      | _ => rfl

/-- A value that can be read from a field that may go down into `room` levels of nesting. -/
structure Value.Legible (room : Nat) (value : Value) : Prop where
  noFloat : value.hasFloat = false
  shallow : value.depth ≤ room

instance (room : Nat) (value : Value) : Decidable (value.Legible room) :=
  decidable_of_iff (value.hasFloat = false ∧ value.depth ≤ room) <| by
    constructor
    · rintro ⟨noFloat, shallow⟩
      exact ⟨noFloat, shallow⟩
    · rintro ⟨noFloat, shallow⟩
      exact ⟨noFloat, shallow⟩

theorem Value.Kept.legible {room : Nat} {value : Value} (kept : value.Kept room) :
    value.Legible room :=
  ⟨kept.noFloat, kept.shallow⟩

/-- The value, unless it is null. -/
def Value.present? : Value → Option Value
  | .null => none
  | value => some value

theorem Value.present?_of_ne_null {value : Value} (present : value ≠ .null) :
    value.present? = some value := by
  cases value with
  | null => exact absurd rfl present
  | _ => rfl

/-- A value that may be missing is what it was if it is not null. -/
theorem Value.bind_present? {value : Option Value}
    (present : ∀ inner, value = some inner → inner ≠ .null) :
    value.bind Value.present? = value := by
  cases value with
  | none => rfl
  | some inner => exact Value.present?_of_ne_null (present inner rfl)

/-- A field that holds null is read as one that is missing. -/
theorem Value.Legible.takes_toJson {room : Nat} {value : Value} (legible : value.Legible room) :
    Takes (Decoder.optional Value.decode) room value.toJson value.present? := by
  by_cases isNull : value = .null
  · subst isNull
    exact ⟨rfl, rfl⟩
  · have takes : Takes Value.decode room value.toJson value :=
      ⟨Value.readable_toJson legible.noFloat, Value.decode_draft_toJson legible.shallow⟩
    have notNull : value.toJson ≠ .null := by
      cases value with
      | null => exact absurd rfl isNull
      | _ => simp [toJson]
    rw [Value.present?_of_ne_null isNull]
    exact takes.optional notNull

/-! ## Scalars of fields -/

theorem MessageKind.takes_toJson (kind : MessageKind) (room : Nat) :
    Takes MessageKind.decode room kind.toJson kind := by
  apply Decoder.takes_oneOf
  cases kind <;> rfl

theorem ActionKind.takes_toJson (kind : ActionKind) (room : Nat) :
    Takes ActionKind.decode room kind.toJson kind := by
  apply Decoder.takes_oneOf
  cases kind <;> rfl

theorem takes_optional_text (room : Nat) (s : String) :
    Takes (Decoder.optional .text) room (.text s) (some s) :=
  (Decoder.takes_text room s).optional (by simp)

theorem MessageId.takes_toJson (id : MessageId) (room : Nat) :
    Takes (Decoder.optional .word) room id.toJson (some id) :=
  (Decoder.takes_word room id).optional (by simp [Json.nat])

/-! ## Choices, routes and actions -/

namespace Choice

/-- What is read of the document of a choice: null is no value. -/
def asRead (choice : Choice) : Choice :=
  { choice with value := choice.value.bind Value.present? }

theorem asRead_of_present {choice : Choice}
    (present : ∀ value, choice.value = some value → value ≠ .null) :
    choice.asRead = choice := by
  rw [asRead, Value.bind_present? present]

/-- A choice is taken out of its document again, but without a value that is null. -/
theorem takes_asRead {choice : Choice} {room : Nat}
    (legible : ∀ value, choice.value = some value → value.Legible room) :
    Takes decode (room + 1) choice.toJson choice.asRead := by
  -- What is put in stands on the left, and what is still to be put in, at last nothing, on
  -- the right of it.
  rw [toJson, ← List.append_nil (_ ++ _)]
  simp only [List.append_assoc]
  apply Fills.record (by decide)
  · apply Fills.required (fun _ => rfl) (Decoder.takes_text room _)
    apply Fills.optional (fun _ => rfl) (fun key _ => takes_optional_text room key) rfl
    apply Fills.optional_bind (fun _ => rfl)
      (fun value there => (legible value there).takes_toJson) rfl
    exact Fills.optional (fun _ => rfl) (fun id _ => id.takes_toJson room) rfl .done
  · rfl

end Choice

namespace Route

/-- A route is taken out of its document again. -/
theorem takes_toJson (route : Route) (room : Nat) :
    Takes decode (room + 1) route.toJson route := by
  rw [toJson, ← List.append_nil (_ ++ _)]
  simp only [List.append_assoc]
  apply Fills.record (by decide)
  · apply Fills.optional (fun _ => rfl) (fun text _ => takes_optional_text room text) rfl
    apply Fills.required (fun _ => rfl) (Decoder.takes_bool room _)
    apply Fills.optional (fun _ => rfl) (fun id _ => id.takes_toJson room) rfl
    exact Fills.optional (fun _ => rfl) (fun id _ => takes_optional_text room id) rfl .done
  · rfl

end Route

namespace Action

/-- What is read of the document of an action: null is no value. -/
def asRead (action : Action) : Action :=
  { action with value := action.value.bind Value.present? }

theorem asRead_of_present {action : Action}
    (present : ∀ value, action.value = some value → value ≠ .null) :
    action.asRead = action := by
  rw [asRead, Value.bind_present? present]

/-- An action is taken out of its document again, but without a value that is null. -/
theorem takes_asRead {action : Action} {room : Nat}
    (legible : ∀ value, action.value = some value → value.Legible room) :
    Takes decode (room + 1) action.toJson action.asRead := by
  rw [toJson, ← List.append_nil (_ ++ _)]
  simp only [List.append_assoc]
  apply Fills.record (by decide)
  · apply Fills.required (fun _ => rfl) (action.kind.takes_toJson room)
    apply Fills.required (fun _ => rfl) (Decoder.takes_text room _)
    exact Fills.optional_bind (fun _ => rfl)
      (fun value there => (legible value there).takes_toJson) rfl .done
  · rfl

end Action

/-! ## Messages and sequences -/

namespace Message

/-- The values of the choices and actions of a message. -/
def values (message : Message) : List Value :=
  message.choices.filterMap (·.value) ++ message.actions.filterMap (·.value)

/-- Fields other than the number and the kind are put into the other parts of a message. -/
theorem fills_others {room : Nat} {names : List String} {fields : List (String × Json)}
    {id : Found MessageId} {kind : Found MessageKind} {found after : Message}
    (noNumber : "id" ∉ names) (noKind : "type" ∉ names)
    (fills : Fills putOther room names fields found after) :
    Fills putField room names fields ⟨id, kind, found⟩ ⟨id, kind, after⟩ := by
  induction fills with
  | done => exact .done
  | skip rest ih =>
      exact .skip (ih (List.not_mem_of_not_mem_cons noNumber)
        (List.not_mem_of_not_mem_cons noKind))
  | @field name names document fields change found after takes rest ih =>
      have others : ∀ draft, putField name room draft =
          (putOther name room draft).map fun change found =>
            { found with others := change found.others } := by
        intro draft
        simp only [putField]
        split
        · exact absurd List.mem_cons_self noNumber
        · exact absurd List.mem_cons_self noKind
        · rfl
      exact .required others takes (ih (List.not_mem_of_not_mem_cons noNumber)
        (List.not_mem_of_not_mem_cons noKind))

/-- What is read of the document of a message: null is no value. -/
def asRead (message : Message) : Message :=
  { message with
    choices := message.choices.map Choice.asRead
    actions := message.actions.map Action.asRead }

/-- A message is taken out of its document again, but without the values that are null. -/
theorem takes_asRead {message : Message} {room : Nat}
    (legible : ∀ value ∈ message.values, value.Legible room) :
    Takes decode (room + 3) message.toJson message.asRead := by
  have choices : Takes (.list Choice.decode) (room + 2)
      (.list (message.choices.map Choice.toJson)) (message.choices.map Choice.asRead) := by
    apply Decoder.takes_list_map
    intro choice member
    apply Choice.takes_asRead
    intro value there
    exact legible value
      (List.mem_append_left _ (List.mem_filterMap.mpr ⟨choice, member, there⟩))
  have routes : Takes (.list Route.decode) (room + 2)
      (.list (message.routes.map Route.toJson)) message.routes :=
    Decoder.takes_list fun route _ => route.takes_toJson room
  have actions : Takes (.list Action.decode) (room + 2)
      (.list (message.actions.map Action.toJson)) (message.actions.map Action.asRead) := by
    apply Decoder.takes_list_map
    intro action member
    apply Action.takes_asRead
    intro value there
    exact legible value
      (List.mem_append_right _ (List.mem_filterMap.mpr ⟨action, member, there⟩))
  rw [toJson, ← List.append_nil (_ ++ _)]
  simp only [List.append_assoc]
  apply Fills.record (by decide)
  · apply Fills.required (fun _ => rfl) (Decoder.takes_word _ message.id)
    apply Fills.required (fun _ => rfl) (message.kind.takes_toJson _)
    apply fills_others (by decide) (by decide)
    apply Fills.required (fun _ => rfl) (Decoder.takes_text _ _)
    apply Fills.required (fun _ => rfl) (Decoder.takes_longWord _ message.delay)
    apply Fills.optional (fun _ => rfl) (fun id _ => id.takes_toJson _) rfl
    apply Fills.optional (fun _ => rfl) (fun id _ => takes_optional_text _ id) rfl
    apply Fills.optional (fun _ => rfl) (fun key _ => takes_optional_text _ key) rfl
    apply Fills.optional (fun _ => rfl) (fun key _ => takes_optional_text _ key) rfl
    apply Fills.list (fun _ => rfl) choices rfl
    apply Fills.list (fun _ => rfl) routes rfl
    exact Fills.list (fun _ => rfl) actions rfl .done
  · rfl

/-- A message whose values are kept is taken out of its document again. -/
theorem takes_toJson {message : Message} {room : Nat}
    (kept : ∀ value ∈ message.values, value.Kept room) :
    Takes decode (room + 3) message.toJson message := by
  have choices : message.choices.map Choice.asRead = message.choices := by
    refine (List.map_congr_left ?_).trans (List.map_id _)
    intro choice member
    apply Choice.asRead_of_present
    intro value there
    exact (kept value
      (List.mem_append_left _ (List.mem_filterMap.mpr ⟨choice, member, there⟩))).present
  have actions : message.actions.map Action.asRead = message.actions := by
    refine (List.map_congr_left ?_).trans (List.map_id _)
    intro action member
    apply Action.asRead_of_present
    intro value there
    exact (kept value
      (List.mem_append_right _ (List.mem_filterMap.mpr ⟨action, member, there⟩))).present
  have taken := takes_asRead fun value member => (kept value member).legible
  rwa [asRead, choices, actions] at taken

end Message

namespace Sequence

/-- The values of the choices and actions of all messages. -/
def values (sequence : Sequence) : List Value :=
  sequence.messages.flatMap Message.values

/-- A sequence is taken out of its document again if its values are kept. -/
theorem takes_toJson {sequence : Sequence} {room : Nat}
    (kept : ∀ value ∈ sequence.values, value.Kept room) :
    Takes decode (room + 5) sequence.toJson sequence := by
  have messages : Takes (.list Message.decode) (room + 4)
      (.list (sequence.messages.map Message.toJson)) sequence.messages := by
    apply Decoder.takes_list
    intro message member
    apply Message.takes_toJson
    intro value there
    exact kept value (List.mem_flatMap.mpr ⟨message, member, there⟩)
  apply Fills.record (by decide)
  · apply Fills.required (fun _ => rfl) (Decoder.takes_text _ _)
    apply Fills.required (fun _ => rfl) (Decoder.takes_text _ _)
    apply Fills.required (fun _ => rfl) (Decoder.takes_text _ _)
    exact Fills.required (fun _ => rfl) messages .done
  · rfl

/-- A sequence is read back from the text of its document, compact or indented, unless a
choice or an action holds null, a double, or lists nested more than 122 deep. -/
theorem decodeText_toJson {sequence : Sequence}
    (kept : ∀ value ∈ sequence.values, value.Kept 122) :
    Decoder.decodeText decode sequence.toJson.toText = .ok sequence ∧
      Decoder.decodeText decode sequence.toJson.toIndentedText = .ok sequence := by
  have taken : Takes decode Json.maxDepth sequence.toJson sequence := takes_toJson kept
  exact ⟨taken.decodeText_toText, taken.decodeText_toIndentedText⟩

/-- A sequence that uses every field, with numbers at their bounds and texts that have to be
escaped. -/
def ticketDesk : Sequence :=
  { id := "tickets", name := "Ticket \"desk\"", description := "Line one\nline two \\ é"
    messages := [
      { id := 1, kind := .choice, text := "Which seat?", delay := 18446744073709551615
        storeKey := some "seat", contentKey := some "desk.seat"
        choices := [
          { text := "Stalls", contentKey := some "desk.stalls", value := some (.int (-3))
            next := some 4294967295 },
          { text := "Any", value := some (.list [.null, .list [], .text "\t", .bool true]) }] },
      { id := 4294967295, kind := .dataAction
        actions := [{ kind := .increment, key := "sold" },
          { kind := .set, key := "note", value := some (.text "") }] },
      { id := 3, kind := .autoroute, next := some 1, sequence := some ""
        routes := [.when "sold > 5" 1, .fallbackSequence "closing", {}] }] }

theorem decodeText_toJson_ticketDesk :
    (∀ value ∈ ticketDesk.values, value.Kept 122) ∧
      Decoder.decodeText decode ticketDesk.toJson.toText = .ok ticketDesk ∧
      Decoder.decodeText decode ticketDesk.toJson.toIndentedText = .ok ticketDesk := by
  have kept : ∀ value ∈ ticketDesk.values, value.Kept 122 := by decide
  exact ⟨kept, decodeText_toJson kept⟩

end Sequence

end Dialogue
