import Dialogue.Proofs.Answers
import Dialogue.Proofs.Effects
import Dialogue.Proofs.Json.Fields
import Dialogue.Proofs.SequenceDocuments

/-!
# From documents into states

A value that stands in the document of an action or a choice gets as far as the state.
Every value but null does so as it is, wherever its field stands in the record and whatever
else the document holds.  Null is taken for a value that is missing: there is nothing to
set, and a choice is remembered by its label.
-/

namespace Dialogue

open Decoder (ok_of_map parts_of_gives)

/-! ## What is read of a field -/

theorem Value.present?_eq (value : Value) :
    value.present? = if value.isNull then none else some value := by
  cases value <;> rfl

/-- A field that holds a value is read as the value, unless it is null. -/
theorem Value.present?_of_optional {room : Nat} {value : Value} {found : Option Value}
    (taken : Decoder.optional decode room value.toJson.draft = .ok found) :
    found = value.present? := by
  by_cases isNull : value = .null
  · subst isNull
    cases taken
    rfl
  · have present : Decoder.optional decode room value.toJson.draft =
        (decode room value.toJson.draft).map some := by
      cases value with
      | null => exact absurd rfl isNull
      | _ => rfl
    rw [present] at taken
    obtain ⟨inner, decoded, rfl⟩ := ok_of_map taken
    rw [present?_of_ne_null isNull, eq_of_decode_draft_toJson decoded]

/-! ## Choices and actions -/

/-- The other fields of a choice leave its value as it is. -/
theorem Choice.value_of_putField {name : String} (different : name ≠ "value") {room : Nat}
    {content : Draft} {change : Found String × Choice → Found String × Choice}
    (decoded : putField name room content = .ok change) (found : Found String × Choice) :
    (change found).2.value = found.2.value := by
  simp only [putField] at decoded
  split at decoded
  case h_3 => exact absurd rfl different
  case h_5 =>
    cases decoded
    rfl
  all_goals
    obtain ⟨_, -, rfl⟩ := ok_of_map decoded
    rfl

/-- The value of a choice is what stands in its field. -/
theorem Choice.value_of_gives {room : Nat} {draft : Draft} {choice : Choice} {value : Value}
    (taken : decode room draft = .ok choice) (gives : draft.Gives "value" value.toJson.draft) :
    choice.value = value.present? := by
  obtain ⟨inner, change, before, found, decoded, same, whole⟩ :=
    parts_of_gives (·.2.value) taken gives (by decide)
      fun _ different _ _ _ decoded => value_of_putField different decoded
  obtain ⟨read, optional, rfl⟩ := ok_of_map decoded
  rcases found with ⟨_ | text, parts⟩
  · cases whole
  · cases whole
    exact same.trans (Value.present?_of_optional optional)

/-- The other fields of an action leave its value as it is. -/
theorem Action.value_of_putField {name : String} (different : name ≠ "value") {room : Nat}
    {content : Draft} {change : Parts → Parts}
    (decoded : putField name room content = .ok change) (found : Parts) :
    (change found).value = found.value := by
  simp only [putField] at decoded
  split at decoded
  case h_3 => exact absurd rfl different
  case h_4 =>
    cases decoded
    rfl
  all_goals
    obtain ⟨_, -, rfl⟩ := ok_of_map decoded
    rfl

/-- The value of an action is what stands in its field. -/
theorem Action.value_of_gives {room : Nat} {draft : Draft} {action : Action} {value : Value}
    (taken : decode room draft = .ok action) (gives : draft.Gives "value" value.toJson.draft) :
    action.value = value.present? := by
  obtain ⟨inner, change, before, found, decoded, same, whole⟩ :=
    parts_of_gives (·.value) taken gives (by decide)
      fun _ different _ _ _ decoded => value_of_putField different decoded
  obtain ⟨read, optional, rfl⟩ := ok_of_map decoded
  rcases found with ⟨_ | kind, _ | key, kept⟩
  case some.some =>
    cases whole
    exact same.trans (Value.present?_of_optional optional)
  all_goals cases whole

/-! ## Choices of messages -/

theorem Message.choices_of_putOther {name : String} (different : name ≠ "choices") {room : Nat}
    {content : Draft} {change : Message → Message}
    (decoded : putOther name room content = .ok change) (found : Message) :
    (change found).choices = found.choices := by
  simp only [putOther] at decoded
  split at decoded
  case h_7 => exact absurd rfl different
  case h_10 =>
    cases decoded
    rfl
  all_goals
    obtain ⟨_, -, rfl⟩ := ok_of_map decoded
    rfl

/-- The other fields of a message leave its choices as they are. -/
theorem Message.choices_of_putField {name : String} (different : name ≠ "choices") {room : Nat}
    {content : Draft} {change : Parts → Parts}
    (decoded : putField name room content = .ok change) (found : Parts) :
    (change found).others.choices = found.others.choices := by
  simp only [putField] at decoded
  split at decoded
  case h_3 =>
    obtain ⟨put, placed, rfl⟩ := ok_of_map decoded
    exact choices_of_putOther different placed found.others
  all_goals
    obtain ⟨_, -, rfl⟩ := ok_of_map decoded
    rfl

/-- The choices of a message are what stands in their field. -/
theorem Message.choices_of_gives {room : Nat} {draft content : Draft} {message : Message}
    (taken : decode room draft = .ok message) (gives : draft.Gives "choices" content) :
    ∃ inner, Decoder.list Choice.decode inner content = .ok message.choices := by
  obtain ⟨inner, change, before, found, decoded, same, whole⟩ :=
    parts_of_gives (·.others.choices) taken gives (by decide)
      fun _ different _ _ _ decoded => choices_of_putField different decoded
  obtain ⟨put, placed, rfl⟩ := ok_of_map decoded
  obtain ⟨choices, listed, rfl⟩ := ok_of_map placed
  rcases found with ⟨_ | id, _ | kind, kept⟩
  case some.some =>
    cases whole
    have read : kept.choices = choices := same
    exact ⟨inner, listed.trans (congrArg Except.ok read.symm)⟩
  all_goals cases whole

/-- The choice at some place of a record of a message has a value. -/
def Draft.GivesChoice (draft : Draft) (index : Nat) (value : Value) : Prop :=
  ∃ choices stop choice, draft.Gives "choices" (.list choices stop) ∧
    choices[index]? = some choice ∧ choice.Gives "value" value.toJson.draft

/-- A message has the choice that stands in its record. -/
theorem Message.choice_of_givesChoice {room : Nat} {draft : Draft} {message : Message}
    {index : Nat} {value : Value} (taken : decode room draft = .ok message)
    (gives : draft.GivesChoice index value) :
    ∃ choice, message.choices[index]? = some choice ∧ choice.value = value.present? := by
  obtain ⟨choices, stop, part, listed, there, holds⟩ := gives
  obtain ⟨outer, walked⟩ := choices_of_gives taken listed
  obtain ⟨inner, choice, decoded, here⟩ := Decoder.list_getElem? walked there
  exact ⟨choice, here, Choice.value_of_gives decoded holds⟩

namespace Flow

/-! ## What becomes of a value -/

/-- The texts that stand for something else. -/
def computedNames : List String :=
  ["TODAY_DATE", "NEXT_ACTIVE_DATE", "NEXT_ACTIVE_WEEKDAY"]

/-- Every other value stands for itself. -/
theorem resolve_of_not_computed {value : Value}
    (ordinary : ∀ name ∈ computedNames, value ≠ .text name) (agenda : Agenda)
    (values : Dictionary Value) : agenda.resolve values value = value := by
  simp only [computedNames, List.forall_mem_cons] at ordinary
  obtain ⟨notToday, notDate, notWeekday, -⟩ := ordinary
  rw [Agenda.resolve]
  · exact notToday
  · exact notDate
  · exact notWeekday

/-- An action puts a value under a key of every state in memory, but null counts as a value
that is missing. -/
def PutsValue (action : Action) (key : String) (value : Value) : Prop :=
  ∀ (agenda : Agenda) (state : State), state.file = none →
    applyAction agenda action state =
      if value.isNull then .error (.invalidAction key .missingValue)
      else .ok (state.putting key (some (agenda.resolve state.values value)))

/-- Picking a choice of a message remembers a value under a key, and then the conversation
goes on behind the choice; but for null the label of the choice is remembered. -/
def RemembersValue (message : Message) (index : Nat) (key : String) (value : Value) : Prop :=
  ∃ choice, message.choices[index]? = some choice ∧
    ∀ (session : Session) (id : MessageId), session.engine.lookup id = some message →
      let remembered := if value.isNull then .text choice.text else value
      (session.engine.state.file = none →
        session.engine.state.set key remembered =
          .ok (session.engine.state.putting key (some remembered))) ∧
      ∀ state, session.engine.state.set key remembered = .ok state →
        state.get? key = some remembered ∧
          session.submit id (.choice index) =
            session.record (Engine.runFrom { session.engine with state }
              (choice.next.or (message.next.or (MessageId.following? id))))

theorem putsValue_of_present? {action : Action} {value : Value} (kind : action.kind = .set)
    (named : Text.trim action.key ≠ "") (held : action.value = value.present?) :
    PutsValue action (Text.trim action.key) value := by
  intro agenda state memory
  rw [Value.present?_eq] at held
  cases isNull : value.isNull with
  | true =>
      rw [isNull, if_pos rfl] at held
      simp [applyAction, named, kind, applySet, held]
  | false =>
      rw [isNull, if_neg Bool.false_ne_true] at held
      exact applyAction_set memory named kind held

theorem remembersValue_of_present? {message : Message} {index : Nat} {key : String}
    {choice : Choice} {value : Value} (kind : message.kind = .choice)
    (keyed : message.storeKey = some key) (named : Text.isBlankText key = false)
    (picked : message.choices[index]? = some choice) (held : choice.value = value.present?) :
    RemembersValue message index key value := by
  refine ⟨choice, picked, ?_⟩
  intro session id found
  have meant : choice.value.getD (.text choice.text) =
      if value.isNull then .text choice.text else value := by
    rw [held, Value.present?_eq]
    cases value.isNull <;> rfl
  constructor
  · intro memory
    exact State.set_inMemory memory named _
  · intro state written
    constructor
    · rw [State.get?_of_set written, if_pos rfl]
    · apply Session.submit_of_remembered found (.choice kind picked)
      rw [keyed, meant]
      exact written

/-- A value that an author writes reaches the state, unless it is null.

The value may stand in any record that an action or a message can be taken out of.  An
action that sets its key puts the value under the key, or what it stands for if it is one of
three texts; a choice that is picked has the value remembered before the conversation goes
on.  The documents of actions and messages are such records, compact or indented, if their
values have no doubles and leave one level of nesting to the record of the action, or three
to those around the value of a choice.  Null is taken for a missing value: the action fails,
and the label of the choice is remembered. -/
theorem authored_values_reach_state (value : Value) :
    (∀ {room : Nat} {draft : Draft} {action : Action},
      Action.decode room draft = .ok action → draft.Gives "value" value.toJson.draft →
      action.kind = .set → Text.trim action.key ≠ "" →
        PutsValue action (Text.trim action.key) value) ∧
    (∀ {room : Nat} {draft : Draft} {message : Message} {index : Nat} {key : String},
      Message.decode room draft = .ok message → draft.GivesChoice index value →
      message.kind = .choice → message.storeKey = some key → Text.isBlankText key = false →
        RemembersValue message index key value) ∧
    (∀ key, value.Legible 126 → Text.trim key ≠ "" →
      let document := Action.toJson { kind := .set, key, value := some value }
      ∃ action, Decoder.decodeText Action.decode document.toText = .ok action ∧
        Decoder.decodeText Action.decode document.toIndentedText = .ok action ∧
        PutsValue action (Text.trim key) value) ∧
    (∀ {message : Message} {index : Nat} {choice : Choice} {key : String},
      (∀ other ∈ message.values, other.Legible 124) →
      message.choices[index]? = some choice → choice.value = some value →
      message.kind = .choice → message.storeKey = some key → Text.isBlankText key = false →
        ∃ taken, Decoder.decodeText Message.decode message.toJson.toText = .ok taken ∧
          Decoder.decodeText Message.decode message.toJson.toIndentedText = .ok taken ∧
          RemembersValue taken index key value) ∧
    ((∀ name ∈ computedNames, value ≠ .text name) →
      ∀ (agenda : Agenda) (values : Dictionary Value), agenda.resolve values value = value) := by
  refine ⟨?_, ?_, ?_, ?_, resolve_of_not_computed⟩
  · intro room draft action taken gives kind named
    exact putsValue_of_present? kind named (Action.value_of_gives taken gives)
  · intro room draft message index key taken gives kind keyed named
    obtain ⟨choice, picked, held⟩ := Message.choice_of_givesChoice taken gives
    exact remembersValue_of_present? kind keyed named picked held
  · intro key legible named document
    have takes : Decoder.Takes Action.decode Json.maxDepth document
        { kind := .set, key, value := value.present? } := by
      apply Action.takes_asRead
      rintro _ ⟨⟩
      exact legible
    refine ⟨_, takes.decodeText_toText, takes.decodeText_toIndentedText, ?_⟩
    exact putsValue_of_present? rfl named rfl
  · intro message index choice key legible picked given kind keyed named
    have takes : Decoder.Takes Message.decode Json.maxDepth message.toJson message.asRead :=
      Message.takes_asRead legible
    have here : message.asRead.choices[index]? = some choice.asRead := by
      rw [Message.asRead, List.getElem?_map, picked]
      rfl
    have held : choice.asRead.value = value.present? := by
      rw [Choice.asRead, given]
      rfl
    refine ⟨_, takes.decodeText_toText, takes.decodeText_toIndentedText, ?_⟩
    exact remembersValue_of_present? kind keyed named here held

/-- A question for the mood; its choices stand for a list and for null. -/
def moodQuestion : Message :=
  { id := 3, kind := .choice, text := "How are you?", storeKey := some "mood"
    choices :=
      [{ text := "Calm", value := some (.list [.null, .int 7]) },
        { text := "No answer", value := some .null, next := some 9 }] }

/-- The same question without the second choice, in a record of another order with an unknown
field. -/
def moodRecord : Draft :=
  .record
    [(.text "choices",
        .list [.record [(.text "value", .list [.null, .int 7] none),
          (.text "text", .text "Calm")] none] none),
      (.text "note", .null), (.text "storeKey", .text "mood"), (.text "id", .int 3),
      (.text "type", .text "choice")] none

/-- A change of the mood in a record of another order. -/
def moodChange : Draft :=
  .record
    [(.text "value", .list [.null, .int 7] none), (.text "key", .text " mood "),
      (.text "type", .text "set")] none

/-- A list with null in it reaches the state from records and from texts. -/
theorem authored_values_reach_state_mood :
    let mood : Value := .list [.null, .int 7]
    (∃ action, Action.decode 126 moodChange = .ok action ∧ PutsValue action "mood" mood) ∧
    (∃ message, Message.decode 126 moodRecord = .ok message ∧
      RemembersValue message 0 "mood" mood) ∧
    (∃ action,
      Decoder.decodeText Action.decode
        (Action.toJson { kind := .set, key := " mood ", value := some mood }).toText =
          .ok action ∧
        PutsValue action "mood" mood) ∧
    ∃ message, Decoder.decodeText Message.decode moodQuestion.toJson.toText = .ok message ∧
      RemembersValue message 0 "mood" mood := by
  intro mood
  obtain ⟨actions, choices, actionTexts, choiceTexts, -⟩ := authored_values_reach_state mood
  have trimmed : Text.trim " mood " = "mood" := by decide
  have named : Text.trim " mood " ≠ "" := by decide
  have change : Action.decode 126 moodChange =
      .ok { kind := .set, key := " mood ", value := some mood } := rfl
  have question : Message.decode 126 moodRecord =
      .ok { id := 3, kind := .choice, storeKey := some "mood"
            choices := [{ text := "Calm", value := some mood }] } := rfl
  have offered : moodRecord.GivesChoice 0 mood :=
    ⟨_, _, _, ⟨_, _, rfl, .head _⟩, rfl, ⟨_, _, rfl, .head _⟩⟩
  have legible : ∀ other ∈ moodQuestion.values, other.Legible 124 := by decide
  have picked : moodQuestion.choices[0]? = some { text := "Calm", value := some mood } := rfl
  refine ⟨⟨_, change, ?_⟩, ⟨_, question, ?_⟩, ?_, ?_⟩
  · rw [← trimmed]
    exact actions change ⟨_, _, rfl, .head _⟩ rfl named
  · exact choices question offered rfl rfl (by decide)
  · obtain ⟨action, read, -, puts⟩ := actionTexts " mood " ⟨rfl, by decide⟩ named
    rw [trimmed] at puts
    exact ⟨action, read, puts⟩
  · obtain ⟨message, read, -, remembers⟩ :=
      choiceTexts legible picked rfl rfl rfl (by decide)
    exact ⟨message, read, remembers⟩

/-- Null is not set: the action is taken out of its document without a value and fails.
Null is not remembered: what is picked is remembered by its label. -/
theorem null_does_not_reach_state :
    (∃ action,
      Decoder.decodeText Action.decode
        "\x7b\"type\":\"set\",\"key\":\"mood\",\"value\":null\x7d" = .ok action ∧
        ∀ agenda, applyAction agenda action { values := .empty } =
          .error (.invalidAction "mood" .missingValue)) ∧
    ∃ message, Decoder.decodeText Message.decode moodQuestion.toJson.toText = .ok message ∧
      (message.choices[1]?).map Choice.storedValue = some (.text "No answer") := by
  constructor
  · have text : (Action.toJson { kind := .set, key := "mood", value := some .null }).toText =
        "\x7b\"type\":\"set\",\"key\":\"mood\",\"value\":null\x7d" := by
      decide +kernel
    have takes : Decoder.Takes Action.decode Json.maxDepth
        (Action.toJson { kind := .set, key := "mood", value := some .null })
        { kind := .set, key := "mood" } :=
      ⟨rfl, rfl⟩
    rw [← text]
    refine ⟨_, takes.decodeText_toText, ?_⟩
    intro agenda
    rfl
  · have legible : ∀ other ∈ moodQuestion.values, other.Legible 124 := by decide
    have takes : Decoder.Takes Message.decode Json.maxDepth moodQuestion.toJson
        moodQuestion.asRead :=
      Message.takes_asRead legible
    exact ⟨_, takes.decodeText_toText, rfl⟩

end Flow

end Dialogue
