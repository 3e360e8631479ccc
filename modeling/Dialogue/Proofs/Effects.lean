import Dialogue.Flow.Action
import Dialogue.Proofs.Dictionary
import Dialogue.Proofs.Text.Trimming

/-!
# Actions in memory

A state that is kept in memory alone is its dictionary, and any key with a name can be
written there.  An action fails, or it puts something under its key or forgets the key.
Which of these it does depends on two entries: the one under its key, and the one that
holds the active days.
-/

namespace Dialogue

/-! ## Putting and forgetting -/

namespace Dictionary

variable {α : Type}

/-- Store a value under a key, or forget the key. -/
def put (d : Dictionary α) (key : String) (content : Option α) : Dictionary α :=
  match content with
  | some value => d.insert key value
  | none => d.erase key

theorem get?_put (d : Dictionary α) (key other : String) (content : Option α) :
    (d.put key content).get? other = if other = key then content else d.get? other := by
  cases content with
  | none => exact get?_erase d key other
  | some value => exact get?_insert d key other value

/-- What is put last under a key counts. -/
theorem put_put (d : Dictionary α) (key : String) (first second : Option α) :
    (d.put key first).put key second = d.put key second := by
  apply eq_of_get?_eq
  intro other
  rw [get?_put, get?_put, get?_put]
  by_cases same : other = key
  · rw [if_pos same, if_pos same]
  · rw [if_neg same, if_neg same, if_neg same]

end Dictionary

namespace State

/-- A state with something else under a key, or with the key forgotten. -/
def putting (state : State) (key : String) (content : Option Value) : State :=
  { state with values := state.values.put key content }

theorem get?_putting (state : State) (key other : String) (content : Option Value) :
    (state.putting key content).get? other =
      if other = key then content else state.get? other :=
  Dictionary.get?_put state.values key other content

theorem putting_putting (state : State) (key : String) (first second : Option Value) :
    (state.putting key first).putting key second = state.putting key second := by
  simp only [putting, Dictionary.put_put]

variable {state : State}

/-- In memory, values can always be replaced. -/
theorem replace_inMemory (memory : state.file = none) (values : Dictionary Value) :
    state.replace values = .ok { state with values } := by
  rw [replace, memory]

theorem set_inMemory (memory : state.file = none) {key : String}
    (named : Text.isBlankText key = false) (value : Value) :
    state.set key value = .ok (state.putting key (some value)) := by
  rw [set, named, replace_inMemory memory]
  rfl

/-- A key that is not there is forgotten as well. -/
theorem remove_inMemory (memory : state.file = none) (key : String) :
    state.remove key = .ok (state.putting key none) := by
  rw [remove]
  split
  · exact replace_inMemory memory _
  · rename_i absent
    have missing : state.values.get? key = none := by
      simpa [Dictionary.contains] using absent
    have unchanged : state.values.put key none = state.values := by
      apply Dictionary.eq_of_get?_eq
      intro other
      rw [Dictionary.get?_put]
      split
      · rename_i same
        rw [same, missing]
      · rfl
    rw [putting, unchanged]

end State

namespace Flow

variable {agenda : Agenda} {action : Action} {state first second : State}

/-! ## Actions of one kind -/

theorem isBlankText_trim_of_ne_empty {key : String} (named : Text.trim key ≠ "") :
    Text.isBlankText (Text.trim key) = false := by
  rw [Text.isBlankText_trim, ← Bool.not_eq_true, ← Text.trim_eq_empty_iff]
  exact named

/-- Setting a key in memory puts what the value stands for under it. -/
theorem applyAction_set (memory : state.file = none) (named : Text.trim action.key ≠ "")
    (kind : action.kind = .set) {value : Value} (given : action.value = some value) :
    applyAction agenda action state =
      .ok (state.putting (Text.trim action.key)
        (some (agenda.resolve state.values value))) := by
  have writable := isBlankText_trim_of_ne_empty named
  simp [applyAction, named, kind, applySet, given, State.set_inMemory memory writable, changed,
    Except.mapError]

/-- Counting in memory puts the new number under the key, if there is one. -/
theorem applyCount_inMemory (memory : state.file = none) {key : String}
    (named : Text.isBlankText key = false) (lower : Bool) (amount : Option Value) :
    applyCount lower key amount state =
      if (amount.getD (.int 1)).isNumber then
        match counted? lower ((state.get? key).getD .null) (amount.getD (.int 1)) with
        | none => .error (.invalidAction key .overflow)
        | some next => .ok (state.putting key (some next))
      else
        .error (.invalidAction key (.amountNotNumeric (amount.getD (.int 1)).kindName)) := by
  cases numeric : (amount.getD (.int 1)).isNumber with
  | false => simp [applyCount, numeric]
  | true =>
      simp only [applyCount, numeric, Bool.not_true, Bool.false_eq_true, if_false, if_true]
      cases counted? lower ((state.get? key).getD .null) (amount.getD (.int 1)) with
      | none => rfl
      | some next =>
          simp only [State.set_inMemory memory named]
          rfl

/-- Resetting a key in memory puts the zero of its kind under it, or forgets it. -/
theorem applyReset_inMemory (memory : state.file = none) {key : String}
    (named : Text.isBlankText key = false) :
    applyReset key state =
      .ok (state.putting key
        (((state.get? key).filter fun value => !value.isNull).map Value.zeroLike)) := by
  rw [applyReset]
  split
  · rename_i value found
    rw [found, State.set_inMemory memory named]
    rfl
  · rename_i missing
    rw [missing, State.remove_inMemory memory]
    rfl

/-! ## What an action depends on -/

/-- What a value stands for depends on the remembered active days only. -/
theorem resolve_congr {one other : Dictionary Value}
    (days : one.get? agenda.activeDaysKey = other.get? agenda.activeDaysKey)
    (value : Value) : agenda.resolve one value = agenda.resolve other value := by
  have active : agenda.activeDays one = agenda.activeDays other := by
    rw [Agenda.activeDays, Agenda.activeDays, Agenda.rememberedDays, Agenda.rememberedDays, days]
  have next : agenda.nextActiveDate one = agenda.nextActiveDate other := by
    rw [Agenda.nextActiveDate, Agenda.nextActiveDate, active]
  simp only [Agenda.resolve, next]

/-- An action does the same to states in memory that agree on its key and on the active
days: it fails for the same reason, or puts the same under its key. -/
theorem exists_effect (memoryFirst : first.file = none) (memorySecond : second.file = none)
    (here : first.get? (Text.trim action.key) = second.get? (Text.trim action.key))
    (days : first.get? agenda.activeDaysKey = second.get? agenda.activeDaysKey) :
    ∃ effect : Except Error (Option Value),
      applyAction agenda action first = effect.map (first.putting (Text.trim action.key)) ∧
        applyAction agenda action second =
          effect.map (second.putting (Text.trim action.key)) := by
  by_cases unnamed : Text.trim action.key = ""
  · refine ⟨.error (.invalidAction action.key .emptyKey), ?_, ?_⟩ <;>
      simp [applyAction, unnamed, Except.map]
  · have writable := isBlankText_trim_of_ne_empty unnamed
    have counts (lower : Bool) : ∃ effect : Except Error (Option Value),
        applyCount lower (Text.trim action.key) action.value first =
            effect.map (first.putting (Text.trim action.key)) ∧
          applyCount lower (Text.trim action.key) action.value second =
            effect.map (second.putting (Text.trim action.key)) := by
      rw [applyCount_inMemory memoryFirst writable, applyCount_inMemory memorySecond writable,
        here]
      split
      · split
        · exact ⟨.error _, rfl, rfl⟩
        · exact ⟨.ok _, rfl, rfl⟩
      · exact ⟨.error _, rfl, rfl⟩
    have named : (Text.trim action.key).isEmpty = false := by simpa using unnamed
    cases kind : action.kind with
    | set =>
        cases given : action.value with
        | none =>
            refine ⟨.error (.invalidAction (Text.trim action.key) .missingValue), ?_, ?_⟩ <;>
              simp [applyAction, named, kind, given, applySet, Except.map]
        | some value =>
            refine ⟨.ok (some (agenda.resolve first.values value)), ?_, ?_⟩
            · exact applyAction_set memoryFirst unnamed kind given
            · rw [resolve_congr days]
              exact applyAction_set memorySecond unnamed kind given
    | increment =>
        simp only [applyAction, named, kind]
        exact counts false
    | decrement =>
        simp only [applyAction, named, kind]
        exact counts true
    | reset =>
        simp only [applyAction, named, kind]
        refine ⟨.ok _, applyReset_inMemory memoryFirst writable, ?_⟩
        rw [here]
        exact applyReset_inMemory memorySecond writable

end Flow

end Dialogue
