import Dialogue.Proofs.Effects
import Dialogue.Proofs.Writes
import Mathlib.Data.List.Nodup

/-!
# Independent actions

Actions with different keys do not get in each other's way, as long as none of them
changes the active days that others may ask for.  When an action's turn comes, its key and
the active days are as they were in the beginning, whatever has been applied before it; and
what it puts under its key stays until the end.  So the order of such actions makes no
difference.
-/

namespace Dialogue.Flow

/-- No two of some actions change the same key, and none changes the active days. -/
structure Independent (agenda : Agenda) (actions : List Action) : Prop where
  distinct : (actions.map fun action => Text.trim action.key).Nodup
  apart : ∀ action ∈ actions, Text.trim action.key ≠ agenda.activeDaysKey

theorem Independent.perm {agenda : Agenda} {actions other : List Action}
    (independent : Independent agenda actions) (perm : actions.Perm other) :
    Independent agenda other where
  distinct := (perm.map _).nodup_iff.mp independent.distinct
  apart action member := independent.apart action (perm.mem_iff.mpr member)

variable {agenda : Agenda} {actions other before after : List Action} {action : Action}
  {state : State}

/-! ## When an action's turn comes -/

/-- Neither the actions before an independent one nor those behind it have its key. -/
theorem Independent.ne_key (independent : Independent agenda (before ++ action :: after)) :
    (∀ earlier ∈ before, Text.trim earlier.key ≠ Text.trim action.key) ∧
      ∀ later ∈ after, Text.trim later.key ≠ Text.trim action.key := by
  have distinct := independent.distinct
  rw [List.map_append, List.map_cons, List.nodup_middle, List.nodup_cons, List.mem_append,
    not_or] at distinct
  obtain ⟨⟨notBefore, notAfter⟩, -⟩ := distinct
  constructor
  · intro earlier member same
    exact notBefore (List.mem_map.mpr ⟨earlier, member, same⟩)
  · intro later member same
    exact notAfter (List.mem_map.mpr ⟨later, member, same⟩)

/-- An independent action does the same when its turn comes as in the beginning. -/
theorem Independent.exists_effect (independent : Independent agenda (before ++ action :: after))
    (memory : state.file = none) :
    ∃ effect : Except Error (Option Value),
      applyAction agenda action (applyActions agenda before state) =
          effect.map ((applyActions agenda before state).putting (Text.trim action.key)) ∧
        applyAction agenda action state = effect.map (state.putting (Text.trim action.key)) := by
  apply Flow.exists_effect
  · rw [file_applyActions, memory]
  · exact memory
  · exact get?_applyActions independent.ne_key.1
  · apply get?_applyActions
    intro earlier member
    exact independent.apart earlier (List.mem_append_left _ member)

/-- In the end the key of an independent action holds what the action alone makes of it. -/
theorem Independent.get?_key (independent : Independent agenda actions)
    (memory : state.file = none) (member : action ∈ actions) :
    (applyActions agenda actions state).get? (Text.trim action.key) =
      (applyActions agenda [action] state).get? (Text.trim action.key) := by
  obtain ⟨before, after, rfl⟩ := List.append_of_mem member
  have untouched : (applyActions agenda before state).get? (Text.trim action.key) =
      state.get? (Text.trim action.key) :=
    get?_applyActions independent.ne_key.1
  rw [applyActions_append]
  obtain ⟨effect, here, alone⟩ := independent.exists_effect memory
  cases effect with
  | error error =>
      rw [applyActions_cons_of_error here, applyActions_cons_of_error alone,
        get?_applyActions independent.ne_key.2, untouched]
      rfl
  | ok content =>
      rw [applyActions_cons_of_ok here, applyActions_cons_of_ok alone,
        get?_applyActions independent.ne_key.2, State.get?_putting, if_pos rfl]
      change content = (state.putting _ content).get? _
      rw [State.get?_putting, if_pos rfl]

/-- Independent actions lead to the same state in every order. -/
theorem Independent.applyActions_eq (independent : Independent agenda actions)
    (memory : state.file = none) (perm : actions.Perm other) :
    applyActions agenda other state = applyActions agenda actions state := by
  have values : (applyActions agenda other state).values =
      (applyActions agenda actions state).values := by
    apply Dictionary.eq_of_get?_eq
    intro key
    change (applyActions agenda other state).get? key =
      (applyActions agenda actions state).get? key
    by_cases named : ∃ action ∈ actions, Text.trim action.key = key
    · obtain ⟨action, member, rfl⟩ := named
      rw [independent.get?_key memory member,
        (independent.perm perm).get?_key memory (perm.mem_iff.mp member)]
    · have spared : ∀ action ∈ actions, Text.trim action.key ≠ key := by
        intro action member same
        exact named ⟨action, member, same⟩
      rw [get?_applyActions spared, get?_applyActions]
      intro action member
      exact spared action (perm.mem_iff.mpr member)
  have file : (applyActions agenda other state).file =
      (applyActions agenda actions state).file := by
    rw [file_applyActions, file_applyActions]
  have files : (applyActions agenda other state).files =
      (applyActions agenda actions state).files := by
    rw [files_applyActions memory, files_applyActions memory]
  generalize applyActions agenda other state = one at values file files ⊢
  generalize applyActions agenda actions state = another at values file files ⊢
  cases one
  cases another
  cases values
  cases file
  cases files
  rfl

/-! ## The order of actions -/

/-- The order of independent actions makes no difference.

In every order they lead to the same state.  When its turn comes, each of them succeeds or
fails, and fails for the same reason, as it would alone in the beginning; and one that fails
changes nothing. -/
theorem applyActions_perm (independent : Independent agenda actions)
    (memory : state.file = none) (perm : actions.Perm other) :
    applyActions agenda other state = applyActions agenda actions state ∧
      ∀ before action after, other = before ++ action :: after →
        ((∃ next, applyAction agenda action (applyActions agenda before state) = .ok next) ↔
          ∃ next, applyAction agenda action state = .ok next) ∧
        (∀ error, applyAction agenda action (applyActions agenda before state) = .error error ↔
          applyAction agenda action state = .error error) ∧
        ∀ error, applyAction agenda action state = .error error →
          applyActions agenda (before ++ [action]) state = applyActions agenda before state := by
  constructor
  · exact independent.applyActions_eq memory perm
  · rintro before action after rfl
    obtain ⟨effect, here, alone⟩ := (independent.perm perm).exists_effect memory
    rw [applyActions_append]
    cases effect with
    | error cause =>
        rw [here, alone, applyActions_cons_of_error here]
        exact ⟨by simp [Except.map], fun _ => .rfl, fun _ _ => rfl⟩
    | ok content =>
        rw [here, alone]
        refine ⟨by simp [Except.map], by simp [Except.map], ?_⟩
        intro error failed
        cases failed

/-- A day in the middle of June. -/
def midJune : Agenda :=
  { today := ⟨2025, 6, 15, by decide, by decide, by decide⟩
    activeDaysKey := "user.activeDays"
    defaultActiveDays := [] }

/-- A decrement by a text, which fails. -/
def loseOne : Action :=
  { kind := .decrement, key := "user.lives", value := some (.text "one") }

/-- Every kind of action. -/
def morning : List Action :=
  [{ kind := .set, key := " user.next ", value := some (.text "NEXT_ACTIVE_DATE") },
    { kind := .increment, key := "user.visits" }, loseOne,
    { kind := .reset, key := "user.name" }]

/-- Mondays are active, and two visits have been counted. -/
def regular : State :=
  .inMemory (.ofList [("user.activeDays", .list [.int 1]), ("user.name", .text "Ada"),
    ("user.visits", .int 2)]) {}

/-- The other way round the actions lead to the same state, and the decrement fails behind the
reset as it fails alone. -/
theorem applyActions_perm_morning :
    Independent midJune morning ∧ regular.file = none ∧ morning.Perm morning.reverse ∧
      applyActions midJune morning.reverse regular = applyActions midJune morning regular ∧
      applyAction midJune loseOne
          (applyActions midJune [{ kind := .reset, key := "user.name" }] regular) =
        .error (.invalidAction "user.lives" (.amountNotNumeric "string")) := by
  have independent : Independent midJune morning := by
    constructor
    · decide +kernel
    · decide +kernel
  have memory : regular.file = none := rfl
  have perm : morning.Perm morning.reverse := (List.reverse_perm morning).symm
  obtain ⟨same, turns⟩ := applyActions_perm independent memory perm
  have trimmed : Text.trim "user.lives" = "user.lives" := by decide +kernel
  have alone : applyAction midJune loseOne regular =
      .error (.invalidAction "user.lives" (.amountNotNumeric "string")) := by
    simp [applyAction, trimmed, loseOne, applyCount, Value.isNumber, Value.kindName]
  obtain ⟨-, fails, -⟩ := turns [{ kind := .reset, key := "user.name" }] loseOne _ rfl
  exact ⟨independent, memory, perm, same, (fails _).mpr alone⟩

end Dialogue.Flow
