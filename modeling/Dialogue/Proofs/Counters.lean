import Dialogue.Proofs.Effects
import Dialogue.Proofs.Writes
import Mathlib.Algebra.Order.Ring.Int
import Mathlib.Data.List.Induction

/-!
# Counters

Raising and lowering an integer under a key is exact arithmetic on whole numbers.  A sum that
does not fit in 64 bits is not taken: the action fails, and counting goes on from the value
before it.  What is no number counts as zero, and is replaced by the first sum that fits.
-/

namespace Dialogue

/-! ## Whole numbers of 64 bits -/

/-- A whole number fits in 64 bits, one of which is its sign. -/
def IsInt64 (n : Int) : Prop :=
  -2 ^ 63 ≤ n ∧ n < 2 ^ 63

instance (n : Int) : Decidable (IsInt64 n) :=
  inferInstanceAs (Decidable (_ ∧ _))

namespace Value

variable {n : Int}

theorem ofInt?_of_isInt64 (fits : IsInt64 n) :
    ∃ m : Int64, m.toInt = n ∧ ofInt? n = some (.int m) := by
  obtain ⟨lower, upper⟩ := fits
  have inRange : (Int64.minValue.toInt ≤ n && n ≤ Int64.maxValue.toInt) = true := by
    simp only [Int64.toInt_minValue, Int64.toInt_maxValue, Bool.and_eq_true, decide_eq_true_eq]
    omega
  refine ⟨Int64.ofInt n, ?_, ?_⟩
  · exact Int64.toInt_ofInt_of_le lower upper
  · rw [ofInt?, if_pos inRange]

theorem ofInt?_of_not_isInt64 (outside : ¬IsInt64 n) : ofInt? n = none := by
  have outOfRange : ¬(Int64.minValue.toInt ≤ n && n ≤ Int64.maxValue.toInt) = true := by
    simp only [IsInt64, Int64.toInt_minValue, Int64.toInt_maxValue, Bool.and_eq_true,
      decide_eq_true_eq] at outside ⊢
    omega
  rw [ofInt?, if_neg outOfRange]

end Value

/-! ## Counting actions -/

/-- An action raises or lowers what is under a key, by one or by an integer. -/
structure Action.Counts (key : String) (action : Action) : Prop where
  kind : action.kind = .increment ∨ action.kind = .decrement
  key : Text.trim action.key = key
  amount : action.value = none ∨ ∃ n, action.value = some (.int n)

/-- What a counting action adds: one or the given integer, or what is opposite to it. -/
def Action.change (action : Action) : Int :=
  let amount :=
    match action.value with
    | some (.int n) => n.toInt
    | _ => 1
  if action.kind = .decrement then -amount else amount

namespace Flow

/-- What is under a key counts as a whole number: it is this integer, or it is missing or no
number and counts as zero. -/
inductive CountsAs (state : State) (key : String) : Int → Prop where
  | integer {n : Int64} (found : state.get? key = some (.int n)) : CountsAs state key n.toInt
  | nothing (noNumber : ∀ value, state.get? key = some value → value.isNumber = false) :
      CountsAs state key 0

variable {agenda : Agenda} {action : Action} {actions : List Action} {state : State}
  {key : String} {running base : Int}

theorem CountsAs.counted?_int (counts : CountsAs state key running) (lower : Bool) (n : Int64) :
    counted? lower ((state.get? key).getD .null) (.int n) =
      Value.ofInt? (if lower then running - n.toInt else running + n.toInt) := by
  cases counts with
  | integer found =>
      simp only [found, counted?, Value.isNumber, wholeAmount?, Option.getD_some, if_true]
  | nothing noNumber =>
      have other : ((state.get? key).getD .null).isNumber = false := by
        cases found : state.get? key with
        | none => rfl
        | some value => exact noNumber value found
      simp only [counted?, other, wholeAmount?, Bool.false_eq_true, if_false]
      rfl

/-- A counting action remembers the exact sum if there is a value for it, and fails
otherwise. -/
theorem applyAction_of_counts (named : key ≠ "") (memory : state.file = none)
    (counting : action.Counts key) (counts : CountsAs state key running) :
    applyAction agenda action state =
      match Value.ofInt? (running + action.change) with
      | none => .error (.invalidAction key .overflow)
      | some next => .ok (state.putting key (some next)) := by
  obtain ⟨kind, rfl, amount⟩ := counting
  have writable := isBlankText_trim_of_ne_empty named
  obtain ⟨n, given, size⟩ : ∃ n : Int64, action.value.getD (.int 1) = .int n ∧
      action.change = if action.kind = .decrement then -n.toInt else n.toInt := by
    rcases amount with usual | ⟨n, given⟩
    · exact ⟨1, by rw [usual]; rfl, by rw [Action.change, usual]; rfl⟩
    · exact ⟨n, by rw [given]; rfl, by rw [Action.change, given]⟩
  have isNamed : (Text.trim action.key).isEmpty = false := by simpa using named
  rcases kind with raises | lowers
  · simp only [applyAction, isNamed, raises, applyCount_inMemory memory writable, given,
      counts.counted?_int, size]
    rfl
  · simp only [applyAction, isNamed, lowers, applyCount_inMemory memory writable, given,
      counts.counted?_int, size]
    rfl

/-- An exact sum that fits in 64 bits is remembered. -/
theorem exists_of_fits (named : key ≠ "") (memory : state.file = none)
    (counting : action.Counts key) (counts : CountsAs state key running)
    (fits : IsInt64 (running + action.change)) :
    ∃ n : Int64, n.toInt = running + action.change ∧
      applyAction agenda action state = .ok (state.putting key (some (.int n))) := by
  obtain ⟨n, sum, isValue⟩ := Value.ofInt?_of_isInt64 fits
  refine ⟨n, sum, ?_⟩
  rw [applyAction_of_counts named memory counting counts, isValue]

theorem applyAction_of_not_fits (named : key ≠ "") (memory : state.file = none)
    (counting : action.Counts key) (counts : CountsAs state key running)
    (outside : ¬IsInt64 (running + action.change)) :
    applyAction agenda action state = .error (.invalidAction key .overflow) := by
  rw [applyAction_of_counts named memory counting counts, Value.ofInt?_of_not_isInt64 outside]

/-! ## Counting on -/

/-- The running value behind some actions in exact arithmetic: it is raised by what each of
them adds, unless the sum does not fit in 64 bits. -/
def tally (running : Int) (actions : List Action) : Int :=
  actions.foldl
    (fun running action =>
      if IsInt64 (running + action.change) then running + action.change else running)
    running

/-- The sum that an action makes of the running value behind others fits in 64 bits. -/
def SumFits (base : Int) (before : List Action) (action : Action) : Prop :=
  IsInt64 (tally base before + action.change)

instance (base : Int) (before : List Action) (action : Action) :
    Decidable (SumFits base before action) :=
  inferInstanceAs (Decidable (IsInt64 _))

theorem tally_append_singleton (base : Int) (before : List Action) (action : Action) :
    tally base (before ++ [action]) =
      if SumFits base before action then tally base before + action.change
      else tally base before := by
  rw [tally, List.foldl_append]
  rfl

/-- What counting actions make of a state: it stays if none of their sums fits in 64 bits, and
otherwise the key holds the running value in the end. -/
inductive Counted (key : String) (base : Int) (actions : List Action) (state : State) :
    State → Prop where
  | nothing (noneFits : ∀ before action after, actions = before ++ action :: after →
      ¬SumFits base before action) : Counted key base actions state state
  | remembered {before : List Action} {action : Action} {after : List Action} {n : Int64}
      (place : actions = before ++ action :: after) (fits : SumFits base before action)
      (total : n.toInt = tally base actions) :
      Counted key base actions state (state.putting key (some (.int n)))

/-- Only the key differs from what it was. -/
theorem Counted.putting_eq {after : State} (counted : Counted key base actions state after)
    (content : Option Value) : after.putting key content = state.putting key content := by
  cases counted with
  | nothing _ => rfl
  | remembered place fits total => exact State.putting_putting state key _ content

/-- An action whose sum does not fit changes nothing. -/
theorem Counted.skip {before : List Action} {last : Action} {after : State}
    (counted : Counted key base before state after) (outside : ¬SumFits base before last) :
    Counted key base (before ++ [last]) state after := by
  cases counted with
  | nothing noneFits =>
      apply Counted.nothing
      intro earlier action later place
      rcases List.eq_nil_or_concat later with rfl | ⟨between, final, rfl⟩
      · obtain ⟨rfl, rfl⟩ := List.append_singleton_inj.mp place
        exact outside
      · rw [List.concat_eq_append, ← List.cons_append, ← List.append_assoc] at place
        exact noneFits earlier action between (List.append_singleton_inj.mp place).1
  | @remembered earlier action later n place fits total =>
      have longer : before ++ [last] = earlier ++ action :: (later ++ [last]) := by
        rw [place, List.append_assoc]
        rfl
      apply Counted.remembered longer fits
      rw [tally_append_singleton, if_neg outside, total]

/-- Behind counting actions the key counts as the running value. -/
theorem counted_applyActions (agenda : Agenda) (named : key ≠ "") (memory : state.file = none)
    (counting : ∀ action ∈ actions, action.Counts key) (counts : CountsAs state key base) :
    CountsAs (applyActions agenda actions state) key (tally base actions) ∧
      Counted key base actions state (applyActions agenda actions state) := by
  -- The last action finds the running value behind those before it.
  induction actions using List.reverseRecOn with
  | nil => exact ⟨counts, .nothing fun before action after place => by simp at place⟩
  | append_singleton before last ih =>
      obtain ⟨stands, counted⟩ := ih fun action member =>
        counting action (List.mem_append_left _ member)
      have lastCounts := counting last (List.mem_append_right _ List.mem_cons_self)
      have stillMemory : (applyActions agenda before state).file = none := by
        rw [file_applyActions, memory]
      have total := tally_append_singleton base before last
      rw [applyActions_append]
      by_cases fits : SumFits base before last
      · obtain ⟨n, sum, applied⟩ := exists_of_fits named stillMemory lastCounts stands fits
        rw [if_pos fits, ← sum] at total
        rw [applyActions_cons_of_ok applied, total, counted.putting_eq]
        constructor
        · apply CountsAs.integer
          exact (State.get?_putting _ _ _ _).trans (if_pos rfl)
        · exact .remembered rfl fits total.symm
      · have failed : applyAction agenda last (applyActions agenda before state) =
            .error (.invalidAction key .overflow) :=
          applyAction_of_not_fits named stillMemory lastCounts stands fits
        rw [if_neg fits] at total
        rw [applyActions_cons_of_error failed, total]
        exact ⟨stands, counted.skip fits⟩

/-- Counting is exact.

Actions raise and lower one key, which counts as an integer, by integers.  Each of them fails
if the sum of the running value and what it adds does not fit in 64 bits, and otherwise
remembers this sum, which is the running value from then on.  If no sum fits the state stays as
it was; otherwise the key holds the last running value, and nothing else has changed. -/
theorem applyActions_counts (agenda : Agenda) (named : key ≠ "") (memory : state.file = none)
    (counting : ∀ action ∈ actions, action.Counts key) (counts : CountsAs state key base) :
    (∀ before action after, actions = before ++ action :: after →
      (¬SumFits base before action →
        applyAction agenda action (applyActions agenda before state) =
          .error (.invalidAction key .overflow)) ∧
      (SumFits base before action →
        ∃ n : Int64, n.toInt = tally base before + action.change ∧
          applyAction agenda action (applyActions agenda before state) =
            .ok ((applyActions agenda before state).putting key (some (.int n))))) ∧
    ((∀ before action after, actions = before ++ action :: after →
        ¬SumFits base before action) →
      applyActions agenda actions state = state) ∧
    ((∃ before action after, actions = before ++ action :: after ∧
        SumFits base before action) →
      ∃ n : Int64, n.toInt = tally base actions ∧
        applyActions agenda actions state = state.putting key (some (.int n))) := by
  refine ⟨?_, ?_, ?_⟩
  · rintro before action after rfl
    obtain ⟨earlier, others⟩ := List.forall_mem_append.mp counting
    obtain ⟨stands, -⟩ := counted_applyActions agenda named memory earlier counts
    have stillMemory : (applyActions agenda before state).file = none := by
      rw [file_applyActions, memory]
    have turn := others action List.mem_cons_self
    exact ⟨applyAction_of_not_fits named stillMemory turn stands,
      exists_of_fits named stillMemory turn stands⟩
  · intro noneFits
    obtain ⟨-, counted⟩ := counted_applyActions agenda named memory counting counts
    generalize applyActions agenda actions state = result at counted ⊢
    cases counted with
    | nothing _ => rfl
    | remembered place fits total => exact absurd fits (noneFits _ _ _ place)
  · rintro ⟨before, action, after, place, fits⟩
    obtain ⟨-, counted⟩ := counted_applyActions agenda named memory counting counts
    generalize applyActions agenda actions state = result at counted ⊢
    cases counted with
    | nothing noneFits => exact absurd fits (noneFits before action after place)
    | @remembered _ _ _ n _ _ total => exact ⟨n, total, rfl⟩

/-- One below the greatest integer. -/
def highScore : State :=
  .inMemory (.ofList [("score", .int 9223372036854775806)]) {}

/-- The score is raised twice, lowered by the least integer, and lowered by five. -/
def bonuses : List Action :=
  [{ kind := .increment, key := " score" }, { kind := .increment, key := "score" },
    { kind := .decrement, key := "score", value := some (.int Int64.minValue) },
    { kind := .decrement, key := "score ", value := some (.int 5) }]

/-- The second and the third change would leave 64 bits; the others count. -/
theorem applyActions_counts_bonuses :
    "score" ≠ "" ∧ highScore.file = none ∧ (∀ action ∈ bonuses, action.Counts "score") ∧
      CountsAs highScore "score" 9223372036854775806 ∧
      ¬SumFits 9223372036854775806 (bonuses.take 2)
        { kind := .decrement, key := "score", value := some (.int Int64.minValue) } ∧
      ∃ n : Int64, n.toInt = 9223372036854775802 ∧
        applyActions (.ofConfig {} ⟨2024, 2, 29, by decide, by decide, by decide⟩) bonuses
          highScore = highScore.putting "score" (some (.int n)) := by
  have counting : ∀ action ∈ bonuses, action.Counts "score" := by
    simp only [bonuses, List.forall_mem_cons]
    refine ⟨?_, ?_, ?_, ?_, by simp⟩
    · exact ⟨.inl rfl, by decide +kernel, .inl rfl⟩
    · exact ⟨.inl rfl, by decide +kernel, .inl rfl⟩
    · exact ⟨.inr rfl, by decide +kernel, .inr ⟨_, rfl⟩⟩
    · exact ⟨.inr rfl, by decide +kernel, .inr ⟨_, rfl⟩⟩
  have counts : CountsAs highScore "score" (9223372036854775806 : Int64).toInt := .integer rfl
  have held : (9223372036854775806 : Int64).toInt = 9223372036854775806 := by decide
  rw [held] at counts
  obtain ⟨-, -, result⟩ := applyActions_counts
    (.ofConfig {} ⟨2024, 2, 29, by decide, by decide, by decide⟩) (by decide) rfl counting counts
  obtain ⟨n, total, after⟩ := result ⟨[], _, _, rfl, by decide⟩
  have exactly : tally 9223372036854775806 bonuses = 9223372036854775802 := by decide +kernel
  refine ⟨by decide, rfl, counting, counts, by decide +kernel, n, ?_, after⟩
  rw [total, exactly]

end Flow

end Dialogue
