import Dialogue.Proofs.Condition.Evaluation
import Dialogue.Proofs.DateText
import Dialogue.Proofs.Effects

/-!
# Conditions on dates

A date that stands without quotes in a condition begins like a number, but the dash behind
its year rules numbers out, and it is read as a text.  Today's date is remembered as such a
text as well.  Texts of dates are in the order of the dates, so a condition says of today and
a date what its operator says of these days.
-/

namespace Dialogue

/-! ## Dates without quotes -/

namespace Text

theorem decimal?_of_isDigit {c : Char} (digit : c.isDigit = true) (rest : List Char) :
    decimal? (c :: rest) = unsignedDecimal? (c :: rest) := by
  rw [decimal?.eq_def]
  split
  · rename_i same
    cases same
    cases digit
  · rename_i same
    cases same
    cases digit
  · rfl

/-- Digits with a dash behind them are no number: the dash is no digit, and it neither starts
a fraction nor a power of ten. -/
theorem not_number_of_dash {digits : List Char} (nonempty : digits ≠ [])
    (all : ∀ c ∈ digits, c.isDigit = true) (rest : List Char) :
    integer? (digits ++ '-' :: rest) = none ∧ decimal? (digits ++ '-' :: rest) = none := by
  have notDigits : digits? (digits ++ '-' :: rest) = none := by
    simp [digits?]
  have whole : (digits ++ '-' :: rest).takeWhile Char.isDigit = digits := by
    rw [List.takeWhile_append_of_pos all]
    simp
  have behind : (digits ++ '-' :: rest).dropWhile Char.isDigit = '-' :: rest := by
    rw [List.dropWhile_append_of_pos all]
    rfl
  have notDecimal : unsignedDecimal? (digits ++ '-' :: rest) = none := by
    simp [unsignedDecimal?, whole, behind, power?]
  obtain ⟨c, more, rfl⟩ := List.exists_cons_of_ne_nil nonempty
  have digit := all c List.mem_cons_self
  rw [List.cons_append] at notDigits notDecimal ⊢
  rw [integer?_of_isDigit digit, decimal?_of_isDigit digit, notDigits, notDecimal]
  exact ⟨rfl, rfl⟩

end Text

namespace Date

theorem isDigit_of_mem_padded {width n : Nat} {c : Char} (member : c ∈ (padded width n).toList) :
    c.isDigit = true := by
  rw [toList_padded, List.mem_append] at member
  rcases member with zero | digit
  · rw [List.eq_of_mem_replicate zero]
    rfl
  · exact Nat.isDigit_of_mem_toDigits (by decide) (by decide) digit

theorem padded_ne_nil (width n : Nat) : (padded width n).toList ≠ [] := by
  rw [toList_padded]
  exact List.append_ne_nil_of_right_ne_nil _ Nat.toDigits_ne_nil

/-- The texts of two dates are compared like the days. -/
theorem orderedLike_text {a b : Date} (yearA : 0 ≤ a.year ∧ a.year ≤ 9999)
    (yearB : 0 ≤ b.year ∧ b.year ≤ 9999) :
    (Value.text a.text).OrderedLike (.text b.text) a.number b.number := by
  have less : a.text < b.text ↔ a.number < b.number := by
    rw [text_lt_iff yearA yearB, number_lt_iff]
  have greater : b.text < a.text ↔ b.number < a.number := by
    rw [text_lt_iff yearB yearA, number_lt_iff]
  constructor
  · rw [number_inj, ← text_inj yearA yearB]
    simp [Value.looseEq, Value.isNumber, Value.same]
  · simp only [Value.looseCompare, Value.compareTexts, less, greater, Option.some.injEq]
    exact (Int.compare_eq_ite_lt a.number b.number).symm

end Date

namespace Condition

theorem not_isOperatorChar_of_isBareChar {c : Char} (bare : isBareChar c = true) :
    isOperatorChar c = false := by
  rw [← Bool.not_eq_true]
  intro operator
  simp only [isOperatorChar, Bool.or_eq_true, decide_eq_true_eq] at operator
  rcases operator with ((rfl | rfl) | rfl) | rfl <;> exact absurd bare (by decide)

/-- The text of a date consists of bare characters and has a dash behind its first digits. -/
theorem exists_dash_text {date : Date} (year : 0 ≤ date.year ∧ date.year ≤ 9999) :
    (∀ c ∈ date.text.toList, isBareChar c = true) ∧
      ∃ digits rest, date.text.toList = digits ++ '-' :: rest ∧ digits ≠ [] ∧
        ∀ c ∈ digits, c.isDigit = true := by
  have bare : ∀ {width n : Nat}, ∀ c ∈ (Date.padded width n).toList, isBareChar c = true := by
    intro width n c member
    simp [isBareChar, Char.isAlphanum, Date.isDigit_of_mem_padded member]
  have dash : isBareChar '-' = true := rfl
  have shape := Date.toList_text year
  constructor
  · rw [shape]
    simp only [List.forall_mem_append, List.forall_mem_cons]
    exact ⟨bare, dash, bare, dash, bare⟩
  · exact ⟨_, _, shape, Date.padded_ne_nil _ _, fun _ => Date.isDigit_of_mem_padded⟩

/-- A date without quotes stands for its text. -/
theorem bareLiteral?_text {date : Date} (year : 0 ≤ date.year ∧ date.year ≤ 9999) :
    bareLiteral? date.text.toList = some (.text date.text) := by
  obtain ⟨bare, digits, rest, shape, nonempty, all⟩ := exists_dash_text year
  have noWord : ∀ {word : String}, '-' ∉ word.toList → date.text ≠ word := by
    rintro word noDash rfl
    exact noDash (by simp [shape])
  have notTrue : date.text ≠ "true" := noWord (by decide)
  have notFalse : date.text ≠ "false" := noWord (by decide)
  have notNull : date.text ≠ "null" := noWord (by decide)
  obtain ⟨noInteger, noDecimal⟩ := Text.not_number_of_dash nonempty all rest
  rw [← shape] at noInteger noDecimal
  have noOperator : date.text.toList.any isOperatorChar = false := by
    rw [List.any_eq_false]
    intro c member
    simp [not_isOperatorChar_of_isBareChar (bare c member)]
  simp only [bareLiteral?, String.ofList_toList, if_neg notTrue, if_neg notFalse, if_neg notNull,
    noInteger, Option.bind_none, noDecimal, noOperator, Bool.false_eq_true, if_false]

/-! ## Remembering today -/

/-- A key that can be written is not trimmed. -/
theorem IsPlainKey.trim_eq {key : String} (plain : IsPlainKey key) : Text.trim key = key := by
  obtain ⟨starts, ends⟩ := Text.solid_of_forall plain.toList_ne_nil plain.noBlank
  rw [Text.trim, Text.trimmed_of_solid starts ends, String.ofList_toList]

open Dialogue.Flow

/-- Setting a key in memory to today's date remembers the text of the date. -/
theorem applyAction_today {key : String} (plain : IsPlainKey key) (agenda : Agenda)
    {state : State} (memory : state.file = none) :
    applyAction agenda { kind := .set, key, value := some (.text "TODAY_DATE") } state =
      .ok { state with values := state.values.insert key (.text agenda.today.text) } := by
  have named : Text.trim key ≠ "" := by
    rw [plain.trim_eq]
    exact plain.nonempty
  have puts : applyAction agenda { kind := .set, key, value := some (.text "TODAY_DATE") } state =
      .ok (state.putting (Text.trim key)
        (some (agenda.resolve state.values (.text "TODAY_DATE")))) := by
    apply applyAction_set memory
    · exact named
    · rfl
    · rfl
  rw [plain.trim_eq, Agenda.resolve] at puts
  exact puts

/-- The comparison of what is remembered under a key with a date, as it is written. -/
def dateCondition (key : String) (op : Operator) (date : Date) : String :=
  String.ofList (comparisonText key op date.text.toList)

/-- What a condition says of today and a date.

Both lie in the years 0 to 9999.  Once today's date is remembered under a key, the comparison
of this key with the text that stands for another day as today's date, written without
quotes, compares the two days in the order of the calendar. -/
theorem evaluate_dates {key : String} (plain : IsPlainKey key) (agenda : Agenda)
    (yearToday : 0 ≤ agenda.today.year ∧ agenda.today.year ≤ 9999) {date : Date}
    (year : 0 ≤ date.year ∧ date.year ≤ 9999) {state : State} (memory : state.file = none) :
    ∃ next, applyAction agenda
        { kind := .set, key, value := some (.text "TODAY_DATE") } state = .ok next ∧
      Agenda.resolve { agenda with today := date } state.values (.text "TODAY_DATE") =
        .text date.text ∧
      ∀ op, evaluate (dateCondition key op date) next.values = true ↔
        op.Relates agenda.today.number date.number := by
  refine ⟨_, applyAction_today plain agenda memory, rfl, ?_⟩
  intro op
  obtain ⟨bare, digits, rest, shape, -⟩ := exists_dash_text year
  have nonempty : date.text.toList ≠ [] := by simp [shape]
  refine evaluate_comparisonText_iff plain op nonempty bare (bareLiteral?_text year) ?_
    (Date.orderedLike_text yearToday year)
  rw [Dictionary.get?_insert, if_pos rfl]

/-- The last day of the year 999. -/
def oldYear : Date :=
  ⟨999, 12, 31, by decide, by decide, by decide⟩

/-- The first day of the year 1000. -/
def newYear : Date :=
  ⟨1000, 1, 1, by decide, by decide, by decide⟩

/-- The day before a year with one more digit is below its first day. -/
theorem evaluate_dates_newYear :
    IsPlainKey "user.seen" ∧ (0 ≤ oldYear.year ∧ oldYear.year ≤ 9999) ∧
      (0 ≤ newYear.year ∧ newYear.year ≤ 9999) ∧
      dateCondition "user.seen" .lt newYear = "user.seen < 1000-01-01" ∧
      ∃ next, applyAction
          { today := oldYear, activeDaysKey := "user.activeDays", defaultActiveDays := [] }
          { kind := .set, key := "user.seen", value := some (.text "TODAY_DATE") }
          (.inMemory .empty {}) = .ok next ∧
        evaluate "user.seen < 1000-01-01" next.values = true := by
  have plain : IsPlainKey "user.seen" := by decide +kernel
  have text : dateCondition "user.seen" .lt newYear = "user.seen < 1000-01-01" := by
    decide +kernel
  refine ⟨plain, by decide, by decide, text, ?_⟩
  obtain ⟨next, done, -, compares⟩ := evaluate_dates plain
    { today := oldYear, activeDaysKey := "user.activeDays", defaultActiveDays := [] }
    (by decide) (show 0 ≤ newYear.year ∧ newYear.year ≤ 9999 by decide)
    (show (State.inMemory .empty {}).file = none from rfl)
  have below := (compares .lt).mpr (by decide)
  rw [text] at below
  exact ⟨next, done, below⟩

end Condition

end Dialogue
