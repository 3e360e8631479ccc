import Dialogue.Flow.Agenda
import Dialogue.Proofs.Calendar

/-!
# The next active day

The days after today are looked at one by one until one of them is active.  Seven days in a
row have all weekdays, so one of them is active as soon as one weekday is; and since every
day before it has been looked at, it is the nearest one.  If no weekday is active, as when
all numbers given for them are out of range, the next day is taken.
-/

namespace Dialogue.Flow.Agenda

open Date

/-! ## Weekdays within a week -/

/-- Every weekday is the one of a day within a week. -/
theorem exists_weekday {today weekLater : Date} (week : weekLater.number = today.number + 7)
    {n : Nat} (lower : 1 ≤ n) (upper : n ≤ 7) :
    ∃ date : Date, today.number < date.number ∧ date.number ≤ today.number + 7 ∧
      date.weekday = n := by
  obtain ⟨date, number⟩ := exists_of_number
    (show today.number ≤ today.number + (n - 1 - today.number) % 7 + 1 by omega)
    (show today.number + (n - 1 - today.number) % 7 + 1 ≤ weekLater.number by omega)
  refine ⟨date, by omega, by omega, ?_⟩
  rw [weekday, number]
  omega

theorem weekday_mem (date : Date) : 1 ≤ date.weekday ∧ date.weekday ≤ 7 := by
  rw [weekday]
  omega

/-! ## The search -/

section Search

variable {days : List Nat} {count : Nat} {date : Date}

/-- The date that is found is the nearest active one within the days that are searched. -/
theorem firstActive?_eq_some {found : Date} (first : firstActive? days count date = some found) :
    date.number < found.number ∧ found.number ≤ date.number + count ∧ found.weekday ∈ days ∧
      ∀ between : Date, date.number < between.number → between.number < found.number →
        between.weekday ∉ days := by
  induction count generalizing date with
  | zero => cases first
  | succ count ih =>
      rw [firstActive?] at first
      split at first
      · cases first
      · rename_i next step
        have number := number_next step
        split at first
        · rename_i active
          cases first
          refine ⟨by omega, by omega, List.contains_iff_mem.mp active, ?_⟩
          intro between after before
          omega
        · rename_i inactive
          obtain ⟨after, within, active, nearest⟩ := ih first
          refine ⟨by omega, by omega, active, ?_⟩
          intro between behind before
          rcases Int.lt_or_eq_of_le (show next.number ≤ between.number by omega) with
            later | same
          · exact nearest between later before
          · rw [← number_inj.mp same, ← List.contains_iff_mem]
            exact inactive

/-- If no date is found, none of the days that are searched is active. -/
theorem firstActive?_eq_none {last : Date} (room : last.number = date.number + count)
    (missing : firstActive? days count date = none) {other : Date}
    (after : date.number < other.number) (within : other.number ≤ date.number + count) :
    other.weekday ∉ days := by
  induction count generalizing date with
  | zero => omega
  | succ count ih =>
      obtain ⟨next, step⟩ := exists_next (show date.number < last.number by omega)
      have number := number_next step
      rw [firstActive?, step] at missing
      simp only at missing
      split at missing
      · cases missing
      · rename_i inactive
        rcases Int.lt_or_eq_of_le (show next.number ≤ other.number by omega) with later | same
        · exact ih (by omega) missing later (by omega)
        · rw [← number_inj.mp same, ← List.contains_iff_mem]
          exact inactive

end Search

/-! ## The nearest active day -/

/-- The next active day is the nearest one.

It lies within the week after today.  If a weekday is active, so is the day, and no day
between today and it is; if none is, it is tomorrow.  The computed texts for the next active
day stand for the text and the weekday of this same day. -/
theorem nextActiveDate_nearest (agenda : Agenda) (state : Dictionary Value) {weekLater : Date}
    (week : weekLater.number = agenda.today.number + 7) :
    (agenda.today.number < (agenda.nextActiveDate state).number ∧
      (agenda.nextActiveDate state).number ≤ agenda.today.number + 7) ∧
    ((∃ n ∈ agenda.activeDays state, 1 ≤ n ∧ n ≤ 7) →
      (agenda.nextActiveDate state).weekday ∈ agenda.activeDays state ∧
        ∀ between : Date, agenda.today.number < between.number →
          between.number < (agenda.nextActiveDate state).number →
            between.weekday ∉ agenda.activeDays state) ∧
    ((∀ n ∈ agenda.activeDays state, ¬(1 ≤ n ∧ n ≤ 7)) →
      agenda.today.next? = some (agenda.nextActiveDate state)) ∧
    agenda.resolve state (.text "NEXT_ACTIVE_DATE") =
      .text (agenda.nextActiveDate state).text ∧
    ∃ n : Int64, agenda.resolve state (.text "NEXT_ACTIVE_WEEKDAY") = .int n ∧
      n.toInt = (agenda.nextActiveDate state).weekday := by
  have weekday : (Int64.ofNat (agenda.nextActiveDate state).weekday).toInt =
      (agenda.nextActiveDate state).weekday := by
    have range := weekday_mem (agenda.nextActiveDate state)
    exact Int64.toInt_ofNat_of_lt (by omega)
  rw [← and_assoc, ← and_assoc]
  refine ⟨?_, rfl, _, rfl, weekday⟩
  match search : firstActive? (agenda.activeDays state) 7 agenda.today with
  | some found =>
      have same : agenda.nextActiveDate state = found := by rw [nextActiveDate, search]
      obtain ⟨after, within, active, nearest⟩ := firstActive?_eq_some search
      rw [same]
      refine ⟨⟨⟨after, within⟩, fun _ => ⟨active, nearest⟩⟩, ?_⟩
      intro useless
      exact absurd (weekday_mem found) (useless found.weekday active)
  | none =>
      obtain ⟨next, step⟩ :=
        exists_next (show agenda.today.number < weekLater.number by omega)
      have number := number_next step
      have same : agenda.nextActiveDate state = next := by
        rw [nextActiveDate, search, step]
        rfl
      rw [same]
      refine ⟨⟨⟨by omega, by omega⟩, ?_⟩, fun _ => step⟩
      rintro ⟨n, active, lower, upper⟩
      obtain ⟨date, after, within, rfl⟩ := exists_weekday week lower upper
      exact absurd active (firstActive?_eq_none week search after within)

/-- The last Wednesday of a month, with a number that is no weekday as the usual one. -/
def midweek : Agenda :=
  { today := ⟨2023, 11, 29, by decide, by decide, by decide⟩
    activeDaysKey := "user.activeDays"
    defaultActiveDays := [9] }

/-- Mondays and Fridays are remembered as active. -/
def mondaysAndFridays : Dictionary Value :=
  .ofList [("user.activeDays", .list [.int 1, .text "fri"])]

/-- With active weekdays the next active day is one of them; without, it is Thursday. -/
theorem nextActiveDate_nearest_midweek :
    ∃ weekLater : Date, weekLater.number = midweek.today.number + 7 ∧
      midweek.activeDays mondaysAndFridays = [1, 5] ∧
      (midweek.nextActiveDate mondaysAndFridays).weekday ∈ [1, 5] ∧
      midweek.activeDays .empty = [9] ∧
      midweek.today.next? = some (midweek.nextActiveDate .empty) := by
  have week : (⟨2023, 12, 6, by decide, by decide, by decide⟩ : Date).number =
      midweek.today.number + 7 := by decide
  have remembered : midweek.activeDays mondaysAndFridays = [1, 5] := by decide +kernel
  have usual : midweek.activeDays .empty = [9] := by decide +kernel
  obtain ⟨-, active, -⟩ := nextActiveDate_nearest midweek mondaysAndFridays week
  obtain ⟨-, -, tomorrow, -⟩ := nextActiveDate_nearest midweek .empty week
  rw [remembered] at active
  rw [usual] at tomorrow
  obtain ⟨isActive, -⟩ := active (by decide)
  exact ⟨_, week, remembered, isActive, usual, tomorrow (by decide)⟩

end Dialogue.Flow.Agenda
