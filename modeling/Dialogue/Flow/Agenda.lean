import Dialogue.Calendar
import Dialogue.Flow.Config
import Dialogue.Storage.State
import Dialogue.Text.Numeral

/-!
# The user's active days

Some values depend on the calendar: today's date, the next date on which the
user is active, and its weekday.  The active weekdays are remembered as a list
of numbers and names, of which what cannot be understood is dropped; when
nothing is left, the usual ones count.
-/

namespace Dialogue.Flow

/-- Today, and where the active weekdays are known from. -/
structure Agenda where
  today : Date
  activeDaysKey : String
  defaultActiveDays : List Nat

namespace Agenda

/-- The agenda of a configuration on a date. -/
def ofConfig (config : Config) (today : Date) : Agenda :=
  { today
    activeDaysKey := config.activeDaysKey
    defaultActiveDays := config.defaultActiveDays }

/-! ## Weekdays -/

/-- The names of the weekdays, Monday first. -/
def weekdayNames : List String :=
  ["monday", "tuesday", "wednesday", "thursday", "friday", "saturday", "sunday"]

/-- The weekday whose name starts with a text of at least three characters.
Day names consist of ASCII letters, and no other letter has one of them as its
lower case, so only ASCII letters are lowered. -/
def weekdayNamed? (cs : List Char) : Option Nat :=
  let lower := cs.map Char.toLower
  if lower.length < 3 then none
  else
    (weekdayNames.findIdx? fun name => lower.isPrefixOf name.toList).map (· + 1)

/-- The number of a weekday, from 1 for Monday to 7 for Sunday. -/
def weekdayOf? : Value → Option Nat
  | .int n => if 1 ≤ n.toInt && n.toInt ≤ 7 then some n.toInt.toNat else none
  | .text s =>
      let cs := Text.trimmed s.toList
      match (Text.natural? cs).filter fun n => n < UInt32.size with
      | some n => if 1 ≤ n && n ≤ 7 then some n else none
      | none => weekdayNamed? cs
  | _ => none

/-- The active weekdays that a state remembers. -/
def rememberedDays (agenda : Agenda) (state : Dictionary Value) : List Nat :=
  match (state.get? agenda.activeDaysKey).bind Value.list? with
  | some items => items.filterMap weekdayOf?
  | none => []

/-- The active weekdays: the remembered ones, or else the usual ones. -/
def activeDays (agenda : Agenda) (state : Dictionary Value) : List Nat :=
  let remembered := agenda.rememberedDays state
  if remembered.isEmpty then agenda.defaultActiveDays else remembered

/-! ## The next active day -/

/-- The first of the dates after one, at most `count` of them, whose weekday
is active. -/
def firstActive? (days : List Nat) : Nat → Date → Option Date
  | 0, _ => none
  | count + 1, date =>
      match date.next? with
      | none => none
      | some next =>
          if days.contains next.weekday then some next
          else firstActive? days count next

/-- The nearest date after today whose weekday is active; tomorrow when no
weekday is. -/
def nextActiveDate (agenda : Agenda) (state : Dictionary Value) : Date :=
  match firstActive? (agenda.activeDays state) 7 agenda.today with
  | some date => date
  | none => agenda.today.next?.getD agenda.today

/-! ## Computed values -/

/-- The value that a value stands for: three texts are computed from the
calendar, and everything else stands for itself. -/
def resolve (agenda : Agenda) (state : Dictionary Value) (value : Value) : Value :=
  match value with
  | .text "TODAY_DATE" => .text agenda.today.text
  | .text "NEXT_ACTIVE_DATE" => .text (agenda.nextActiveDate state).text
  | .text "NEXT_ACTIVE_WEEKDAY" =>
      .int (Int64.ofNat (agenda.nextActiveDate state).weekday)
  | value => value

end Agenda

end Dialogue.Flow
