import Dialogue.Json.Decode

/-!
# What becomes of one field

A record is walked field by field, and a known field is put in at most once.  If no other
field changes what it sets, the value that is taken out of the record holds in the end what
was taken out of the field, wherever the field stands.  A list holds at each place what was
taken out of the item there.
-/

namespace Dialogue

open Json (Fault)

/-- A field of a record holds a draft. -/
def Draft.Gives (draft : Draft) (name : String) (content : Draft) : Prop :=
  ∃ fields stop, draft = .record fields stop ∧ (.text name, content) ∈ fields

namespace Decoder

variable {α π γ : Type}

theorem ok_of_map {β : Type} {decoded : Except Fault α} {make : α → β} {made : β}
    (taken : decoded.map make = .ok made) : ∃ value, decoded = .ok value ∧ make value = made := by
  cases decoded with
  | error fault => cases taken
  | ok value =>
      cases taken
      exact ⟨value, rfl, rfl⟩

/-! ## Lists -/

theorem ok_of_endingWith {stop : Option Fault} {value found : α}
    (taken : endingWith stop value = .ok found) : found = value := by
  cases stop with
  | some fault => cases taken
  | none =>
      cases taken
      rfl

/-- An item is taken for the value that stands in its place. -/
theorem items_getElem? {decode : Draft → Except Fault α} {stop : Option Fault}
    {drafts : List Draft} {values : List α} (taken : items decode stop drafts = .ok values)
    {place : Nat} {draft : Draft} (there : drafts[place]? = some draft) :
    ∃ value, decode draft = .ok value ∧ values[place]? = some value := by
  induction drafts generalizing values place with
  | nil => cases there
  | cons first rest ih =>
      rw [items] at taken
      cases head : decode first with
      | error fault =>
          rw [head] at taken
          cases taken
      | ok value =>
          simp only [head] at taken
          obtain ⟨others, tail, rfl⟩ := ok_of_map taken
          cases place with
          | zero =>
              cases there
              exact ⟨value, head, rfl⟩
          | succ place => exact ih tail there

/-- What stands at a place of a list was taken out of the item there. -/
theorem list_getElem? {decode : Decoder α} {room : Nat} {drafts : List Draft}
    {stop : Option Fault} {values : List α}
    (taken : list decode room (.list drafts stop) = .ok values) {place : Nat} {draft : Draft}
    (there : drafts[place]? = some draft) :
    ∃ inner value, decode inner draft = .ok value ∧ values[place]? = some value := by
  cases room with
  | zero => cases taken
  | succ room => exact ⟨room, items_getElem? taken there⟩

/-! ## Records -/

section Records

variable {names : List String} {put : String → Draft → π → Except Fault π}
  {stop : Option Fault} {name : String} {get : π → γ}

/-- A named field is passed over, or it is known, has not been seen before and is put in. -/
theorem namedFields_cons {seen : List String} {key content : Draft}
    {rest : List (Draft × Draft)} {found after : π}
    (taken : namedFields names put stop seen ((key, content) :: rest) found = .ok after) :
    ∃ other, key = .text other ∧
      ((other ∉ names ∧ namedFields names put stop seen rest found = .ok after) ∨
        (other ∉ seen ∧ ∃ changed, put other content found = .ok changed ∧
          namedFields names put stop (other :: seen) rest changed = .ok after)) := by
  cases key with
  | text other =>
      refine ⟨other, rfl, ?_⟩
      rw [namedFields] at taken
      by_cases known : other ∈ names
      · by_cases again : other ∈ seen
        · simp [known, again] at taken
        · right
          simp only [List.contains_iff_mem, known, again, if_true, if_false] at taken
          cases placed : put other content found with
          | error fault =>
              rw [placed] at taken
              cases taken
          | ok changed =>
              rw [placed] at taken
              exact ⟨again, changed, rfl, taken⟩
      · left
        simp only [List.contains_iff_mem, known, if_false] at taken
        cases skipped : content.skipFault? with
        | some fault =>
            rw [skipped] at taken
            cases taken
        | none =>
            rw [skipped] at taken
            exact ⟨known, taken⟩
  | _ =>
      rw [namedFields] at taken
      · cases taken
      · rintro _ ⟨⟩

/-- What no other field changes stays as it is behind the field that sets it. -/
theorem get_of_seen
    (others : ∀ other ≠ name, ∀ content found changed,
      put other content found = .ok changed → get changed = get found)
    {seen : List String} {fields : List (Draft × Draft)} {found after : π}
    (passed : name ∈ seen) (taken : namedFields names put stop seen fields found = .ok after) :
    get after = get found := by
  induction fields generalizing seen found with
  | nil => rw [ok_of_endingWith taken]
  | cons field rest ih =>
      rcases namedFields_cons taken with ⟨other, -, ⟨-, walked⟩ | ⟨fresh, changed, placed, walked⟩⟩
      · exact ih passed walked
      · have different : other ≠ name := by
          rintro rfl
          exact fresh passed
        rw [ih (List.mem_cons_of_mem other passed) walked, others other different _ _ _ placed]

/-- A known field is put in, and in the end there is what it has set. -/
theorem get_of_mem
    (others : ∀ other ≠ name, ∀ content found changed,
      put other content found = .ok changed → get changed = get found)
    (known : name ∈ names) {content : Draft} {seen : List String}
    {fields : List (Draft × Draft)} {found after : π} (member : (.text name, content) ∈ fields)
    (taken : namedFields names put stop seen fields found = .ok after) :
    ∃ before changed, put name content before = .ok changed ∧ get after = get changed := by
  induction fields generalizing seen found with
  | nil => cases member
  | cons field rest ih =>
      rcases namedFields_cons taken with
        ⟨other, key, ⟨unknown, walked⟩ | ⟨-, changed, placed, walked⟩⟩
      · rcases List.mem_cons.mp member with rfl | later
        · cases key
          exact absurd known unknown
        · exact ih later walked
      · rcases List.mem_cons.mp member with rfl | later
        · cases key
          exact ⟨found, changed, placed, get_of_seen others List.mem_cons_self walked⟩
        · exact ih later walked

end Records

section Fields

variable {names : List String} {blank : π} {put : String → Decoder (π → π)}
  {complete : π → Option α} {room : Nat} {value : α} {name : String}

/-- What is put in was taken out of the field. -/
theorem change_of_place {content : Draft} {before changed : π}
    (placed : record.place put room name content before = .ok changed) :
    ∃ change, put name room content = .ok change ∧ change before = changed :=
  ok_of_map placed

/-- A value that is taken out of a record is complete behind the last field. -/
theorem complete_of_record {fields : List (Draft × Draft)} {stop : Option Fault}
    (taken : record names blank put complete room (.record fields stop) = .ok value) :
    ∃ inner found, namedFields names (record.place put inner) stop [] fields blank = .ok found ∧
      complete found = some value := by
  cases room with
  | zero => cases taken
  | succ inner =>
      rw [record] at taken
      cases walked : namedFields names (record.place put inner) stop [] fields blank with
      | error fault =>
          rw [walked] at taken
          cases taken
      | ok found =>
          simp only [walked, record.finish] at taken
          cases whole : complete found with
          | none =>
              rw [whole] at taken
              cases taken
          | some result =>
              rw [whole] at taken
              cases taken
              exact ⟨inner, found, walked, whole⟩

/-- A value that is taken out of a record is completed from parts that hold what was taken
out of a field, if no other field changes that. -/
theorem parts_of_gives (get : π → γ) {draft content : Draft}
    (taken : record names blank put complete room draft = .ok value)
    (gives : draft.Gives name content) (known : name ∈ names)
    (others : ∀ other ≠ name, ∀ room content change, put other room content = .ok change →
      ∀ found, get (change found) = get found) :
    ∃ inner change before found, put name inner content = .ok change ∧
      get found = get (change before) ∧ complete found = some value := by
  obtain ⟨fields, stop, rfl, member⟩ := gives
  obtain ⟨inner, found, walked, whole⟩ := complete_of_record taken
  have undisturbed : ∀ other ≠ name, ∀ content before changed,
      record.place put inner other content before = .ok changed → get changed = get before := by
    intro other different content before changed placed
    obtain ⟨change, decoded, rfl⟩ := change_of_place placed
    exact others other different inner content change decoded before
  obtain ⟨before, changed, placed, same⟩ := get_of_mem undisturbed known member walked
  obtain ⟨change, decoded, rfl⟩ := change_of_place placed
  exact ⟨inner, change, before, found, decoded, same, whole⟩

end Fields

end Decoder

end Dialogue
