import Dialogue.Json.Decode
import Dialogue.Proofs.Json.Reading

/-!
# Values taken out of what was written

A decoder takes a value out of a document that was written if the document can be read
back and its draft holds the value.  For the decoders of scalars this is seen at once, a
list holds what its items hold, and a record holds what its fields make of the blank value
when they are put in one after another.
-/

namespace Dialogue.Decoder

open Json (Fault optionalField listField)

variable {α β π : Type}

/-- A document can be read back, and a decoder takes a value out of it. -/
structure Takes (decode : Decoder α) (room : Nat) (document : Json) (value : α) : Prop where
  readable : document.readable = true
  taken : decode room document.draft = .ok value

variable {decode : Decoder α} {room : Nat} {document : Json} {value : α}

/-- A value is taken out of the text of its document, whatever the layout. -/
theorem Takes.decodeText_written (takes : Takes decode Json.maxDepth document value)
    (layout : Json.Layout) :
    decodeText decode (String.ofList (Json.written layout 0 document)) = .ok value := by
  simp only [decodeText, String.toList_ofList, Json.readDraft_written layout takes.readable,
    takes.taken, Option.map_some]
  rfl

theorem Takes.decodeText_toText (takes : Takes decode Json.maxDepth document value) :
    decodeText decode document.toText = .ok value := by
  rw [Json.toText, ← Json.written_tight 0]
  exact takes.decodeText_written .tight

theorem Takes.decodeText_toIndentedText (takes : Takes decode Json.maxDepth document value) :
    decodeText decode document.toIndentedText = .ok value := by
  rw [Json.toIndentedText, ← Json.written_lines]
  exact takes.decodeText_written .lines

/-! ## Scalars -/

theorem takes_text (room : Nat) (s : String) : Takes text room (.text s) s :=
  ⟨rfl, rfl⟩

theorem takes_bool (room : Nat) (b : Bool) : Takes bool room (.bool b) b :=
  ⟨rfl, rfl⟩

/-- Numbers of 64 bits without a sign are read as integers. -/
theorem readable_nat {n : Nat} (small : n < UInt64.size) : (Json.nat n).readable = true := by
  simp only [Json.nat, Json.readable, Json.fits, UInt64.size, Bool.and_eq_true,
    decide_eq_true_eq] at small ⊢
  omega

theorem takes_natBelow {bound n : Nat} (room : Nat) (small : n < UInt64.size)
    (below : n < bound) : Takes (natBelow bound) room (.nat n) n := by
  refine ⟨readable_nat small, ?_⟩
  have inside : (decide (0 ≤ (n : Int)) && decide ((n : Int) < bound)) = true := by
    simp only [Bool.and_eq_true, decide_eq_true_eq]
    omega
  rw [Json.nat, Json.draft, natBelow, if_pos inside, Int.toNat_natCast]

/-- What is made of a taken value is taken by the decoder that makes it. -/
theorem Takes.map (takes : Takes decode room document value) (make : α → β) :
    Takes (fun room draft => (decode room draft).map make) room document (make value) :=
  ⟨takes.readable, by simp only [takes.taken, Except.map]⟩

theorem takes_word (room : Nat) (n : UInt32) : Takes word room (.nat n.toNat) n := by
  have below := n.toNat_lt_size
  have taken := (takes_natBelow room (Nat.lt_trans below (by decide)) below).map UInt32.ofNat
  rw [UInt32.ofNat_toNat] at taken
  exact taken

theorem takes_longWord (room : Nat) (n : UInt64) : Takes longWord room (.nat n.toNat) n := by
  have below := n.toNat_lt_size
  have taken := (takes_natBelow room below below).map UInt64.ofNat
  rw [UInt64.ofNat_toNat] at taken
  exact taken

theorem takes_oneOf {names : List (String × α)} {name : String} (room : Nat)
    (listed : names.lookup name = some value) : Takes (oneOf names) room (.text name) value := by
  refine ⟨rfl, ?_⟩
  rw [Json.draft, oneOf, listed]

/-- A document that is not null holds a value that may be missing. -/
theorem Takes.optional (takes : Takes decode room document value)
    (present : document ≠ .null) :
    Takes (Decoder.optional decode) room document (some value) := by
  refine ⟨takes.readable, ?_⟩
  have taken := takes.taken
  cases document with
  | null => exact absurd rfl present
  | _ =>
      simp only [Json.draft] at taken ⊢
      simp only [Decoder.optional, taken, Except.map]

/-! ## Lists -/

theorem items_itemDrafts {values : List α} {toJson : α → Json} {read : α → β}
    {decode : Decoder β}
    (takes : ∀ value ∈ values, Takes decode room (toJson value) (read value)) :
    items (decode room) none (Json.itemDrafts (values.map toJson)) = .ok (values.map read) := by
  induction values with
  | nil => rfl
  | cons value rest ih =>
      have first := (takes value List.mem_cons_self).taken
      have others := ih fun other member => takes other (List.mem_cons_of_mem value member)
      rw [List.map_cons, Json.itemDrafts, items]
      simp only [first, others, Except.map, List.map_cons]

/-- A list holds what is read of its items. -/
theorem takes_list_map {values : List α} {toJson : α → Json} {read : α → β}
    {decode : Decoder β}
    (takes : ∀ value ∈ values, Takes decode room (toJson value) (read value)) :
    Takes (list decode) (room + 1) (.list (values.map toJson)) (values.map read) := by
  refine ⟨?_, items_itemDrafts takes⟩
  rw [Json.readable, Json.readableItems_iff]
  intro item member
  obtain ⟨value, listed, rfl⟩ := List.mem_map.mp member
  exact (takes value listed).readable

/-- A list holds what its items hold. -/
theorem takes_list {values : List α} {toJson : α → Json}
    (takes : ∀ value ∈ values, Takes decode room (toJson value) value) :
    Takes (list decode) (room + 1) (.list (values.map toJson)) values := by
  have taken : Takes (list decode) (room + 1) (.list (values.map toJson)) (values.map id) :=
    takes_list_map takes
  rwa [List.map_id] at taken

/-! ## Records -/

/-- Fields that are written in the order of their names, some of them left out, turn one
partial value into another when they are put in. -/
inductive Fills (put : String → Decoder (π → π)) (room : Nat) :
    List String → List (String × Json) → π → π → Prop
  | done {found : π} : Fills put room [] [] found found
  | skip {name : String} {names : List String} {fields : List (String × Json)}
      {found after : π} (rest : Fills put room names fields found after) :
      Fills put room (name :: names) fields found after
  | field {name : String} {names : List String} {document : Json}
      {fields : List (String × Json)} {change : π → π} {found after : π}
      (takes : Takes (put name) room document change)
      (rest : Fills put room names fields (change found) after) :
      Fills put room (name :: names) ((name, document) :: fields) found after

section Fields

variable {put : String → Decoder (π → π)} {name : String} {names : List String}
  {fields : List (String × Json)} {found after : π}

/-! A decoder of fields sets each field to the value that the decoder of the field takes. -/

/-- A field that is always written. -/
theorem Fills.required {set : α → π → π}
    (puts : ∀ draft, put name room draft = (decode room draft).map set)
    (takes : Takes decode room document value)
    (rest : Fills put room names fields (set value found) after) :
    Fills put room (name :: names) ((name, document) :: fields) found after :=
  .field ⟨takes.readable, by rw [puts, takes.taken]; rfl⟩ rest

/-- A field that is written only when it is present, of which `read` may be taken. -/
theorem Fills.optional_bind {value : Option α} {toJson : α → Json} {read : α → Option α}
    {set : Option α → π → π}
    (puts : ∀ draft, put name room draft = (Decoder.optional decode room draft).map set)
    (takes : ∀ inner, value = some inner →
      Takes (Decoder.optional decode) room (toJson inner) (read inner))
    (unset : set none found = found)
    (rest : Fills put room names fields (set (value.bind read) found) after) :
    Fills put room (name :: names) (optionalField name (value.map toJson) ++ fields)
      found after := by
  cases value with
  | none =>
      rw [Option.bind_none, unset] at rest
      exact .skip rest
  | some inner => exact .required puts (takes inner rfl) rest

/-- A field that is written only when it is present. -/
theorem Fills.optional {value : Option α} {toJson : α → Json} {set : Option α → π → π}
    (puts : ∀ draft, put name room draft = (Decoder.optional decode room draft).map set)
    (takes : ∀ inner, value = some inner →
      Takes (Decoder.optional decode) room (toJson inner) (some inner))
    (unset : set none found = found)
    (rest : Fills put room names fields (set value found) after) :
    Fills put room (name :: names) (optionalField name (value.map toJson) ++ fields)
      found after := by
  apply Fills.optional_bind puts takes unset
  rwa [Option.bind_fun_some]

/-- A field that is written only when it is a non-empty list. -/
theorem Fills.list {values : List α} {toJson : α → Json} {decode : Decoder β} {read : List β}
    {set : List β → π → π}
    (puts : ∀ draft, put name room draft = (Decoder.list decode room draft).map set)
    (takes : Takes (Decoder.list decode) room (.list (values.map toJson)) read)
    (unset : set [] found = found)
    (rest : Fills put room names fields (set read found) after) :
    Fills put room (name :: names) (listField name (values.map toJson) ++ fields)
      found after := by
  cases values with
  | nil =>
      have nothing : read = [] := by
        cases room with
        | zero => cases takes.taken
        | succ room =>
            cases takes.taken
            rfl
      rw [nothing, unset] at rest
      exact .skip rest
  | cons value others => exact .required puts takes rest

theorem Fills.readable (fills : Fills put room names fields found after) :
    Json.readableFields fields = true := by
  induction fills with
  | done => rfl
  | skip _ ih => exact ih
  | field takes _ ih =>
      rw [Json.readableFields, Json.readableField, takes.readable, ih]
      rfl

/-- Fields are put in as long as their names are known and have not been seen before. -/
theorem Fills.namedFields {known seen : List String}
    (fills : Fills put room names fields found after) (distinct : names.Nodup)
    (listed : ∀ name ∈ names, name ∈ known) (fresh : ∀ name ∈ names, name ∉ seen) :
    namedFields known (record.place put room) none seen (Json.fieldDrafts fields) found =
      .ok after := by
  induction fills generalizing seen with
  | done => rfl
  | @skip name names fields found after rest ih =>
      exact ih (List.nodup_cons.mp distinct).2
        (fun other member => listed other (List.mem_cons_of_mem name member))
        (fun other member => fresh other (List.mem_cons_of_mem name member))
  | @field name names document fields change found after takes rest ih =>
      obtain ⟨notAgain, distinct⟩ := List.nodup_cons.mp distinct
      have knownName : known.contains name = true :=
        List.contains_iff_mem.mpr (listed name List.mem_cons_self)
      have unseen : seen.contains name = false :=
        Bool.eq_false_iff.mpr fun there =>
          fresh name List.mem_cons_self (List.contains_iff_mem.mp there)
      have placed : record.place put room name document.draft found = .ok (change found) := by
        rw [record.place, takes.taken]
        rfl
      have stillFresh : ∀ other ∈ names, other ∉ name :: seen := by
        intro other member
        rw [List.mem_cons, not_or]
        refine ⟨?_, fresh other (List.mem_cons_of_mem name member)⟩
        rintro rfl
        exact notAgain member
      have others := ih distinct
        (fun other member => listed other (List.mem_cons_of_mem name member)) stillFresh
      rw [Json.fieldDrafts, Json.fieldDraft, Decoder.namedFields]
      simp only [knownName, unseen, placed, if_true, Bool.false_eq_true, if_false]
      exact others

/-- A record holds what its fields make of the blank value. -/
theorem Fills.record {blank : π} {complete : π → Option α} (distinct : names.Nodup)
    (fills : Fills put room names fields blank after) (whole : complete after = some value) :
    Takes (Decoder.record names blank put complete) (room + 1) (.record fields) value := by
  refine ⟨fills.readable, ?_⟩
  have filled := fills.namedFields distinct (fun _ member => member)
    (fun _ _ => List.not_mem_nil)
  rw [Json.draft, Decoder.record]
  simp only [filled, record.finish, whole]

end Fields

end Dialogue.Decoder
