/-!
# Dictionaries

A dictionary is a finite map from texts, kept as a list of entries in
strictly ascending order of their keys.  A text has at most one entry, so two
dictionaries that answer every look-up alike are equal.  Texts are compared
character by character, by code point.
-/

namespace Dialogue

/-- Entries in strictly ascending order of their keys. -/
structure Dictionary (α : Type) where
  entries : List (String × α)
  ascending : entries.Pairwise fun first second => first.1 < second.1

namespace Dictionary

variable {α β : Type}

/-- The dictionary without entries. -/
def empty : Dictionary α :=
  { entries := [], ascending := .nil }

instance : Inhabited (Dictionary α) :=
  ⟨empty⟩

instance : EmptyCollection (Dictionary α) :=
  ⟨empty⟩

/-- The value of the first entry with a key. -/
def lookup (key : String) : List (String × α) → Option α
  | [] => none
  | entry :: rest => if key = entry.1 then some entry.2 else lookup key rest

/-- The value stored under a key. -/
def get? (d : Dictionary α) (key : String) : Option α :=
  lookup key d.entries

/-- Whether a key has an entry. -/
def contains (d : Dictionary α) (key : String) : Bool :=
  (d.get? key).isSome

/-- The keys in ascending order. -/
def keys (d : Dictionary α) : List String :=
  d.entries.map Prod.fst

/-- The number of entries. -/
def size (d : Dictionary α) : Nat :=
  d.entries.length

/-! ## Changing entries -/

/-- Put an entry in its place, instead of one with the same key. -/
def insertEntry (key : String) (value : α) :
    List (String × α) → List (String × α)
  | [] => [(key, value)]
  | entry :: rest =>
      if key < entry.1 then
        (key, value) :: entry :: rest
      else if entry.1 < key then
        entry :: insertEntry key value rest
      else
        (key, value) :: rest

theorem mem_insertEntry {key : String} {value : α} {entries : List (String × α)}
    {entry : String × α} (member : entry ∈ insertEntry key value entries) :
    entry = (key, value) ∨ entry ∈ entries := by
  induction entries with
  | nil => simpa [insertEntry] using member
  | cons first rest ih =>
      simp only [insertEntry] at member
      split at member
      · simpa using member
      · split at member
        · rcases List.mem_cons.mp member with rfl | later
          · exact .inr List.mem_cons_self
          · exact (ih later).imp_right (List.mem_cons_of_mem first)
        · rcases List.mem_cons.mp member with rfl | later
          · exact .inl rfl
          · exact .inr (List.mem_cons_of_mem first later)

/-- Texts that are neither smaller nor greater than each other are equal. -/
theorem eq_of_not_lt {a b : String} (notLess : ¬a < b) (notGreater : ¬b < a) :
    a = b := by
  have lists : a.toList = b.toList := by
    rw [String.lt_iff] at notLess notGreater
    exact List.le_antisymm (List.not_lt.mp notGreater) (List.not_lt.mp notLess)
  exact String.toList_inj.mp lists

theorem ascending_insertEntry {key : String} {value : α}
    {entries : List (String × α)}
    (ascending : entries.Pairwise fun first second => first.1 < second.1) :
    (insertEntry key value entries).Pairwise
      fun first second => first.1 < second.1 := by
  induction entries with
  | nil => simp [insertEntry]
  | cons first rest ih =>
      have ⟨smallest, tail⟩ := List.pairwise_cons.mp ascending
      simp only [insertEntry]
      split
      · rename_i before
        refine List.pairwise_cons.mpr ⟨?_, ascending⟩
        intro entry member
        rcases List.mem_cons.mp member with rfl | later
        · exact before
        · exact String.lt_trans before (smallest entry later)
      · split
        · rename_i after
          refine List.pairwise_cons.mpr ⟨?_, ih tail⟩
          intro entry member
          rcases mem_insertEntry member with rfl | old
          · exact after
          · exact smallest entry old
        · rename_i notBefore notAfter
          have same : key = first.1 := eq_of_not_lt notBefore notAfter
          refine List.pairwise_cons.mpr ⟨?_, tail⟩
          intro entry member
          simpa [same] using smallest entry member

/-- Store a value under a key, instead of one that is stored there. -/
def insert (d : Dictionary α) (key : String) (value : α) : Dictionary α :=
  { entries := insertEntry key value d.entries
    ascending := ascending_insertEntry d.ascending }

/-- Remove the entry of a key, if it has one. -/
def erase (d : Dictionary α) (key : String) : Dictionary α :=
  { entries := d.entries.filter fun entry => entry.1 != key
    ascending := d.ascending.filter _ }

/-- The dictionary of a list of entries; the last entry of a key counts. -/
def ofList (entries : List (String × α)) : Dictionary α :=
  entries.foldl (fun d entry => d.insert entry.1 entry.2) empty

/-! ## Look-up laws -/

theorem lookup_insertEntry (key other : String) (value : α)
    (entries : List (String × α)) :
    lookup other (insertEntry key value entries) =
      if other = key then some value else lookup other entries := by
  induction entries with
  | nil => simp [insertEntry, lookup]
  | cons first rest ih =>
      simp only [insertEntry]
      split
      · simp [lookup]
      · split
        · rename_i after
          by_cases same : other = key
          · subst same
            have different : other ≠ first.1 := by
              intro equal
              exact String.lt_irrefl _ (equal ▸ after)
            simp [lookup, different, ih]
          · simp [lookup, ih, same]
        · rename_i notBefore notAfter
          have equal : key = first.1 := eq_of_not_lt notBefore notAfter
          by_cases same : other = key
          · simp [lookup, same]
          · have different : other ≠ first.1 := equal ▸ same
            simp [lookup, same, different]

theorem get?_insert (d : Dictionary α) (key other : String) (value : α) :
    (d.insert key value).get? other =
      if other = key then some value else d.get? other :=
  lookup_insertEntry key other value d.entries

theorem lookup_filter_ne (key other : String) (entries : List (String × α)) :
    lookup other (entries.filter fun entry => entry.1 != key) =
      if other = key then none else lookup other entries := by
  induction entries with
  | nil => simp [lookup]
  | cons first rest ih =>
      by_cases same : first.1 = key
      · by_cases asked : other = key <;>
          simp_all [lookup]
      · by_cases asked : other = key
        · have different : key ≠ first.1 := fun equal => same equal.symm
          simp_all [lookup]
        · simp [lookup, same, ih, asked]

theorem get?_erase (d : Dictionary α) (key other : String) :
    (d.erase key).get? other =
      if other = key then none else d.get? other :=
  lookup_filter_ne key other d.entries

@[simp]
theorem get?_empty (key : String) : (empty : Dictionary α).get? key = none :=
  rfl

end Dictionary

end Dialogue
