import Dialogue.Dictionary
import Mathlib.Data.List.Induction

/-!
# Entries and look-ups

The entries of a dictionary are what it answers: an entry is there exactly when its
value is found under its key, and no key has two.  So a dictionary has as many entries
as keys, two dictionaries that answer alike are equal, and putting the entries of one into
an empty one one after another gives it back.
-/

namespace Dialogue.Dictionary

variable {α : Type}

@[ext]
theorem ext {first second : Dictionary α} (same : first.entries = second.entries) :
    first = second := by
  cases first
  cases second
  cases same
  rfl

/-- The entries of a dictionary are the values found under its keys. -/
theorem mem_entries_iff (d : Dictionary α) (key : String) (value : α) :
    (key, value) ∈ d.entries ↔ d.get? key = some value := by
  obtain ⟨entries, ascending⟩ := d
  simp only [get?]
  induction entries with
  | nil => simp [lookup]
  | cons first rest ih =>
      obtain ⟨smallest, tail⟩ := List.pairwise_cons.mp ascending
      rw [List.mem_cons, lookup, ih tail]
      by_cases same : key = first.1
      · -- The key is not found behind its first entry.
        have others : lookup key rest ≠ some value := by
          intro found
          have later := smallest (key, value) ((ih tail).mpr found)
          exact String.lt_irrefl _ (same ▸ later)
        rw [if_pos same]
        constructor
        · rintro (rfl | found)
          · rfl
          · exact absurd found others
        · intro found
          exact .inl (Prod.ext same (Option.some.inj found).symm)
      · rw [if_neg same]
        constructor
        · rintro (rfl | found)
          · exact absurd rfl same
          · exact found
        · exact .inr

theorem mem_keys_iff (d : Dictionary α) (key : String) :
    key ∈ d.keys ↔ ∃ value, d.get? key = some value := by
  simp [keys, mem_entries_iff]

theorem nodup_keys (d : Dictionary α) : d.keys.Nodup := by
  rw [keys, List.Nodup, List.pairwise_map]
  apply d.ascending.imp
  intro first second before same
  exact String.lt_irrefl _ (same ▸ before)

/-- Dictionaries that answer every look-up alike are equal. -/
theorem eq_of_get?_eq {first second : Dictionary α}
    (same : ∀ key, first.get? key = second.get? key) : first = second := by
  have nodup (d : Dictionary α) : d.entries.Nodup := by
    apply d.ascending.imp
    rintro entry _ before rfl
    exact String.lt_irrefl _ before
  have members : ∀ entry, entry ∈ first.entries ↔ entry ∈ second.entries := by
    rintro ⟨key, value⟩
    rw [mem_entries_iff, mem_entries_iff, same]
  have perm : first.entries.Perm second.entries :=
    (List.perm_ext_iff_of_nodup (nodup first) (nodup second)).mpr members
  apply ext
  apply perm.eq_of_pairwise _ first.ascending second.ascending
  intro one other _ _ before behind
  exact absurd (String.lt_trans before behind) (String.lt_irrefl _)

/-! ## Putting entries in -/

/-- A key behind all others is put at the end. -/
theorem insertEntry_of_forall_lt {key : String} {entries : List (String × α)}
    (behind : ∀ entry ∈ entries, entry.1 < key) (value : α) :
    insertEntry key value entries = entries ++ [(key, value)] := by
  induction entries with
  | nil => rfl
  | cons first rest ih =>
      obtain ⟨later, others⟩ := List.forall_mem_cons.mp behind
      have notBefore : ¬key < first.1 := fun before =>
        String.lt_irrefl _ (String.lt_trans before later)
      rw [insertEntry, if_neg notBefore, if_pos later, ih others, List.cons_append]

/-- Ascending entries that are put in one after another stand behind each other. -/
theorem entries_foldl_insert {d : Dictionary α} {entries : List (String × α)}
    (ascending : (d.entries ++ entries).Pairwise fun first second => first.1 < second.1) :
    (entries.foldl (fun d entry => d.insert entry.1 entry.2) d).entries =
      d.entries ++ entries := by
  induction entries generalizing d with
  | nil => simp
  | cons first rest ih =>
      have behind : ∀ entry ∈ d.entries, entry.1 < first.1 := by
        intro entry member
        exact (List.pairwise_append.mp ascending).2.2 entry member first List.mem_cons_self
      have put : (d.insert first.1 first.2).entries = d.entries ++ [first] :=
        insertEntry_of_forall_lt behind first.2
      have regrouped : d.entries ++ first :: rest = (d.entries ++ [first]) ++ rest := by simp
      rw [regrouped] at ascending ⊢
      rw [List.foldl_cons, ih (put ▸ ascending), put]

/-- A dictionary of a list finds only what is in the list. -/
theorem mem_of_get?_ofList {entries : List (String × α)} {key : String} {value : α}
    (found : (ofList entries).get? key = some value) : (key, value) ∈ entries := by
  induction entries using List.reverseRecOn with
  | nil => simp [ofList] at found
  | append_singleton entries entry ih =>
      rw [ofList, List.foldl_append, List.foldl_cons, List.foldl_nil, get?_insert] at found
      rw [List.mem_append, List.mem_singleton]
      split at found
      · rename_i same
        exact .inr (Prod.ext same (Option.some.inj found).symm)
      · exact .inl (ih found)

end Dialogue.Dictionary
