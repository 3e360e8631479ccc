import Dialogue.Proofs.FolderContents
import Dialogue.Sequence.Source

/-!
# The files of sequences

Listing a folder and asking for a sequence look at different things.  A listing takes every
name that ends in `.json`, whatever has it; asking for a sequence turns some ids away, and
wants a file.  So whatever is found is listed, and only once; and the two agree exactly on the
folders where all such names are those of files that can be asked for.
-/

namespace Dialogue.Source

/-! ## Ids and names -/

theorem idOfFile?_eq_some_iff {name id : String} :
    idOfFile? name = some id ↔ id ≠ "" ∧ name = id ++ fileEnding := by
  simp only [idOfFile?, Option.ite_none_right_eq_some, Bool.and_eq_true,
    List.isSuffixOf_iff_suffix, decide_eq_true_eq, Option.some.injEq]
  constructor
  · rintro ⟨⟨⟨front, split⟩, long⟩, rfl⟩
    rw [← split, List.length_append] at long
    have characters : front ≠ [] := List.length_pos_iff.mp (by omega)
    rw [← split, List.length_append, Nat.add_sub_cancel, List.take_left]
    refine ⟨by simpa using characters, String.toList_inj.mp ?_⟩
    rw [String.toList_append, String.toList_ofList, split]
  · rintro ⟨nonempty, rfl⟩
    have long := List.length_pos_iff.mpr (String.toList_eq_nil_iff.not.mpr nonempty)
    rw [String.toList_append, List.length_append, Nat.add_sub_cancel, List.take_left,
      String.ofList_toList]
    exact ⟨⟨List.suffix_append _ _, by omega⟩, rfl⟩

/-- An id that can name a file: it is not empty, holds no slash or backslash and does not
start with a point. -/
structure CanNameFile (id : String) : Prop extends Path.IsName id where
  noBackslash : '\\' ∉ id.toList
  noPoint : id.toList.head? ≠ some '.'

theorem namesFile_iff (id : String) : namesFile id = true ↔ CanNameFile id := by
  constructor
  · intro names
    simp only [namesFile, Bool.and_eq_true, Bool.not_eq_true', List.isEmpty_eq_false_iff,
      List.contains_eq_mem, decide_eq_false_iff_not, bne_iff_ne, ne_eq,
      String.toList_eq_nil_iff] at names
    exact ⟨⟨names.1.1.1, names.1.1.2⟩, names.1.2, names.2⟩
  · rintro ⟨⟨nonempty, noSlash⟩, noBackslash, noPoint⟩
    simp [namesFile, nonempty, noSlash, noBackslash, noPoint]

/-! ## Listing -/

/-- Different names have different ids. -/
theorem nodup_filterMap_idOfFile? {names : List String} (once : names.Nodup) :
    (names.filterMap idOfFile?).Nodup := by
  refine once.filterMap fun first second id of ofSecond => ?_
  rw [(idOfFile?_eq_some_iff.mp of).2, (idOfFile?_eq_some_iff.mp ofSecond).2]

/-- Sorted texts ascend if none of them is repeated. -/
theorem ascending_mergeSort {texts : List String} (once : texts.Nodup) :
    (texts.mergeSort fun a b => !(b < a)).Pairwise (· < ·) := by
  have le_iff (a b : String) : (!decide (b < a)) = true ↔ a ≤ b := by
    rw [Bool.not_eq_true', decide_eq_false_iff_not, String.not_lt]
  have ordered : (texts.mergeSort fun a b => !(b < a)).Pairwise
      fun a b => (!decide (b < a)) = true := by
    apply List.pairwise_mergeSort
    · intro a b c
      rw [le_iff, le_iff, le_iff]
      exact String.le_trans
    · intro a b
      rw [Bool.or_eq_true, le_iff, le_iff]
      exact String.le_total a b
  have distinct := (List.mergeSort_perm texts fun a b => !(b < a)).nodup_iff.mpr once
  refine (ordered.and distinct).imp fun {a b} both => ?_
  obtain ⟨notAfter, different⟩ := both
  exact String.not_le.mp fun back =>
    different (String.le_antisymm ((le_iff a b).mp notAfter) back)

section Folder

variable {files : Files} {root : Path} {base : List String}

/-- A folder is listed in ascending order, each id once; it is that of a thing whose name ends
as the names of sequence files do. -/
theorem exists_ids (sound : files.Sound) (toFolder : files.LeadsToFolder root base) :
    ∃ ids, idsIn files root = .ok ids ∧ ids.Pairwise (· < ·) ∧
      ∀ id, id ∈ ids ↔
        id ≠ "" ∧ ∃ entry, files.entry? (base ++ [id ++ fileEnding]) = some entry := by
  obtain ⟨names, listed, once, mem_names⟩ := toFolder.exists_names sound
  refine ⟨(names.filterMap idOfFile?).mergeSort fun a b => !(b < a), ?_,
    ascending_mergeSort (nodup_filterMap_idOfFile? once), ?_⟩
  · rw [idsIn, listed]
    rfl
  · intro id
    rw [List.mem_mergeSort, List.mem_filterMap]
    simp only [idOfFile?_eq_some_iff, mem_names]
    constructor
    · rintro ⟨name, ⟨entry, stands⟩, nonempty, rfl⟩
      exact ⟨nonempty, entry, stands⟩
    · rintro ⟨nonempty, entry, stands⟩
      exact ⟨_, ⟨entry, stands⟩, nonempty, rfl⟩

theorem exists_leadsToFolder_of_idsIn {ids : List String} (listed : idsIn files root = .ok ids) :
    ∃ base, files.LeadsToFolder root base := by
  rw [idsIn] at listed
  cases names : files.namesIn root with
  | error error =>
      rw [names] at listed
      cases listed
  | ok names' => exact Files.exists_of_namesIn names

/-! ## Asking -/

/-- A source knows a sequence under an id, or at least something that should be one. -/
def Knows (source : Source) (files : Files) (id : String) : Prop :=
  source files id ≠ .error (.notFound id)

theorem folder_knows_iff (id : String) :
    Knows (folder root) files id ↔
      CanNameFile id ∧ files.isFile (root.child (id ++ fileEnding)) = true := by
  rw [Knows, folder, ← namesFile_iff]
  split
  · rename_i away
    simp only [Bool.or_eq_true, Bool.not_eq_true'] at away
    rcases away with away | away <;> simp [away]
  · rename_i stays
    simp only [Bool.or_eq_true, Bool.not_eq_true', not_or, Bool.not_eq_false] at stays
    simp only [stays, and_self, iff_true]
    split
    · simp
    · split <;> simp

/-- In a folder stands a file that can be asked for under an id, and its path is not too
long. -/
structure HasFile (files : Files) (root : Path) (base : List String) (id : String) : Prop where
  canName : CanNameFile id
  short : (root.child (id ++ fileEnding)).text.utf8ByteSize ≤ Files.pathLimit
  file : ∃ bytes, files.entry? (base ++ [id ++ fileEnding]) = some (.file bytes)

theorem knows_iff_hasFile (sound : files.Sound) (toFolder : files.LeadsToFolder root base)
    (id : String) : Knows (folder root) files id ↔ HasFile files root base id := by
  rw [folder_knows_iff]
  constructor
  · rintro ⟨can, found⟩
    obtain ⟨short, file⟩ := (toFolder.isFile_child_iff can.json (Path.json_down id) sound).mp found
    exact ⟨can, short, file⟩
  · rintro ⟨can, short, file⟩
    exact ⟨can, (toFolder.isFile_child_iff can.json (Path.json_down id) sound).mpr ⟨short, file⟩⟩

theorem exists_leadsToFolder_of_knows (nonempty : root.text ≠ "") {id : String}
    (knows : Knows (folder root) files id) : ∃ base, files.LeadsToFolder root base := by
  obtain ⟨can, found⟩ := (folder_knows_iff id).mp knows
  exact Files.exists_leadsToFolder can.json (Path.json_down id) nonempty found

end Folder

end Dialogue.Source
