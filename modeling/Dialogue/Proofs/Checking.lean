import Dialogue.Console.Program
import Dialogue.Proofs.SequenceFiles

/-!
# Checking a folder

A check loads every id that a folder lists, and reports for each of them what went wrong.  Its
report says of an id that it is not found exactly if the folder lists the id for something
that cannot be asked for: errors begin with words of their own, so no other failure reads the
same.
-/

namespace Dialogue

/-! ## Words that tell errors apart -/

/-- Neither of two texts begins with the other one. -/
def Text.BeginApart (a b : String) : Prop :=
  ¬a.toList <+: b.toList ∧ ¬b.toList <+: a.toList

instance (a b : String) : Decidable (Text.BeginApart a b) :=
  inferInstanceAs (Decidable (_ ∧ _))

/-- Texts that begin differently are different. -/
theorem Text.BeginApart.append_ne {a b : String} (apart : Text.BeginApart a b) (s t : String) :
    a ++ s ≠ b ++ t := by
  intro same
  have first : a.toList <+: (b ++ t).toList := by
    rw [← same, String.toList_append]
    exact List.prefix_append _ _
  have second : b.toList <+: (b ++ t).toList := by
    rw [String.toList_append]
    exact List.prefix_append _ _
  exact (List.prefix_or_prefix_of_prefix first second).elim apart.1 apart.2

namespace SequenceError

/-- How the wording of an error begins. -/
def opening : SequenceError → String
  | .notFound _ => "sequence not found: \""
  | .duplicateMessage _ _ => "sequence \""
  | .blankId _ => "invalid sequence \""
  | .unreadable _ => "io error on "
  | .undecodable fault => fault.message

theorem exists_message_eq (error : SequenceError) :
    ∃ rest, error.message = error.opening ++ rest := by
  cases error with
  | notFound id => exact ⟨_, String.append_assoc⟩
  | duplicateMessage sequence id =>
      exact ⟨_, String.append_assoc.trans String.append_assoc⟩
  | blankId sequence => exact ⟨_, String.append_assoc⟩
  | unreadable error => exact ⟨_, String.append_assoc.trans String.append_assoc⟩
  | undecodable fault => exact ⟨"", String.append_empty.symm⟩

theorem message_notFound (id : String) :
    (notFound id).message = "sequence not found: \"" ++ (id ++ "\"") :=
  String.append_assoc

theorem notFound_or_beginApart (error : SequenceError) :
    (∃ id, error = .notFound id) ∨
      Text.BeginApart error.opening "sequence not found: \"" := by
  cases error with
  | notFound id => exact .inl ⟨id, rfl⟩
  | undecodable fault => cases fault <;> exact .inr (by decide +kernel)
  | _ => exact .inr (by simp only [opening]; decide +kernel)

/-- Only the error that says so reads as if nothing was found. -/
theorem message_eq_notFound_iff {error : SequenceError} {id : String} :
    error.message = (SequenceError.notFound id).message ↔ error = .notFound id := by
  constructor
  · intro same
    rw [message_notFound] at same
    rcases error.notFound_or_beginApart with ⟨other, rfl⟩ | apart
    · rw [message_notFound, String.append_right_inj, String.append_left_inj] at same
      rw [same]
    · obtain ⟨rest, begins⟩ := error.exists_message_eq
      exact absurd (begins.symm.trans same) (apart.append_ne _ _)
  · rintro rfl
    rfl

theorem message_ne_cannotLoad (error : SequenceError) (rest : String) :
    error.message ≠ "cannot load '" ++ rest := by
  have apart : Text.BeginApart error.opening "cannot load '" := by
    cases error with
    | undecodable fault => cases fault <;> decide +kernel
    | _ => simp only [opening]; decide +kernel
  obtain ⟨behind, begins⟩ := error.exists_message_eq
  rw [begins]
  exact apart.append_ne _ _

end SequenceError

/-! ## The report -/

namespace Console

open Source (Knows HasFile idsIn folder fileEnding)

/-- What a check reports for an id. -/
def failureLines (files : Files) (root : Path) (id : String) : List String :=
  checkFailures (id, loadUsable files root id)

/-- What a check reports for an id that is not found. -/
def notFoundLine (id : String) : String :=
  "  error " ++ ("cannot load '" ++ id ++ "': " ++ (SequenceError.notFound id).message) ++ "\n"

variable {files : Files} {root : Path}

/-- A check reports of an id that it is not found exactly if no sequence is known under it. -/
theorem failureLines_eq_notFound_iff (id : String) :
    failureLines files root id = [notFoundLine id] ↔ ¬Knows (folder root) files id := by
  rw [Knows, not_not, failureLines, loadUsable]
  cases folder root files id with
  | error error =>
      simp only [checkFailures, notFoundLine, List.cons.injEq, and_true, String.append_left_inj,
        String.append_right_inj, SequenceError.message_eq_notFound_iff, Except.error.injEq]
  | ok sequence =>
      simp only [reduceCtorEq, iff_false]
      cases sequence.validate with
      | error error =>
          simp only [checkFailures, notFoundLine, List.cons.injEq, and_true,
            String.append_left_inj, String.append_right_inj]
          rw [String.append_assoc, String.append_assoc]
          exact error.message_ne_cannotLoad _
      | ok _ => simp [checkFailures]

/-- A text shows another one somewhere. -/
def Shows (text part : String) : Prop :=
  ∃ front back, text = front ++ part ++ back

theorem shows_append (front part : String) : Shows (front ++ part) part :=
  ⟨front, "", String.append_empty.symm⟩

theorem Shows.append {text part : String} (inside : Shows text part) (more : String) :
    Shows (text ++ more) part := by
  obtain ⟨front, back, rfl⟩ := inside
  exact ⟨front, back ++ more, String.append_assoc⟩

/-- The report of a check shows what it reports for every id that is listed. -/
theorem runCheck_shows {ids : List String} (listed : idsIn files root = .ok ids) :
    Shows (runCheck files root).output (String.join (ids.flatMap (failureLines files root))) := by
  have lines : ids.flatMap (failureLines files root) =
      (ids.map fun id => (id, loadUsable files root id)).flatMap checkFailures := by
    rw [List.flatMap_map]
    rfl
  rw [runCheck, listed, lines]
  cases ids with
  | nil => exact ⟨_, "", String.append_empty.symm.trans String.append_empty.symm⟩
  | cons id rest =>
      simp only
      split
      · exact (((((shows_append _ _).append _).append _).append _).append _).append _
      · exact shows_append _ _

/-! ## Listing and loading -/

/-- Listing a folder and loading its sequences agree as far as its names are those of files.

A folder is listed in ascending order, each id once: an id is listed if something of any kind
has its name with the ending.  A sequence is known under an id exactly if a file that can be
asked for has that name, in which case the id is listed.  So listing and loading agree exactly
if every listed id is that of such a file, and these are the ids that a check does not report
as not found.  Where there is no folder, nothing is listed, and nothing is known under any id,
whatever the path, unless it is empty. -/
theorem listing_and_loading (files : Files) (sound : files.Sound) (root : Path) :
    (∀ base, files.LeadsToFolder root base →
      ∃ ids, idsIn files root = .ok ids ∧ ids.Pairwise (· < ·) ∧
        (∀ id, id ∈ ids ↔
          id ≠ "" ∧ ∃ entry, files.entry? (base ++ [id ++ fileEnding]) = some entry) ∧
        (∀ id, Knows (folder root) files id ↔ HasFile files root base id) ∧
        (∀ id, Knows (folder root) files id → id ∈ ids) ∧
        ((∀ id, id ∈ ids ↔ Knows (folder root) files id) ↔
          ∀ id ∈ ids, HasFile files root base id) ∧
        Shows (runCheck files root).output
          (String.join (ids.flatMap (failureLines files root))) ∧
        ∀ id ∈ ids,
          failureLines files root id = [notFoundLine id] ↔ ¬HasFile files root base id) ∧
      ((∀ base, ¬files.LeadsToFolder root base) →
        (∃ error, idsIn files root = .error error) ∧
          (root.text ≠ "" → ∀ id, ¬Knows (folder root) files id)) := by
  constructor
  · intro base toFolder
    obtain ⟨ids, listed, ascending, mem_ids⟩ := Source.exists_ids sound toFolder
    have known := Source.knows_iff_hasFile sound toFolder
    have inIds : ∀ id, Knows (folder root) files id → id ∈ ids := by
      intro id knows
      obtain ⟨can, -, bytes, file⟩ := (known id).mp knows
      exact (mem_ids id).mpr ⟨can.nonempty, _, file⟩
    refine ⟨ids, listed, ascending, mem_ids, known, inIds, ?_, runCheck_shows listed, ?_⟩
    · constructor
      · intro agree id member
        exact (known id).mp ((agree id).mp member)
      · intro all id
        exact ⟨fun member => (known id).mpr (all id member), inIds id⟩
    · intro id _
      rw [failureLines_eq_notFound_iff, known]
  · intro nowhere
    constructor
    · cases listed : idsIn files root with
      | error error => exact ⟨error, rfl⟩
      | ok ids =>
          obtain ⟨base, toFolder⟩ := Source.exists_leadsToFolder_of_idsIn listed
          exact absurd toFolder (nowhere base)
    · -- Names below an empty path start in the working folder, though it leads nowhere itself.
      intro nonempty id knows
      obtain ⟨base, toFolder⟩ := Source.exists_leadsToFolder_of_knows nonempty knows
      exact nowhere base toFolder

/-- The file of a sequence, and beside it a folder whose name ends as those of such files. -/
def chatFolder : Files :=
  ((Files.emptyAt ["chat"]).place ["chat", "intro.json"] (.file "[\"intro\"]".toUTF8)).place
    ["chat", "archive.json"] .folder

theorem sound_chatFolder : chatFolder.Sound := by
  have chat : Files.IsEntryName "chat" :=
    ⟨⟨by decide, by decide⟩, by decide, by decide, by decide⟩
  have intro : Files.IsEntryName "intro.json" :=
    ⟨⟨by decide, by decide⟩, by decide, by decide, by decide⟩
  have archive : Files.IsEntryName "archive.json" :=
    ⟨⟨by decide, by decide⟩, by decide, by decide, by decide⟩
  exact ((Files.sound_emptyAt (by simpa using chat)).place (by simpa using ⟨chat, intro⟩) _).place
    (by simpa using ⟨chat, archive⟩) _

theorem leadsToFolder_chatFolder : chatFolder.LeadsToFolder { written := "." } ["chat"] :=
  ⟨by decide +kernel, rfl⟩

/-- A folder is listed, but not found. -/
theorem folder_listed_not_known :
    let here : Path := { written := "." }
    (∃ ids, idsIn chatFolder here = .ok ids ∧ "archive" ∈ ids) ∧
      folder here chatFolder "archive" = .error (.notFound "archive") ∧
      failureLines chatFolder here "archive" = [notFoundLine "archive"] := by
  intro here
  obtain ⟨ids, listed, -, mem_ids⟩ := Source.exists_ids sound_chatFolder leadsToFolder_chatFolder
  have unknown : ¬Knows (folder here) chatFolder "archive" := by
    intro knows
    have found := ((Source.folder_knows_iff "archive").mp knows).2
    exact absurd found (by decide +kernel)
  exact ⟨⟨ids, listed, (mem_ids "archive").mpr ⟨by decide, .folder, rfl⟩⟩, not_not.mp unknown,
    (failureLines_eq_notFound_iff "archive").mpr unknown⟩

theorem listing_and_loading_chatFolder :
    let here : Path := { written := "." }
    let attic : Path := { written := "attic" }
    chatFolder.Sound ∧ chatFolder.LeadsToFolder here ["chat"] ∧
      (∃ ids, idsIn chatFolder here = .ok ids ∧ "intro" ∈ ids ∧ "archive" ∈ ids ∧
        failureLines chatFolder here "intro" ≠ [notFoundLine "intro"] ∧
        failureLines chatFolder here "archive" = [notFoundLine "archive"]) ∧
      Knows (folder here) chatFolder "intro" ∧
      (∀ base, ¬chatFolder.LeadsToFolder attic base) ∧ attic.text ≠ "" ∧
      (∃ error, idsIn chatFolder attic = .error error) ∧
      ¬Knows (folder attic) chatFolder "intro" := by
  intro here attic
  have hasFile : HasFile chatFolder here ["chat"] "intro" :=
    ⟨⟨⟨by decide, by decide⟩, by decide, by decide⟩, by decide +kernel, _, rfl⟩
  have noFile : ¬HasFile chatFolder here ["chat"] "archive" := by
    rintro ⟨-, -, bytes, file⟩
    cases file
  have nowhere : ∀ base, ¬chatFolder.LeadsToFolder attic base := by
    rintro base ⟨leads, isFolder⟩
    have place : chatFolder.placeOf attic = .ok ["chat", "attic"] := by decide +kernel
    obtain rfl : ["chat", "attic"] = base := Except.ok.inj (place.symm.trans leads)
    cases isFolder
  obtain ⟨there, -⟩ := listing_and_loading chatFolder sound_chatFolder here
  obtain ⟨ids, listed, -, mem_ids, known, inIds, -, -, lines⟩ :=
    there ["chat"] leadsToFolder_chatFolder
  have knows := (known "intro").mpr hasFile
  have intro := inIds "intro" knows
  have archive : "archive" ∈ ids := (mem_ids "archive").mpr ⟨by decide, .folder, rfl⟩
  obtain ⟨-, elsewhere⟩ := listing_and_loading chatFolder sound_chatFolder attic
  obtain ⟨unlisted, unknown⟩ := elsewhere nowhere
  exact ⟨sound_chatFolder, leadsToFolder_chatFolder,
    ⟨ids, listed, intro, archive, fun line => (lines "intro" intro).mp line hasFile,
      (lines "archive" archive).mpr noFile⟩,
    knows, nowhere, by decide, unlisted, unknown (by decide) "intro"⟩

end Console

end Dialogue
