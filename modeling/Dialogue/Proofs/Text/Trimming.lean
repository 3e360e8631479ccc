import Dialogue.Text.Blank
import Mathlib.Data.List.TakeWhile

/-!
# Trimming

Trimming takes a text apart into blank characters, the part that stays, and blank
characters again.  What stays is all of a text whose first and last characters are not
blank.
-/

namespace Dialogue.Text

/-- The first character of a text is there and not blank. -/
def StartsSolid (cs : List Char) : Prop :=
  ∃ c rest, cs = c :: rest ∧ isBlank c = false

/-- The last character of a text is there and not blank. -/
def EndsSolid (cs : List Char) : Prop :=
  ∃ front c, cs = front ++ [c] ∧ isBlank c = false

theorem StartsSolid.append {cs : List Char} (starts : StartsSolid cs) (rest : List Char) :
    StartsSolid (cs ++ rest) := by
  obtain ⟨c, others, rfl, solid⟩ := starts
  exact ⟨c, others ++ rest, rfl, solid⟩

theorem EndsSolid.append {cs : List Char} (ends : EndsSolid cs) (front : List Char) :
    EndsSolid (front ++ cs) := by
  obtain ⟨others, c, rfl, solid⟩ := ends
  exact ⟨front ++ others, c, by rw [List.append_assoc], solid⟩

/-- A text without blank characters starts and ends with characters that are not blank. -/
theorem solid_of_forall {cs : List Char} (nonempty : cs ≠ [])
    (solid : ∀ c ∈ cs, isBlank c = false) : StartsSolid cs ∧ EndsSolid cs := by
  constructor
  · obtain ⟨c, rest, rfl⟩ := List.exists_cons_of_ne_nil nonempty
    exact ⟨c, rest, rfl, solid c List.mem_cons_self⟩
  · obtain ⟨front, c, rfl⟩ := List.eq_nil_or_concat cs |>.resolve_left nonempty
    rw [List.concat_eq_append] at solid ⊢
    exact ⟨front, c, rfl, solid c (List.mem_append_right front List.mem_cons_self)⟩

theorem trimEnd_append {cs after : List Char} (blank : ∀ c ∈ after, isBlank c = true) :
    trimEnd (cs ++ after) = trimEnd cs := by
  have reversed : ∀ c ∈ after.reverse, isBlank c = true := fun c member =>
    blank c (List.mem_reverse.mp member)
  rw [trimEnd, trimEnd, List.reverse_append, List.dropWhile_append_of_pos reversed]

/-- Blank characters at the two ends of a text make no difference to what is trimmed. -/
theorem trimmed_surrounded {before cs after : List Char}
    (blankBefore : ∀ c ∈ before, isBlank c = true)
    (blankAfter : ∀ c ∈ after, isBlank c = true) :
    trimmed (before ++ (cs ++ after)) = trimmed cs := by
  rw [trimmed, trimmed, List.dropWhile_append_of_pos blankBefore, List.dropWhile_append]
  split
  · rename_i nothing
    rw [List.isEmpty_iff.mp nothing, List.dropWhile_eq_nil_iff.mpr blankAfter]
  · exact trimEnd_append blankAfter

/-- Nothing is trimmed of a text that starts and ends with characters that are not blank. -/
theorem trimmed_of_solid {cs : List Char} (starts : StartsSolid cs) (ends : EndsSolid cs) :
    trimmed cs = cs := by
  have left : cs.dropWhile isBlank = cs := by
    obtain ⟨c, rest, rfl, solid⟩ := starts
    exact List.dropWhile_cons_of_neg (Bool.eq_false_iff.mp solid)
  obtain ⟨front, c, rfl, solid⟩ := ends
  rw [trimmed, left, trimEnd, List.reverse_append, List.reverse_singleton,
    List.singleton_append, List.dropWhile_cons_of_neg (Bool.eq_false_iff.mp solid)]
  simp

/-- The blank characters around a text that starts and ends with others are trimmed. -/
theorem trimmed_append {before cs after : List Char}
    (blankBefore : ∀ c ∈ before, isBlank c = true)
    (blankAfter : ∀ c ∈ after, isBlank c = true) (starts : StartsSolid cs)
    (ends : EndsSolid cs) : trimmed (before ++ (cs ++ after)) = cs := by
  rw [trimmed_surrounded blankBefore blankAfter]
  exact trimmed_of_solid starts ends

/-- Trimming takes blank characters away at both ends. -/
theorem exists_append_trimmed (cs : List Char) :
    ∃ before after, cs = before ++ (trimmed cs ++ after) ∧
      (∀ c ∈ before, isBlank c = true) ∧ ∀ c ∈ after, isBlank c = true := by
  let inner := cs.dropWhile isBlank
  refine ⟨cs.takeWhile isBlank, (inner.reverse.takeWhile isBlank).reverse, ?_, ?_, ?_⟩
  · have split := List.takeWhile_append_dropWhile (p := isBlank) (l := inner.reverse)
    have unreversed := congrArg List.reverse split
    rw [List.reverse_append, List.reverse_reverse] at unreversed
    rw [trimmed, trimEnd, unreversed, List.takeWhile_append_dropWhile]
  · exact fun c member => List.mem_takeWhile_imp member
  · exact fun c member => List.mem_takeWhile_imp (List.mem_reverse.mp member)

theorem trimmed_trimmed (cs : List Char) : trimmed (trimmed cs) = trimmed cs := by
  obtain ⟨before, after, whole, blankBefore, blankAfter⟩ := exists_append_trimmed cs
  have same : trimmed (before ++ (trimmed cs ++ after)) = trimmed (trimmed cs) :=
    trimmed_surrounded blankBefore blankAfter
  rw [← whole] at same
  exact same.symm

/-- What is trimmed stands in the text as it is. -/
theorem toList_trim_infix (s : String) : (trim s).toList <:+: s.toList := by
  obtain ⟨before, after, whole, -, -⟩ := exists_append_trimmed s.toList
  refine ⟨before, after, ?_⟩
  rw [trim, String.toList_ofList, List.append_assoc, ← whole]

/-! ## Blank texts -/

theorem trimmed_eq_nil_iff (cs : List Char) :
    trimmed cs = [] ↔ cs.all isBlank = true := by
  rw [trimmed, trimEnd, List.reverse_eq_nil_iff, List.dropWhile_eq_nil_iff,
    List.all_eq_true]
  induction cs with
  | nil => simp
  | cons c rest ih =>
      by_cases blank : isBlank c = true
      · simpa [blank] using ih
      · simp [blank]

/-- A text is blank when nothing remains of it. -/
theorem trim_eq_empty_iff (s : String) : trim s = "" ↔ isBlankText s = true := by
  rw [isBlankText, ← trimmed_eq_nil_iff, trim, ← String.toList_inj]
  simp

/-- What remains of a text is blank only if the text is. -/
theorem isBlankText_trim (s : String) : isBlankText (trim s) = isBlankText s := by
  rw [Bool.eq_iff_iff, ← trim_eq_empty_iff, ← trim_eq_empty_iff, trim, trim,
    String.toList_ofList, trimmed_trimmed]

end Dialogue.Text
