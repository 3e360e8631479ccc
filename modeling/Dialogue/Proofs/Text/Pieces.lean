import Dialogue.Text.Separator
import Mathlib.Data.List.Infix

/-!
# Pieces of a text

A text is cut at the occurrences of a separator that are met from left to right, each one
behind the one before it.  So the separator stands in none of the pieces, and joining them
with it gives the text back.  A text cut at a single character is determined by its pieces,
and any names without that character are the pieces of the text that joins them.
-/

namespace Dialogue.Text

section Cuts

variable {α : Type} {separator text : List α} {pieces : List (List α)}

/-- The pieces of a text between the occurrences of a separator: the first piece ends where
the separator occurs for the first time, and behind that occurrence the rest is cut. -/
inductive Cut (separator : List α) : List α → List (List α) → Prop
  | uncut {text : List α} (absent : ¬separator <:+: text) : Cut separator text [text]
  | cut {piece rest : List α} {pieces : List (List α)}
      (first : ∀ front back, piece ++ separator ++ rest = front ++ separator ++ back →
        piece.length ≤ front.length)
      (remaining : Cut separator rest pieces) :
      Cut separator (piece ++ separator ++ rest) (piece :: pieces)

theorem Cut.ne_nil (cut : Cut separator text pieces) : pieces ≠ [] := by
  cases cut <;> exact List.cons_ne_nil _ _

/-- A character at which no occurrence begins belongs to the first piece. -/
theorem Cut.cons {c : α} (notHere : ¬separator <+: c :: text)
    (cut : Cut separator text pieces) : Cut separator (c :: text) (consHead c pieces) := by
  cases cut with
  | uncut absent =>
      apply Cut.uncut
      rw [List.infix_cons_iff]
      exact not_or.mpr ⟨notHere, absent⟩
  | @cut piece rest pieces first remaining =>
      have later : ∀ front back, (c :: piece) ++ separator ++ rest = front ++ separator ++ back →
          (c :: piece).length ≤ front.length := by
        intro front back same
        cases front with
        | nil => exact absurd ⟨back, same.symm⟩ notHere
        | cons d front =>
            have tails := (List.cons.inj same).2
            exact Nat.succ_le_succ (first front back tails)
      exact .cut later remaining

/-- The separator does not stand in any piece. -/
theorem Cut.not_infix_of_mem (nonempty : separator ≠ []) (cut : Cut separator text pieces)
    {piece : List α} (member : piece ∈ pieces) : ¬separator <:+: piece := by
  induction cut with
  | uncut absent =>
      rw [List.mem_singleton] at member
      exact member ▸ absent
  | @cut start rest pieces first remaining ih =>
      rcases List.mem_cons.mp member with rfl | later
      · -- An occurrence inside of the piece would begin before the first one.
        rintro ⟨front, back, rfl⟩
        have early := first front (back ++ separator ++ rest) (by simp only [List.append_assoc])
        have long := List.length_pos_iff.mpr nonempty
        simp only [List.length_append] at early
        omega
      · exact ih later

/-- Joining the pieces gives the text back. -/
theorem Cut.intercalate_eq (cut : Cut separator text pieces) :
    separator.intercalate pieces = text := by
  induction cut with
  | uncut _ => exact List.intercalate_singleton
  | cut first remaining ih => rw [List.intercalate_cons_of_ne_nil remaining.ne_nil, ih]

end Cuts

/-! ## Cutting -/

section Cutting

variable {α : Type} [BEq α] [LawfulBEq α] {separator : List α}

theorem occurs_iff (part text : List α) : occurs part text = true ↔ part <:+: text := by
  induction text with
  | nil => rw [occurs, List.isEmpty_iff, List.infix_nil]
  | cons c rest ih =>
      rw [occurs, Bool.or_eq_true, List.isPrefixOf_iff_prefix, ih, List.infix_cons_iff]

/-- Behind an occurrence of the separator, the rest of a text is cut. -/
theorem pieces_separator_append (nonempty : separator ≠ []) (rest : List α) :
    pieces separator (separator ++ rest) = [] :: pieces separator rest := by
  have passed (front : List α) :
      piecesFrom separator front.length (front ++ rest) = pieces separator rest := by
    induction front with
    | nil => rfl
    | cons c front ih => exact ih
  obtain ⟨c, others, rfl⟩ := List.exists_cons_of_ne_nil nonempty
  have here : (c :: others).isPrefixOf (c :: (others ++ rest)) = true :=
    List.isPrefixOf_iff_prefix.mpr (List.prefix_append (c :: others) rest)
  rw [pieces, List.cons_append, piecesFrom, if_pos here, List.length_cons, Nat.add_sub_cancel,
    passed]

/-- A text is cut into its pieces. -/
theorem cut_pieces (nonempty : separator ≠ []) (text : List α) :
    Cut separator text (pieces separator text) := by
  match text with
  | [] =>
      apply Cut.uncut
      rw [List.infix_nil]
      exact nonempty
  | c :: rest =>
      by_cases here : separator <+: c :: rest
      · obtain ⟨behind, split⟩ := here
        have shorter : behind.length < (c :: rest).length := by
          rw [← split, List.length_append]
          exact Nat.lt_add_of_pos_left (List.length_pos_iff.mpr nonempty)
        have first : ∀ front back, [] ++ separator ++ behind = front ++ separator ++ back →
            ([] : List α).length ≤ front.length := fun _ _ _ => Nat.zero_le _
        rw [← split, pieces_separator_append nonempty]
        exact .cut first (cut_pieces nonempty behind)
      · have outside : ¬separator.isPrefixOf (c :: rest) = true := by
          rwa [List.isPrefixOf_iff_prefix]
        rw [pieces, piecesFrom, if_neg outside]
        exact (cut_pieces nonempty rest).cons here
termination_by text.length
decreasing_by
  · exact shorter
  · exact Nat.lt_add_one rest.length

/-- Cutting at a single character. -/
theorem pieces_singleton (c : α) (text : List α) : pieces [c] text = text.splitOn c := by
  induction text with
  | nil => rw [List.splitOn_nil, pieces, piecesFrom]
  | cons d rest ih =>
      rw [pieces] at ih
      rw [List.splitOn_cons_eq_if_modifyHead, pieces, piecesFrom, ih]
      obtain ⟨first, others, split⟩ := List.exists_cons_of_ne_nil (List.splitOn_ne_nil c rest)
      by_cases same : d = c
      · subst same
        simp [List.isPrefixOf, ih]
      · have apart : (c == d) = false := beq_false_of_ne (Ne.symm same)
        simp [List.isPrefixOf, apart, same, split, consHead]

end Cutting

/-! ## Names joined by a character -/

section Names

variable {c : Char}

theorem piecesAt_eq (c : Char) (s : String) :
    piecesAt c s = (s.toList.splitOn c).map String.ofList := by
  rw [piecesAt, pieces_singleton]

theorem piecesAt_ne_nil (c : Char) (s : String) : piecesAt c s ≠ [] := by
  rw [piecesAt_eq, ne_eq, List.map_eq_nil_iff]
  exact List.splitOn_ne_nil c _

/-- The separating character does not stand in any piece. -/
theorem not_mem_of_mem_piecesAt {s piece : String} (member : piece ∈ piecesAt c s) :
    c ∉ piece.toList := by
  rw [piecesAt] at member
  obtain ⟨characters, listed, rfl⟩ := List.mem_map.mp member
  rw [String.toList_ofList, ← List.singleton_infix_iff]
  exact (cut_pieces (List.cons_ne_nil c []) s.toList).not_infix_of_mem (List.cons_ne_nil c [])
    listed

/-- Joining the pieces of a text gives it back. -/
theorem intercalate_piecesAt (c : Char) (s : String) :
    String.intercalate (String.singleton c) (piecesAt c s) = s := by
  have texts : (piecesAt c s).map String.toList = pieces [c] s.toList := by
    simp [piecesAt, Function.comp_def]
  apply String.toList_inj.mp
  rw [String.toList_intercalate, texts, String.toList_singleton]
  exact (cut_pieces (List.cons_ne_nil c []) s.toList).intercalate_eq

/-- Names without the separating character are the pieces of the text that joins them. -/
theorem piecesAt_intercalate {names : List String} (nonempty : names ≠ [])
    (plain : ∀ name ∈ names, c ∉ name.toList) :
    piecesAt c (String.intercalate (String.singleton c) names) = names := by
  have lists : names.map String.toList ≠ [] := by simpa using nonempty
  have apart : ∀ name ∈ names.map String.toList, c ∉ name := by simpa using plain
  rw [piecesAt_eq, String.toList_intercalate, String.toList_singleton,
    List.splitOn_intercalate c apart lists]
  simp [Function.comp_def]

end Names

end Dialogue.Text
