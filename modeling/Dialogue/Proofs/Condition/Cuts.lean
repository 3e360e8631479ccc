import Dialogue.Proofs.Condition.Joining

/-!
# Where conditions are cut

Splitting a text at a sign loses nothing: joining the pieces by the double sign gives the text
back, every piece but the last one leaves no quote open, and no piece is cut again.

A piece starts where no quote is open, so scanning it alone finds the same quotes as scanning
the whole text.  That is why it makes no difference to the places of `&&` whether a text is
first cut at `||`: between two pieces stand signs of the other kind, which belong to one piece
when `&&` alone is looked for.
-/

namespace Dialogue.Condition

/-! ## Pieces of one sign -/

section Pieces

variable {sign : Char} {cs : List Char} {parts : List (List Char)}

/-- Joining the pieces by the double sign gives the text back. -/
theorem Pieces.intercalate_eq (pieces : Pieces sign cs parts) :
    [sign, sign].intercalate parts = cs := by
  induction pieces with
  | last _ => exact List.intercalate_singleton
  | cut _ _ others ih =>
      rw [List.intercalate_cons_of_ne_nil others.ne_nil, ih]
      simp

/-- Every piece but the last one leaves no quote open. -/
theorem Pieces.closed_of_mem_dropLast (pieces : Pieces sign cs parts) {piece : List Char}
    (member : piece ∈ parts.dropLast) : openQuote none piece = none := by
  induction pieces with
  | last _ => cases member
  | cut _ closed others ih =>
      rw [List.dropLast_cons_of_ne_nil others.ne_nil] at member
      rcases List.mem_cons.mp member with rfl | member
      · exact closed
      · exact ih member

end Pieces

/-! ## Places of cuts -/

/-- The places of the double signs between parts, the first of which begins at `start`. -/
def cutPlaces (start : Nat) : List (List Char) → List Nat
  | [] => []
  | [_] => []
  | part :: next :: more =>
      (start + part.length) :: cutPlaces (start + part.length + 2) (next :: more)

/-- The places where a sign cuts the parts themselves, the first of which begins at `start`,
with the double sign of another kind between any two of them. -/
def innerCutPlaces (sign : Char) (start : Nat) : List (List Char) → List Nat
  | [] => []
  | part :: more =>
      cutPlaces start (splitOutsideQuotes sign none part) ++
        innerCutPlaces sign (start + part.length + 2) more

section Places

variable {sign : Char} {cs : List Char} {parts : List (List Char)}

theorem cutPlaces_cons {start : Nat} (part : List Char) {more : List (List Char)}
    (nonempty : more ≠ []) :
    cutPlaces start (part :: more) =
      (start + part.length) :: cutPlaces (start + part.length + 2) more := by
  obtain ⟨next, others, rfl⟩ := List.exists_cons_of_ne_nil nonempty
  rfl

/-- At the place of a cut stands a double sign, and no quote is open there. -/
theorem Pieces.exists_of_mem_cutPlaces (plainSign : isQuote sign = false)
    (pieces : Pieces sign cs parts) {start place : Nat} (member : place ∈ cutPlaces start parts) :
    ∃ front back, cs = front ++ sign :: sign :: back ∧ place = start + front.length ∧
      openQuote none front = none := by
  induction pieces generalizing start with
  | last _ => cases member
  | @cut piece rest more _ closed others ih =>
      rw [cutPlaces_cons piece others.ne_nil] at member
      rcases List.mem_cons.mp member with rfl | member
      · exact ⟨piece, rest, rfl, rfl, closed⟩
      · obtain ⟨front, back, rfl, rfl, outside⟩ := ih member
        refine ⟨piece ++ sign :: sign :: front, back, by simp, ?_, ?_⟩
        · simp only [List.length_append, List.length_cons]
          omega
        · rw [openQuote_behind_sign plainSign closed, outside]

/-- A text in front of the first part only moves the places. -/
theorem cutPlaces_append_head (start : Nat) (text head : List Char) (more : List (List Char)) :
    cutPlaces start ((text ++ head) :: more) = cutPlaces (start + text.length) (head :: more) := by
  cases more with
  | nil => rfl
  | cons next more => simp [cutPlaces, Nat.add_assoc]

/-- Where the last of some parts and the first of some more become one, there is no cut. -/
theorem cutPlaces_append (sign : Char) (start : Nat) (front : List (List Char))
    (last head : List Char) (more : List (List Char)) :
    cutPlaces start (front ++ (last ++ head) :: more) =
      cutPlaces start (front ++ [last]) ++
        cutPlaces (start + ([sign, sign].intercalate (front ++ [last])).length)
          (head :: more) := by
  induction front generalizing start with
  | nil =>
      rw [List.nil_append, List.nil_append, List.intercalate_singleton]
      exact cutPlaces_append_head start last head more
  | cons part front ih =>
      have length : start + part.length + 2 +
            ([sign, sign].intercalate (front ++ [last])).length =
          start + ([sign, sign].intercalate (part :: (front ++ [last]))).length := by
        rw [List.intercalate_cons_of_ne_nil (by simp)]
        simp only [List.length_append, List.length_cons, List.length_nil]
        omega
      rw [List.cons_append, List.cons_append, cutPlaces_cons _ (by simp),
        cutPlaces_cons _ (by simp), ih, length, List.cons_append]

/-- A text is cut by one sign where its pieces with respect to another sign are. -/
theorem innerCutPlaces_eq {other : Char} (joint : IsJoint sign) (otherJoint : IsJoint other)
    (different : other ≠ sign) (pieces : Pieces other cs parts) (start : Nat) :
    innerCutPlaces sign start parts = cutPlaces start (splitOutsideQuotes sign none cs) := by
  induction pieces generalizing start with
  | last _ => rw [innerCutPlaces, innerCutPlaces, List.append_nil]
  | @cut piece rest more _ closed _ ih =>
      obtain ⟨front, last, shape, inPiece⟩ := exists_pieces_concat joint piece
      obtain ⟨first, others, shapeRest, inRest⟩ := exists_pieces_cons joint rest
      -- The other sign stands in front of the first piece of the rest.
      have behind := (inRest.cons joint.plain otherJoint.plain different).cons joint.plain
        otherJoint.plain different
      have apart : (other :: other :: rest).head? ≠ some sign := fun same =>
        different (Option.some.inj same)
      have whole := inPiece.append joint.plain closed apart behind
      have split := (splitOutsideQuotes_eq_iff joint.plain).mpr whole
      have later : cutPlaces (start + piece.length) ((other :: other :: first) :: others) =
          cutPlaces (start + piece.length + 2) (first :: others) :=
        cutPlaces_append_head _ [other, other] first others
      rw [innerCutPlaces, ih, split, cutPlaces_append sign, inPiece.intercalate_eq,
        later, shape, shapeRest]

end Places

/-! ## Splitting -/

/-- Splitting at `&&` or `||` is lossless and stable.

Joining the parts by the double sign gives the text back.  Every part but the last one leaves
no quote open, and a quote is open wherever a part holds the double sign, so that splitting a
part again returns just that part.  The cuts are double signs of the text outside of quotes,
and cutting a text at `||` and then each part at `&&` finds the same `&&` as cutting the text
at `&&` directly. -/
theorem split_lossless_and_stable (cs : List Char) :
    (∀ sign, IsJoint sign →
      let parts := splitOutsideQuotes sign none cs
      [sign, sign].intercalate parts = cs ∧
        (∀ part ∈ parts.dropLast, openQuote none part = none) ∧
        (∀ part ∈ parts,
          (∀ front back, part = front ++ sign :: sign :: back → openQuote none front ≠ none) ∧
            splitOutsideQuotes sign none part = [part]) ∧
        ∀ place ∈ cutPlaces 0 parts, ∃ front back, cs = front ++ sign :: sign :: back ∧
          place = front.length ∧ openQuote none front = none) ∧
      innerCutPlaces '&' 0 (splitOutsideQuotes '|' none cs) =
        cutPlaces 0 (splitOutsideQuotes '&' none cs) := by
  constructor
  · intro sign joint parts
    have pieces : Pieces sign cs parts := (splitOutsideQuotes_eq_iff joint.plain).mp rfl
    refine ⟨pieces.intercalate_eq, fun _ => pieces.closed_of_mem_dropLast, ?_, ?_⟩
    · intro part member
      have whole := pieces.whole_of_mem joint.plain member
      exact ⟨(whole_iff_openQuote joint.plain).mp whole, whole⟩
    · intro place member
      obtain ⟨front, back, split, rfl, outside⟩ :=
        pieces.exists_of_mem_cutPlaces joint.plain member
      exact ⟨front, back, split, Nat.zero_add _, outside⟩
  · have pieces : Pieces '|' cs (splitOutsideQuotes '|' none cs) :=
      (splitOutsideQuotes_eq_iff isJoint_or.plain).mp rfl
    exact innerCutPlaces_eq isJoint_and isJoint_or (by decide) pieces 0

/-- A text with a quoted sign, a sign three times in a row, and both kinds of signs. -/
def ticketRule : List Char :=
  "seat == 'a && b' &&& row || price > 9 && paid".toList

theorem split_lossless_and_stable_ticketRule :
    let first := "seat == 'a && b' ".toList
    let second := "& row || price > 9 ".toList
    let third := " paid".toList
    IsJoint '&' ∧ splitOutsideQuotes '&' none ticketRule = [first, second, third] ∧
      ['&', '&'].intercalate [first, second, third] = ticketRule ∧
      openQuote none second = none ∧ openQuote none ("seat == 'a ".toList) ≠ none ∧
      splitOutsideQuotes '&' none second = [second] ∧
      (∃ front back, ticketRule = front ++ '&' :: '&' :: back ∧ 38 = front.length ∧
        openQuote none front = none) ∧
      innerCutPlaces '&' 0 (splitOutsideQuotes '|' none ticketRule) = [17, 38] := by
  intro first second third
  have split : splitOutsideQuotes '&' none ticketRule = [first, second, third] := by
    decide +kernel
  obtain ⟨each, nested⟩ := split_lossless_and_stable ticketRule
  obtain ⟨lossless, closed, stable, outside⟩ := each '&' isJoint_and
  rw [split] at lossless closed stable outside nested
  refine ⟨isJoint_and, split, lossless, closed second (by simp), ?_,
    (stable second (by simp)).2, ?_, nested⟩
  · exact (stable first (by simp)).1 "seat == 'a ".toList " b' ".toList (by decide +kernel)
  · exact outside 38 (by decide +kernel)

end Dialogue.Condition
