import Dialogue.Condition.Parser
import Mathlib.Data.List.Forall2

/-!
# Splitting outside of quotes

A text is cut where a sign occurs twice in a row while no quote is open.  Scanning for
quotes does not depend on the sign, so what one sign leaves in one piece stays in one
piece wherever another sign cuts; and texts that are in one piece and leave no quote open
can be joined by double signs and are found again.
-/

namespace Dialogue.Condition

/-! ## Quotes -/

/-- The quote that is open behind a character. -/
def quoteBehind (quote : Option Char) (c : Char) : Option Char :=
  match quote with
  | some opened => if c = opened then none else some opened
  | none => if isQuote c then some c else none

/-- The quote that is open behind a text. -/
def openQuote (quote : Option Char) (cs : List Char) : Option Char :=
  cs.foldl quoteBehind quote

theorem openQuote_append (quote : Option Char) (cs rest : List Char) :
    openQuote quote (cs ++ rest) = openQuote (openQuote quote cs) rest :=
  List.foldl_append

theorem openQuote_cons (quote : Option Char) (c : Char) (rest : List Char) :
    openQuote quote (c :: rest) = openQuote (quoteBehind quote c) rest :=
  rfl

theorem quoteBehind_none {c : Char} (plain : isQuote c = false) : quoteBehind none c = none := by
  simp [quoteBehind, plain]

/-- No quote is opened by a text without quotes. -/
theorem openQuote_of_plain {cs : List Char} (plain : ∀ c ∈ cs, isQuote c = false) :
    openQuote none cs = none := by
  induction cs with
  | nil => rfl
  | cons c rest ih =>
      rw [openQuote_cons, quoteBehind_none (plain c List.mem_cons_self)]
      exact ih fun other member => plain other (List.mem_cons_of_mem c member)

/-- A quote stays open over a text without it. -/
theorem openQuote_of_not_mem {quote : Char} {cs : List Char} (inside : quote ∉ cs) :
    openQuote (some quote) cs = some quote := by
  induction cs with
  | nil => rfl
  | cons c rest ih =>
      rw [List.mem_cons, not_or] at inside
      rw [openQuote_cons, quoteBehind, if_neg (Ne.symm inside.1)]
      exact ih inside.2

/-- A text between quotes leaves no quote open. -/
theorem openQuote_quoted {quote : Char} {cs : List Char} (isOne : isQuote quote = true)
    (inside : quote ∉ cs) : openQuote none (quote :: (cs ++ [quote])) = none := by
  have opened : quoteBehind none quote = some quote := if_pos isOne
  rw [openQuote_cons, opened, openQuote_append, openQuote_of_not_mem inside]
  exact if_pos rfl

/-! ## Cutting -/

section Cutting

variable {sign : Char} (plainSign : isQuote sign = false)

/-- A text is cut in front of a character and what follows it. -/
def CutsAt (sign : Char) (quote : Option Char) (c : Char) (rest : List Char) : Prop :=
  quote = none ∧ c = sign ∧ rest.head? = some sign

theorem splitOutsideQuotes_nil (sign : Char) (quote : Option Char) :
    splitOutsideQuotes sign quote [] = [[]] := by
  cases quote <;> rfl

theorem splitOutsideQuotes_cons {quote : Option Char} {c : Char} {rest : List Char}
    (uncut : ¬CutsAt sign quote c rest) :
    splitOutsideQuotes sign quote (c :: rest) =
      Text.consHead c (splitOutsideQuotes sign (quoteBehind quote c) rest) := by
  cases quote with
  | some opened => rw [splitOutsideQuotes, quoteBehind]
  | none =>
      cases rest with
      | nil =>
          rw [splitOutsideQuotes_nil]
          rfl
      | cons d rest =>
          have apart : ¬(c = sign ∧ d = sign) := by
            rintro ⟨rfl, rfl⟩
            exact uncut ⟨rfl, rfl, rfl⟩
          by_cases opens : isQuote c <;>
            simp [splitOutsideQuotes, quoteBehind, opens, apart]

include plainSign

theorem splitOutsideQuotes_cut (rest : List Char) :
    splitOutsideQuotes sign none (sign :: sign :: rest) =
      [] :: splitOutsideQuotes sign none rest := by
  rw [splitOutsideQuotes]
  simp [plainSign]

/-- A text has at least one piece. -/
theorem splitOutsideQuotes_ne_nil (quote : Option Char) (cs : List Char) :
    splitOutsideQuotes sign quote cs ≠ [] := by
  cases cs with
  | nil =>
      rw [splitOutsideQuotes_nil]
      exact List.cons_ne_nil _ _
  | cons c rest =>
      by_cases cut : CutsAt sign quote c rest
      · obtain ⟨rfl, rfl, next⟩ := cut
        obtain ⟨others, rfl⟩ := List.head?_eq_some_iff.mp next
        rw [splitOutsideQuotes_cut plainSign]
        exact List.cons_ne_nil _ _
      · rw [splitOutsideQuotes_cons cut]
        exact Text.consHead_ne_nil _ _

/-- Where a text is not cut in front of its first character, its first piece is that
character and the first piece behind it. -/
theorem exists_of_splitOutsideQuotes_cons {quote : Option Char} {c : Char}
    {rest piece : List Char} {more : List (List Char)} (uncut : ¬CutsAt sign quote c rest)
    (split : splitOutsideQuotes sign quote (c :: rest) = piece :: more) :
    ∃ tail, splitOutsideQuotes sign (quoteBehind quote c) rest = tail :: more ∧
      piece = c :: tail := by
  rw [splitOutsideQuotes_cons uncut] at split
  match parts : splitOutsideQuotes sign (quoteBehind quote c) rest with
  | [] => exact absurd parts (splitOutsideQuotes_ne_nil plainSign _ rest)
  | tail :: others =>
      rw [parts] at split
      obtain ⟨rfl, rfl⟩ := List.cons.inj split
      exact ⟨tail, rfl, rfl⟩

end Cutting

/-! ## Texts in one piece -/

/-- The sign does not cut a text. -/
def Whole (sign : Char) (quote : Option Char) (cs : List Char) : Prop :=
  splitOutsideQuotes sign quote cs = [cs]

section Whole

variable {sign : Char} (plainSign : isQuote sign = false)

theorem whole_nil (sign : Char) (quote : Option Char) : Whole sign quote [] :=
  splitOutsideQuotes_nil sign quote

include plainSign

theorem whole_cons_iff {quote : Option Char} {c : Char} {rest : List Char} :
    Whole sign quote (c :: rest) ↔
      ¬CutsAt sign quote c rest ∧ Whole sign (quoteBehind quote c) rest := by
  by_cases cut : CutsAt sign quote c rest
  · obtain ⟨rfl, rfl, next⟩ := id cut
    obtain ⟨others, rfl⟩ := List.head?_eq_some_iff.mp next
    simp [Whole, splitOutsideQuotes_cut plainSign, cut]
  · constructor
    · intro one
      obtain ⟨tail, split, same⟩ := exists_of_splitOutsideQuotes_cons plainSign cut one
      obtain ⟨-, rfl⟩ := List.cons.inj same
      exact ⟨cut, split⟩
    · rintro ⟨-, one⟩
      rw [Whole, splitOutsideQuotes_cons cut, one]
      rfl

/-- A text is in one piece if a quote is open wherever the sign stands twice in a row. -/
theorem whole_iff_openQuote {quote : Option Char} {cs : List Char} :
    Whole sign quote cs ↔
      ∀ front back, cs = front ++ sign :: sign :: back → openQuote quote front ≠ none := by
  induction cs generalizing quote with
  | nil => simp [whole_nil]
  | cons c rest ih =>
      rw [whole_cons_iff plainSign, ih]
      constructor
      · rintro ⟨uncut, others⟩ front back same
        cases front with
        | nil =>
            obtain ⟨rfl, rfl⟩ := List.cons.inj same
            exact fun here => uncut ⟨here, rfl, rfl⟩
        | cons d front =>
            obtain ⟨rfl, rfl⟩ := List.cons.inj same
            exact others front back rfl
      · intro quoted
        constructor
        · rintro ⟨here, rfl, next⟩
          obtain ⟨back, rfl⟩ := List.head?_eq_some_iff.mp next
          exact quoted [] back rfl here
        · rintro front back rfl
          exact quoted (c :: front) back rfl

/-- Two texts in one piece are one together if no sign stands where they meet. -/
theorem Whole.append {quote : Option Char} {cs rest : List Char}
    (first : Whole sign quote cs) (apart : rest.head? ≠ some sign)
    (second : Whole sign (openQuote quote cs) rest) : Whole sign quote (cs ++ rest) := by
  induction cs generalizing quote with
  | nil => exact second
  | cons c others ih =>
      obtain ⟨uncut, whole⟩ := (whole_cons_iff plainSign).mp first
      refine (whole_cons_iff plainSign).mpr ⟨?_, ih whole second⟩
      rintro ⟨here, same, next⟩
      cases others with
      | nil => exact apart next
      | cons d others => exact uncut ⟨here, same, next⟩

/-- The parts of a text in one piece are in one piece. -/
theorem Whole.of_append {quote : Option Char} {cs rest : List Char}
    (whole : Whole sign quote (cs ++ rest)) :
    Whole sign quote cs ∧ Whole sign (openQuote quote cs) rest := by
  induction cs generalizing quote with
  | nil => exact ⟨whole_nil sign quote, whole⟩
  | cons c others ih =>
      obtain ⟨uncut, inner⟩ := (whole_cons_iff plainSign).mp whole
      obtain ⟨first, second⟩ := ih inner
      refine ⟨(whole_cons_iff plainSign).mpr ⟨?_, first⟩, second⟩
      rintro ⟨here, same, next⟩
      cases others with
      | nil => cases next
      | cons d others => exact uncut ⟨here, same, next⟩

/-- A text without quotes is cut wherever the sign occurs twice in a row. -/
theorem whole_iff_of_plain {cs : List Char} (plain : ∀ c ∈ cs, isQuote c = false) :
    Whole sign none cs ↔ ¬[sign, sign] <:+: cs := by
  rw [whole_iff_openQuote plainSign]
  constructor
  · rintro quoted ⟨front, back, rfl⟩
    refine quoted front back (by simp) (openQuote_of_plain fun c member => ?_)
    exact plain c (by simp [member])
  · rintro single front back rfl
    exact absurd ⟨front, back, by simp⟩ single

/-- A text between quotes is in one piece, whatever it says. -/
theorem whole_quoted {quote : Char} {cs : List Char} (isOne : isQuote quote = true)
    (inside : quote ∉ cs) : Whole sign none (quote :: (cs ++ [quote])) := by
  have inQuotes : ∀ opened rest, (∀ c ∈ rest, c ≠ opened) →
      Whole sign (some opened) (rest ++ [opened]) := by
    intro opened rest
    induction rest with
    | nil =>
        intro _
        refine (whole_cons_iff plainSign).mpr ⟨?_, whole_nil _ _⟩
        rintro ⟨⟨⟩, -, -⟩
    | cons c rest ih =>
        intro free
        refine (whole_cons_iff plainSign).mpr ⟨?_, ?_⟩
        · rintro ⟨⟨⟩, -, -⟩
        · rw [quoteBehind, if_neg (free c List.mem_cons_self)]
          exact ih fun other member => free other (List.mem_cons_of_mem c member)
  have opened : quoteBehind none quote = some quote := if_pos isOne
  refine (whole_cons_iff plainSign).mpr ⟨?_, ?_⟩
  · rintro ⟨-, rfl, -⟩
    rw [isOne] at plainSign
    cases plainSign
  · rw [opened]
    refine inQuotes quote cs ?_
    rintro c member rfl
    exact inside member

end Whole

/-! ## Pieces -/

/-- The pieces of a text: each of them but the last ends where the sign occurs twice in a
row for the first time. -/
inductive Pieces (sign : Char) : List Char → List (List Char) → Prop
  | last {cs : List Char} (whole : Whole sign none cs) : Pieces sign cs [cs]
  | cut {piece rest : List Char} {more : List (List Char)}
      (whole : Whole sign none (piece ++ [sign])) (closed : openQuote none piece = none)
      (others : Pieces sign rest more) :
      Pieces sign (piece ++ sign :: sign :: rest) (piece :: more)

section Pieces

variable {sign : Char} (plainSign : isQuote sign = false)

include plainSign

/-- The first piece is all of a text, or it ends at the first place of a cut. -/
theorem first_piece {quote : Option Char} {cs piece : List Char} {more : List (List Char)}
    (split : splitOutsideQuotes sign quote cs = piece :: more) :
    (more = [] ∧ cs = piece ∧ Whole sign quote piece) ∨
      ∃ rest, cs = piece ++ sign :: sign :: rest ∧ Whole sign quote (piece ++ [sign]) ∧
        openQuote quote piece = none ∧ splitOutsideQuotes sign none rest = more := by
  induction cs generalizing quote piece with
  | nil =>
      rw [splitOutsideQuotes_nil] at split
      obtain ⟨rfl, rfl⟩ := List.cons.inj split
      exact .inl ⟨rfl, rfl, whole_nil sign quote⟩
  | cons c rest ih =>
      by_cases cut : CutsAt sign quote c rest
      · obtain ⟨rfl, rfl, next⟩ := cut
        obtain ⟨others, rfl⟩ := List.head?_eq_some_iff.mp next
        rw [splitOutsideQuotes_cut plainSign] at split
        obtain ⟨rfl, rfl⟩ := List.cons.inj split
        refine .inr ⟨others, rfl, (whole_cons_iff plainSign).mpr ⟨?_, whole_nil _ _⟩, rfl, rfl⟩
        rintro ⟨-, -, ⟨⟩⟩
      · obtain ⟨tail, inner, rfl⟩ := exists_of_splitOutsideQuotes_cons plainSign cut split
        rcases ih inner with ⟨rfl, rfl, whole⟩ | ⟨others, rfl, whole, closed, same⟩
        · exact .inl ⟨rfl, rfl, (whole_cons_iff plainSign).mpr ⟨cut, whole⟩⟩
        · refine .inr ⟨others, rfl, (whole_cons_iff plainSign).mpr ⟨?_, whole⟩, closed, same⟩
          -- What follows the character starts in the same way with one sign and with two.
          rintro ⟨here, isSign, next⟩
          refine cut ⟨here, isSign, ?_⟩
          cases tail with
          | nil => rfl
          | cons d tail => exact next

/-- A text is cut behind a piece that ends at the first place of a cut. -/
theorem splitOutsideQuotes_append {quote : Option Char} {piece : List Char}
    (whole : Whole sign quote (piece ++ [sign])) (closed : openQuote quote piece = none)
    (rest : List Char) :
    splitOutsideQuotes sign quote (piece ++ sign :: sign :: rest) =
      piece :: splitOutsideQuotes sign none rest := by
  induction piece generalizing quote with
  | nil =>
      cases closed
      exact splitOutsideQuotes_cut plainSign rest
  | cons c tail ih =>
      obtain ⟨uncut, inner⟩ := (whole_cons_iff plainSign).mp whole
      have still : ¬CutsAt sign quote c (tail ++ sign :: sign :: rest) := by
        rintro ⟨here, isSign, next⟩
        refine uncut ⟨here, isSign, ?_⟩
        cases tail with
        | nil => rfl
        | cons d tail => exact next
      rw [List.cons_append, splitOutsideQuotes_cons still, ih inner closed]
      rfl

/-- Splitting gives the pieces of a text. -/
theorem splitOutsideQuotes_eq_iff {cs : List Char} {parts : List (List Char)} :
    splitOutsideQuotes sign none cs = parts ↔ Pieces sign cs parts := by
  constructor
  · intro split
    induction parts generalizing cs with
    | nil => exact absurd split (splitOutsideQuotes_ne_nil plainSign none cs)
    | cons piece more ih =>
        rcases first_piece plainSign split with
          ⟨rfl, rfl, whole⟩ | ⟨rest, rfl, whole, closed, others⟩
        · exact .last whole
        · exact .cut whole closed (ih others)
  · intro pieces
    induction pieces with
    | last whole => exact whole
    | cut whole closed _ ih => rw [splitOutsideQuotes_append plainSign whole closed, ih]

/-- A piece is in one piece. -/
theorem Pieces.whole_of_mem {cs piece : List Char} {parts : List (List Char)}
    (pieces : Pieces sign cs parts) (member : piece ∈ parts) : Whole sign none piece := by
  induction pieces with
  | last whole =>
      rw [List.mem_singleton.mp member]
      exact whole
  | cut whole _ _ ih =>
      rcases List.mem_cons.mp member with rfl | member
      · exact (whole.of_append plainSign).1
      · exact ih member

/-- What another sign leaves in one piece stays in one piece where a sign cuts. -/
theorem Pieces.whole_other {other : Char} (plainOther : isQuote other = false)
    {cs piece : List Char} {parts : List (List Char)} (pieces : Pieces sign cs parts)
    (whole : Whole other none cs) (member : piece ∈ parts) : Whole other none piece := by
  induction pieces with
  | last _ =>
      rw [List.mem_singleton.mp member]
      exact whole
  | @cut first rest more _ closed _ ih =>
      obtain ⟨here, behind⟩ := whole.of_append plainOther
      rcases List.mem_cons.mp member with rfl | member
      · exact here
      · rw [closed] at behind
        have signs : openQuote none [sign, sign] = none :=
          openQuote_of_plain (by simp [plainSign])
        have inner : Whole other (openQuote none [sign, sign]) rest :=
          (Whole.of_append plainOther behind).2
        rw [signs] at inner
        exact ih inner member

end Pieces

/-! ## Joining -/

/-- A text in one piece that leaves no quote open. -/
structure Sealed (sign : Char) (cs : List Char) : Prop where
  whole : Whole sign none cs
  closed : openQuote none cs = none

/-- Texts with a double sign between spaces between them. -/
def joined (sign : Char) : List (List Char) → List Char
  | [] => []
  | [text] => text
  | text :: second :: more =>
      text ++ ' ' :: sign :: sign :: ' ' :: joined sign (second :: more)

/-- A text with spaces around it. -/
def Padded (text padded : List Char) : Prop :=
  ∃ before after, padded = List.replicate before ' ' ++ (text ++ List.replicate after ' ')

section Joining

variable {sign : Char} (plainSign : isQuote sign = false) (notSpace : sign ≠ ' ')

theorem sealed_nil (sign : Char) : Sealed sign [] :=
  ⟨whole_nil sign none, rfl⟩

include plainSign

/-- A text without quotes, and without the sign twice in a row. -/
theorem sealed_of_plain {cs : List Char} (plain : ∀ c ∈ cs, isQuote c = false)
    (single : ¬[sign, sign] <:+: cs) : Sealed sign cs :=
  ⟨(whole_iff_of_plain plainSign plain).mpr single, openQuote_of_plain plain⟩

theorem sealed_quoted {quote : Char} {cs : List Char} (isOne : isQuote quote = true)
    (inside : quote ∉ cs) : Sealed sign (quote :: (cs ++ [quote])) :=
  ⟨whole_quoted plainSign isOne inside, openQuote_quoted isOne inside⟩

include notSpace

theorem Sealed.space {cs rest : List Char} (first : Sealed sign cs) (second : Sealed sign rest) :
    Sealed sign (cs ++ ' ' :: rest) := by
  have spaced : Whole sign none (' ' :: rest) := by
    refine (whole_cons_iff plainSign).mpr ⟨?_, second.whole⟩
    rintro ⟨-, same, -⟩
    exact notSpace same.symm
  have apart : (' ' :: rest).head? ≠ some sign := fun same =>
    notSpace (Option.some.inj same).symm
  constructor
  · refine first.whole.append plainSign apart ?_
    rw [first.closed]
    exact spaced
  · rw [openQuote_append, first.closed]
    exact second.closed

theorem Sealed.behind_spaces {cs : List Char} (inner : Sealed sign cs) (count : Nat) :
    Sealed sign (List.replicate count ' ' ++ cs) := by
  induction count with
  | zero => exact inner
  | succ count ih => exact (sealed_nil sign).space plainSign notSpace ih

theorem Sealed.padded {text padded : List Char} (inner : Sealed sign text)
    (pads : Padded text padded) : Sealed sign padded := by
  obtain ⟨before, after, rfl⟩ := pads
  refine Sealed.behind_spaces plainSign notSpace ?_ before
  cases after with
  | zero =>
      rw [List.replicate_zero, List.append_nil]
      exact inner
  | succ after =>
      have spaces := (sealed_nil sign).behind_spaces plainSign notSpace after
      rw [List.append_nil] at spaces
      exact inner.space plainSign notSpace spaces

/-- Joined texts are sealed against another sign if each of them is. -/
theorem sealed_joined {other : Char} {texts : List (List Char)} (different : sign ≠ other)
    (plainOther : isQuote other = false) (all : ∀ text ∈ texts, Sealed sign text) :
    Sealed sign (joined other texts) := by
  induction texts with
  | nil => exact sealed_nil sign
  | cons text more ih =>
      have first := all text List.mem_cons_self
      cases more with
      | nil => exact first
      | cons second more =>
          have double : Sealed sign [other, other] := by
            refine sealed_of_plain plainSign (by simp [plainOther]) ?_
            intro inside
            have member := inside.subset List.mem_cons_self
            simp [different] at member
          have others := ih fun each member => all each (List.mem_cons_of_mem text member)
          exact first.space plainSign notSpace (double.space plainSign notSpace others)

/-- The pieces of joined texts are the texts with spaces around them. -/
theorem pieces_joined {texts : List (List Char)} {padded : List Char} (nonempty : texts ≠ [])
    (all : ∀ text ∈ texts, Sealed sign text) (pads : Padded (joined sign texts) padded) :
    ∃ parts, Pieces sign padded parts ∧ List.Forall₂ Padded texts parts := by
  induction texts generalizing padded with
  | nil => exact absurd rfl nonempty
  | cons text more ih =>
      have first := all text List.mem_cons_self
      cases more with
      | nil =>
          have whole := (first.padded plainSign notSpace pads).whole
          exact ⟨[padded], .last whole, .cons pads .nil⟩
      | cons second more =>
          obtain ⟨before, after, rfl⟩ := pads
          obtain ⟨parts, pieces, same⟩ := ih (List.cons_ne_nil second more)
            (fun each member => all each (List.mem_cons_of_mem text member))
            ⟨1, after, rfl⟩
          have single : Sealed sign [sign] := by
            refine sealed_of_plain plainSign (by simp [plainSign]) ?_
            intro inside
            exact absurd inside.length_le (by simp)
          have front := (first.behind_spaces plainSign notSpace before).space plainSign notSpace
            single
          have closed := ((first.behind_spaces plainSign notSpace before).space plainSign
            notSpace (sealed_nil sign)).closed
          refine ⟨(List.replicate before ' ' ++ text ++ [' ']) :: parts, ?_, ?_⟩
          · have cut := Pieces.cut (by simpa using front.whole) closed pieces
            simpa [joined] using cut
          · exact .cons ⟨before, 1, by simp⟩ same

end Joining

end Dialogue.Condition
