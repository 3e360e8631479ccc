import Dialogue.Proofs.Condition.Evaluation

/-!
# Joining conditions

Two texts that leave no quote open are joined by a sign between spaces.  The pieces of the
joined text are the pieces of both, up to the spaces where they meet, and spaces make no
difference to what a piece stands for.  So the joined text stands for a condition if both
texts do, and holds as its sign says: `||` of any two, `&&` of two that are not cut by the
looser `||` themselves.
-/

namespace Dialogue.Condition

/-! ## Pieces of joined texts -/

section Pieces

variable {sign : Char} (plainSign : isQuote sign = false)

theorem Pieces.ne_nil {cs : List Char} {parts : List (List Char)}
    (pieces : Pieces sign cs parts) : parts ≠ [] := by
  cases pieces <;> exact List.cons_ne_nil _ _

include plainSign

/-- Behind a closed piece and a sign, quotes are looked for afresh. -/
theorem openQuote_behind_sign {piece : List Char} (closed : openQuote none piece = none)
    (rest : List Char) :
    openQuote none (piece ++ sign :: sign :: rest) = openQuote none rest := by
  rw [openQuote_append, closed, openQuote_cons, quoteBehind_none plainSign, openQuote_cons,
    quoteBehind_none plainSign]

/-- The pieces of a text that leaves no quote open leave none open either. -/
theorem Pieces.closed_of_mem {cs piece : List Char} {parts : List (List Char)}
    (pieces : Pieces sign cs parts) (closed : openQuote none cs = none)
    (member : piece ∈ parts) : openQuote none piece = none := by
  induction pieces with
  | last _ =>
      rw [List.mem_singleton.mp member]
      exact closed
  | cut _ first _ ih =>
      rw [openQuote_behind_sign plainSign first] at closed
      rcases List.mem_cons.mp member with rfl | member
      · exact first
      · exact ih closed member

/-- A character that is neither a quote nor the sign belongs to the first piece. -/
theorem Pieces.cons {cs piece : List Char} {more : List (List Char)} {c : Char}
    (pieces : Pieces sign cs (piece :: more)) (plain : isQuote c = false) (different : c ≠ sign) :
    Pieces sign (c :: cs) ((c :: piece) :: more) := by
  have whole {rest : List Char} (inner : Whole sign none rest) : Whole sign none (c :: rest) := by
    refine (whole_cons_iff plainSign).mpr ⟨?_, ?_⟩
    · rintro ⟨-, same, -⟩
      exact different same
    · rw [quoteBehind_none plain]
      exact inner
  cases pieces with
  | last inner => exact .last (whole inner)
  | cut inner closed others =>
      have closedToo : openQuote none (c :: piece) = none := by
        rw [openQuote_cons, quoteBehind_none plain]
        exact closed
      exact .cut (whole inner) closedToo others

/-- Where two texts meet outside of quotes and of signs, the last piece of the first one and
the first piece of the second one become one piece. -/
theorem Pieces.append {cs rest last head : List Char} {front more : List (List Char)}
    (first : Pieces sign cs (front ++ [last])) (closed : openQuote none cs = none)
    (apart : rest.head? ≠ some sign) (second : Pieces sign rest (head :: more)) :
    Pieces sign (cs ++ rest) (front ++ (last ++ head) :: more) := by
  induction front generalizing cs with
  | nil =>
      cases first with
      | cut _ _ nothing => exact absurd rfl nothing.ne_nil
      | last whole =>
          cases second with
          | last wholeRest =>
              refine .last (whole.append plainSign apart ?_)
              rw [closed]
              exact wholeRest
          | @cut _ behind _ wholeHead closedHead others =>
              have apartHead : (head ++ [sign]).head? ≠ some sign := by
                cases head with
                | nil => exact absurd rfl apart
                | cons c head => exact apart
              rw [← List.append_assoc]
              refine .cut ?_ ?_ others
              · rw [List.append_assoc]
                refine whole.append plainSign apartHead ?_
                rw [closed]
                exact wholeHead
              · rw [openQuote_append, closed]
                exact closedHead
  | cons piece front ih =>
      generalize tail : front ++ [last] = behind at ih
      rw [List.cons_append, tail] at first
      cases first with
      | last _ => simp at tail
      | cut whole closedPiece others =>
          rw [openQuote_behind_sign plainSign closedPiece] at closed
          rw [List.append_assoc, List.cons_append, List.cons_append]
          exact .cut whole closedPiece (ih others closed)

end Pieces

/-! ## What the pieces of a text stand for -/

/-- What the pieces of a text stand for. -/
def readings (sign : Char) (read? : List Char → Option Condition) (cs : List Char) :
    List (Option Condition) :=
  (splitOutsideQuotes sign none cs).map read?

/-- A space at either end of a text that leaves no quote open makes no difference to what is
read. -/
def Lenient (read? : List Char → Option Condition) : Prop :=
  ∀ text, openQuote none text = none →
    read? (text ++ [' ']) = read? text ∧ read? (' ' :: text) = read? text

section Readings

variable {sign : Char} (joint : IsJoint sign) {read? : List Char → Option Condition}

include joint in
/-- Splitting gives some pieces in front of a last one. -/
theorem exists_pieces_concat (cs : List Char) :
    ∃ front last, splitOutsideQuotes sign none cs = front ++ [last] ∧
      Pieces sign cs (front ++ [last]) := by
  have pieces : Pieces sign cs (splitOutsideQuotes sign none cs) :=
    (splitOutsideQuotes_eq_iff joint.plain).mp rfl
  obtain ⟨front, last, shape⟩ := List.eq_nil_or_concat _ |>.resolve_left pieces.ne_nil
  rw [List.concat_eq_append] at shape
  exact ⟨front, last, shape, shape ▸ pieces⟩

include joint in
/-- Splitting gives a first piece and some more behind it. -/
theorem exists_pieces_cons (cs : List Char) :
    ∃ first more, splitOutsideQuotes sign none cs = first :: more ∧
      Pieces sign cs (first :: more) := by
  have pieces : Pieces sign cs (splitOutsideQuotes sign none cs) :=
    (splitOutsideQuotes_eq_iff joint.plain).mp rfl
  obtain ⟨first, more, shape⟩ := List.exists_cons_of_ne_nil pieces.ne_nil
  exact ⟨first, more, shape, shape ▸ pieces⟩

include joint in
theorem readings_of_pieces {cs : List Char} {parts : List (List Char)}
    (pieces : Pieces sign cs parts) : readings sign read? cs = parts.map read? := by
  rw [readings, (splitOutsideQuotes_eq_iff joint.plain).mpr pieces]

include joint in
/-- The pieces of joined texts stand for what the pieces of both stand for. -/
theorem readings_joined (lenient : Lenient read?) {a b : List Char}
    (closedA : openQuote none a = none) (closedB : openQuote none b = none) :
    readings sign read? (joined sign [a, b]) =
      readings sign read? a ++ readings sign read? b := by
  obtain ⟨front, last, shapeA, piecesA⟩ := exists_pieces_concat joint a
  obtain ⟨first, more, shapeB, piecesB⟩ := exists_pieces_cons joint b
  have space : isQuote ' ' = false := rfl
  have spaceSign : Whole sign none ([' '] ++ [sign]) :=
    (whole_cons_iff joint.plain).mpr ⟨fun cut => joint.ne_space cut.2.1.symm, rfl⟩
  have behind : Pieces sign (' ' :: sign :: sign :: ' ' :: b)
      ([' '] :: (' ' :: first) :: more) :=
    .cut spaceSign rfl (piecesB.cons joint.plain space joint.ne_space.symm)
  have apart : (' ' :: sign :: sign :: ' ' :: b).head? ≠ some sign := fun same =>
    joint.ne_space (Option.some.inj same).symm
  have pieces := piecesA.append joint.plain closedA apart behind
  have closedLast : openQuote none last = none :=
    piecesA.closed_of_mem joint.plain closedA (by simp)
  have closedFirst : openQuote none first = none :=
    piecesB.closed_of_mem joint.plain closedB List.mem_cons_self
  change readings sign read? (a ++ ' ' :: sign :: sign :: ' ' :: b) = _
  rw [readings_of_pieces joint pieces, readings, readings, shapeA, shapeB]
  simp [(lenient last closedLast).1, (lenient first closedFirst).2]

include joint in
/-- Spaces at the ends of a text make no difference to what its pieces stand for. -/
theorem readings_spaced (lenient : Lenient read?) {cs : List Char}
    (closed : openQuote none cs = none) :
    readings sign read? (cs ++ [' ']) = readings sign read? cs ∧
      readings sign read? (' ' :: cs) = readings sign read? cs := by
  constructor
  · obtain ⟨front, last, shape, pieces⟩ := exists_pieces_concat joint cs
    have apart : [' '].head? ≠ some sign := fun same =>
      joint.ne_space (Option.some.inj same).symm
    have spaced := pieces.append joint.plain closed apart (.last rfl)
    have closedLast : openQuote none last = none :=
      pieces.closed_of_mem joint.plain closed (by simp)
    rw [readings_of_pieces joint spaced, readings, shape]
    simp [(lenient last closedLast).1]
  · obtain ⟨first, more, shape, pieces⟩ := exists_pieces_cons joint cs
    have spaced := pieces.cons joint.plain rfl joint.ne_space.symm
    have closedFirst : openQuote none first = none :=
      pieces.closed_of_mem joint.plain closed List.mem_cons_self
    rw [readings_of_pieces joint spaced, readings, shape]
    simp [(lenient first closedFirst).2]

end Readings

/-! ## Junctions of readings -/

section Junctions

variable {read? : List Char → Option Condition} {join : List Condition → Condition}
  {parts : List (List Char)}

theorem each?_congr {others : List (List Char)} (same : parts.map read? = others.map read?) :
    each? read? parts = each? read? others := by
  induction parts generalizing others with
  | nil =>
      rw [List.map_eq_nil_iff.mp same.symm]
  | cons part rest ih =>
      cases others with
      | nil => cases same
      | cons other others =>
          obtain ⟨first, more⟩ := List.cons.inj same
          rw [each?, each?, first, ih more]

/-- A junction depends only on what the pieces stand for. -/
theorem junction_congr {others : List (List Char)} (same : parts.map read? = others.map read?) :
    junction read? join parts = junction read? join others := by
  have lengths : parts.length = others.length := by
    rw [← List.length_map read?, same, List.length_map]
  rw [junction.eq_def, junction.eq_def]
  split
  · obtain ⟨other, rfl⟩ := List.length_eq_one_iff.mp lengths.symm
    exact (List.cons.inj same).1
  · rename_i several
    split
    · obtain ⟨part, rfl⟩ := List.length_eq_one_iff.mp lengths
      exact absurd rfl (several part)
    · rw [each?_congr same]

theorem isSome_each?_iff :
    (each? read? parts).isSome = true ↔ ∀ reading ∈ parts.map read?, reading.isSome = true := by
  induction parts with
  | nil => simp [each?]
  | cons part rest ih =>
      rw [List.map_cons, List.forall_mem_cons, ← ih, each?]
      cases read? part <;> cases each? read? rest <;> simp

/-- Pieces stand for a condition together if each of them does. -/
theorem isSome_junction_iff :
    (junction read? join parts).isSome = true ↔
      ∀ reading ∈ parts.map read?, reading.isSome = true := by
  rw [junction.eq_def]
  split
  · simp
  · rw [Option.isSome_map, isSome_each?_iff]

theorem Holding.isSome {state : Dictionary Value} {read : Option Condition}
    (holding : Holding state read) : read.isSome = true := by
  obtain ⟨condition, rfl, -⟩ := holding
  rfl

theorem holding_some_iff {state : Dictionary Value} {condition : Condition} :
    Holding state (some condition) ↔ condition.holds state = true := by
  simp [Holding]

/-- Conditions that are read from pieces one by one hold as the pieces do. -/
theorem holding_of_forall₂ {conditions : List Condition} (state : Dictionary Value)
    (each : List.Forall₂ (fun part condition => read? part = some condition) parts conditions) :
    ((∀ condition ∈ conditions, condition.holds state = true) ↔
        ∀ reading ∈ parts.map read?, Holding state reading) ∧
      ((∃ condition ∈ conditions, condition.holds state = true) ↔
        ∃ reading ∈ parts.map read?, Holding state reading) := by
  induction each with
  | nil => simp
  | cons read _ ih =>
      simp only [List.map_cons, List.forall_mem_cons, List.exists_mem_cons_iff, read,
        holding_some_iff, ih.1, ih.2, and_self]

/-- All of the pieces hold if the junction that asks for all does. -/
theorem holding_all_iff (state : Dictionary Value) :
    Holding state (junction read? .all parts) ↔
      ∀ reading ∈ parts.map read?, Holding state reading := by
  have agree {condition : Condition} (read : junction read? .all parts = some condition) :
      condition.holds state = true ↔ ∀ reading ∈ parts.map read?, Holding state reading := by
    rcases junction_eq_some_iff.mp read with ⟨part, rfl, same⟩ | ⟨-, conditions, each, rfl⟩
    · simp [same, holding_some_iff]
    · rw [Condition.holds, allHold_iff]
      exact (holding_of_forall₂ state each).1
  constructor
  · rintro ⟨condition, read, holds⟩
    exact (agree read).mp holds
  · intro all
    have reads : (junction read? .all parts).isSome = true :=
      isSome_junction_iff.mpr fun reading member => (all reading member).isSome
    obtain ⟨condition, read⟩ := Option.isSome_iff_exists.mp reads
    exact ⟨condition, read, (agree read).mpr all⟩

/-- One of the pieces holds if the junction that asks for one holds. -/
theorem holding_any_iff (state : Dictionary Value)
    (reads : (junction read? .any parts).isSome = true) :
    Holding state (junction read? .any parts) ↔
      ∃ reading ∈ parts.map read?, Holding state reading := by
  obtain ⟨condition, read⟩ := Option.isSome_iff_exists.mp reads
  rw [read, holding_some_iff]
  rcases junction_eq_some_iff.mp read with ⟨part, rfl, same⟩ | ⟨-, conditions, each, rfl⟩
  · simp [same, holding_some_iff]
  · rw [Condition.holds, anyHolds_iff]
    exact (holding_of_forall₂ state each).2

end Junctions

/-! ## Comparisons and conjunctions with spaces around them -/

theorem lenient_comparison? : Lenient fun part => (comparison? part).map .compare := by
  intro text _
  have space : ∀ c ∈ [' '], Text.isBlank c = true := List.forall_mem_singleton.mpr rfl
  have nothing : ∀ c ∈ ([] : List Char), Text.isBlank c = true := List.forall_mem_nil _
  have behind : Text.trimmed (text ++ [' ']) = Text.trimmed text :=
    Text.trimmed_surrounded nothing space
  have before : Text.trimmed ([' '] ++ (text ++ [])) = Text.trimmed text :=
    Text.trimmed_surrounded space nothing
  rw [List.append_nil, List.singleton_append] at before
  simp only [comparison?, behind, before, and_self]

theorem lenient_conjunction? : Lenient conjunction? := by
  intro text closed
  obtain ⟨behind, before⟩ := readings_spaced isJoint_and lenient_comparison? closed
  simp only [conjunction?_eq_junction]
  exact ⟨junction_congr behind, junction_congr before⟩

/-! ## Joined texts -/

/-- No quote is open behind a text. -/
def IsBalanced (s : String) : Prop :=
  openQuote none s.toList = none

instance (s : String) : Decidable (IsBalanced s) :=
  inferInstanceAs (Decidable (_ = _))

section Joined

variable {a b : List Char}

/-- Where another sign joins two texts, the last piece of the first one and the first piece
of the second one are joined. -/
theorem Pieces.joined_other {sign other : Char} (joint : IsJoint sign) (otherJoint : IsJoint other)
    (different : other ≠ sign) {last first : List Char} {front more : List (List Char)}
    (piecesA : Pieces sign a (front ++ [last])) (closedA : openQuote none a = none)
    (piecesB : Pieces sign b (first :: more)) :
    Pieces sign (joined other [a, b]) (front ++ joined other [last, first] :: more) := by
  have space : isQuote ' ' = false := rfl
  have spaced := piecesB.cons joint.plain space joint.ne_space.symm
  have signs := (spaced.cons joint.plain otherJoint.plain different).cons joint.plain
    otherJoint.plain different
  have behind := signs.cons joint.plain space joint.ne_space.symm
  have apart : (' ' :: other :: other :: ' ' :: b).head? ≠ some sign := fun same =>
    joint.ne_space (Option.some.inj same).symm
  exact piecesA.append joint.plain closedA apart behind

/-- Joined texts stand for a condition if both texts do. -/
theorem isSome_junction_joined {sign : Char} (joint : IsJoint sign)
    {read? : List Char → Option Condition} (lenient : Lenient read?)
    (join : List Condition → Condition) (closedA : openQuote none a = none)
    (closedB : openQuote none b = none) :
    (junction read? join (splitOutsideQuotes sign none (joined sign [a, b]))).isSome = true ↔
      (junction read? join (splitOutsideQuotes sign none a)).isSome = true ∧
        (junction read? join (splitOutsideQuotes sign none b)).isSome = true := by
  have both := readings_joined joint lenient closedA closedB
  simp only [readings] at both
  simp only [isSome_junction_iff, both, List.forall_mem_append]

end Joined

section Evaluate

variable {a b : String} (balancedA : IsBalanced a) (balancedB : IsBalanced b)
  (state : Dictionary Value)

theorem toList_or : (a ++ " || " ++ b).toList = joined '|' [a.toList, b.toList] := by
  simp [joined]

theorem toList_and : (a ++ " && " ++ b).toList = joined '&' [a.toList, b.toList] := by
  simp [joined]

/-- What is read from a text that `||` does not cut. -/
theorem parse?_of_whole {s : String} (noOr : Whole '|' none s.toList) :
    parse? s = conjunction? s.toList := by
  rw [parse?_eq_junction, noOr]
  rfl

include balancedA balancedB

theorem isSome_parse?_or :
    (parse? (a ++ " || " ++ b)).isSome = true ↔
      (parse? a).isSome = true ∧ (parse? b).isSome = true := by
  simp only [parse?_eq_junction, toList_or]
  exact isSome_junction_joined isJoint_or lenient_conjunction? .any balancedA balancedB

/-- Joining by `&&` joins two pieces of the texts by it and leaves all others alone. -/
theorem isSome_parse?_and :
    (parse? (a ++ " && " ++ b)).isSome = true ↔
      (parse? a).isSome = true ∧ (parse? b).isSome = true := by
  obtain ⟨front, last, shapeA, piecesA⟩ := exists_pieces_concat isJoint_or a.toList
  obtain ⟨first, more, shapeB, piecesB⟩ := exists_pieces_cons isJoint_or b.toList
  have pieces := piecesA.joined_other isJoint_or isJoint_and (by decide) balancedA piecesB
  have closedLast : openQuote none last = none :=
    piecesA.closed_of_mem isJoint_or.plain balancedA (by simp)
  have closedFirst : openQuote none first = none :=
    piecesB.closed_of_mem isJoint_or.plain balancedB List.mem_cons_self
  have meet : (conjunction? (joined '&' [last, first])).isSome = true ↔
      (conjunction? last).isSome = true ∧ (conjunction? first).isSome = true := by
    simp only [conjunction?_eq_junction]
    exact isSome_junction_joined isJoint_and lenient_comparison? .all closedLast closedFirst
  simp only [parse?_eq_junction, toList_and,
    (splitOutsideQuotes_eq_iff isJoint_or.plain).mpr pieces, shapeA, shapeB,
    isSome_junction_iff, List.map_append, List.map_cons, List.map_nil,
    List.forall_mem_append, List.forall_mem_cons, meet]
  tauto

theorem holding_or_iff (readA : (parse? a).isSome = true) (readB : (parse? b).isSome = true) :
    Holding state (parse? (a ++ " || " ++ b)) ↔
      Holding state (parse? a) ∨ Holding state (parse? b) := by
  have both := readings_joined isJoint_or lenient_conjunction? balancedA balancedB
  simp only [readings] at both
  have readBoth := (isSome_parse?_or balancedA balancedB).mpr ⟨readA, readB⟩
  rw [parse?_eq_junction] at readA readB readBoth
  rw [parse?_eq_junction, parse?_eq_junction, parse?_eq_junction, holding_any_iff state readA,
    holding_any_iff state readB, holding_any_iff state readBoth, toList_or, both]
  simp only [List.mem_append, or_and_right, exists_or]

theorem holding_and_iff (noOrA : Whole '|' none a.toList) (noOrB : Whole '|' none b.toList) :
    Holding state (parse? (a ++ " && " ++ b)) ↔
      Holding state (parse? a) ∧ Holding state (parse? b) := by
  have pieces : Pieces '|' (joined '&' [a.toList, b.toList])
      ([] ++ [joined '&' [a.toList, b.toList]]) :=
    Pieces.joined_other isJoint_or isJoint_and (by decide) (.last noOrA) balancedA (.last noOrB)
  have noOr : Whole '|' none (a ++ " && " ++ b).toList := by
    rw [toList_and]
    exact (splitOutsideQuotes_eq_iff isJoint_or.plain).mpr pieces
  have both := readings_joined isJoint_and lenient_comparison? balancedA balancedB
  simp only [readings] at both
  rw [parse?_of_whole noOr, parse?_of_whole noOrA, parse?_of_whole noOrB]
  simp only [toList_and, conjunction?_eq_junction, holding_all_iff, both,
    List.forall_mem_append]

end Evaluate

/-- Joined conditions, and conditions that hold.

Two balanced texts that stand for conditions are joined by `||`, and by `&&` if neither of
them is cut by `||`, to a text that stands for a condition and holds as the sign says.  If
one of them stands for no condition, no joined text does.  A condition that holds names a key
under which something is remembered, so none holds where nothing is. -/
theorem evaluate_joined :
    (∀ a b state, IsBalanced a → IsBalanced b →
      ((parse? a).isSome = true → (parse? b).isSome = true →
        ((parse? (a ++ " || " ++ b)).isSome = true ∧
          evaluate (a ++ " || " ++ b) state = (evaluate a state || evaluate b state)) ∧
        (Whole '|' none a.toList → Whole '|' none b.toList →
          (parse? (a ++ " && " ++ b)).isSome = true ∧
            evaluate (a ++ " && " ++ b) state = (evaluate a state && evaluate b state))) ∧
      (parse? a = none ∨ parse? b = none →
        (parse? (a ++ " || " ++ b) = none ∧ evaluate (a ++ " || " ++ b) state = false) ∧
        (parse? (a ++ " && " ++ b) = none ∧ evaluate (a ++ " && " ++ b) state = false))) ∧
    (∀ s state, evaluate s state = true →
      ∃ condition key, parse? s = some condition ∧ Names key condition ∧
        (state.get? key).isSome = true) ∧
    ∀ s, evaluate s .empty = false := by
  refine ⟨?_, ?_, ?_⟩
  · intro a b state balancedA balancedB
    constructor
    · intro readA readB
      constructor
      · refine ⟨(isSome_parse?_or balancedA balancedB).mpr ⟨readA, readB⟩, ?_⟩
        rw [Bool.eq_iff_iff, Bool.or_eq_true]
        simp only [evaluate_eq_true_iff, holding_or_iff balancedA balancedB state readA readB]
      · intro noOrA noOrB
        refine ⟨(isSome_parse?_and balancedA balancedB).mpr ⟨readA, readB⟩, ?_⟩
        rw [Bool.eq_iff_iff, Bool.and_eq_true]
        simp only [evaluate_eq_true_iff, holding_and_iff balancedA balancedB state noOrA noOrB]
    · intro unread
      have notBoth : ¬((parse? a).isSome = true ∧ (parse? b).isSome = true) := by
        rcases unread with missing | missing <;> simp [missing]
      have noneHolds : ∀ s, ¬(parse? s).isSome = true → parse? s = none ∧
          evaluate s state = false := by
        intro s notRead
        have missing : parse? s = none := by simpa using notRead
        exact ⟨missing, by rw [evaluate, missing]⟩
      constructor
      · apply noneHolds
        rwa [isSome_parse?_or balancedA balancedB]
      · apply noneHolds
        rwa [isSome_parse?_and balancedA balancedB]
  · intro s state holds
    obtain ⟨condition, read, key, names, found⟩ := finds_of_evaluate holds
    exact ⟨condition, key, read, names, found⟩
  · intro s
    rw [← Bool.not_eq_true]
    intro holds
    obtain ⟨condition, read, key, names, found⟩ := finds_of_evaluate holds
    cases found

/-- A seat that is taken. -/
def seatTaken : Dictionary Value :=
  .ofList [("seat", .int 3)]

/-- A quoted sign joins nothing, and a comparison without a literal spoils what it is joined
to. -/
theorem evaluate_joined_seatTaken :
    IsBalanced "note == 'x || y'" ∧ IsBalanced "seat >= 2" ∧ IsBalanced "seat >=" ∧
      evaluate "note == 'x || y' || seat >= 2" seatTaken = true ∧
      evaluate "note == 'x || y' && seat >= 2" seatTaken = false ∧
      parse? "seat >= 2 || seat >=" = none ∧
      (∃ condition key, parse? "seat >= 2" = some condition ∧ Names key condition ∧
        (seatTaken.get? key).isSome = true) ∧
      evaluate "seat >= 2" .empty = false := by
  have note : IsBalanced "note == 'x || y'" := by decide +kernel
  have seat : IsBalanced "seat >= 2" := by decide +kernel
  have cut : IsBalanced "seat >=" := by decide +kernel
  have noteRead : (parse? "note == 'x || y'").isSome = true := by decide +kernel
  have seatRead : (parse? "seat >= 2").isSome = true := by decide +kernel
  have cutUnread : parse? "seat >=" = none := Option.isNone_iff_eq_none.mp (by decide +kernel)
  have noteOut : evaluate "note == 'x || y'" seatTaken = false := by decide +kernel
  have seatIn : evaluate "seat >= 2" seatTaken = true := by decide +kernel
  have noteWhole : Whole '|' none "note == 'x || y'".toList := by unfold Whole; decide +kernel
  have seatWhole : Whole '|' none "seat >= 2".toList := by unfold Whole; decide +kernel
  obtain ⟨compose, named, nowhere⟩ := evaluate_joined
  obtain ⟨⟨-, either⟩, ofBoth⟩ := (compose _ _ seatTaken note seat).1 noteRead seatRead
  obtain ⟨⟨unread, -⟩, -⟩ := (compose _ _ seatTaken seat cut).2 (.inr cutUnread)
  refine ⟨note, seat, cut, ?_, ?_, unread, named _ _ seatIn, nowhere _⟩
  · rw [noteOut, seatIn] at either
    exact either
  · obtain ⟨-, both⟩ := ofBoth noteWhole seatWhole
    rw [noteOut, seatIn] at both
    exact both

end Dialogue.Condition
