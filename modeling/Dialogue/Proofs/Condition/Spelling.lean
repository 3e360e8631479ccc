import Dialogue.Proofs.Condition.Comparisons

/-!
# Conditions as they are written

A condition is normal when it has the shape that the written language can express:
comparisons, joined by `&&`, and these joined by `||`.  A normal condition is read back from
every way to write it, and every condition that is read is normal.

Both directions go through the two levels of joints in the same way: a text is cut into
pieces, and its condition is the one of its only piece, or else joins theirs.
-/

namespace Dialogue

namespace Comparison

open Condition (IsPlainKey IsPlainLiteral)

/-- A comparison that can be written. -/
structure IsPlain (comparison : Comparison) : Prop where
  key : IsPlainKey comparison.key
  literal : IsPlainLiteral comparison.literal

/-- A comparison that may have been read: its literal is no list. -/
structure IsReadable (comparison : Comparison) : Prop where
  key : IsPlainKey comparison.key
  literal : comparison.literal.list? = none

end Comparison

namespace Condition

open Comparison (IsPlain IsReadable)

/-! ## Normal conditions -/

/-- A comparison with some property. -/
inductive IsComparison (property : Comparison → Prop) : Condition → Prop
  | compare {comparison : Comparison} (holds : property comparison) :
      IsComparison property (.compare comparison)

/-- A comparison, or all of at least two comparisons. -/
inductive IsConjunction (property : Comparison → Prop) : Condition → Prop
  | single {condition : Condition} (comparison : IsComparison property condition) :
      IsConjunction property condition
  | all {conditions : List Condition} (several : 2 ≤ conditions.length)
      (comparisons : ∀ condition ∈ conditions, IsComparison property condition) :
      IsConjunction property (.all conditions)

/-- A conjunction, or at least one of at least two conjunctions. -/
inductive IsNormal (property : Comparison → Prop) : Condition → Prop
  | single {condition : Condition} (conjunction : IsConjunction property condition) :
      IsNormal property condition
  | any {conditions : List Condition} (several : 2 ≤ conditions.length)
      (conjunctions : ∀ condition ∈ conditions, IsConjunction property condition) :
      IsNormal property (.any conditions)

/-- A text is a way to write a condition. -/
inductive Spells : Condition → List Char → Prop
  | compare {comparison : Comparison} {literal : List Char}
      (spells : SpellsLiteral comparison.literal literal) :
      Spells (.compare comparison) (comparisonText comparison.key comparison.op literal)
  | all {conditions : List Condition} {texts : List (List Char)}
      (spell : List.Forall₂ Spells conditions texts) :
      Spells (.all conditions) (joined '&' texts)
  | any {conditions : List Condition} {texts : List (List Char)}
      (spell : List.Forall₂ Spells conditions texts) :
      Spells (.any conditions) (joined '|' texts)

theorem exists_spell {conditions : List Condition}
    (each : ∀ condition ∈ conditions, ∃ text, Spells condition text) :
    ∃ texts, List.Forall₂ Spells conditions texts := by
  induction conditions with
  | nil => exact ⟨[], .nil⟩
  | cons condition rest ih =>
      obtain ⟨text, spells⟩ := each condition List.mem_cons_self
      obtain ⟨texts, spell⟩ := ih fun other member => each other (List.mem_cons_of_mem _ member)
      exact ⟨text :: texts, .cons spells spell⟩

theorem IsComparison.exists_spells {condition : Condition}
    (plain : IsComparison IsPlain condition) : ∃ text, Spells condition text := by
  obtain ⟨holds⟩ := plain
  obtain ⟨literal, spells⟩ := exists_spellsLiteral holds.literal
  exact ⟨_, .compare spells⟩

theorem IsConjunction.exists_spells {condition : Condition}
    (plain : IsConjunction IsPlain condition) : ∃ text, Spells condition text := by
  cases plain with
  | single comparison => exact comparison.exists_spells
  | all several comparisons =>
      obtain ⟨texts, spell⟩ := exists_spell fun condition member =>
        (comparisons condition member).exists_spells
      exact ⟨_, .all spell⟩

/-- A normal condition of comparisons that can be written can be written. -/
theorem IsNormal.exists_spells {condition : Condition} (plain : IsNormal IsPlain condition) :
    ∃ text, Spells condition text := by
  cases plain with
  | single conjunction => exact conjunction.exists_spells
  | any several conjunctions =>
      obtain ⟨texts, spell⟩ := exists_spell fun condition member =>
        (conjunctions condition member).exists_spells
      exact ⟨_, .any spell⟩

/-! ## Junctions -/

/-- What stands on the right of a pairing has a partner on the left. -/
theorem exists_of_mem_right {α β : Type} {paired : α → β → Prop} {left : List α}
    {right : List β} (pairs : List.Forall₂ paired left right) {b : β} (member : b ∈ right) :
    ∃ a ∈ left, paired a b := by
  induction pairs with
  | nil => cases member
  | @cons a other rest others first _ ih =>
      rcases List.mem_cons.mp member with rfl | listed
      · exact ⟨a, List.mem_cons_self, first⟩
      · obtain ⟨found, inRest, same⟩ := ih listed
        exact ⟨found, List.mem_cons_of_mem a inRest, same⟩

/-- The condition that the pieces of a text stand for. -/
def junction (read? : List Char → Option Condition) (join : List Condition → Condition) :
    List (List Char) → Option Condition
  | [part] => read? part
  | parts => (each? read? parts).map join

theorem conjunction?_eq_junction (cs : List Char) :
    conjunction? cs = junction (fun part => (comparison? part).map .compare) .all
      (splitOutsideQuotes '&' none cs) :=
  rfl

theorem parse?_eq_junction (s : String) :
    parse? s = junction conjunction? .any (splitOutsideQuotes '|' none s.toList) :=
  rfl

/-- All parts of a text have values if each of them has one. -/
theorem each?_eq_some_iff {α : Type} {read? : List Char → Option α} {parts : List (List Char)}
    {values : List α} :
    each? read? parts = some values ↔
      List.Forall₂ (fun part value => read? part = some value) parts values := by
  induction parts generalizing values with
  | nil => simp [each?, eq_comm]
  | cons part rest ih =>
      rw [List.forall₂_cons_left_iff, each?]
      split
      · rename_i value others first more
        constructor
        · intro same
          cases same
          exact ⟨value, others, first, ih.mp more, rfl⟩
        · rintro ⟨other, remaining, same, each, rfl⟩
          rw [first] at same
          rw [ih.mpr each] at more
          cases same
          cases more
          rfl
      · rename_i missing
        constructor
        · intro same
          cases same
        · rintro ⟨value, others, same, each, -⟩
          exact absurd (ih.mpr each) (missing value others same)

theorem junction_eq_some_iff {read? : List Char → Option Condition}
    {join : List Condition → Condition} {parts : List (List Char)} {condition : Condition} :
    junction read? join parts = some condition ↔
      (∃ part, parts = [part] ∧ read? part = some condition) ∨
        (parts.length ≠ 1 ∧ ∃ conditions,
          List.Forall₂ (fun part condition => read? part = some condition) parts conditions ∧
            join conditions = condition) := by
  rw [junction.eq_def]
  split
  · simp
  · rename_i several
    have notOne : parts.length ≠ 1 := by
      rw [Ne, List.length_eq_one_iff]
      rintro ⟨part, rfl⟩
      exact several part rfl
    rw [Option.map_eq_some_iff]
    constructor
    · rintro ⟨conditions, each, joins⟩
      exact .inr ⟨notOne, conditions, each?_eq_some_iff.mp each, joins⟩
    · rintro (⟨part, rfl, -⟩ | ⟨-, conditions, each, joins⟩)
      · exact absurd rfl (several part)
      · exact ⟨conditions, each?_eq_some_iff.mpr each, joins⟩

/-! ## Reading what is written -/

/-- A text stands for a condition, whatever spaces stand around it. -/
def Reads (read? : List Char → Option Condition) (condition : Condition) (text : List Char) :
    Prop :=
  ∀ padded, Padded text padded → read? padded = some condition

/-- A text that a sign does not cut stands for what its only piece stands for. -/
theorem reads_of_sealed {sign : Char} (joint : IsJoint sign)
    {read? : List Char → Option Condition} (join : List Condition → Condition)
    {condition : Condition} {text : List Char} (single : Sealed sign text)
    (reads : Reads read? condition text) :
    Reads (fun cs => junction read? join (splitOutsideQuotes sign none cs)) condition text := by
  intro padded pads
  have whole : splitOutsideQuotes sign none padded = [padded] :=
    (single.padded joint.plain joint.ne_space pads).whole
  change junction read? join (splitOutsideQuotes sign none padded) = some condition
  rw [whole]
  exact reads padded pads

section Lists

variable {conditions : List Condition} {texts : List (List Char)}

theorem forall₂_of_reads {read? : List Char → Option Condition} {parts : List (List Char)}
    (reads : List.Forall₂ (Reads read?) conditions texts)
    (pads : List.Forall₂ Padded texts parts) :
    List.Forall₂ (fun part condition => read? part = some condition) parts conditions := by
  induction reads generalizing parts with
  | nil =>
      cases pads
      exact .nil
  | cons first _ ih =>
      cases pads with
      | cons pad others => exact .cons (first _ pad) (ih others)

/-- Joined texts stand for what joins the conditions that they stand for. -/
theorem reads_joined {sign : Char} (joint : IsJoint sign)
    {read? : List Char → Option Condition} (join : List Condition → Condition)
    (several : 2 ≤ conditions.length) (all : ∀ text ∈ texts, Sealed sign text)
    (reads : List.Forall₂ (Reads read?) conditions texts) :
    Reads (fun cs => junction read? join (splitOutsideQuotes sign none cs)) (join conditions)
      (joined sign texts) := by
  intro padded pads
  have nonempty : texts ≠ [] := by
    rintro rfl
    rw [reads.length_eq] at several
    cases several
  obtain ⟨parts, pieces, padding⟩ :=
    pieces_joined joint.plain joint.ne_space nonempty all pads
  have notOne : parts.length ≠ 1 := by
    rw [← padding.length_eq, ← reads.length_eq]
    omega
  change junction read? join (splitOutsideQuotes sign none padded) = some (join conditions)
  rw [(splitOutsideQuotes_eq_iff joint.plain).mpr pieces, junction_eq_some_iff]
  exact .inr ⟨notOne, conditions, forall₂_of_reads reads padding, rfl⟩

end Lists

/-- A text of a comparison is in one piece and stands for it. -/
theorem IsComparison.reads {condition : Condition} {text : List Char}
    (plain : IsComparison IsPlain condition) (spells : Spells condition text) :
    (∀ sign, IsJoint sign → Sealed sign text) ∧
      Reads (fun part => (comparison? part).map .compare) condition text := by
  cases plain with
  | @compare comparison holds =>
      cases spells with
      | compare literal =>
          constructor
          · intro sign joint
            exact sealed_comparisonText holds.key comparison.op joint (literal.sealed joint)
          · intro padded pads
            have read := comparison?_comparisonText holds.key comparison.op literal.solid.1
              literal.solid.2 literal.read pads
            simp only [read, Option.map_some]

/-- A text of a conjunction has no `||` outside of quotes and stands for it. -/
theorem IsConjunction.reads {condition : Condition} {text : List Char}
    (plain : IsConjunction IsPlain condition) (spells : Spells condition text) :
    Sealed '|' text ∧ Reads conjunction? condition text := by
  rw [funext conjunction?_eq_junction]
  cases plain with
  | single comparison =>
      obtain ⟨all, reads⟩ := comparison.reads spells
      exact ⟨all '|' isJoint_or, reads_of_sealed isJoint_and .all (all '&' isJoint_and) reads⟩
  | all several comparisons =>
      cases spells with
      | @all conditions texts spell =>
          have stand := ((List.forall₂_and_left _ _).mpr ⟨comparisons, spell⟩).imp
            fun _ _ both => both.1.reads both.2
          have single : ∀ sign, IsJoint sign → ∀ text ∈ texts, Sealed sign text := by
            intro sign joint text member
            obtain ⟨_, _, stands⟩ := exists_of_mem_right stand member
            exact stands.1 sign joint
          constructor
          · exact sealed_joined isJoint_or.plain isJoint_or.ne_space (by decide)
              isJoint_and.plain (single '|' isJoint_or)
          · exact reads_joined isJoint_and .all several (single '&' isJoint_and)
              (stand.imp fun _ _ stands => stands.2)

/-- A normal condition is read back from every way to write it. -/
theorem IsNormal.reads {condition : Condition} {text : List Char}
    (plain : IsNormal IsPlain condition) (spells : Spells condition text) :
    parse? (String.ofList text) = some condition := by
  have unpadded : Padded text text := ⟨0, 0, by simp⟩
  rw [parse?_eq_junction, String.toList_ofList]
  cases plain with
  | single conjunction =>
      obtain ⟨noOr, reads⟩ := conjunction.reads spells
      exact reads_of_sealed isJoint_or .any noOr reads text unpadded
  | any several conjunctions =>
      cases spells with
      | @any conditions texts spell =>
          have stand := ((List.forall₂_and_left _ _).mpr ⟨conjunctions, spell⟩).imp
            fun _ _ both => both.1.reads both.2
          have single : ∀ text ∈ texts, Sealed '|' text := by
            intro text member
            obtain ⟨_, _, stands⟩ := exists_of_mem_right stand member
            exact stands.1
          have reads := reads_joined isJoint_or .any several single
            (stand.imp fun _ _ stands => stands.2)
          exact reads _ unpadded

/-! ## What is read -/

/-- What is read from a text is read from a piece of it, or joins at least two conditions
that are read from its pieces. -/
theorem junction_cases {sign : Char} (joint : IsJoint sign)
    {read? : List Char → Option Condition} {join : List Condition → Condition} {cs : List Char}
    {condition : Condition}
    (read : junction read? join (splitOutsideQuotes sign none cs) = some condition) :
    ∃ parts, Pieces sign cs parts ∧
      ((∃ part ∈ parts, read? part = some condition) ∨
        ∃ conditions, 2 ≤ conditions.length ∧ join conditions = condition ∧
          ∀ member ∈ conditions, ∃ part ∈ parts, read? part = some member) := by
  refine ⟨_, (splitOutsideQuotes_eq_iff joint.plain).mp rfl, ?_⟩
  rcases junction_eq_some_iff.mp read with
    ⟨part, single, same⟩ | ⟨notOne, conditions, each, joins⟩
  · refine .inl ⟨part, ?_, same⟩
    rw [single]
    exact List.mem_singleton_self part
  · have notNone : (splitOutsideQuotes sign none cs).length ≠ 0 := by
      rw [Ne, List.length_eq_zero_iff]
      exact splitOutsideQuotes_ne_nil joint.plain none cs
    have several : 2 ≤ conditions.length := by
      rw [← each.length_eq]
      omega
    exact .inr ⟨conditions, several, joins, fun member listed => exists_of_mem_right each listed⟩

/-- What is read from a text without `||` outside of quotes is a conjunction. -/
theorem isConjunction_of_conjunction? {cs : List Char} {condition : Condition}
    (read : conjunction? cs = some condition) (noOr : Whole '|' none cs) :
    IsConjunction IsReadable condition := by
  rw [conjunction?_eq_junction] at read
  obtain ⟨parts, pieces, parted⟩ := junction_cases isJoint_and read
  have comparisons : ∀ member, (∃ part ∈ parts, (comparison? part).map .compare = some member) →
      IsComparison IsReadable member := by
    rintro member ⟨part, listed, readPart⟩
    obtain ⟨comparison, readComparison, rfl⟩ := Option.map_eq_some_iff.mp readPart
    have key := isPlainKey_of_comparison? readComparison
      (pieces.whole_of_mem isJoint_and.plain listed)
      (pieces.whole_other isJoint_and.plain (by decide) noOr listed)
    exact .compare ⟨key, list?_of_comparison? readComparison⟩
  rcases parted with single | ⟨conditions, several, rfl, each⟩
  · exact .single (comparisons condition single)
  · exact .all several fun member listed => comparisons member (each member listed)

/-- Every condition that is read is normal. -/
theorem isNormal_of_parse? {s : String} {condition : Condition}
    (read : parse? s = some condition) : IsNormal IsReadable condition := by
  rw [parse?_eq_junction] at read
  obtain ⟨parts, pieces, parted⟩ := junction_cases isJoint_or read
  have conjunctions : ∀ member, (∃ part ∈ parts, conjunction? part = some member) →
      IsConjunction IsReadable member := by
    rintro member ⟨part, listed, readPart⟩
    exact isConjunction_of_conjunction? readPart (pieces.whole_of_mem isJoint_or.plain listed)
  rcases parted with single | ⟨conditions, several, rfl, each⟩
  · exact .single (conjunctions condition single)
  · exact .any several fun member listed => conjunctions member (each member listed)

/-- The written language and normal conditions: a normal condition of comparisons that can
be written can be written, it is read back from every way to write it, and whatever text is
read as a condition, that is normal and compares with no list. -/
theorem parse?_normal :
    (∀ condition, IsNormal IsPlain condition →
        (∃ text, Spells condition text) ∧
          ∀ text, Spells condition text → parse? (String.ofList text) = some condition) ∧
      ∀ s condition, parse? s = some condition → IsNormal IsReadable condition :=
  ⟨fun _ plain => ⟨plain.exists_spells, fun _ spells => plain.reads spells⟩,
    fun _ _ read => isNormal_of_parse? read⟩

/-- A condition with signs and quotes inside a text. -/
def seatOffer : Condition :=
  .any [
    .all [
      .compare { key := "seat", op := .eq, literal := .text "a && b || \"c\" = d" },
      .compare { key := "user.count", op := .ge, literal := .int (-3) }],
    .compare { key := "offer", op := .ne, literal := .null }]

theorem parse?_normal_seatOffer :
    parse? "seat == 'a && b || \"c\" = d' && user.count >= -3 || offer != null" =
        some seatOffer ∧
      IsNormal IsReadable seatOffer := by
  have seat : IsPlain { key := "seat", op := .eq, literal := .text "a && b || \"c\" = d" } :=
    ⟨by decide +kernel, .inr (by decide)⟩
  have count : IsPlain { key := "user.count", op := .ge, literal := .int (-3) } :=
    ⟨by decide +kernel, trivial⟩
  have offer : IsPlain { key := "offer", op := .ne, literal := .null } :=
    ⟨by decide +kernel, trivial⟩
  have plain : IsNormal IsPlain seatOffer := by
    refine .any (by decide) (List.forall_mem_cons.mpr ⟨.all (by decide) ?_, ?_⟩)
    · simpa using ⟨IsComparison.compare seat, IsComparison.compare count⟩
    · simpa using IsConjunction.single (IsComparison.compare offer)
  obtain ⟨text, spells, written⟩ : ∃ text, Spells seatOffer text ∧ text =
      "seat == 'a && b || \"c\" = d' && user.count >= -3 || offer != null".toList := by
    have quoted := SpellsLiteral.text (by decide : isQuote '\'' = true)
      (by decide : '\'' ∉ "a && b || \"c\" = d".toList)
    refine ⟨_, .any (.cons (.all (.cons (.compare quoted) (.cons (.compare (.int (-3))) .nil)))
      (.cons (.compare .null) .nil)), ?_⟩
    decide +kernel
  have read := (parse?_normal.1 seatOffer plain).2 text spells
  rw [written, String.ofList_toList] at read
  exact ⟨read, parse?_normal.2 _ seatOffer read⟩

end Condition

end Dialogue
