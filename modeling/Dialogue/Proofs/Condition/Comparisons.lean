import Dialogue.Proofs.Condition.Splitting
import Dialogue.Proofs.StoredValues
import Dialogue.Proofs.Text.Trimming
import Mathlib.Data.List.Infix

/-!
# Comparisons as they are written

A comparison is written as its key, its sign and its literal, with spaces between them.
It is read back however many spaces stand around it: the key ends at the first character
that an operator can start with, and what stands behind the sign is trimmed before it is
read.  The other way round, the key of every comparison that is read is a plain word, since
a sign that joins comparisons would have cut it.
-/

namespace Dialogue

/-! ## Integers in decimal -/

namespace Text

theorem digits?_toDigits (n : Nat) : digits? (Nat.toDigits 10 n) = some n := by
  have digits : (Nat.toDigits 10 n).all Char.isDigit = true := by
    rw [List.all_eq_true]
    exact fun c member => Nat.isDigit_of_mem_toDigits (by decide) (by decide) member
  have nonempty : (Nat.toDigits 10 n).isEmpty = false :=
    List.isEmpty_eq_false_iff.mpr Nat.toDigits_ne_nil
  rw [digits?, digits, nonempty, Nat.ofDigitChars_ten_toDigits]
  rfl

/-- A text that starts with a digit has no sign. -/
theorem integer?_of_isDigit {c : Char} (digit : c.isDigit = true) (rest : List Char) :
    integer? (c :: rest) = (digits? (c :: rest)).map Int.ofNat := by
  rw [integer?.eq_def]
  split
  · rename_i same
    cases same
    cases digit
  · rename_i same
    cases same
    cases digit
  · rfl

/-- An integer in decimal is read as itself. -/
theorem integer?_integerText (n : Int) : integer? (Json.integerText n) = some n := by
  cases n with
  | ofNat size =>
      have read := digits?_toDigits size
      rw [Json.integerText]
      obtain ⟨c, rest, shape⟩ :=
        List.exists_cons_of_ne_nil (Nat.toDigits_ne_nil : Nat.toDigits 10 size ≠ [])
      have member : c ∈ Nat.toDigits 10 size := by
        rw [shape]
        exact List.mem_cons_self
      have digit : c.isDigit = true :=
        Nat.isDigit_of_mem_toDigits (by decide) (by decide) member
      rw [shape] at read ⊢
      rw [integer?_of_isDigit digit, read]
      rfl
  | negSucc size =>
      rw [Json.integerText, integer?, digits?_toDigits]
      rfl

end Text

namespace Condition

open Text (StartsSolid EndsSolid)

/-! ## Keys and literals -/

/-- A key that can be written: a word without quotes and signs. -/
structure IsPlainKey (key : String) : Prop where
  nonempty : key ≠ ""
  noBlank : ∀ c ∈ key.toList, Text.isBlank c = false
  noQuote : ∀ c ∈ key.toList, isQuote c = false
  noOperator : ∀ c ∈ key.toList, isOperatorChar c = false
  noAnd : ¬['&', '&'] <:+: key.toList
  noOr : ¬['|', '|'] <:+: key.toList

instance (key : String) : Decidable (IsPlainKey key) :=
  decidable_of_iff
    (key ≠ "" ∧
      key.toList.all (fun c => !Text.isBlank c && !isQuote c && !isOperatorChar c) = true ∧
      ¬['&', '&'] <:+: key.toList ∧ ¬['|', '|'] <:+: key.toList) <| by
    simp only [List.all_eq_true, Bool.and_eq_true, Bool.not_eq_true']
    constructor
    · rintro ⟨nonempty, plain, noAnd, noOr⟩
      exact ⟨nonempty, fun c member => (plain c member).1.1,
        fun c member => (plain c member).1.2, fun c member => (plain c member).2, noAnd, noOr⟩
    · rintro ⟨nonempty, noBlank, noQuote, noOperator, noAnd, noOr⟩
      exact ⟨nonempty,
        fun c member => ⟨⟨noBlank c member, noQuote c member⟩, noOperator c member⟩, noAnd, noOr⟩

/-- A literal that can be written: null, a truth value, an integer, or a text that leaves
one of the two quotes unused. -/
def IsPlainLiteral : Value → Prop
  | .null => True
  | .bool _ => True
  | .int _ => True
  | .float _ => False
  | .text s => '"' ∉ s.toList ∨ '\'' ∉ s.toList
  | .list _ => False

/-- A text is a way to write a literal.  A text stands between quotes that it does not
contain, and integers stand in decimal. -/
inductive SpellsLiteral : Value → List Char → Prop
  | null : SpellsLiteral .null ['n', 'u', 'l', 'l']
  | bool (b : Bool) : SpellsLiteral (.bool b) (Json.boolText b)
  | int (n : Int64) : SpellsLiteral (.int n) (Json.integerText n.toInt)
  | text {s : String} {quote : Char} (isOne : isQuote quote = true)
      (unused : quote ∉ s.toList) : SpellsLiteral (.text s) (quote :: (s.toList ++ [quote]))

/-- A literal that can be written has a spelling. -/
theorem exists_spellsLiteral {value : Value} (plain : IsPlainLiteral value) :
    ∃ text, SpellsLiteral value text := by
  cases value with
  | null => exact ⟨_, .null⟩
  | bool b => exact ⟨_, .bool b⟩
  | int n => exact ⟨_, .int n⟩
  | float x => cases plain
  | text s =>
      rcases plain with unused | unused
      · exact ⟨_, .text (by decide) unused⟩
      · exact ⟨_, .text (by decide) unused⟩
  | list items => cases plain

/-! ## Reading literals -/

/-- A character of a literal that is written without quotes. -/
def isBareChar (c : Char) : Bool :=
  c.isAlphanum || c = '-'

theorem plain_of_isBareChar {c : Char} (bare : isBareChar c = true) :
    isQuote c = false ∧ Text.isBlank c = false := by
  have range : c.toNat = 45 ∨ (48 ≤ c.toNat ∧ c.toNat ≤ 57) ∨ (65 ≤ c.toNat ∧ c.toNat ≤ 90) ∨
      (97 ≤ c.toNat ∧ c.toNat ≤ 122) := by
    delta isBareChar Char.isAlphanum Char.isAlpha Char.isUpper Char.isLower Char.isDigit at bare
    simp only [Bool.or_eq_true, Bool.and_eq_true, decide_eq_true_eq, ge_iff_le,
      UInt32.le_iff_toNat_le] at bare
    rcases bare with ((upper | lower) | digit) | rfl
    · exact .inr (.inr (.inl upper))
    · exact .inr (.inr (.inr lower))
    · exact .inr (.inl digit)
    · exact .inl rfl
  constructor
  · simp only [isQuote, Bool.or_eq_false_iff, decide_eq_false_iff_not]
    constructor <;> rintro rfl <;> revert range <;> decide
  · simp only [Text.isBlank, Text.isIn, Text.blankRanges, List.any_cons, List.any_nil,
      Bool.or_false, Bool.or_eq_false_iff, Bool.and_eq_false_iff, decide_eq_false_iff_not,
      Nat.not_le]
    omega

/-- The literal that a text without quotes stands for, however it ends. -/
theorem trimmedLiteral?_of_bare {cs : List Char} (nonempty : cs ≠ [])
    (bare : ∀ c ∈ cs, isBareChar c = true) : trimmedLiteral? cs = bareLiteral? cs := by
  match first : cs.head?, last : cs.getLast? with
  | none, _ => exact absurd (List.head?_eq_none_iff.mp first) nonempty
  | _, none => exact absurd (List.getLast?_eq_none_iff.mp last) nonempty
  | some c, some d =>
      have noneFirst := (plain_of_isBareChar (bare c (List.mem_of_head? first))).1
      have noneLast := (plain_of_isBareChar (bare d (List.mem_of_getLast? last))).1
      simp [trimmedLiteral?, first, last, noneFirst, noneLast]

theorem isBareChar_of_mem_integerText {n : Int} {c : Char} (member : c ∈ Json.integerText n) :
    isBareChar c = true := by
  have ofDigits : ∀ size, c ∈ Nat.toDigits 10 size → isBareChar c = true := by
    intro size listed
    have digit : c.isDigit = true :=
      Nat.isDigit_of_mem_toDigits (by decide) (by decide) listed
    simp [isBareChar, Char.isAlphanum, digit]
  cases n with
  | ofNat size => exact ofDigits size member
  | negSucc size =>
      rcases List.mem_cons.mp member with rfl | listed
      · rfl
      · exact ofDigits (size + 1) listed

theorem integerText_ne_nil (n : Int) : Json.integerText n ≠ [] := by
  obtain ⟨c, rest, shape, -⟩ := Json.exists_integerText_eq_cons n
  rw [shape]
  exact List.cons_ne_nil c rest

/-- An integer in decimal is no word. -/
theorem ofList_integerText_ne {n : Int} {word : String} {first : Char}
    (starts : word.toList.head? = some first) (noMinus : first ≠ '-')
    (noDigit : first.isDigit = false) : String.ofList (Json.integerText n) ≠ word := by
  rintro rfl
  obtain ⟨c, rest, shape, start⟩ := Json.exists_integerText_eq_cons n
  rw [String.toList_ofList, shape] at starts
  cases starts
  rcases start with rfl | digit
  · exact noMinus rfl
  · rw [digit] at noDigit
    cases noDigit

theorem bareLiteral?_integerText (n : Int64) :
    bareLiteral? (Json.integerText n.toInt) = some (.int n) := by
  have notTrue : String.ofList (Json.integerText n.toInt) ≠ "true" :=
    ofList_integerText_ne rfl (by decide) (by decide)
  have notFalse : String.ofList (Json.integerText n.toInt) ≠ "false" :=
    ofList_integerText_ne rfl (by decide) (by decide)
  have notNull : String.ofList (Json.integerText n.toInt) ≠ "null" :=
    ofList_integerText_ne rfl (by decide) (by decide)
  have integer : (Text.integer? (Json.integerText n.toInt)).bind Value.ofInt? =
      some (.int n) := by
    rw [Text.integer?_integerText]
    exact Value.ofInt?_toInt n
  simp only [bareLiteral?, if_neg notTrue, if_neg notFalse, if_neg notNull, integer]

/-- A text between quotes stands for what is between them. -/
theorem trimmedLiteral?_quoted {quote : Char} (isOne : isQuote quote = true) (cs : List Char) :
    trimmedLiteral? (quote :: (cs ++ [quote])) = some (.text (String.ofList cs)) := by
  have last : (quote :: (cs ++ [quote])).getLast? = some quote := by
    rw [← List.cons_append, List.getLast?_concat]
  simp [trimmedLiteral?, last, isOne]

/-! ## Literals that are written -/

/-- One of the two signs that join comparisons. -/
def IsJoint (sign : Char) : Prop :=
  sign = '&' ∨ sign = '|'

theorem isJoint_and : IsJoint '&' :=
  .inl rfl

theorem isJoint_or : IsJoint '|' :=
  .inr rfl

theorem IsJoint.plain {sign : Char} (joint : IsJoint sign) : isQuote sign = false := by
  rcases joint with rfl | rfl <;> decide

theorem IsJoint.ne_space {sign : Char} (joint : IsJoint sign) : sign ≠ ' ' := by
  rcases joint with rfl | rfl <;> decide

theorem sealed_of_bare {sign : Char} (joint : IsJoint sign) {cs : List Char}
    (bare : ∀ c ∈ cs, isBareChar c = true) : Sealed sign cs := by
  refine sealed_of_plain joint.plain (fun c member => (plain_of_isBareChar (bare c member)).1) ?_
  intro inside
  have isBare := bare sign (inside.subset List.mem_cons_self)
  rcases joint with rfl | rfl <;> exact absurd isBare (by decide)

/-- A spelling of a literal without quotes consists of bare characters; every other one
stands between quotes. -/
theorem SpellsLiteral.bare_or_quoted {value : Value} {text : List Char}
    (spells : SpellsLiteral value text) :
    (text ≠ [] ∧ ∀ c ∈ text, isBareChar c = true) ∨
      ∃ quote cs, isQuote quote = true ∧ quote ∉ cs ∧ text = quote :: (cs ++ [quote]) := by
  cases spells with
  | null => exact .inl ⟨by decide, List.all_eq_true.mp (by decide)⟩
  | bool b => cases b with
    | true => exact .inl ⟨by decide, List.all_eq_true.mp (by decide)⟩
    | false => exact .inl ⟨by decide, List.all_eq_true.mp (by decide)⟩
  | int n =>
      exact .inl ⟨integerText_ne_nil n.toInt, fun _ member => isBareChar_of_mem_integerText member⟩
  | text isOne unused => exact .inr ⟨_, _, isOne, unused, rfl⟩

/-- The spelling of a literal stands for it. -/
theorem SpellsLiteral.read {value : Value} {text : List Char}
    (spells : SpellsLiteral value text) : trimmedLiteral? text = some value := by
  cases spells with
  | null => rfl
  | bool b => cases b <;> rfl
  | int n =>
      have bare := trimmedLiteral?_of_bare (integerText_ne_nil n.toInt)
        fun _ member => isBareChar_of_mem_integerText member
      rw [bare, bareLiteral?_integerText]
  | text isOne _ => rw [trimmedLiteral?_quoted isOne, String.ofList_toList]

theorem isBlank_of_isQuote {c : Char} (isOne : isQuote c = true) : Text.isBlank c = false := by
  simp only [isQuote, Bool.or_eq_true, decide_eq_true_eq] at isOne
  rcases isOne with rfl | rfl <;> decide

theorem SpellsLiteral.solid {value : Value} {text : List Char}
    (spells : SpellsLiteral value text) : StartsSolid text ∧ EndsSolid text := by
  rcases spells.bare_or_quoted with ⟨nonempty, bare⟩ | ⟨quote, cs, isOne, -, rfl⟩
  · exact Text.solid_of_forall nonempty fun c member => (plain_of_isBareChar (bare c member)).2
  · have notBlank := isBlank_of_isQuote isOne
    exact ⟨⟨quote, _, rfl, notBlank⟩, ⟨quote :: cs, quote, rfl, notBlank⟩⟩

theorem SpellsLiteral.sealed {value : Value} {text : List Char}
    (spells : SpellsLiteral value text) {sign : Char} (joint : IsJoint sign) :
    Sealed sign text := by
  rcases spells.bare_or_quoted with ⟨-, bare⟩ | ⟨quote, cs, isOne, unused, rfl⟩
  · exact sealed_of_bare joint bare
  · exact sealed_quoted joint.plain isOne unused

/-! ## Comparisons that are written -/

/-- A comparison as it is written with a literal. -/
def comparisonText (key : String) (op : Operator) (literal : List Char) : List Char :=
  key.toList ++ ' ' :: (op.sign.toList ++ ' ' :: literal)

theorem IsPlainKey.toList_ne_nil {key : String} (plain : IsPlainKey key) : key.toList ≠ [] := by
  rw [Ne, String.toList_eq_nil_iff]
  exact plain.nonempty

theorem IsPlainKey.sealed {key : String} (plain : IsPlainKey key) {sign : Char}
    (joint : IsJoint sign) : Sealed sign key.toList := by
  refine sealed_of_plain joint.plain plain.noQuote ?_
  rcases joint with rfl | rfl
  · exact plain.noAnd
  · exact plain.noOr

theorem sealed_comparisonText {key : String} (plain : IsPlainKey key) (op : Operator)
    {literal : List Char} {sign : Char} (joint : IsJoint sign)
    (inner : Sealed sign literal) : Sealed sign (comparisonText key op literal) := by
  have ofOperator : Sealed sign op.sign.toList := by
    rcases joint with rfl | rfl <;> cases op <;> constructor <;> rfl
  exact (plain.sealed joint).space joint.plain joint.ne_space
    (ofOperator.space joint.plain joint.ne_space inner)

/-- The sign of an operator starts with a character that no key contains, and a space
ends it. -/
theorem operator?_sign (op : Operator) (rest : List Char) :
    operator? (op.sign.toList ++ ' ' :: rest) = some (op, ' ' :: rest) := by
  cases op <;> rfl

theorem exists_sign_eq_cons (op : Operator) :
    ∃ c rest, op.sign.toList = c :: rest ∧ isOperatorChar c = true := by
  cases op <;> exact ⟨_, _, rfl, rfl⟩

/-- The text in front of the first operator ends at the sign of a comparison. -/
theorem span_comparisonText {key : String} (plain : IsPlainKey key) (op : Operator)
    (literal : List Char) :
    (comparisonText key op literal).takeWhile (fun c => !isOperatorChar c) =
        key.toList ++ [' '] ∧
      (comparisonText key op literal).dropWhile (fun c => !isOperatorChar c) =
        op.sign.toList ++ ' ' :: literal := by
  have front : ∀ c ∈ key.toList ++ [' '], (!isOperatorChar c) = true := by
    intro c member
    rcases List.mem_append.mp member with inKey | space
    · rw [plain.noOperator c inKey]
      rfl
    · rw [List.mem_singleton.mp space]
      rfl
  have shape : comparisonText key op literal =
      (key.toList ++ [' ']) ++ (op.sign.toList ++ ' ' :: literal) := by
    simp [comparisonText]
  obtain ⟨c, rest, sign, isFirst⟩ := exists_sign_eq_cons op
  rw [shape, List.takeWhile_append_of_pos front, List.dropWhile_append_of_pos front, sign]
  simp [isFirst]

theorem isKey_of_isPlainKey {key : String} (plain : IsPlainKey key) :
    isKey key.toList = true := by
  simp only [isKey, Bool.and_eq_true, Bool.not_eq_true', List.isEmpty_eq_false_iff,
    List.any_eq_false, Bool.or_eq_true, not_or, Bool.not_eq_true]
  exact ⟨plain.toList_ne_nil, fun c member => ⟨plain.noBlank c member, plain.noQuote c member⟩⟩

/-- A comparison that is written is read back, whatever spaces stand around it, if its
literal is. -/
theorem comparison?_comparisonText {key : String} (plain : IsPlainKey key) (op : Operator)
    {literal padded : List Char} {value : Value} (starts : StartsSolid literal)
    (ends : EndsSolid literal) (read : trimmedLiteral? literal = some value)
    (pads : Padded (comparisonText key op literal) padded) :
    comparison? padded = some { key, op, literal := value } := by
  have spaces : ∀ count, ∀ c ∈ List.replicate count ' ', Text.isBlank c = true := by
    intro count c member
    rw [List.eq_of_mem_replicate member]
    rfl
  have solidKey := Text.solid_of_forall plain.toList_ne_nil plain.noBlank
  have trimmedText : Text.trimmed padded = comparisonText key op literal := by
    obtain ⟨before, after, rfl⟩ := pads
    refine Text.trimmed_append (spaces before) (spaces after) (solidKey.1.append _) ?_
    exact ((ends.append [' ']).append op.sign.toList |>.append [' ']).append key.toList
  have trimmedKey : Text.trimmed (key.toList ++ [' ']) = key.toList :=
    Text.trimmed_append (spaces 0) (spaces 1) solidKey.1 solidKey.2
  have trimmedLiteral : Text.trimmed (' ' :: literal) = literal := by
    have same := Text.trimmed_append (spaces 1) (spaces 0) starts ends
    rw [List.replicate_zero, List.append_nil] at same
    exact same
  obtain ⟨front, behind⟩ := span_comparisonText plain op literal
  simp only [comparison?, trimmedText, front, behind, trimmedKey, isKey_of_isPlainKey plain,
    operator?_sign, literal?, trimmedLiteral, read, String.ofList_toList]
  rfl

/-! ## Comparisons that are read -/

theorem list?_of_bareLiteral? {cs : List Char} {value : Value}
    (read : bareLiteral? cs = some value) : value.list? = none := by
  simp only [bareLiteral?] at read
  split at read
  · cases read
    rfl
  split at read
  · cases read
    rfl
  split at read
  · cases read
    rfl
  split at read
  · rename_i integer
    cases read
    obtain ⟨n, -, inRange⟩ := Option.bind_eq_some_iff.mp integer
    rw [Value.ofInt?] at inRange
    split at inRange
    · cases inRange
      rfl
    · cases inRange
  · split at read
    · cases read
      rfl
    · split at read
      · cases read
      · cases read
        rfl

/-- No text stands for a list. -/
theorem list?_of_literal? {cs : List Char} {value : Value} (read : literal? cs = some value) :
    value.list? = none := by
  rw [literal?, trimmedLiteral?] at read
  split at read
  · split at read
    · cases read
      rfl
    · split at read
      · cases read
      · exact list?_of_bareLiteral? read
  · cases read

/-- What is trimmed from a text has no part in cutting it. -/
theorem Whole.trimmed {sign : Char} (plainSign : isQuote sign = false) {cs : List Char}
    (whole : Whole sign none cs) : Whole sign none (Text.trimmed cs) := by
  obtain ⟨before, after, shape, blank, -⟩ := Text.exists_append_trimmed cs
  have closed : openQuote none before = none := by
    apply openQuote_of_plain
    intro c member
    apply Bool.eq_false_iff.mpr
    intro isOne
    have notBlank := isBlank_of_isQuote isOne
    rw [blank c member] at notBlank
    cases notBlank
  rw [shape] at whole
  have inner := (whole.of_append plainSign).2
  rw [closed] at inner
  exact (inner.of_append plainSign).1

theorem of_isKey {cs : List Char} (key : isKey cs = true) :
    cs ≠ [] ∧ ∀ c ∈ cs, Text.isBlank c = false ∧ isQuote c = false := by
  simpa only [isKey, Bool.and_eq_true, Bool.not_eq_true', List.isEmpty_eq_false_iff,
    List.any_eq_false, Bool.or_eq_true, not_or, Bool.not_eq_true] using key

/-- What is read as a comparison has a key in front of an operator and a literal behind it. -/
theorem exists_of_comparison? {cs : List Char} {comparison : Comparison}
    (read : comparison? cs = some comparison) :
    ∃ front behind rest,
      Text.trimmed cs = front ++ behind ∧ (∀ c ∈ front, isOperatorChar c = false) ∧
        isKey (Text.trimmed front) = true ∧
        operator? behind = some (comparison.op, rest) ∧
        literal? rest = some comparison.literal ∧
        comparison.key = String.ofList (Text.trimmed front) := by
  simp only [comparison?] at read
  split at read
  · cases read
  · rename_i key
    split at read
    · cases read
    · rename_i op rest operator
      obtain ⟨literal, readLiteral, rfl⟩ := Option.map_eq_some_iff.mp read
      refine ⟨_, _, rest, List.takeWhile_append_dropWhile.symm, ?_, ?_, operator, readLiteral,
        rfl⟩
      · intro c member
        simpa using List.mem_takeWhile_imp member
      · simpa using key

/-- The key of a comparison that is read is a plain word if no sign cuts the text. -/
theorem isPlainKey_of_comparison? {cs : List Char} {comparison : Comparison}
    (read : comparison? cs = some comparison) (noAnd : Whole '&' none cs)
    (noOr : Whole '|' none cs) : IsPlainKey comparison.key := by
  obtain ⟨front, behind, rest, shape, noOperator, isKey, -, -, same⟩ := exists_of_comparison? read
  obtain ⟨nonempty, plain⟩ := of_isKey isKey
  have noQuote : ∀ c ∈ Text.trimmed front, isQuote c = false := fun c member =>
    (plain c member).2
  have single : ∀ sign, isQuote sign = false → Whole sign none cs →
      ¬[sign, sign] <:+: Text.trimmed front := by
    intro sign plainSign whole
    have inner := whole.trimmed plainSign
    rw [shape] at inner
    have ofKey := (inner.of_append plainSign).1.trimmed plainSign
    exact (whole_iff_of_plain plainSign noQuote).mp ofKey
  rw [same]
  constructor
  · rw [Ne, String.ofList_eq_empty_iff]
    exact nonempty
  all_goals rw [String.toList_ofList]
  · exact fun c member => (plain c member).1
  · exact noQuote
  · obtain ⟨before, after, trimmed, -, -⟩ := Text.exists_append_trimmed front
    intro c member
    apply noOperator
    rw [trimmed]
    exact List.mem_append_right _ (List.mem_append_left _ member)
  · exact single '&' (by decide) noAnd
  · exact single '|' (by decide) noOr

theorem list?_of_comparison? {cs : List Char} {comparison : Comparison}
    (read : comparison? cs = some comparison) : comparison.literal.list? = none := by
  obtain ⟨_, _, _, -, -, -, -, literal, -⟩ := exists_of_comparison? read
  exact list?_of_literal? literal

end Condition

end Dialogue
