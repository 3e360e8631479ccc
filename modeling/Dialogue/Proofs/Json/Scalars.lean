import Dialogue.Json.Printer
import Dialogue.Json.Reader

/-!
# Texts and numbers read back

A text that is written between quotes is scanned character by character, each of them
standing for what it was written for, and an integer of 64 bits that is written in decimal
is read as itself, unless what follows it goes on with the number.
-/

namespace Dialogue.Json

/-! ## Texts -/

/-- The code point of a control character, as it is written. -/
theorem hexCode?_of_control :
    ∀ n < 0x20, hexCode? '0' '0' (hexDigit (n / 16)) (hexDigit n) = some n := by
  decide

/-- The code points of control characters stand for themselves. -/
theorem characters?_code_of_control {n : Nat} (control : n < 0x20) (units : List TextUnit) :
    characters? (.code n :: units) = (characters? units).map (Char.ofNat n :: ·) := by
  have notTrailing : ¬isTrailing n := by simp only [isTrailing]; grind
  have notLeading : ¬isLeading n := by simp only [isLeading]; grind
  rw [characters?.eq_def]
  simp only [if_neg notTrailing, if_neg notLeading]

/-- A character that is written is scanned as one unit, which stands for it. -/
theorem exists_scanUnits_escaped (c : Char) (rest : List Char) :
    ∃ unit, scanUnits (escaped c ++ rest) = (unit :: (scanUnits rest).1, (scanUnits rest).2) ∧
      ∀ units, characters? (unit :: units) = (characters? units).map (c :: ·) := by
  rw [escaped.eq_def]
  split
  · exact ⟨.char '"', rfl, fun _ => rfl⟩
  · exact ⟨.char '\\', rfl, fun _ => rfl⟩
  · exact ⟨.char '\n', rfl, fun _ => rfl⟩
  · exact ⟨.char '\r', rfl, fun _ => rfl⟩
  · exact ⟨.char '\t', rfl, fun _ => rfl⟩
  · exact ⟨.char '\x08', rfl, fun _ => rfl⟩
  · exact ⟨.char '\x0c', rfl, fun _ => rfl⟩
  · rename_i notQuote notBackslash _ _ _ _ _
    split
    · rename_i control
      refine ⟨.code c.toNat, ?_, ?_⟩
      · simp [scanUnits, hexCode?_of_control c.toNat control]
      · intro units
        rw [characters?_code_of_control control, Char.ofNat_toNat]
    · rename_i plain
      refine ⟨.char c, ?_, fun _ => rfl⟩
      rw [List.cons_append, List.nil_append, scanUnits.eq_def]
      split <;> simp_all

/-- A text that is written is scanned as units that stand for it. -/
theorem exists_scanUnits_flatMap (cs rest : List Char) :
    ∃ units, scanUnits (cs.flatMap escaped ++ '"' :: rest) = (units, .ok rest) ∧
      characters? units = some cs := by
  induction cs with
  | nil => exact ⟨[], rfl, rfl⟩
  | cons c cs ih =>
      obtain ⟨units, scanned, value⟩ := ih
      obtain ⟨unit, first, stands⟩ :=
        exists_scanUnits_escaped c (cs.flatMap escaped ++ '"' :: rest)
      refine ⟨unit :: units, ?_, ?_⟩
      · rw [List.flatMap_cons, List.append_assoc, first, scanned]
      · rw [stands, value, Option.map_some]

/-- A text that is written is read back. -/
theorem scanText_flatMap (cs rest : List Char) :
    scanText (cs.flatMap escaped ++ '"' :: rest) = (.text (String.ofList cs), some rest) := by
  obtain ⟨units, scanned, value⟩ := exists_scanUnits_flatMap cs rest
  simp only [scanText, scanned, value]

/-! ## Numbers -/

/-- Whether a number ends in front of a text. -/
def endsNumber : List Char → Bool
  | [] => true
  | c :: _ => !c.isDigit && c != '.' && c != 'e' && c != 'E'

/-- Whether an integer is read as an integer. -/
def fits (n : Int) : Bool :=
  -(UInt64.size : Int) ≤ 2 * n && n < UInt64.size

theorem scanDigits_toDigits (n : Nat) {rest : List Char} (ends : endsNumber rest = true) :
    scanDigits (Nat.toDigits 10 n ++ rest) = .ok (Nat.toDigits 10 n, rest) := by
  have digits : ∀ c ∈ Nat.toDigits 10 n, c.isDigit = true := fun c member =>
    Nat.isDigit_of_mem_toDigits (by decide) (by decide) member
  have taken : (Nat.toDigits 10 n ++ rest).takeWhile Char.isDigit = Nat.toDigits 10 n ∧
      (Nat.toDigits 10 n ++ rest).dropWhile Char.isDigit = rest := by
    rw [List.takeWhile_append_of_pos digits, List.dropWhile_append_of_pos digits]
    cases rest with
    | nil => simp
    | cons c rest =>
        simp only [endsNumber, Bool.and_eq_true, Bool.not_eq_true'] at ends
        simp [ends.1.1.1]
  match shape : Nat.toDigits 10 n with
  | [] => exact absurd shape Nat.toDigits_ne_nil
  | first :: others =>
      have digit : first.isDigit = true := digits first (by rw [shape]; exact List.mem_cons_self)
      rw [shape] at taken
      rw [List.cons_append] at taken ⊢
      simp only [scanDigits, digit, if_pos, taken]

/-- The digits of a number do not start with a zero, unless it is the only digit. -/
theorem toDigits_ne_zero_cons (n : Nat) (second : Char) (others : List Char) :
    Nat.toDigits 10 n ≠ '0' :: second :: others := by
  induction n using Nat.strongRecOn generalizing second others with
  | _ n ih =>
      intro leading
      by_cases small : n < 10
      · rw [Nat.toDigits_of_lt_base small] at leading
        exact absurd (List.cons.inj leading).2 (by simp)
      · rw [Nat.toDigits_of_base_le (by decide) (Nat.le_of_not_lt small)] at leading
        match shape : Nat.toDigits 10 (n / 10) with
        | [] => exact Nat.toDigits_ne_nil shape
        | [digit] =>
            have zero : Nat.ofDigitChars 10 (Nat.toDigits 10 (n / 10)) 0 = 0 := by
              rw [shape] at leading ⊢
              rw [(List.cons.inj leading).1]
              decide
            rw [Nat.ofDigitChars_ten_toDigits] at zero
            omega
        | digit :: following :: more =>
            rw [shape] at leading
            rw [(List.cons.inj leading).1] at shape
            exact ih (n / 10) (by omega) following more shape

theorem scanWhole_toDigits (n : Nat) {rest : List Char} (ends : endsNumber rest = true) :
    scanWhole (Nat.toDigits 10 n ++ rest) = .ok (Nat.toDigits 10 n, rest) := by
  rw [scanWhole, scanDigits_toDigits n ends]
  split
  · rename_i leading
    exact absurd (Prod.mk.inj (Except.ok.inj leading)).1 (toDigits_ne_zero_cons n _ _)
  · rfl

theorem scanFraction_of_endsNumber {rest : List Char} (ends : endsNumber rest = true) :
    scanFraction rest = .ok (none, rest) := by
  rw [scanFraction.eq_def]
  split
  · simp [endsNumber] at ends
  · rfl

theorem scanPower_of_endsNumber {rest : List Char} (ends : endsNumber rest = true) :
    scanPower rest = .ok (none, rest) := by
  cases rest with
  | nil => rfl
  | cons c rest =>
      simp only [endsNumber, Bool.and_eq_true, bne_iff_ne] at ends
      simp [scanPower, ends.1.2, ends.2]

/-- Digits do not start with a sign. -/
theorem toDigits_ne_minus_cons (n : Nat) (others : List Char) :
    Nat.toDigits 10 n ≠ '-' :: others := by
  intro signed
  have member : '-' ∈ Nat.toDigits 10 n := by
    rw [signed]
    exact List.mem_cons_self
  have digit : ('-').isDigit = true :=
    Nat.isDigit_of_mem_toDigits (by decide) (by decide) member
  exact absurd digit (by decide)

theorem scanNumber_toDigits (n : Nat) {rest : List Char} (ends : endsNumber rest = true) :
    scanNumber (Nat.toDigits 10 n ++ rest) =
      .ok ({ negative := false, whole := Nat.toDigits 10 n, fraction := none,
             power := none }, rest) := by
  rw [scanNumber.eq_def]
  split
  rename_i negative cs signed
  split at signed
  · rename_i others split
    match shape : Nat.toDigits 10 n with
    | [] => exact absurd shape Nat.toDigits_ne_nil
    | first :: digits =>
        rw [shape, List.cons_append] at split
        rw [(List.cons.inj split).1] at shape
        exact absurd shape (toDigits_ne_minus_cons n digits)
  · cases signed
    simp only [scanWhole_toDigits n ends, scanFraction_of_endsNumber ends,
      scanPower_of_endsNumber ends]

theorem scanNumber_minus_toDigits (n : Nat) {rest : List Char}
    (ends : endsNumber rest = true) :
    scanNumber ('-' :: (Nat.toDigits 10 n ++ rest)) =
      .ok ({ negative := true, whole := Nat.toDigits 10 n, fraction := none,
             power := none }, rest) := by
  simp only [scanNumber, scanWhole_toDigits n ends, scanFraction_of_endsNumber ends,
    scanPower_of_endsNumber ends]

/-- An integer of 64 bits that is written is read back. -/
theorem readNumber_integerText {n : Int} (inRange : fits n = true) {rest : List Char}
    (ends : endsNumber rest = true) :
    readNumber (integerText n ++ rest) = (.int n, some rest) := by
  simp only [fits, Bool.and_eq_true, decide_eq_true_eq] at inRange
  cases n with
  | ofNat size =>
      have small : size < UInt64.size := Int.ofNat_lt.mp inRange.2
      simp only [readNumber, integerText, scanNumber_toDigits size ends, NumberText.draft,
        Nat.ofDigitChars_ten_toDigits]
      simp [small]
  | negSucc size =>
      have small : 2 * (size + 1) ≤ UInt64.size := by omega
      simp only [readNumber, integerText, List.cons_append,
        scanNumber_minus_toDigits (size + 1) ends, NumberText.draft,
        Nat.ofDigitChars_ten_toDigits]
      simp [small, Int.negSucc_eq]

end Dialogue.Json
