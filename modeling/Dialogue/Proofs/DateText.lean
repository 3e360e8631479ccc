import Dialogue.Proofs.Calendar
import Mathlib.Algebra.Order.Ring.Int

/-!
# The order of written dates

The dates of the years 0 to 9999 are written in one width, with zeros in front of small
years, months and days.  Texts of one width are ordered by the first place where they differ,
so written numbers are ordered like the numbers, and written dates like the dates.
-/

namespace Dialogue.Date

/-! ## Texts of one width -/

/-- Texts are ordered by their fronts first if these have one width. -/
theorem append_lt_append_iff {front other rest more : List Char}
    (width : front.length = other.length) :
    front ++ rest < other ++ more ↔ front < other ∨ front = other ∧ rest < more := by
  induction front generalizing other with
  | nil =>
      rw [List.length_eq_zero_iff.mp width.symm]
      simp
  | cons c front ih =>
      cases other with
      | nil => cases width
      | cons d other =>
          simp only [List.cons_append, List.cons_lt_cons_iff, List.cons.injEq,
            ih (Nat.succ.inj width), and_or_left, or_assoc, and_assoc]

/-! ## Numbers with zeros in front -/

theorem toList_padded (width n : Nat) :
    (padded width n).toList =
      List.replicate (width - (Nat.toDigits 10 n).length) '0' ++ Nat.toDigits 10 n :=
  String.toList_ofList

/-- Numbers with at most so many digits are as wide as they are meant to be. -/
theorem length_padded {width n : Nat} (positive : 0 < width) (fits : n < 10 ^ width) :
    (padded width n).toList.length = width := by
  have digits : (Nat.toDigits 10 n).length ≤ width :=
    (Nat.length_toDigits_le_iff (by decide) positive).mpr fits
  rw [toList_padded, List.length_append, List.length_replicate]
  omega

theorem padded_one {n : Nat} (digit : n < 10) : (padded 1 n).toList = [n.digitChar] := by
  rw [toList_padded, Nat.toDigits_of_lt_base digit]
  rfl

/-- The last digit stands behind the number that the others make. -/
theorem padded_succ {width : Nat} (positive : 0 < width) (n : Nat) :
    (padded (width + 1) n).toList = (padded width (n / 10)).toList ++ [(n % 10).digitChar] := by
  rw [toList_padded, toList_padded]
  rcases Nat.lt_or_ge n 10 with digit | more
  · obtain ⟨width, rfl⟩ := Nat.exists_eq_add_of_lt positive
    rw [Nat.div_eq_of_lt digit, Nat.mod_eq_of_lt digit, Nat.toDigits_of_lt_base digit,
      Nat.toDigits_of_lt_base (by decide : 0 < 10)]
    have zero : Nat.digitChar 0 = '0' := rfl
    simp [zero, List.replicate_succ']
  · rw [Nat.toDigits_of_base_le (by decide) more, List.length_append, List.length_singleton,
      Nat.add_sub_add_right, List.append_assoc]

theorem digitChar_order {m n : Nat} (digitM : m < 10) (digitN : n < 10) :
    (m.digitChar < n.digitChar ↔ m < n) ∧ (m.digitChar = n.digitChar ↔ m = n) := by
  have codeM := Nat.toNat_digitChar_of_lt_ten digitM
  have codeN := Nat.toNat_digitChar_of_lt_ten digitN
  constructor
  · change m.digitChar.toNat < n.digitChar.toNat ↔ m < n
    omega
  · rw [← Char.toNat_inj]
    omega

/-- Numbers written in one width are in the order of the numbers. -/
theorem padded_order {width m n : Nat} (positive : 0 < width) (fitsM : m < 10 ^ width)
    (fitsN : n < 10 ^ width) :
    ((padded width m).toList < (padded width n).toList ↔ m < n) ∧
      ((padded width m).toList = (padded width n).toList ↔ m = n) := by
  induction width, positive using Nat.le_induction generalizing m n with
  | base =>
      obtain ⟨less, equal⟩ := digitChar_order fitsM fitsN
      rw [padded_one fitsM, padded_one fitsN]
      simp [List.cons_lt_cons_iff, less, equal]
  | succ width positive ih =>
      rw [Nat.pow_succ] at fitsM fitsN
      have frontM : m / 10 < 10 ^ width := by omega
      have frontN : n / 10 < 10 ^ width := by omega
      have widths : (padded width (m / 10)).toList.length =
          (padded width (n / 10)).toList.length := by
        rw [length_padded positive frontM, length_padded positive frontN]
      obtain ⟨less, equal⟩ := ih frontM frontN
      obtain ⟨lastLess, lastEqual⟩ :=
        digitChar_order (Nat.mod_lt m (by decide)) (Nat.mod_lt n (by decide))
      rw [padded_succ positive, padded_succ positive]
      constructor
      · rw [append_lt_append_iff widths, less, equal]
        simp only [List.cons_lt_cons_iff, List.not_lt_nil, and_false, or_false, lastLess]
        omega
      · constructor
        · intro same
          obtain ⟨front, last⟩ := List.append_inj' same rfl
          rw [List.singleton_inj, lastEqual] at last
          rw [equal] at front
          omega
        · rintro rfl
          rfl

/-! ## Dates -/

section Dates

variable {a b : Date} (yearA : 0 ≤ a.year ∧ a.year ≤ 9999) (yearB : 0 ≤ b.year ∧ b.year ≤ 9999)

include yearA in
/-- The text of a date in the years with four digits. -/
theorem toList_text :
    a.text.toList = (padded 4 a.year.natAbs).toList ++ '-' ::
      ((padded 2 a.month).toList ++ '-' :: (padded 2 a.day).toList) := by
  have year : yearText a.year = padded 4 a.year.natAbs := by
    rw [yearText, if_neg (by omega), if_neg (by omega)]
  rw [text, year]
  simp

theorem month_lt (date : Date) : date.month < 10 ^ 2 := by
  have month := date.month_mem
  omega

theorem day_lt (date : Date) : date.day < 10 ^ 2 := by
  have day := date.day_mem
  have month := daysIn_mem date.year date.month
  omega

include yearA yearB

/-- Dates are written in their order. -/
theorem text_lt_iff : a.text < b.text ↔ a.Before b := by
  have fitsA : a.year.natAbs < 10 ^ 4 := by omega
  have fitsB : b.year.natAbs < 10 ^ 4 := by omega
  obtain ⟨yearLess, yearEqual⟩ := padded_order (by decide) fitsA fitsB
  obtain ⟨monthLess, monthEqual⟩ := padded_order (by decide) a.month_lt b.month_lt
  obtain ⟨dayLess, -⟩ := padded_order (by decide) a.day_lt b.day_lt
  have yearWidths : (padded 4 a.year.natAbs).toList.length =
      (padded 4 b.year.natAbs).toList.length := by
    rw [length_padded (by decide) fitsA, length_padded (by decide) fitsB]
  have monthWidths : (padded 2 a.month).toList.length = (padded 2 b.month).toList.length := by
    rw [length_padded (by decide) a.month_lt, length_padded (by decide) b.month_lt]
  have noDash : ¬ '-' < '-' := by decide
  rw [String.lt_iff, toList_text yearA, toList_text yearB, append_lt_append_iff yearWidths,
    List.cons_lt_cons_iff, append_lt_append_iff monthWidths, List.cons_lt_cons_iff, yearLess,
    yearEqual, monthLess, monthEqual, dayLess, Before]
  simp only [noDash, false_or, true_and]
  omega

/-- Different dates are written differently. -/
theorem text_inj : a.text = b.text ↔ a = b := by
  constructor
  · intro same
    rcases before_trichotomy a b with before | equal | after
    · rw [← text_lt_iff yearA yearB, same] at before
      exact absurd before (String.lt_irrefl _)
    · exact equal
    · rw [← text_lt_iff yearB yearA, same] at after
      exact absurd after (String.lt_irrefl _)
  · exact congrArg text

end Dates

end Dialogue.Date
