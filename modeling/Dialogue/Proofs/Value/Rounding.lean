import Dialogue.Value.Basic
import Mathlib.Algebra.Order.Ring.Int
import Mathlib.Tactic.NormNum
import Mathlib.Tactic.Positivity
import Mathlib.Tactic.Ring

/-!
# Integers among doubles

A double can hold a whole number of at most 53 significant bits, times a power of two.  The
double that an integer stands for is the nearest of these.  Nothing else is needed of it: a
nearest number keeps the order of integers, is the integer itself where that is short enough,
and so differs from the double of every other integer as long as one of the two is smaller
than `2 ^ 53`.
-/

namespace Dialogue.Value

/-! ## Short numbers -/

/-- A whole number with at most 53 significant bits. -/
def IsShort (r : Int) : Prop :=
  ∃ (significand : Int) (exponent : Nat),
    significand.natAbs ≤ 2 ^ 53 ∧ r = significand * 2 ^ exponent

theorem isShort_of_natAbs_le {r : Int} (small : r.natAbs ≤ 2 ^ 53) : IsShort r :=
  ⟨r, 0, small, by rw [pow_zero, mul_one]⟩

theorem IsShort.neg {r : Int} (short : IsShort r) : IsShort (-r) := by
  obtain ⟨significand, exponent, small, rfl⟩ := short
  refine ⟨-significand, exponent, ?_, by rw [neg_mul]⟩
  rw [Int.natAbs_neg]
  exact small

/-- Between neighbouring multiples of a power of two that take 53 bits, no number is short. -/
theorem IsShort.le_or_ge {r : Int} (short : IsShort r) {count exponent : Nat}
    (long : 2 ^ 52 ≤ count) :
    r ≤ count * 2 ^ exponent ∨ (count + 1) * 2 ^ exponent ≤ r := by
  obtain ⟨significand, power, small, rfl⟩ := short
  by_contra between
  rw [not_or, not_le, not_le] at between
  obtain ⟨above, below⟩ := between
  rcases Nat.lt_or_ge power exponent with finer | coarser
  · -- The finer multiples of 53 bits end where the coarser ones begin.
    have reach : significand * 2 ^ power ≤ 2 ^ 52 * 2 ^ exponent := by
      have bits : significand ≤ 2 ^ 53 := by omega
      calc
        significand * 2 ^ power ≤ 2 ^ 53 * 2 ^ power :=
          mul_le_mul_of_nonneg_right bits (by positivity)
        _ = 2 ^ 52 * 2 ^ (power + 1) := by ring
        _ ≤ 2 ^ 52 * 2 ^ exponent := by
          apply mul_le_mul_of_nonneg_left _ (by positivity)
          exact pow_le_pow_right₀ (by norm_num) finer
    have start : (2 ^ 52 : Int) * 2 ^ exponent ≤ count * 2 ^ exponent := by
      apply mul_le_mul_of_nonneg_right _ (by positivity)
      exact_mod_cast long
    omega
  · -- The coarser multiples are among the finer ones, of which these are neighbours.
    obtain ⟨more, rfl⟩ := Nat.exists_eq_add_of_le coarser
    have unit : (0 : Int) < 2 ^ exponent := by positivity
    have regrouped : significand * 2 ^ (exponent + more) =
        significand * 2 ^ more * 2 ^ exponent := by
      ring
    rw [regrouped] at above below
    have lower := lt_of_mul_lt_mul_right above unit.le
    have upper := lt_of_mul_lt_mul_right below unit.le
    omega

/-! ## Rounding -/

theorem leadingBits_of_natAbs_lt {n : Int} (small : n.natAbs < 2 ^ 53) : leadingBits n = n :=
  if_pos small

theorem leadingBits_neg (n : Int) : leadingBits (-n) = -leadingBits n := by
  by_cases small : n.natAbs < 2 ^ 53
  · rw [leadingBits_of_natAbs_lt small, leadingBits_of_natAbs_lt (by rwa [Int.natAbs_neg])]
  · have long : ¬n.natAbs < Nat.pow 2 53 := small
    simp only [leadingBits, Int.natAbs_neg, if_neg long]
    by_cases negative : n < 0
    · rw [if_neg (by omega), if_pos negative, neg_neg]
    · rw [if_pos (by omega), if_neg negative]

/-- A long natural number is rounded to the nearer one of the multiples around it. -/
theorem exists_leadingBits_natCast {size : Nat} (long : 2 ^ 53 ≤ size) :
    ∃ count exponent : Nat,
      2 ^ 52 ≤ count ∧ count < 2 ^ 53 ∧
      count * 2 ^ exponent ≤ size ∧ size ≤ (count + 1) * 2 ^ exponent ∧
      (leadingBits size = (count * 2 ^ exponent : Nat) ∧
          2 * size ≤ (2 * count + 1) * 2 ^ exponent ∨
        leadingBits size = ((count + 1) * 2 ^ exponent : Nat) ∧
          (2 * count + 1) * 2 ^ exponent ≤ 2 * size) := by
  have bits : 53 ≤ size.log2 := (Nat.le_log2 (by omega)).mpr long
  have unit : 0 < 2 ^ (size.log2 - 52) := by positivity
  have first : 2 ^ 52 * 2 ^ (size.log2 - 52) ≤ size := by
    rw [← pow_add, Nat.add_sub_cancel' (by omega)]
    exact Nat.log2_self_le (by omega)
  have last : size < 2 ^ 53 * 2 ^ (size.log2 - 52) := by
    have behind : 53 + (size.log2 - 52) = size.log2 + 1 := by omega
    rw [← pow_add, behind]
    exact Nat.lt_log2_self
  refine ⟨size / 2 ^ (size.log2 - 52), size.log2 - 52, (Nat.le_div_iff_mul_le unit).mpr first,
    (Nat.div_lt_iff_lt_mul unit).mpr last, ?_⟩
  have isLong : ¬size < Nat.pow 2 53 := Nat.not_lt.mpr long
  have notNegative : ¬(size : Int) < 0 := by omega
  have power : Nat.pow 2 (size.log2 - 52) = 2 ^ (size.log2 - 52) := rfl
  simp only [leadingBits, Int.natAbs_natCast, if_neg isLong, if_neg notNegative, power]
  have parts := Nat.div_add_mod size (2 ^ (size.log2 - 52))
  have remainder := Nat.mod_lt size unit
  generalize 2 ^ (size.log2 - 52) = width at *
  generalize size / width = count at *
  generalize size % width = rest at *
  have middle : (2 * count + 1) * width = 2 * (width * count) + width := by ring
  have upper : (count + 1) * width = width * count + width := by ring
  refine ⟨by rw [Nat.mul_comm]; omega, by omega, ?_⟩
  rw [middle]
  split
  · rename_i up
    simp only [Bool.or_eq_true, Bool.and_eq_true, decide_eq_true_eq] at up
    exact .inr ⟨rfl, by omega⟩
  · rename_i down
    simp only [Bool.or_eq_true, Bool.and_eq_true, decide_eq_true_eq] at down
    exact .inl ⟨rfl, by omega⟩

/-! ## The nearest short number -/

theorem isShort_and_nearest_natCast (size : Nat) :
    IsShort (leadingBits size) ∧
      ∀ r, IsShort r → (size - leadingBits size).natAbs ≤ (size - r).natAbs := by
  by_cases small : size < 2 ^ 53
  · rw [leadingBits_of_natAbs_lt (n := size) small]
    exact ⟨isShort_of_natAbs_le small.le, by simp⟩
  · obtain ⟨count, exponent, long, short, lower, upper, rounded⟩ :=
      exists_leadingBits_natCast (Nat.not_lt.mp small)
    constructor
    · rcases rounded with ⟨same, -⟩ | ⟨same, -⟩
      · exact ⟨count, exponent, by omega, by rw [same]; push_cast; rfl⟩
      · exact ⟨count + 1, exponent, by omega, by rw [same]; push_cast; rfl⟩
    · intro r isShort
      have middle : (2 * count + 1) * 2 ^ exponent =
          count * 2 ^ exponent + (count + 1) * 2 ^ exponent := by
        ring
      have sides : r ≤ (count * 2 ^ exponent : Nat) ∨ ((count + 1) * 2 ^ exponent : Nat) ≤ r := by
        push_cast
        exact isShort.le_or_ge long
      rw [middle] at rounded
      generalize count * 2 ^ exponent = before at *
      generalize (count + 1) * 2 ^ exponent = behind at *
      omega

/-- The number that an integer is rounded to is short. -/
theorem isShort_leadingBits (n : Int) : IsShort (leadingBits n) := by
  rcases Int.natAbs_eq n with same | same
  · rw [same]
    exact (isShort_and_nearest_natCast n.natAbs).1
  · rw [same, leadingBits_neg]
    exact (isShort_and_nearest_natCast n.natAbs).1.neg

/-- No short number is nearer to an integer than the one that it is rounded to. -/
theorem natAbs_sub_leadingBits_le (n : Int) {r : Int} (short : IsShort r) :
    (n - leadingBits n).natAbs ≤ (n - r).natAbs := by
  rcases Int.natAbs_eq n with same | same
  · rw [same]
    exact (isShort_and_nearest_natCast n.natAbs).2 r short
  · have near := (isShort_and_nearest_natCast n.natAbs).2 (-r) short.neg
    rw [same, leadingBits_neg]
    omega

theorem IsShort.leadingBits_eq {n : Int} (short : IsShort n) : leadingBits n = n := by
  have near := natAbs_sub_leadingBits_le n short
  omega

/-- Rounding keeps the order of integers: were it reversed, one of the two would be nearer to
the number that the other is rounded to. -/
theorem leadingBits_le {m n : Int} (before : m ≤ n) : leadingBits m ≤ leadingBits n := by
  have nearM := natAbs_sub_leadingBits_le m (isShort_leadingBits n)
  have nearN := natAbs_sub_leadingBits_le n (isShort_leadingBits m)
  by_cases same : m = n
  · rw [same]
  · omega

/-- An integer below `2 ^ 53` is rounded to the same number as no other. -/
theorem eq_of_leadingBits_eq {m n : Int} (small : n.natAbs < 2 ^ 53)
    (same : leadingBits m = leadingBits n) : m = n := by
  rw [leadingBits_of_natAbs_lt small] at same
  by_cases smallToo : m.natAbs < 2 ^ 53
  · rw [leadingBits_of_natAbs_lt smallToo] at same
    exact same
  · have most : leadingBits (2 ^ 53) = 2 ^ 53 :=
      (isShort_of_natAbs_le (by decide)).leadingBits_eq
    have least : leadingBits (-2 ^ 53) = -2 ^ 53 :=
      (isShort_of_natAbs_le (by decide)).leadingBits_eq
    rcases Int.natAbs_eq m with positive | negative
    · have above : leadingBits (2 ^ 53) ≤ leadingBits m := leadingBits_le (by omega)
      omega
    · have below : leadingBits m ≤ leadingBits (-2 ^ 53) := leadingBits_le (by omega)
      omega

end Dialogue.Value
