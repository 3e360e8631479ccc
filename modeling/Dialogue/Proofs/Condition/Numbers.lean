import Dialogue.Proofs.Condition.Evaluation
import Dialogue.Proofs.Value.Rounding

/-!
# Conditions on integers

Integers share their order with doubles, so a condition compares the doubles that its two
integers stand for.  Different integers with one double in common are taken for equal.  This
is the only way in which a condition on integers departs from their order: rounding never
turns it round, and it tells an integer below `2 ^ 53` from all others.
-/

namespace Dialogue

namespace Value

/-- Integers are compared like the numbers that they are rounded to. -/
theorem orderedLike_int (m n : Int64) :
    (Value.int m).OrderedLike (.int n) (leadingBits m.toInt) (leadingBits n.toInt) := by
  constructor
  · simp [looseEq, isNumber, compareNumbers]
  · rfl

/-- Rounded numbers are in the same relations as the integers exactly if they do not take
different integers for equal. -/
theorem relates_leadingBits_iff (m n : Int) :
    (∀ op : Operator, op.Relates (leadingBits m) (leadingBits n) ↔ op.Relates m n) ↔
      (leadingBits m = leadingBits n → m = n) := by
  constructor
  · intro alike
    exact (alike .eq).mp
  · intro apart op
    have upwards : m ≤ n → leadingBits m ≤ leadingBits n := leadingBits_le
    have downwards : n ≤ m → leadingBits n ≤ leadingBits m := leadingBits_le
    have equal : m = n → leadingBits m = leadingBits n := congrArg leadingBits
    cases op <;> simp only [Operator.Relates] <;> omega

end Value

namespace Condition

open Value (leadingBits)

/-- The comparison of what is remembered under a key with an integer, as it is written. -/
def integerCondition (key : String) (op : Operator) (n : Int64) : String :=
  String.ofList (comparisonText key op (Json.integerText n.toInt))

/-- What a condition says of two integers.

It compares the numbers that they are rounded to.  So all operators are exact for two
integers unless these are different and rounded to the same number, and this cannot be when
one of them is below `2 ^ 53`. -/
theorem evaluate_integers {key : String} (plain : IsPlainKey key) {state : Dictionary Value}
    {m : Int64} (held : state.get? key = some (.int m)) (n : Int64) :
    (∀ op, evaluate (integerCondition key op n) state = true ↔
      op.Relates (leadingBits m.toInt) (leadingBits n.toInt)) ∧
    ((∀ op, evaluate (integerCondition key op n) state = true ↔ op.Relates m.toInt n.toInt) ↔
      (leadingBits m.toInt = leadingBits n.toInt → m = n)) ∧
    (m.toInt.natAbs < 2 ^ 53 ∨ n.toInt.natAbs < 2 ^ 53 →
      ∀ op, evaluate (integerCondition key op n) state = true ↔ op.Relates m.toInt n.toInt) := by
  have rounded : ∀ op, evaluate (integerCondition key op n) state = true ↔
      op.Relates (leadingBits m.toInt) (leadingBits n.toInt) := fun op =>
    evaluate_comparisonText_iff plain op (integerText_ne_nil n.toInt)
      (fun _ member => isBareChar_of_mem_integerText member) (bareLiteral?_integerText n) held
      (Value.orderedLike_int m n)
  have exact : (∀ op, evaluate (integerCondition key op n) state = true ↔
      op.Relates m.toInt n.toInt) ↔ (leadingBits m.toInt = leadingBits n.toInt → m = n) := by
    simp only [rounded, Value.relates_leadingBits_iff, Int64.toInt_inj]
  refine ⟨rounded, exact, ?_⟩
  intro small
  apply exact.mpr
  intro same
  rw [← Int64.toInt_inj]
  rcases small with smallM | smallN
  · exact (Value.eq_of_leadingBits_eq smallM same.symm).symm
  · exact Value.eq_of_leadingBits_eq smallN same

/-- A score just beyond the integers that doubles can tell apart. -/
def highScore : Dictionary Value :=
  .ofList [("points", .int 9007199254740993)]

/-- The high score counts as equal to the score below it. -/
theorem evaluate_highScore_lower :
    IsPlainKey "points" ∧ highScore.get? "points" = some (.int 9007199254740993) ∧
      integerCondition "points" .eq 9007199254740992 = "points == 9007199254740992" ∧
      evaluate "points == 9007199254740992" highScore = true ∧
      ¬Operator.eq.Relates (9007199254740993 : Int64).toInt (9007199254740992 : Int64).toInt := by
  exact ⟨by decide +kernel, rfl, by decide +kernel, by decide +kernel, by decide⟩

/-- The high score is below the next even one, and this is seen. -/
theorem evaluate_integers_highScore :
    IsPlainKey "points" ∧ highScore.get? "points" = some (.int 9007199254740993) ∧
      evaluate (integerCondition "points" .lt 9007199254740994) highScore = true := by
  have plain : IsPlainKey "points" := by decide +kernel
  have held : highScore.get? "points" = some (.int 9007199254740993) := rfl
  refine ⟨plain, held, ?_⟩
  obtain ⟨-, exact, -⟩ := evaluate_integers plain held 9007199254740994
  have below := exact.mpr (by decide) .lt
  exact below.mpr (by decide)

end Condition

end Dialogue
