import Dialogue.Proofs.Condition.Spelling

/-!
# What conditions say

A condition holds because of what is remembered under the keys that it names: its
comparisons are false where nothing is, and no text is read as an empty conjunction, which
would hold of anything.  A single comparison says of two values what its operator says of
two whole numbers, if the values are ordered like these.
-/

namespace Dialogue

/-! ## Operators -/

namespace Operator

/-- Two whole numbers are in the relation of an operator. -/
def Relates (op : Operator) (x y : Int) : Prop :=
  match op with
  | .eq => x = y
  | .ne => x ≠ y
  | .gt => x > y
  | .ge => x ≥ y
  | .lt => x < y
  | .le => x ≤ y

instance (op : Operator) (x y : Int) : Decidable (op.Relates x y) :=
  match op with
  | .eq => inferInstanceAs (Decidable (x = y))
  | .ne => inferInstanceAs (Decidable (x ≠ y))
  | .gt => inferInstanceAs (Decidable (x > y))
  | .ge => inferInstanceAs (Decidable (x ≥ y))
  | .lt => inferInstanceAs (Decidable (x < y))
  | .le => inferInstanceAs (Decidable (x ≤ y))

end Operator

/-- Two values are compared like two whole numbers. -/
structure Value.OrderedLike (first second : Value) (x y : Int) : Prop where
  equal : first.looseEq second = true ↔ x = y
  order : first.looseCompare second = some (compare x y)

theorem Operator.holds_iff_relates {value literal : Value} {x y : Int}
    (ordered : value.OrderedLike literal x y) (op : Operator) :
    op.holds value literal = true ↔ op.Relates x y := by
  cases op with
  | eq => exact ordered.equal
  | ne => simp [holds, Relates, ← ordered.equal]
  | gt => simp [holds, Relates, ordered.order, Int.compare_eq_gt]
  | ge =>
      simp only [holds, Relates, ordered.order, Bool.or_eq_true, beq_iff_eq, Option.some.injEq,
        Int.compare_eq_gt, Int.compare_eq_eq]
      omega
  | lt => simp [holds, Relates, ordered.order, Int.compare_eq_lt]
  | le =>
      simp only [holds, Relates, ordered.order, Bool.or_eq_true, beq_iff_eq, Option.some.injEq,
        Int.compare_eq_lt, Int.compare_eq_eq]
      omega

namespace Condition

/-! ## Conditions that hold -/

theorem allHold_iff {state : Dictionary Value} {conditions : List Condition} :
    allHold state conditions = true ↔ ∀ condition ∈ conditions, condition.holds state = true := by
  induction conditions with
  | nil => simp [allHold]
  | cons condition rest ih => simp [allHold, ih]

theorem anyHolds_iff {state : Dictionary Value} {conditions : List Condition} :
    anyHolds state conditions = true ↔ ∃ condition ∈ conditions, condition.holds state = true := by
  induction conditions with
  | nil => simp [anyHolds]
  | cons condition rest ih => simp [anyHolds, ih]

/-- A condition was read, and it holds. -/
def Holding (state : Dictionary Value) (read : Option Condition) : Prop :=
  ∃ condition, read = some condition ∧ condition.holds state = true

theorem evaluate_eq_true_iff {s : String} {state : Dictionary Value} :
    evaluate s state = true ↔ Holding state (parse? s) := by
  rw [evaluate, Holding]
  cases parse? s <;> simp

/-! ## Keys that are named -/

/-- A key is named in a comparison of a condition. -/
inductive Names (key : String) : Condition → Prop
  | compare (op : Operator) (literal : Value) : Names key (.compare { key, op, literal })
  | all {conditions : List Condition} {condition : Condition} (member : condition ∈ conditions)
      (names : Names key condition) : Names key (.all conditions)
  | any {conditions : List Condition} {condition : Condition} (member : condition ∈ conditions)
      (names : Names key condition) : Names key (.any conditions)

/-- A condition names a key under which something is remembered. -/
def Finds (state : Dictionary Value) (condition : Condition) : Prop :=
  ∃ key, Names key condition ∧ (state.get? key).isSome = true

section Finds

variable {property : Comparison → Prop} {state : Dictionary Value} {condition : Condition}

theorem IsComparison.finds (normal : IsComparison property condition)
    (holds : condition.holds state = true) : Finds state condition := by
  obtain @⟨comparison, -⟩ := normal
  refine ⟨comparison.key, .compare comparison.op comparison.literal, ?_⟩
  rw [Condition.holds, Comparison.holds] at holds
  cases found : state.get? comparison.key with
  | none => simp [found] at holds
  | some value => rfl

theorem IsConjunction.finds (normal : IsConjunction property condition)
    (holds : condition.holds state = true) : Finds state condition := by
  cases normal with
  | single comparison => exact comparison.finds holds
  | @all conditions several comparisons =>
      obtain ⟨first, rest, rfl⟩ : ∃ first rest, conditions = first :: rest :=
        List.exists_cons_of_length_pos (by omega)
      rw [Condition.holds, allHold_iff] at holds
      obtain ⟨key, names, found⟩ :=
        (comparisons first List.mem_cons_self).finds (holds first List.mem_cons_self)
      exact ⟨key, .all List.mem_cons_self names, found⟩

theorem IsNormal.finds (normal : IsNormal property condition)
    (holds : condition.holds state = true) : Finds state condition := by
  cases normal with
  | single conjunction => exact conjunction.finds holds
  | any several conjunctions =>
      rw [Condition.holds, anyHolds_iff] at holds
      obtain ⟨member, listed, memberHolds⟩ := holds
      obtain ⟨key, names, found⟩ := (conjunctions member listed).finds memberHolds
      exact ⟨key, .any listed names, found⟩

end Finds

/-- A text that holds names a key under which something is remembered. -/
theorem finds_of_evaluate {s : String} {state : Dictionary Value}
    (holds : evaluate s state = true) :
    ∃ condition, parse? s = some condition ∧ Finds state condition := by
  obtain ⟨condition, read, conditionHolds⟩ := evaluate_eq_true_iff.mp holds
  exact ⟨condition, read, (isNormal_of_parse? read).finds conditionHolds⟩

/-! ## A single comparison -/

/-- A comparison with a literal without quotes stands for itself. -/
theorem parse?_comparisonText {key : String} (plain : IsPlainKey key) (op : Operator)
    {literal : List Char} {value : Value} (nonempty : literal ≠ [])
    (bare : ∀ c ∈ literal, isBareChar c = true) (read : bareLiteral? literal = some value) :
    parse? (String.ofList (comparisonText key op literal)) =
      some (.compare { key, op, literal := value }) := by
  have single : ∀ sign, IsJoint sign → Sealed sign (comparisonText key op literal) :=
    fun sign joint => sealed_comparisonText plain op joint (sealed_of_bare joint bare)
  obtain ⟨starts, ends⟩ :=
    Text.solid_of_forall nonempty fun c member => (plain_of_isBareChar (bare c member)).2
  have readLiteral : trimmedLiteral? literal = some value := by
    rw [trimmedLiteral?_of_bare nonempty bare, read]
  have comparison : Reads (fun part => (comparison? part).map .compare)
      (.compare { key, op, literal := value }) (comparisonText key op literal) := by
    intro padded pads
    simp only [comparison?_comparisonText plain op starts ends readLiteral pads, Option.map_some]
  have conjunction : Reads conjunction? (.compare { key, op, literal := value })
      (comparisonText key op literal) := by
    rw [funext conjunction?_eq_junction]
    exact reads_of_sealed isJoint_and .all (single '&' isJoint_and) comparison
  rw [parse?_eq_junction, String.toList_ofList]
  exact reads_of_sealed isJoint_or .any (single '|' isJoint_or) conjunction _ ⟨0, 0, by simp⟩

/-- A comparison says of a remembered value what its operator says of the numbers that the
value and the literal are ordered like. -/
theorem evaluate_comparisonText_iff {key : String} (plain : IsPlainKey key) (op : Operator)
    {literal : List Char} {value held : Value} {x y : Int} (nonempty : literal ≠ [])
    (bare : ∀ c ∈ literal, isBareChar c = true) (read : bareLiteral? literal = some value)
    {state : Dictionary Value} (found : state.get? key = some held)
    (ordered : held.OrderedLike value x y) :
    evaluate (String.ofList (comparisonText key op literal)) state = true ↔ op.Relates x y := by
  rw [evaluate, parse?_comparisonText plain op nonempty bare read]
  simp only [holds, Comparison.holds, found]
  exact Operator.holds_iff_relates ordered op

end Condition

end Dialogue
