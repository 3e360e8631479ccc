import Dialogue.Proofs.Turns

/-!
# Raising limits

The limits of a run only ever cut it off.  A walk that was not given up is the same
walk under every greater limit, and turns behind a halt are not taken; so a run that
no limit stood in the way of returns the same, and leaves the same behind, when a
limit is raised.
-/

namespace Dialogue.Flow

/-! ## Walks -/

/-- A walk that was not given up is the same one when it may visit more
messages. -/
theorem Walks.eq_of_le {lookup : Lookup} {limit more : Nat} {id : MessageId} {walk : Walk}
    (walks : Walks lookup limit id walk) (walked : walk.stop ≠ .tooDeep)
    (le : limit ≤ more) : walkFrom lookup more id = walk := by
  induction walks generalizing more with
  | nothing _ missing => cases more <;> simp [walkFrom, missing]
  | tooDeep _ => exact absurd rfl walked
  | stopped limit found reason =>
      obtain ⟨more, rfl⟩ := Nat.exists_eq_add_of_lt le
      simp [walkFrom, found, reason]
  | last limit found passed behind =>
      obtain ⟨more, rfl⟩ := Nat.exists_eq_add_of_lt le
      simp [walkFrom, found, passed, behind]
  | @onward limit id next message walk found passed behind _ ih =>
      obtain ⟨more, rfl⟩ := Nat.exists_eq_add_of_lt le
      have rest := ih walked (Nat.le_add_right limit more)
      simp [walkFrom, found, passed, behind, rest]

/-! ## Turns -/

namespace Position

/-- The walk of a position stays the same when the limit of walks is raised. -/
theorem walk_map_withLimits {position : Position} {depth : Nat} (cycles : Nat)
    (walked : position.walk.stop ≠ .tooDeep)
    (le : position.engine.config.maxWalkDepth ≤ depth) :
    (position.map (Engine.withLimits depth cycles)).walk = position.walk :=
  (walks_walkFrom _ _ _).eq_of_le walked le

/-- Turns commute with raising the limit of walks unless one of them gives its walk
up. -/
theorem turns_map_withLimits {position : Position} {count depth : Nat} (cycles : Nat)
    (walked : ∀ engine start limit,
      position.turns count ≠ .stop (.failed engine (.tooDeep start limit)))
    (le : position.engine.config.maxWalkDepth ≤ depth) :
    (position.map (Engine.withLimits depth cycles)).turns count =
      (position.turns count).map (Engine.withLimits depth cycles) := by
  -- Turns keep the configuration, so the limit that is raised is the same for each.
  induction count generalizing position with
  | zero => rfl
  | succ count ih =>
      have deepEnough : position.walk.stop ≠ .tooDeep := by
        intro tooDeep
        exact walked _ _ _ (turns_succ_of_stop (turn_of_tooDeep tooDeep) count)
      have first := (neutral_withLimits depth cycles).turn_of_walk_eq
        (walk_map_withLimits cycles deepEnough le) deepEnough
      have setting := position.sameSetting_turn
      cases moved : position.turn with
      | goOn next =>
          rw [moved] at first setting
          have sameConfig : next.engine.config = position.engine.config := setting.config
          rw [turns_succ_of_goOn moved] at walked ⊢
          rw [turns_succ_of_goOn first]
          exact ih walked (sameConfig ▸ le)
      | stop halt =>
          rw [moved] at first
          rw [turns_succ_of_stop moved, turns_succ_of_stop first]
          rfl

end Position

/-! ## Runs -/

/-- A change of engines that makes no difference to how messages are shown. -/
def Silent (change : Engine → Engine) : Prop :=
  ∀ engine pending outcome, (change engine).finish pending outcome =
    ((engine.finish pending outcome).1, change (engine.finish pending outcome).2)

theorem Move.result_map {change : Engine → Engine} (silent : Silent change) (move : Move) :
    (move.map change).result = (move.result.1, change move.result.2) := by
  match move with
  | .goOn position => exact silent _ _ _
  | .stop (.ended engine pending outcome) => exact silent _ _ _
  | .stop (.failed _ _) => rfl

namespace Engine

/-- An engine with another limit of cycles. -/
def withCycles (cycles : Nat) (engine : Engine) : Engine :=
  { engine with config := { engine.config with maxCycles := cycles } }

theorem neutral_withCycles (cycles : Nat) : Neutral (withCycles cycles) where
  source _ := rfl
  agenda _ := rfl
  state _ := rfl
  active _ := rfl
  withState _ _ := rfl
  withActive _ _ := rfl

theorem silent_withCycles (cycles : Nat) : Silent (withCycles cycles) :=
  fun _ _ _ => rfl

theorem silent_withLimits (depth cycles : Nat) : Silent (withLimits depth cycles) :=
  fun _ _ _ => rfl

theorem run_withCycles (engine : Engine) (cycles : Nat) (id : MessageId) :
    (engine.withCycles cycles).run id =
      (((engine.standingAt id).turns cycles).result.1,
        withCycles cycles ((engine.standingAt id).turns cycles).result.2) := by
  rw [(neutral_withCycles cycles).run_eq_result_map (fun _ => rfl),
    Move.result_map (silent_withCycles cycles)]
  rfl

/-- Two runs return the same result or error, and leave the same behind: what is
remembered and active, the lines given so far, and the generator. -/
structure SameRun (first second : Except Error Result × Engine) : Prop where
  outcome : first.1 = second.1
  state : first.2.state = second.2.state
  active : first.2.active = second.2.active
  resolver : first.2.resolver = second.2.resolver

/-- A run in which no walk is given up is the same when walks may visit more
messages. -/
theorem sameRun_of_le_depth {engine : Engine} {id : MessageId} {depth : Nat}
    (walked : ∀ start limit, (engine.run id).1 ≠ .error (.tooDeep start limit))
    (le : engine.config.maxWalkDepth ≤ depth) :
    SameRun ((engine.withLimits depth engine.config.maxCycles).run id) (engine.run id) := by
  have same : ((engine.standingAt id).map
        (withLimits depth engine.config.maxCycles)).turns engine.config.maxCycles =
      ((engine.standingAt id).turns engine.config.maxCycles).map
        (withLimits depth engine.config.maxCycles) := by
    refine Position.turns_map_withLimits engine.config.maxCycles ?_ le
    intro failed start limit halted
    apply walked start limit
    rw [run_eq_result, halted]
    rfl
  have ran : (engine.withLimits depth engine.config.maxCycles).run id =
      ((engine.run id).1,
        (engine.run id).2.withLimits depth engine.config.maxCycles) := by
    rw [run_eq_result, run_eq_result, ← Move.result_map (silent_withLimits _ _), ← same]
    rfl
  rw [ran]
  exact ⟨rfl, rfl, rfl, rfl⟩

/-- A run that its limit of cycles did not cut off is the same when it may take more
cycles. -/
theorem sameRun_of_le_cycles {engine : Engine} {id : MessageId} {cycles : Nat}
    (uncut : ∀ result, (engine.run id).1 = .ok result → result.outcome ≠ .truncated)
    (le : engine.config.maxCycles ≤ cycles) :
    SameRun ((engine.withCycles cycles).run id) (engine.run id) := by
  rw [run_withCycles, run_eq_result]
  rw [run_eq_result] at uncut
  cases came : (engine.standingAt id).turns engine.config.maxCycles with
  | goOn target =>
      rw [came] at uncut
      exact absurd rfl (uncut _ rfl)
  | stop halt =>
      rw [Position.turns_of_stop_of_le came le]
      exact ⟨rfl, rfl, rfl, rfl⟩

/-- Raising a limit never changes a run that the limit did not stand in the way of.

A run in which no walk is given up is the same under every greater limit of walks;
a run that fails, or has a result that is not truncated, is the same under every
greater limit of cycles. -/
theorem run_of_raised_limit (engine : Engine) (id : MessageId) (depth cycles : Nat) :
    ((∀ start limit,
        ((engine.withLimits depth cycles).run id).1 ≠ .error (.tooDeep start limit)) →
      ∀ deeper, depth ≤ deeper →
        SameRun ((engine.withLimits deeper cycles).run id)
          ((engine.withLimits depth cycles).run id)) ∧
    ((∀ result, ((engine.withLimits depth cycles).run id).1 = .ok result →
        result.outcome ≠ .truncated) →
      ∀ longer, cycles ≤ longer →
        SameRun ((engine.withLimits depth longer).run id)
          ((engine.withLimits depth cycles).run id)) := by
  constructor
  · intro walked deeper le
    exact sameRun_of_le_depth walked le
  · intro uncut longer le
    exact sameRun_of_le_cycles uncut le

end Engine

end Dialogue.Flow
