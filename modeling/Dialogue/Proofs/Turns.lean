import Dialogue.Proofs.Agreement

/-!
# Runs as turns

A cycle of a run, on top of the messages that were collected before it, is a move
of the conversation: a turn.  A run takes as many turns as its limit of cycles
allows, and what it returns can be read off the move that these come to.  So a
fact about one turn becomes a fact about runs by an induction over turns, and the
messages are shown only behind the last one.
-/

namespace Dialogue.Flow

namespace Position

/-- The walk that a turn from a position begins with. -/
def walk (position : Position) : Walk :=
  walkFrom position.engine.lookup position.engine.config.maxWalkDepth position.id

/-- Take a cycle of a run from a position. -/
def turn (position : Position) : Move :=
  .ofCycle position.pending (position.engine.cycle position.id)

/-- What has come of a position when at most so many turns have been taken. -/
def turns : Nat → Position → Move
  | 0, position => .goOn position
  | count + 1, position =>
      match position.turn with
      | .goOn next => turns count next
      | .stop halt => .stop halt

/-! ## Counting turns -/

theorem turns_succ_of_goOn {position next : Position}
    (moved : position.turn = .goOn next) (count : Nat) :
    position.turns (count + 1) = next.turns count := by
  rw [turns, moved]

theorem turns_succ_of_stop {position : Position} {halt : Halt}
    (halted : position.turn = .stop halt) (count : Nat) :
    position.turns (count + 1) = .stop halt := by
  rw [turns, halted]

/-- No turn is taken behind a halt. -/
theorem turns_of_stop_of_le {position : Position} {halt : Halt} {count more : Nat}
    (halted : position.turns count = .stop halt) (le : count ≤ more) :
    position.turns more = .stop halt := by
  induction count generalizing position more with
  | zero => contradiction
  | succ count ih =>
      obtain ⟨rest, rfl⟩ := Nat.exists_eq_add_of_le' le
      rw [← Nat.add_assoc]
      cases moved : position.turn with
      | goOn next =>
          rw [turns_succ_of_goOn moved] at halted ⊢
          exact ih halted (Nat.le_add_left count rest)
      | stop other =>
          rw [turns_succ_of_stop moved] at halted ⊢
          exact halted

/-- A halt is the work of the last turn. -/
theorem exists_turn_of_turns_stop {position : Position} {halt : Halt} {count : Nat}
    (halted : position.turns count = .stop halt) :
    ∃ before < count, ∃ target, position.turns before = .goOn target ∧
      target.turn = .stop halt := by
  induction count generalizing position with
  | zero => contradiction
  | succ count ih =>
      cases moved : position.turn with
      | goOn next =>
          rw [turns_succ_of_goOn moved] at halted
          obtain ⟨before, earlier, target, reached, stopped⟩ := ih halted
          refine ⟨before + 1, Nat.succ_lt_succ earlier, target, ?_, stopped⟩
          rw [turns_succ_of_goOn moved]
          exact reached
      | stop other =>
          rw [turns_succ_of_stop moved] at halted
          cases halted
          exact ⟨0, Nat.succ_pos count, position, rfl, moved⟩

end Position

/-! ## Results of turns -/

/-- What a run returns that has come to a move when its last cycle is over. -/
def Move.result : Move → Except Error Engine.Result × Engine
  | .goOn position => position.engine.finish position.pending .truncated
  | .stop halt => halt.result

namespace Engine

theorem runCycles_eq_result (position : Position) (cycles : Nat) :
    position.engine.runCycles position.pending cycles position.id =
      (position.turns cycles).result := by
  induction cycles generalizing position with
  | zero => rfl
  | succ cycles ih =>
      cases moved : position.turn with
      | goOn next =>
          rw [runCycles_succ_of_goOn moved, Position.turns_succ_of_goOn moved]
          exact ih next
      | stop halt =>
          rw [runCycles_succ_of_stop moved, Position.turns_succ_of_stop moved]
          rfl

theorem run_eq_result (engine : Engine) (id : MessageId) :
    engine.run id = ((engine.standingAt id).turns engine.config.maxCycles).result :=
  runCycles_eq_result (engine.standingAt id) engine.config.maxCycles

end Engine

namespace Position

/-! ## What a turn can come to -/

theorem turn_of_tooDeep {position : Position} (tooDeep : position.walk.stop = .tooDeep) :
    position.turn =
      .stop (.failed position.engine
        (.tooDeep position.id position.engine.config.maxWalkDepth)) := by
  rw [turn, Engine.cycle_eq, ← walk, if_pos tooDeep]
  rfl

theorem turn_of_walked {position : Position} (walked : position.walk.stop ≠ .tooDeep) :
    position.turn = .ofCycle position.pending (position.engine.settle position.walk) := by
  rw [turn, Engine.cycle_eq, ← walk, if_neg walked]

/-- A turn whose walk was not given up is some messages of the interpreter. -/
theorem exists_after_eq_turn {position : Position}
    (walked : position.walk.stop ≠ .tooDeep) :
    ∃ count, position.after (count + 1) = position.turn := by
  rw [turn_of_walked walked]
  exact after_of_settle (walks_walkFrom _ _ _) walked rfl position.pending

/-- A turn leaves the setting of the conversation as it is. -/
theorem sameSetting_turn (position : Position) :
    position.engine.SameSetting position.turn.engine := by
  by_cases tooDeep : position.walk.stop = .tooDeep
  · rw [turn_of_tooDeep tooDeep]
    exact .refl position.engine
  · obtain ⟨count, moved⟩ := exists_after_eq_turn tooDeep
    rw [← moved]
    exact position.sameSetting_after (count + 1)

theorem sameSetting_turns (position : Position) (count : Nat) :
    position.engine.SameSetting (position.turns count).engine := by
  induction count generalizing position with
  | zero => exact .refl position.engine
  | succ count ih =>
      have first := position.sameSetting_turn
      cases moved : position.turn with
      | goOn next =>
          rw [moved] at first
          rw [turns_succ_of_goOn moved]
          exact first.trans (ih next)
      | stop halt =>
          rw [moved] at first
          rw [turns_succ_of_stop moved]
          exact first

/-- A turn fails only because its walk is given up or a sequence cannot be
loaded. -/
theorem turn_failed_cases {position : Position} {engine : Engine} {error : Error}
    (failed : position.turn = .stop (.failed engine error)) :
    (position.walk.stop = .tooDeep ∧ engine = position.engine ∧
      error = .tooDeep position.id position.engine.config.maxWalkDepth) ∨
      ∃ cause, error = .sequence cause := by
  by_cases tooDeep : position.walk.stop = .tooDeep
  · rw [turn_of_tooDeep tooDeep] at failed
    cases failed
    exact .inl ⟨tooDeep, rfl, rfl⟩
  · obtain ⟨count, moved⟩ := exists_after_eq_turn tooDeep
    exact .inr (exists_cause_of_failed ⟨count + 1, moved.trans failed⟩)

end Position

/-! ## Changes without a bearing on conversations -/

namespace Neutral

variable {change : Engine → Engine}

theorem resolve (neutral : Neutral change) (engine : Engine) (message : Message) :
    (change engine).resolve message =
      ((engine.resolve message).1, change (engine.resolve message).2) := by
  rw [Engine.resolve, Engine.resolve]
  cases message.kind with
  | autoroute => simp only [Engine.takeBranch, neutral.state, neutral.goTo]
  | dataAction => simp only [neutral.applyActions]
  | _ => rfl

theorem resolveAll (neutral : Neutral change) (engine : Engine) (messages : List Message) :
    (change engine).resolveAll messages =
      ((engine.resolveAll messages).1, change (engine.resolveAll messages).2) := by
  induction messages generalizing engine with
  | nil => rfl
  | cons message rest ih =>
      cases rest with
      | nil => exact neutral.resolve engine message
      | cons second rest =>
          simp only [Engine.resolveAll, neutral.resolve]
          obtain ⟨resolved, behind⟩ := engine.resolve message
          cases resolved with
          | error error => rfl
          | ok _ => exact ih behind

theorem afterWalk (neutral : Neutral change) (engine : Engine) (stop : Stop)
    (next : Option MessageId) :
    (change engine).afterWalk stop next =
      ((engine.afterWalk stop next).1, change (engine.afterWalk stop next).2) := by
  cases stop with
  | boundary id target =>
      simp only [Engine.afterWalk, neutral.load]
      obtain ⟨loaded, behind⟩ := engine.load target
      cases loaded with
      | error error => rfl
      | ok _ => simp only [neutral.active]
  | _ => rfl

theorem settle (neutral : Neutral change) (engine : Engine) (walk : Walk) :
    (change engine).settle walk =
      ((engine.settle walk).1, change (engine.settle walk).2) := by
  simp only [Engine.settle, neutral.resolveAll]
  obtain ⟨next, resolved⟩ := engine.resolveAll walk.messages
  cases next with
  | error error => rfl
  | ok next =>
      simp only [neutral.afterWalk]
      obtain ⟨led, behind⟩ := resolved.afterWalk walk.stop next
      cases led <;> rfl

theorem ofCycle (pending : List Message)
    (came : Except Error (List Message × Engine.Cycle) × Engine) :
    Move.ofCycle pending (came.1, change came.2) =
      (Move.ofCycle pending came).map change := by
  match came with
  | (.error _, _) => rfl
  | (.ok (_, .stop _), _) => rfl
  | (.ok (_, .goOn _), _) => rfl

/-- A neutral change commutes with a turn if both begin with the same walk, which
is not given up. -/
theorem turn_of_walk_eq (neutral : Neutral change) {position : Position}
    (same : (position.map change).walk = position.walk)
    (walked : position.walk.stop ≠ .tooDeep) :
    (position.map change).turn = position.turn.map change := by
  rw [Position.turn_of_walked walked, Position.turn_of_walked (same ▸ walked), same,
    Position.map, neutral.settle]
  exact ofCycle _ _

/-- A neutral change that leaves the limit of walks commutes with a turn. -/
theorem turn (neutral : Neutral change) {position : Position}
    (limit : (change position.engine).config.maxWalkDepth =
      position.engine.config.maxWalkDepth) :
    (position.map change).turn = position.turn.map change := by
  have same : (position.map change).walk = position.walk := by
    rw [Position.walk, Position.map, neutral.lookup, limit, Position.walk]
  by_cases tooDeep : position.walk.stop = .tooDeep
  · rw [Position.turn_of_tooDeep tooDeep, Position.turn_of_tooDeep (same ▸ tooDeep),
      Position.map, limit]
    rfl
  · exact neutral.turn_of_walk_eq same tooDeep

/-- A neutral change that leaves the limit of walks commutes with any number of
turns. -/
theorem turns (neutral : Neutral change)
    (limit : ∀ engine, (change engine).config.maxWalkDepth = engine.config.maxWalkDepth)
    (position : Position) (count : Nat) :
    (position.map change).turns count = (position.turns count).map change := by
  induction count generalizing position with
  | zero => rfl
  | succ count ih =>
      have first := neutral.turn (limit position.engine)
      cases moved : position.turn with
      | goOn next =>
          rw [moved] at first
          rw [Position.turns_succ_of_goOn moved, Position.turns_succ_of_goOn first]
          exact ih next
      | stop halt =>
          rw [moved] at first
          rw [Position.turns_succ_of_stop moved, Position.turns_succ_of_stop first]
          rfl

/-- A run behind a neutral change that leaves the limit of walks returns what the
changed turns come to. -/
theorem run_eq_result_map (neutral : Neutral change)
    (limit : ∀ engine, (change engine).config.maxWalkDepth = engine.config.maxWalkDepth)
    (engine : Engine) (id : MessageId) :
    (change engine).run id =
      (((engine.standingAt id).turns (change engine).config.maxCycles).map change).result := by
  rw [Engine.run_eq_result, ← neutral.turns limit]
  rfl

end Neutral

end Dialogue.Flow
