import Dialogue.Proofs.Interpreter

/-!
# What has no bearing on conversations

The course of a conversation depends on the source of sequences, on the agenda,
and on what is remembered and active; not on the library, the resolver, the
limits of runs and how messages are shown.  A change of the engine that leaves
the former alone commutes with the message interpreter.
-/

namespace Dialogue.Flow

/-- A change of engines that the course of a conversation does not depend on:
it touches neither the source and the agenda nor what is remembered and
active. -/
structure Neutral (change : Engine → Engine) : Prop where
  source (engine : Engine) : (change engine).source = engine.source
  agenda (engine : Engine) : (change engine).agenda = engine.agenda
  state (engine : Engine) : (change engine).state = engine.state
  active (engine : Engine) : (change engine).active = engine.active
  withState (engine : Engine) (state : State) :
    change { engine with state } = { change engine with state }
  withActive (engine : Engine) (active : Option ActiveSequence) :
    change { engine with active } = { change engine with active }

/-- A position with another engine. -/
def Position.map (change : Engine → Engine) (position : Position) : Position :=
  { position with engine := change position.engine }

/-- A halt with another engine. -/
def Halt.map (change : Engine → Engine) : Halt → Halt
  | .ended engine pending outcome => .ended (change engine) pending outcome
  | .failed engine error => .failed (change engine) error

/-- A move with another engine. -/
def Move.map (change : Engine → Engine) : Move → Move
  | .goOn position => .goOn (position.map change)
  | .stop halt => .stop (halt.map change)

namespace Neutral

variable {change : Engine → Engine}

theorem lookup (neutral : Neutral change) (engine : Engine) :
    (change engine).lookup = engine.lookup := by
  rw [Engine.lookup, neutral.active, Engine.lookup]

theorem applyActions (neutral : Neutral change) (engine : Engine) (message : Message) :
    (change engine).applyActions message = change (engine.applyActions message) := by
  rw [Engine.applyActions, neutral.agenda, neutral.state]
  exact (neutral.withState engine _).symm

theorem load (neutral : Neutral change) (engine : Engine) (id : String) :
    (change engine).load id = ((engine.load id).1, change (engine.load id).2) := by
  have sameLoad : loadSequence (change engine).source (change engine).state.files id =
      loadSequence engine.source engine.state.files id := by
    rw [neutral.source, neutral.state]
  simp only [Engine.load, sameLoad]
  cases loadSequence engine.source engine.state.files id with
  | error error => rfl
  | ok active => exact congrArg (Prod.mk _) (neutral.withActive engine _).symm

theorem goTo (neutral : Neutral change) (engine : Engine) (target : Option Target) :
    (change engine).goTo target =
      ((engine.goTo target).1, change (engine.goTo target).2) := by
  match target with
  | none => rfl
  | some (.message id) => rfl
  | some (.sequence id) =>
      simp only [Engine.goTo, neutral.load]
      obtain ⟨loaded, behind⟩ := engine.load id
      cases loaded with
      | error error => rfl
      | ok _ => simp only [neutral.active]

theorem arrive (pending : List Message)
    (went : Except Error (Option MessageId) × Engine) :
    Position.arrive pending (went.1, change went.2) =
      (Position.arrive pending went).map change := by
  match went with
  | (.error _, _) => rfl
  | (.ok none, _) => rfl
  | (.ok (some _), _) => rfl

/-- A neutral change commutes with doing a message. -/
theorem obey (neutral : Neutral change) (position : Position) (message : Message) :
    (position.map change).obey message = (position.obey message).map change := by
  obtain ⟨engine, pending, id⟩ := position
  simp only [Position.obey, Position.map]
  cases message.kind with
  | choice => rfl
  | textInput => rfl
  | autoroute =>
      simp only [Engine.takeBranch, neutral.state, neutral.goTo]
      exact arrive _ _
  | text =>
      simp only [neutral.goTo]
      exact arrive _ _
  | system =>
      simp only [neutral.goTo]
      exact arrive _ _
  | dataAction =>
      simp only [neutral.applyActions, neutral.goTo]
      exact arrive _ _

theorem step (neutral : Neutral change) (position : Position) :
    (position.map change).step = position.step.map change := by
  simp only [Position.step, Position.map, neutral.lookup]
  cases position.engine.lookup position.id with
  | none => rfl
  | some message => exact neutral.obey position message

/-- A neutral change commutes with doing any number of messages. -/
theorem after (neutral : Neutral change) (position : Position) (count : Nat) :
    (position.map change).after count = (position.after count).map change := by
  induction count generalizing position with
  | zero => rfl
  | succ count ih =>
      simp only [Position.after, neutral.step position]
      cases position.step with
      | goOn next => exact ih next
      | stop halt => rfl

end Neutral

/-- An engine with other limits. -/
def Engine.withLimits (depth cycles : Nat) (engine : Engine) : Engine :=
  { engine with
    config := { engine.config with maxWalkDepth := depth, maxCycles := cycles } }

theorem neutral_withLimits (depth cycles : Nat) : Neutral (Engine.withLimits depth cycles) where
  source _ := rfl
  agenda _ := rfl
  state _ := rfl
  active _ := rfl
  withState _ _ := rfl
  withActive _ _ := rfl

end Dialogue.Flow
