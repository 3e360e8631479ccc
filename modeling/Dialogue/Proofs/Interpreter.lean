import Dialogue.Flow.Engine

/-!
# The message interpreter

A second meaning of conversations, without walks, cycles and limits.  The
interpreter stands at one message, does what that message says, and goes on to
the next one.  It halts where a message needs the user, where no message is
left, and where a sequence cannot be loaded; a conversation that goes round in
circles never halts.

The interpreter only ever changes what is remembered and which sequence is
active, and the limits of a run have no bearing on it.
-/

namespace Dialogue.Flow

/-! ## Positions -/

/-- Where a conversation stands: the engine, the messages to show that it came
upon, and the number of the message to do next. -/
structure Position where
  engine : Engine
  pending : List Message
  id : MessageId

/-- How a conversation halts. -/
inductive Halt where
  /-- It waits for the user, or is over. -/
  | ended (engine : Engine) (pending : List Message) (outcome : Engine.Outcome)
  /-- A sequence cannot be loaded. -/
  | failed (engine : Engine) (error : Error)

/-- What comes of a position. -/
inductive Move where
  | goOn (position : Position)
  | stop (halt : Halt)

/-- The place behind a message that does not branch: the sequence that it moves
on to, or else the authored next message, or else the next number. -/
def placeBehind (message : Message) (id : MessageId) : Option Target :=
  match message.sequence with
  | some sequence => some (.sequence sequence)
  | none => (message.next.or (MessageId.following? id)).map .message

namespace Position

/-- Stand at the message that an engine went to; without one the conversation
is over. -/
def arrive (pending : List Message) :
    Except Error (Option MessageId) × Engine → Move
  | (.error error, engine) => .stop (.failed engine error)
  | (.ok none, engine) => .stop (.ended engine pending .complete)
  | (.ok (some id), engine) => .goOn { engine, pending, id }

/-- Do what a message says. -/
def obey (position : Position) (message : Message) : Move :=
  let { engine, pending, id } := position
  match message.kind with
  | .choice | .textInput =>
      .stop (.ended engine (pending ++ [message]) (.awaiting id))
  | .autoroute => arrive pending (engine.takeBranch message)
  | .text | .system =>
      arrive (pending ++ [message]) (engine.goTo (placeBehind message id))
  | .dataAction =>
      arrive pending ((engine.applyActions message).goTo (placeBehind message id))

/-- Do what the message at a position says; without one the conversation is
over. -/
def step (position : Position) : Move :=
  match position.engine.lookup position.id with
  | none => .stop (.ended position.engine position.pending .complete)
  | some message => position.obey message

/-- What has come of a position when at most so many messages have been
done. -/
def after : Nat → Position → Move
  | 0, position => .goOn position
  | count + 1, position =>
      match position.step with
      | .goOn next => after count next
      | .stop halt => .stop halt

/-- The interpreter halts from a position. -/
def HaltsWith (position : Position) (halt : Halt) : Prop :=
  ∃ count, position.after count = .stop halt

/-- The interpreter comes from a position to another one. -/
def Reaches (position target : Position) : Prop :=
  ∃ count, position.after count = .goOn target

/-! ## Counting messages -/

theorem after_succ_of_goOn {position next : Position}
    (moved : position.step = .goOn next) (count : Nat) :
    position.after (count + 1) = next.after count := by
  rw [after, moved]

theorem after_succ_of_halt {position : Position} {halt : Halt}
    (halted : position.step = .stop halt) (count : Nat) :
    position.after (count + 1) = .stop halt := by
  rw [after, halted]

theorem after_one (position : Position) : position.after 1 = position.step := by
  cases moved : position.step with
  | goOn next => exact after_succ_of_goOn moved 0
  | stop halt => exact after_succ_of_halt moved 0

/-- What comes after a position that has been reached. -/
theorem after_add_of_goOn {position target : Position} {first : Nat}
    (reached : position.after first = .goOn target) (second : Nat) :
    position.after (first + second) = target.after second := by
  induction first generalizing position with
  | zero =>
      cases reached
      rw [Nat.zero_add]
  | succ first ih =>
      rw [Nat.succ_add]
      cases moved : position.step with
      | goOn next =>
          rw [after_succ_of_goOn moved] at reached ⊢
          exact ih reached
      | stop halt =>
          rw [after_succ_of_halt moved] at reached
          contradiction

/-- Nothing comes after a halt. -/
theorem after_add_of_halt {position : Position} {halt : Halt} {first : Nat}
    (halted : position.after first = .stop halt) (second : Nat) :
    position.after (first + second) = .stop halt := by
  induction first generalizing position with
  | zero => contradiction
  | succ first ih =>
      rw [Nat.succ_add]
      cases moved : position.step with
      | goOn next =>
          rw [after_succ_of_goOn moved] at halted ⊢
          exact ih halted
      | stop other =>
          rw [after_succ_of_halt moved] at halted ⊢
          exact halted

/-- A position that is still under way after some messages has not halted
before. -/
theorem lt_of_after_goOn {position target : Position} {halt : Halt}
    {reaching halting : Nat} (reached : position.after reaching = .goOn target)
    (halted : position.after halting = .stop halt) : reaching < halting := by
  apply Nat.lt_of_not_le
  intro before
  obtain ⟨rest, rfl⟩ := Nat.exists_eq_add_of_le before
  rw [after_add_of_halt halted rest] at reached
  contradiction

/-- The interpreter halts in one way only. -/
theorem halt_unique {position : Position} {first second : Halt}
    {firstCount secondCount : Nat}
    (firstHalt : position.after firstCount = .stop first)
    (secondHalt : position.after secondCount = .stop second) : first = second := by
  have together := after_add_of_halt firstHalt secondCount
  rw [Nat.add_comm, after_add_of_halt secondHalt firstCount] at together
  cases together
  rfl

theorem Reaches.refl (position : Position) : position.Reaches position :=
  ⟨0, rfl⟩

theorem Reaches.trans {position middle target : Position}
    (first : position.Reaches middle) (second : middle.Reaches target) :
    position.Reaches target := by
  obtain ⟨firstCount, firstReached⟩ := first
  obtain ⟨secondCount, secondReached⟩ := second
  exact ⟨firstCount + secondCount,
    (after_add_of_goOn firstReached secondCount).trans secondReached⟩

theorem Reaches.haltsWith {position middle : Position} {halt : Halt}
    (reached : position.Reaches middle) (halts : middle.HaltsWith halt) :
    position.HaltsWith halt := by
  obtain ⟨firstCount, firstReached⟩ := reached
  obtain ⟨secondCount, halted⟩ := halts
  exact ⟨firstCount + secondCount,
    (after_add_of_goOn firstReached secondCount).trans halted⟩

end Position

/-! ## Messages that are done -/

/-- The messages among others that are shown. -/
def shown (messages : List Message) : List Message :=
  messages.filter fun message => !message.kind.isRouting

/-- The engine behind a message that does not branch. -/
def Engine.pass (engine : Engine) (message : Message) : Engine :=
  if message.kind = .dataAction then engine.applyActions message else engine

@[simp]
theorem Engine.lookup_pass (engine : Engine) (message : Message) :
    (engine.pass message).lookup = engine.lookup := by
  rw [pass]
  split <;> rfl

namespace Position

theorem step_of_lookup_eq_none {position : Position}
    (missing : position.engine.lookup position.id = none) :
    position.step = .stop (.ended position.engine position.pending .complete) := by
  rw [step, missing]

theorem step_of_lookup_eq_some {position : Position} {message : Message}
    (found : position.engine.lookup position.id = some message) :
    position.step = position.obey message := by
  rw [step, found]

theorem obey_of_interactive (position : Position) {message : Message}
    (interactive : message.kind.isInteractive = true) :
    position.obey message =
      .stop (.ended position.engine (position.pending ++ [message])
        (.awaiting position.id)) := by
  rw [obey]
  cases kind : message.kind with
  | choice => rfl
  | textInput => rfl
  | _ => simp [kind, MessageKind.isInteractive] at interactive

theorem obey_of_autoroute (position : Position) {message : Message}
    (branching : message.kind = .autoroute) :
    position.obey message =
      arrive position.pending (position.engine.takeBranch message) := by
  rw [obey, branching]

/-- A message that neither needs the user nor branches is shown or applied, and
left for the place behind it. -/
theorem obey_of_passive (position : Position) {message : Message}
    (passive : message.kind.isInteractive = false) (other : message.kind ≠ .autoroute) :
    position.obey message =
      arrive (position.pending ++ shown [message])
        ((position.engine.pass message).goTo (placeBehind message position.id)) := by
  rw [obey, shown, Engine.pass]
  cases kind : message.kind with
  | choice => simp [kind, MessageKind.isInteractive] at passive
  | textInput => simp [kind, MessageKind.isInteractive] at passive
  | autoroute => exact absurd kind other
  | _ => simp [kind, MessageKind.isRouting]

end Position

/-! ## What a message can lead to -/

theorem exists_of_loadSequence_eq_error {source : Source} {files : Files} {id : String}
    {error : Error} (failed : loadSequence source files id = .error error) :
    ∃ cause, error = .sequence cause := by
  rw [loadSequence] at failed
  cases loaded : source files id with
  | error cause =>
      simp only [loaded] at failed
      exact ⟨cause, (Except.error.inj failed).symm⟩
  | ok sequence =>
      simp only [loaded] at failed
      cases valid : sequence.validate with
      | error cause =>
          simp only [valid] at failed
          exact ⟨cause, (Except.error.inj failed).symm⟩
      | ok checked => simp [valid] at failed

/-- All that going to a place can do: stay in the active sequence, fail to load
another one, or make another one active. -/
theorem Engine.goTo_cases (engine : Engine) (target : Option Target) :
    (∃ next, engine.goTo target = (.ok next, engine)) ∨
      (∃ id error, loadSequence engine.source engine.state.files id = .error error ∧
        engine.goTo target = (.error error, engine)) ∨
      (∃ id active, loadSequence engine.source engine.state.files id = .ok active ∧
        engine.goTo target =
          (.ok active.sequence.first?, { engine with active := some active })) := by
  match target with
  | none => exact .inl ⟨none, rfl⟩
  | some (.message id) => exact .inl ⟨some id, rfl⟩
  | some (.sequence id) =>
      cases loaded : loadSequence engine.source engine.state.files id with
      | error error =>
          refine .inr (.inl ⟨id, error, loaded, ?_⟩)
          simp [goTo, load, loaded]
      | ok active =>
          refine .inr (.inr ⟨id, active, loaded, ?_⟩)
          simp [goTo, load, loaded, activeFirst?]

/-- Messages that are shown without a need for the user. -/
def Plain (messages : List Message) : Prop :=
  ∀ message ∈ messages,
    message.kind.isInteractive = false ∧ message.kind.isRouting = false

theorem plain_nil : Plain [] := by
  intro message member
  contradiction

theorem Plain.append {first second : List Message} (before : Plain first)
    (behind : Plain second) : Plain (first ++ second) := by
  intro message member
  rcases List.mem_append.mp member with early | late
  · exact before message early
  · exact behind message late

theorem plain_shown_singleton {message : Message}
    (passive : message.kind.isInteractive = false) : Plain (shown [message]) := by
  intro found member
  obtain ⟨same, visible⟩ := List.mem_filter.mp member
  cases List.mem_singleton.mp same
  exact ⟨passive, by simpa using visible⟩

/-- A move that shows plain messages on top of others: the conversation goes on,
is over, or fails to load a sequence. -/
inductive Position.Advances (pending : List Message) : Move → Prop where
  | goOn (engine : Engine) {passed : List Message} (plain : Plain passed)
      (id : MessageId) :
      Advances pending (.goOn { engine, pending := pending ++ passed, id })
  | finished (engine : Engine) {passed : List Message} (plain : Plain passed) :
      Advances pending (.stop (.ended engine (pending ++ passed) .complete))
  | failed (engine : Engine) (cause : SequenceError) :
      Advances pending (.stop (.failed engine (.sequence cause)))

namespace Position

theorem advances_arrive (position : Position) {passed : List Message}
    (plain : Plain passed) (engine : Engine) (target : Option Target) :
    Advances position.pending
      (arrive (position.pending ++ passed) (engine.goTo target)) := by
  rcases engine.goTo_cases target with
    ⟨next, went⟩ | ⟨_, _, failed, went⟩ | ⟨_, active, _, went⟩
  · rw [went]
    cases next with
    | none => exact .finished engine plain
    | some id => exact .goOn engine plain id
  · obtain ⟨cause, rfl⟩ := exists_of_loadSequence_eq_error failed
    rw [went]
    exact .failed engine cause
  · rw [went]
    cases active.sequence.first? with
    | none => exact .finished _ plain
    | some id => exact .goOn _ plain id

/-- All that a step of the interpreter can do to the messages to show: stop on
one that needs the user, or advance. -/
theorem step_cases (position : Position) :
    (∃ message, position.engine.lookup position.id = some message ∧
      message.kind.isInteractive = true ∧
      position.step = .stop (.ended position.engine (position.pending ++ [message])
        (.awaiting position.id))) ∨
      Advances position.pending position.step := by
  cases found : position.engine.lookup position.id with
  | none =>
      rw [step_of_lookup_eq_none found]
      have advanced : Advances position.pending
          (.stop (.ended position.engine (position.pending ++ []) .complete)) :=
        .finished position.engine plain_nil
      rw [List.append_nil] at advanced
      exact .inr advanced
  | some message =>
      rw [step_of_lookup_eq_some found]
      cases needed : message.kind.isInteractive with
      | true => exact .inl ⟨message, rfl, needed, position.obey_of_interactive needed⟩
      | false =>
          by_cases branching : message.kind = .autoroute
          · have advanced := position.advances_arrive plain_nil position.engine
              (branchTarget? position.engine.state.values message)
            rw [List.append_nil] at advanced
            rw [position.obey_of_autoroute branching]
            exact .inr advanced
          · rw [position.obey_of_passive needed branching]
            exact .inr (position.advances_arrive (plain_shown_singleton needed) _ _)

/-- A halt is the work of the last position that is reached. -/
theorem exists_reaches_of_haltsWith {position : Position} {halt : Halt}
    (halts : position.HaltsWith halt) :
    ∃ target, position.Reaches target ∧ target.step = .stop halt := by
  obtain ⟨count, halted⟩ := halts
  induction count generalizing position with
  | zero => contradiction
  | succ count ih =>
      cases moved : position.step with
      | goOn next =>
          rw [after_succ_of_goOn moved] at halted
          obtain ⟨target, reached, stopped⟩ := ih halted
          have first : position.Reaches next := ⟨1, (after_one position).trans moved⟩
          exact ⟨target, first.trans reached, stopped⟩
      | stop other =>
          rw [after_succ_of_halt moved] at halted
          cases halted
          exact ⟨position, .refl position, moved⟩

/-- Loading is the only thing that the interpreter fails at. -/
theorem exists_cause_of_failed {position : Position} {engine : Engine} {error : Error}
    (halts : position.HaltsWith (.failed engine error)) :
    ∃ cause, error = .sequence cause := by
  obtain ⟨target, _, stopped⟩ := exists_reaches_of_haltsWith halts
  rcases target.step_cases with ⟨_, _, _, waiting⟩ | advanced
  · rw [stopped] at waiting
    cases waiting
  · rw [stopped] at advanced
    cases advanced with
    | failed _ cause => exact ⟨cause, rfl⟩

/-- The interpreter never stops before the conversation does. -/
theorem outcome_ne_truncated {position : Position} {engine : Engine}
    {pending : List Message} {outcome : Engine.Outcome}
    (halts : position.HaltsWith (.ended engine pending outcome)) :
    outcome ≠ .truncated := by
  obtain ⟨target, _, stopped⟩ := exists_reaches_of_haltsWith halts
  rcases target.step_cases with ⟨_, _, _, waiting⟩ | advanced
  · rw [stopped] at waiting
    cases waiting
    exact Engine.Outcome.noConfusion
  · rw [stopped] at advanced
    cases advanced with
    | finished _ _ => exact Engine.Outcome.noConfusion

end Position

/-! ## What stays the same -/

/-- The second engine differs from the first one in nothing but what is
remembered and which sequence is active. -/
structure Engine.SameSetting (before after : Engine) : Prop where
  config : after.config = before.config
  today : after.today = before.today
  source : after.source = before.source
  library : after.library = before.library
  resolver : after.resolver = before.resolver

namespace Engine

theorem SameSetting.refl (engine : Engine) : SameSetting engine engine :=
  ⟨rfl, rfl, rfl, rfl, rfl⟩

theorem SameSetting.trans {first second third : Engine}
    (before : SameSetting first second) (behind : SameSetting second third) :
    SameSetting first third where
  config := behind.config.trans before.config
  today := behind.today.trans before.today
  source := behind.source.trans before.source
  library := behind.library.trans before.library
  resolver := behind.resolver.trans before.resolver

theorem sameSetting_pass (engine : Engine) (message : Message) :
    SameSetting engine (engine.pass message) := by
  rw [pass]
  split <;> exact ⟨rfl, rfl, rfl, rfl, rfl⟩

theorem sameSetting_goTo (engine : Engine) (target : Option Target) :
    SameSetting engine (engine.goTo target).2 := by
  rcases engine.goTo_cases target with
    ⟨_, went⟩ | ⟨_, _, _, went⟩ | ⟨_, _, _, went⟩
  all_goals
    rw [went]
    exact ⟨rfl, rfl, rfl, rfl, rfl⟩

end Engine

/-- The engine of a move. -/
def Move.engine : Move → Engine
  | .goOn position => position.engine
  | .stop (.ended engine _ _) => engine
  | .stop (.failed engine _) => engine

namespace Position

@[simp]
theorem engine_arrive (pending : List Message)
    (went : Except Error (Option MessageId) × Engine) :
    (arrive pending went).engine = went.2 := by
  match went with
  | (.error _, _) => rfl
  | (.ok none, _) => rfl
  | (.ok (some _), _) => rfl

theorem sameSetting_step (position : Position) :
    position.engine.SameSetting position.step.engine := by
  cases found : position.engine.lookup position.id with
  | none =>
      rw [step_of_lookup_eq_none found]
      exact .refl position.engine
  | some message =>
      rw [step_of_lookup_eq_some found]
      cases needed : message.kind.isInteractive with
      | true =>
          rw [position.obey_of_interactive needed]
          exact .refl position.engine
      | false =>
          by_cases branching : message.kind = .autoroute
          · rw [position.obey_of_autoroute branching, engine_arrive]
            exact position.engine.sameSetting_goTo _
          · rw [position.obey_of_passive needed branching, engine_arrive]
            exact (position.engine.sameSetting_pass message).trans
              ((position.engine.pass message).sameSetting_goTo _)

/-- Doing messages leaves the setting of the conversation as it is. -/
theorem sameSetting_after (position : Position) (count : Nat) :
    position.engine.SameSetting (position.after count).engine := by
  induction count generalizing position with
  | zero => exact .refl position.engine
  | succ count ih =>
      have first := position.sameSetting_step
      cases moved : position.step with
      | goOn next =>
          rw [moved] at first
          rw [after_succ_of_goOn moved]
          exact first.trans (ih next)
      | stop halt =>
          rw [moved] at first
          rw [after_succ_of_halt moved]
          exact first

end Position

end Dialogue.Flow
