import Dialogue.Proofs.Awaiting
import Dialogue.Proofs.Turns

/-!
# Presentation

How messages are presented depends on the library, the content settings, the lines
given so far, the generator and the separator of parts.  Nothing that a conversation
decides depends on these: two sessions that differ in nothing else stay so whatever
is done to both of them, and but for the messages they answer alike.

The relation of this module leaves the presentation out.  A run is carried over to
another presentation by a neutral change, so what is shown at its end is all that
can differ.
-/

namespace Dialogue.Flow

/-! ## Engines -/

namespace Engine

/-- Two engines differ in their presentation only. -/
structure SamePlot (first second : Engine) : Prop where
  today : first.today = second.today
  source : first.source = second.source
  state : first.state = second.state
  active : first.active = second.active
  maxWalkDepth : first.config.maxWalkDepth = second.config.maxWalkDepth
  maxCycles : first.config.maxCycles = second.config.maxCycles
  activeDaysKey : first.config.activeDaysKey = second.config.activeDaysKey
  defaultActiveDays : first.config.defaultActiveDays = second.config.defaultActiveDays

theorem SamePlot.symm {first second : Engine} (same : first.SamePlot second) :
    second.SamePlot first where
  today := same.today.symm
  source := same.source.symm
  state := same.state.symm
  active := same.active.symm
  maxWalkDepth := same.maxWalkDepth.symm
  maxCycles := same.maxCycles.symm
  activeDaysKey := same.activeDaysKey.symm
  defaultActiveDays := same.defaultActiveDays.symm

theorem SamePlot.trans {first second third : Engine} (before : first.SamePlot second)
    (behind : second.SamePlot third) : first.SamePlot third where
  today := before.today.trans behind.today
  source := before.source.trans behind.source
  state := before.state.trans behind.state
  active := before.active.trans behind.active
  maxWalkDepth := before.maxWalkDepth.trans behind.maxWalkDepth
  maxCycles := before.maxCycles.trans behind.maxCycles
  activeDaysKey := before.activeDaysKey.trans behind.activeDaysKey
  defaultActiveDays := before.defaultActiveDays.trans behind.defaultActiveDays

/-- An engine in the presentation of a model. -/
def presenting (model engine : Engine) : Engine :=
  { engine with
    config :=
      { engine.config with
        partDelimiter := model.config.partDelimiter
        content := model.config.content }
    library := model.library
    resolver := model.resolver }

theorem neutral_presenting (model : Engine) : Neutral model.presenting where
  source _ := rfl
  agenda _ := rfl
  state _ := rfl
  active _ := rfl
  withState _ _ := rfl
  withActive _ _ := rfl

/-- Of two engines that differ in their presentation only, each is the other one with
its own presentation. -/
theorem SamePlot.eq_presenting {first second : Engine} (same : first.SamePlot second) :
    second = second.presenting first := by
  obtain ⟨⟨depth, cycles, delimiter, key, days, content⟩, today, source, library, state,
    active, resolver⟩ := first
  obtain ⟨⟨_, _, _, _, _, _⟩, _, _, _, _, _, _⟩ := second
  obtain ⟨rfl, rfl, rfl, rfl, rfl, rfl, rfl, rfl⟩ := same
  rfl

theorem samePlot_presenting (model engine : Engine) :
    engine.SamePlot (model.presenting engine) :=
  ⟨rfl, rfl, rfl, rfl, rfl, rfl, rfl, rfl⟩

theorem SamePlot.withState {first second : Engine} (same : first.SamePlot second)
    (state : State) : SamePlot { first with state } { second with state } :=
  { same with state := rfl }

theorem SamePlot.withActive {first second : Engine} (same : first.SamePlot second)
    (active : Option ActiveSequence) : SamePlot { first with active } { second with active } :=
  { same with active := rfl }

/-! ## Runs -/

/-- Two runs come to the same but for the messages: they fail with the same error or
end in the same way, and leave engines that differ in their presentation only. -/
structure SameEnd (first second : Except Error Result × Engine) : Prop where
  report : first.1.map (·.outcome) = second.1.map (·.outcome)
  engine : first.2.SamePlot second.2

theorem samePlot_finish (engine : Engine) (pending : List Message) (outcome : Outcome) :
    engine.SamePlot (engine.finish pending outcome).2 :=
  ⟨rfl, rfl, rfl, rfl, rfl, rfl, rfl, rfl⟩

/-- The end of a run is where the presentation comes in: it decides on the messages,
and on nothing else. -/
theorem SamePlot.finish {first second : Engine} (same : first.SamePlot second)
    (pending : List Message) (outcome : Outcome) :
    SameEnd (first.finish pending outcome) (second.finish pending outcome) where
  report := by
    have ended (engine : Engine) :
        (engine.finish pending outcome).1.map (·.outcome) = .ok outcome := rfl
    rw [ended first, ended second]
  engine :=
    ((first.samePlot_finish pending outcome).symm.trans same).trans
      (second.samePlot_finish pending outcome)

theorem sameEnd_result_map (model : Engine) (move : Move) :
    SameEnd move.result (move.map model.presenting).result := by
  match move with
  | .goOn position => exact (samePlot_presenting model position.engine).finish _ _
  | .stop (.ended engine pending outcome) =>
      exact (samePlot_presenting model engine).finish _ _
  | .stop (.failed engine error) => exact ⟨rfl, samePlot_presenting model engine⟩

theorem SamePlot.run {first second : Engine} (same : first.SamePlot second)
    (id : MessageId) : SameEnd (first.run id) (second.run id) := by
  rw [same.eq_presenting, (neutral_presenting second).run_eq_result_map (fun _ => rfl),
    run_eq_result]
  exact sameEnd_result_map second _

theorem SamePlot.runFrom {first second : Engine} (same : first.SamePlot second)
    (next : Option MessageId) : SameEnd (first.runFrom next) (second.runFrom next) := by
  cases next with
  | none => exact ⟨rfl, same⟩
  | some id => exact same.run id

/-- Both engines fail to load a sequence, or both make it active. -/
theorem SamePlot.load_cases {first second : Engine} (same : first.SamePlot second)
    (id : String) :
    (∃ error, first.load id = (.error error, first) ∧
        second.load id = (.error error, second)) ∨
      ∃ active, first.load id = (.ok (), { first with active := some active }) ∧
        second.load id = (.ok (), { second with active := some active }) := by
  have sameLoad : loadSequence first.source first.state.files id =
      loadSequence second.source second.state.files id := by
    rw [same.source, same.state]
  rw [Engine.load, Engine.load, sameLoad]
  cases loadSequence second.source second.state.files id with
  | error error => exact .inl ⟨error, rfl, rfl⟩
  | ok active => exact .inr ⟨active, rfl, rfl⟩

end Engine

namespace Session

/-! ## Operations -/

/-- What is done to a session: calls of its user, and what its surroundings do to its
engine. -/
inductive Operation where
  | call (call : Call)
  | run (id : MessageId)
  | load (sequence : String)
  | set (key : String) (value : Value)
  | remove (key : String)

/-- A session whose state has been changed from outside, if that succeeded. -/
def change (session : Session) (outcome : Except StateError State) :
    Except Error (Option Engine.Result) × Session :=
  match outcome with
  | .error error => (.error (.state error), session)
  | .ok state => (.ok none, { session with engine := { session.engine with state } })

/-- Do an operation; calls and runs have a result.  Only calls make it the last
one. -/
def operate (session : Session) : Operation → Except Error (Option Engine.Result) × Session
  | .call call =>
      let (outcome, session) := session.perform call
      (outcome.map some, session)
  | .run id =>
      let (outcome, engine) := session.engine.run id
      (outcome.map some, { session with engine })
  | .load sequence =>
      let (outcome, engine) := session.engine.load sequence
      (outcome.map fun _ => none, { session with engine })
  | .set key value => session.change (session.engine.state.set key value)
  | .remove key => session.change (session.engine.state.remove key)

/-- What can be seen of an operation and the session behind it without looking at
messages: the error, or how the run ended; what is remembered; which sequence is
active; and the message that waits. -/
structure Observation where
  report : Except Error (Option Engine.Outcome)
  state : State
  active : Option ActiveSequence
  awaiting : Option MessageId

def observe (came : Except Error (Option Engine.Result) × Session) : Observation where
  report := came.1.map (Option.map (·.outcome))
  state := came.2.engine.state
  active := came.2.engine.active
  awaiting := came.2.awaiting

/-- What can be seen of operations one after another, whether they succeed or
fail. -/
def observeAll (session : Session) : List Operation → List Observation
  | [] => []
  | operation :: rest =>
      observe (session.operate operation) ::
        (session.operate operation).2.observeAll rest

/-! ## Sessions -/

/-- Two sessions differ in their presentation only; their last results may show
different messages. -/
structure SamePlot (first second : Session) : Prop where
  engine : first.engine.SamePlot second.engine
  last : first.last.map (·.outcome) = second.last.map (·.outcome)

/-- The message that a way to end leaves waiting. -/
def waitingFor : Engine.Outcome → Option MessageId
  | .awaiting id => some id
  | .complete | .truncated => none

theorem awaiting_eq_bind (session : Session) :
    session.awaiting = (session.last.map (·.outcome)).bind waitingFor := by
  obtain ⟨engine, last⟩ := session
  cases last with
  | none => rfl
  | some result =>
      obtain ⟨messages, outcome⟩ := result
      cases outcome <;> rfl

theorem SamePlot.awaiting {first second : Session} (same : first.SamePlot second) :
    first.awaiting = second.awaiting := by
  rw [awaiting_eq_bind, awaiting_eq_bind, same.last]

/-- Two sessions return the same but for the messages: the same error, or results
that look the same, and sessions that differ in their presentation only. -/
structure SameReturn {α β : Type} (view : α → β) (first second : Except Error α × Session) :
    Prop where
  report : first.1.map view = second.1.map view
  session : first.2.SamePlot second.2

/-- A session keeps its plot with what an operation of its engine comes to. -/
theorem SamePlot.record {first second : Session} (same : first.SamePlot second)
    {one other : Except Error Engine.Result × Engine} (ends : Engine.SameEnd one other) :
    SameReturn Engine.Result.outcome (first.record one) (second.record other) := by
  obtain ⟨report, engine⟩ := ends
  match one, other with
  | (.error _, _), (.error _, _) => exact ⟨report, engine, same.last⟩
  | (.ok _, _), (.ok _, _) =>
      exact ⟨report, engine, congrArg some (Except.ok.inj report)⟩
  | (.ok _, _), (.error _, _) => contradiction
  | (.error _, _), (.ok _, _) => contradiction

theorem SamePlot.start {first second : Session} (same : first.SamePlot second)
    (sequence : String) :
    SameReturn Engine.Result.outcome (first.start sequence) (second.start sequence) := by
  rw [Session.start, Session.start]
  rcases same.engine.load_cases sequence with
    ⟨error, one, other⟩ | ⟨active, one, other⟩
  · rw [one, other]
    exact ⟨rfl, same⟩
  · rw [one, other]
    exact same.record ((same.engine.withActive (some active)).runFrom _)

theorem SamePlot.submit {first second : Session} (same : first.SamePlot second)
    (id : MessageId) (answer : Answer) :
    SameReturn Engine.Result.outcome (first.submit id answer)
      (second.submit id answer) := by
  have meant : interpret first.engine id answer = interpret second.engine id answer := by
    rw [interpret, interpret, same.engine.active]
  rw [Session.submit, Session.submit, meant]
  cases interpret second.engine id answer with
  | error error => exact ⟨rfl, same⟩
  | ok meaning =>
      simp only [store, same.engine.state]
      cases meaning.storeKey with
      | none => exact same.record (same.engine.runFrom _)
      | some key =>
          simp only
          cases second.engine.state.set key meaning.value with
          | error error => exact ⟨rfl, same⟩
          | ok state => exact same.record ((same.engine.withState state).runFrom _)

theorem SamePlot.perform {first second : Session} (same : first.SamePlot second)
    (call : Call) :
    SameReturn Engine.Result.outcome (first.perform call) (second.perform call) := by
  cases call with
  | start sequence => exact same.start sequence
  | submit id answer => exact same.submit id answer

/-- A change of the state from outside is the same for both sessions. -/
theorem SamePlot.change {first second : Session} (same : first.SamePlot second)
    (outcome : Except StateError State) :
    SameReturn (Option.map Engine.Result.outcome) (first.change outcome)
      (second.change outcome) := by
  cases outcome with
  | error error => exact ⟨rfl, same⟩
  | ok state => exact ⟨rfl, same.engine.withState state, same.last⟩

theorem map_some_outcome (outcome : Except Error Engine.Result) :
    (outcome.map some).map (Option.map Engine.Result.outcome) =
      (outcome.map Engine.Result.outcome).map some := by
  cases outcome <;> rfl

/-- Every operation keeps the plots of two sessions the same, and returns the same but
for the messages. -/
theorem SamePlot.operate {first second : Session} (same : first.SamePlot second)
    (operation : Operation) :
    SameReturn (Option.map Engine.Result.outcome) (first.operate operation)
      (second.operate operation) := by
  cases operation with
  | call call =>
      obtain ⟨report, session⟩ := same.perform call
      refine ⟨?_, session⟩
      simp only [Session.operate, map_some_outcome, report]
  | run id =>
      obtain ⟨report, engine⟩ := same.engine.run id
      refine ⟨?_, engine, same.last⟩
      simp only [Session.operate, map_some_outcome, report]
  | load sequence =>
      rw [Session.operate, Session.operate]
      rcases same.engine.load_cases sequence with
        ⟨error, one, other⟩ | ⟨active, one, other⟩
      · rw [one, other]
        exact ⟨rfl, same⟩
      · rw [one, other]
        exact ⟨rfl, same.engine.withActive (some active), same.last⟩
  | set key value =>
      rw [Session.operate, Session.operate, same.engine.state]
      exact same.change _
  | remove key =>
      rw [Session.operate, Session.operate, same.engine.state]
      exact same.change _

theorem SameReturn.observe {first second : Except Error (Option Engine.Result) × Session}
    (returned : SameReturn (Option.map Engine.Result.outcome) first second) :
    observe first = observe second := by
  rw [Session.observe, Session.observe, returned.report, returned.session.engine.state,
    returned.session.engine.active, returned.session.awaiting]

/-- Presentation never influences the plot.

Of two sessions that differ in their presentation only, each of any operations fails
in one exactly when it does in the other, with the same error; otherwise the run ends
in the same way, waiting for the same message, over or cut off; and behind it the
same is remembered, the same sequence is active and the same message waits. -/
theorem observeAll_eq_of_samePlot {first second : Session} (same : first.SamePlot second)
    (operations : List Operation) :
    first.observeAll operations = second.observeAll operations := by
  induction operations generalizing first second with
  | nil => rfl
  | cons operation rest ih =>
      have returned := same.operate operation
      rw [observeAll, observeAll, returned.observe, ih returned.session]

/-- The greeting with another library and separator, under which it has two parts. -/
def greetingInParts : Engine :=
  { Engine.greeting with
    config := Engine.greeting.config.withPartDelimiter "ll"
    library := .memory (.ofList [("bot.greet.user", ["Good day"])]) }

theorem observeAll_greetingInParts :
    SamePlot { engine := .greeting } { engine := greetingInParts } ∧
      (Engine.greeting.run 1).1.map (·.messages.length) = .ok 2 ∧
      (greetingInParts.run 1).1.map (·.messages.length) = .ok 3 ∧
      observeAll { engine := .greeting } [.run 1, .call (.submit 2 (.choice 0))] =
        observeAll { engine := greetingInParts } [.run 1, .call (.submit 2 (.choice 0))] := by
  have same : SamePlot { engine := .greeting } { engine := greetingInParts } :=
    ⟨⟨rfl, rfl, rfl, rfl, rfl, rfl, rfl, rfl⟩, rfl⟩
  exact ⟨same, rfl, rfl, observeAll_eq_of_samePlot same _⟩

end Session

end Dialogue.Flow
