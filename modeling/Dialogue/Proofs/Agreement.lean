import Dialogue.Proofs.Neutral
import Dialogue.Proofs.Walks

/-!
# Runs and the message interpreter

A run works in batches: it walks over many messages, resolves what it came
upon, and only then decides where to go on.  This module shows that the
batches make no difference.  Every cycle of a run is some steps of the message
interpreter, so a run that is not cut off by a limit ends as the interpreter
does, and a run with limits that cover what the interpreter does is not cut
off.
-/

namespace Dialogue.Flow

/-! ## Messages of a walk -/

namespace Engine

/-- Where a message that does not branch leads to as the last one of a walk. -/
def continuation? (message : Message) : Option MessageId :=
  if message.kind = .dataAction then message.next else none

theorem next_of_continuation? {message : Message} {authored : MessageId}
    (leads : continuation? message = some authored) : message.next = some authored := by
  rw [continuation?] at leads
  split at leads
  · exact leads
  · contradiction

theorem resolve_of_not_autoroute (engine : Engine) {message : Message}
    (other : message.kind ≠ .autoroute) :
    engine.resolve message = (.ok (continuation? message), engine.pass message) := by
  rw [resolve, continuation?, pass]
  cases kind : message.kind with
  | autoroute => exact absurd kind other
  | text => rfl
  | choice => rfl
  | textInput => rfl
  | dataAction => rfl
  | system => rfl

/-- The first of several messages only changes the engine. -/
theorem resolveAll_cons (engine : Engine) {message : Message} {rest : List Message}
    (other : message.kind ≠ .autoroute) (more : rest ≠ []) :
    engine.resolveAll (message :: rest) = (engine.pass message).resolveAll rest := by
  cases rest with
  | nil => exact absurd rfl more
  | cons second rest =>
      rw [resolveAll, engine.resolve_of_not_autoroute other]
      intro empty
      contradiction

end Engine

/-! ## The second half of a cycle -/

namespace Engine

/-- What a walk that was not given up leads to. -/
def settle (engine : Engine) (walk : Walk) :
    Except Error (List Message × Cycle) × Engine :=
  match engine.resolveAll walk.messages with
  | (.error error, engine) => (.error error, engine)
  | (.ok next, engine) =>
      match engine.afterWalk walk.stop next with
      | (.error error, engine) => (.error error, engine)
      | (.ok cycle, engine) => (.ok (shown walk.messages, cycle), engine)

theorem cycle_eq (engine : Engine) (id : MessageId) :
    engine.cycle id =
      if (walkFrom engine.lookup engine.config.maxWalkDepth id).stop = .tooDeep then
        (.error (.tooDeep id engine.config.maxWalkDepth), engine)
      else
        engine.settle (walkFrom engine.lookup engine.config.maxWalkDepth id) :=
  rfl

end Engine

/-- What comes of a cycle, as a move of the interpreter. -/
def Move.ofCycle (pending : List Message) :
    Except Error (List Message × Engine.Cycle) × Engine → Move
  | (.error error, engine) => .stop (.failed engine error)
  | (.ok (messages, .stop outcome), engine) =>
      .stop (.ended engine (pending ++ messages) outcome)
  | (.ok (messages, .goOn id), engine) =>
      .goOn { engine, pending := pending ++ messages, id }

/-- A message in front of a walk is shown in front of what the walk shows. -/
theorem Move.ofCycle_settle_cons (pending : List Message) (engine : Engine)
    {message : Message} {walk : Walk} (other : message.kind ≠ .autoroute)
    (more : walk.messages ≠ []) :
    ofCycle pending (engine.settle { walk with messages := message :: walk.messages }) =
      ofCycle (pending ++ shown [message]) ((engine.pass message).settle walk) := by
  have split : shown (message :: walk.messages) = shown [message] ++ shown walk.messages :=
    List.filter_append [message] walk.messages
  simp only [Engine.settle, engine.resolveAll_cons other more, split]
  match (engine.pass message).resolveAll walk.messages with
  | (.error _, _) => rfl
  | (.ok next, resolved) =>
      simp only
      match resolved.afterWalk walk.stop next with
      | (.error _, _) => rfl
      | (.ok (.stop _), _) => simp only [ofCycle, List.append_assoc]
      | (.ok (.goOn _), _) => simp only [ofCycle, List.append_assoc]

/-! ## Ends of walks -/

namespace Move

theorem ofCycle_settle_nothing (pending : List Message) (engine : Engine) :
    ofCycle pending (engine.settle { messages := [], stop := .finished }) =
      .stop (.ended engine pending .complete) := by
  change Move.stop (.ended engine (pending ++ []) .complete) = _
  rw [List.append_nil]

/-- A walk that ends behind a message goes on only by the word of that
message. -/
theorem ofCycle_settle_finished (pending : List Message) (engine : Engine)
    {message : Message} (other : message.kind ≠ .autoroute) :
    ofCycle pending (engine.settle { messages := [message], stop := .finished }) =
      Position.arrive (pending ++ shown [message])
        (.ok (Engine.continuation? message), engine.pass message) := by
  simp only [Engine.settle, Engine.resolveAll, engine.resolve_of_not_autoroute other,
    Engine.afterWalk]
  cases Engine.continuation? message <;> rfl

/-- A walk that stops on a message that needs the user shows it and waits. -/
theorem ofCycle_settle_interactive (position : Position) {message : Message}
    (interactive : message.kind.isInteractive = true) :
    ofCycle position.pending
        (position.engine.settle
          { messages := [message], stop := .interactive position.id }) =
      position.obey message := by
  have visible : message.kind.isRouting = false ∧ message.kind ≠ .autoroute ∧
      message.kind ≠ .dataAction := by
    cases kind : message.kind <;>
      simp_all [MessageKind.isInteractive, MessageKind.isRouting]
  have alone : shown [message] = [message] := by
    simp [shown, visible.1]
  have unchanged : position.engine.pass message = position.engine := by
    rw [Engine.pass, if_neg visible.2.2]
  rw [position.obey_of_interactive interactive]
  simp only [Engine.settle, Engine.resolveAll,
    position.engine.resolve_of_not_autoroute visible.2.1, Engine.afterWalk, unchanged,
    alone, ofCycle]

/-- A walk that stops on a message that branches leads to the branch taken. -/
theorem ofCycle_settle_branch (position : Position) {message : Message}
    (branching : message.kind = .autoroute) :
    ofCycle position.pending
        (position.engine.settle { messages := [message], stop := .branch position.id }) =
      position.obey message := by
  have hidden : shown [message] = [] := by
    simp [shown, branching, MessageKind.isRouting]
  rw [position.obey_of_autoroute branching]
  simp only [Engine.settle, Engine.resolveAll, Engine.resolve, branching, hidden]
  obtain ⟨taken, behind⟩ := position.engine.takeBranch message
  cases taken with
  | error error => rfl
  | ok next =>
      cases next with
      | none => simp [Engine.afterWalk, Engine.Cycle.ofNext, ofCycle, Position.arrive]
      | some id => simp [Engine.afterWalk, Engine.Cycle.ofNext, ofCycle, Position.arrive]

/-- A walk that stops where it moves on to another sequence leads to the beginning
of that sequence. -/
theorem ofCycle_settle_boundary (position : Position) {message : Message}
    {target : String} (passive : message.kind.isInteractive = false)
    (other : message.kind ≠ .autoroute) (moves : message.sequence = some target) :
    ofCycle position.pending
        (position.engine.settle
          { messages := [message], stop := .boundary position.id target }) =
      position.obey message := by
  rw [position.obey_of_passive passive other, placeBehind, moves]
  simp only [Engine.settle, Engine.resolveAll,
    position.engine.resolve_of_not_autoroute other, Engine.afterWalk, Engine.goTo]
  obtain ⟨loaded, behind⟩ := (position.engine.pass message).load target
  cases loaded with
  | error error => rfl
  | ok _ =>
      simp only
      cases activeFirst? behind.active <;> rfl

/-- A walk that stops on a message leads where the message leads. -/
theorem ofCycle_settle_stop (position : Position) {message : Message} {stop : Stop}
    (stopped : stopOn? position.id message = some stop) :
    ofCycle position.pending
        (position.engine.settle { messages := [message], stop }) =
      position.obey message := by
  rcases stopOn?_cases stopped with
    ⟨interactive, rfl⟩ | ⟨branching, rfl⟩ | ⟨passive, other, target, moves, rfl⟩
  · exact ofCycle_settle_interactive position interactive
  · exact ofCycle_settle_branch position branching
  · exact ofCycle_settle_boundary position passive other moves

end Move

namespace Position

/-- Where a walk goes on, the interpreter goes on to the same message. -/
theorem step_of_passed {position : Position} {message : Message} {next : MessageId}
    (found : position.engine.lookup position.id = some message)
    (passed : stopOn? position.id message = none)
    (behind : message.next.or (MessageId.following? position.id) = some next) :
    position.step = .goOn
      { engine := position.engine.pass message
        pending := position.pending ++ shown [message]
        id := next } := by
  obtain ⟨passive, other, stays⟩ := (stopOn?_eq_none_iff _ _).mp passed
  rw [step_of_lookup_eq_some found, obey_of_passive _ passive other, placeBehind,
    stays, behind]
  rfl

/-- A walk that was given up is as many messages of the interpreter, which is
still under way behind them. -/
theorem after_of_tooDeep {lookup : Lookup} {limit : Nat} {id : MessageId} {walk : Walk}
    (walks : Walks lookup limit id walk) (tooDeep : walk.stop = .tooDeep)
    {engine : Engine} (same : engine.lookup = lookup) (pending : List Message) :
    ∃ target, after limit { engine, pending, id } = .goOn target := by
  induction walks generalizing engine pending with
  | nothing _ _ => contradiction
  | tooDeep _ => exact ⟨_, rfl⟩
  | @stopped id message stop _ _ reason =>
      cases tooDeep
      exact absurd reason (stopOn?_ne_tooDeep id message)
  | last _ _ _ _ => contradiction
  | @onward limit id next message walk found passed behind _ ih =>
      subst same
      rw [after_succ_of_goOn (step_of_passed found passed behind)]
      exact ih tooDeep (engine.lookup_pass message) _

/-- A walk that ends because the last number has no successor. -/
theorem step_of_no_successor {position : Position} {message : Message}
    (found : position.engine.lookup position.id = some message)
    (passed : stopOn? position.id message = none)
    (behind : message.next.or (MessageId.following? position.id) = none) :
    position.step = .ofCycle position.pending
      (position.engine.settle { messages := [message], stop := .finished }) := by
  obtain ⟨passive, other, stays⟩ := (stopOn?_eq_none_iff _ _).mp passed
  have last : Engine.continuation? message = none := by
    simp [Engine.continuation?, (Option.or_eq_none_iff.mp behind).1]
  rw [step_of_lookup_eq_some found, obey_of_passive _ passive other, placeBehind,
    stays, behind, Move.ofCycle_settle_finished _ _ other, last]
  rfl

/-- A walk that ends because its last message leads to a missing one.  The
interpreter goes there and finds nothing; a run does so only if the message is a
data action with an authored successor, and ends at once otherwise. -/
theorem after_of_missing_successor {position : Position} {message : Message}
    {next : MessageId} (found : position.engine.lookup position.id = some message)
    (passed : stopOn? position.id message = none)
    (behind : message.next.or (MessageId.following? position.id) = some next)
    (missing : position.engine.lookup next = none) :
    ∃ count, position.after (count + 1) = .ofCycle position.pending
      (position.engine.settle { messages := [message], stop := .finished }) := by
  have other := ((stopOn?_eq_none_iff _ _).mp passed).2.1
  have moved := step_of_passed found passed behind
  rw [Move.ofCycle_settle_finished _ _ other]
  cases leads : Engine.continuation? message with
  | none =>
      refine ⟨1, ?_⟩
      rw [after_succ_of_goOn moved, after_one]
      apply step_of_lookup_eq_none
      rw [Engine.lookup_pass]
      exact missing
  | some authored =>
      refine ⟨0, ?_⟩
      rw [Engine.next_of_continuation? leads, Option.some_or] at behind
      cases behind
      rw [after_one, moved]
      rfl

/-- A walk that was not given up, with what it leads to, is one message of the
interpreter or more. -/
theorem after_of_settle {lookup : Lookup} {limit : Nat} {id : MessageId} {walk : Walk}
    (walks : Walks lookup limit id walk) (walked : walk.stop ≠ .tooDeep)
    {engine : Engine} (same : engine.lookup = lookup) (pending : List Message) :
    ∃ count, after (count + 1) { engine, pending, id } =
      .ofCycle pending (engine.settle walk) := by
  induction walks generalizing engine pending with
  | @nothing id limit missing =>
      subst same
      refine ⟨0, ?_⟩
      rw [Move.ofCycle_settle_nothing, after_one]
      exact step_of_lookup_eq_none missing
  | tooDeep _ => exact absurd rfl walked
  | @stopped id message stop limit found reason =>
      subst same
      refine ⟨0, ?_⟩
      rw [after_one, step_of_lookup_eq_some found]
      exact (Move.ofCycle_settle_stop { engine, pending, id } reason).symm
  | @last id message limit found passed behind =>
      subst same
      refine ⟨0, ?_⟩
      rw [after_one]
      exact step_of_no_successor found passed behind
  | @onward limit id next message walk found passed behind rest ih =>
      subst same
      -- The message is the last one of the walk only if nothing stands behind it.
      by_cases nothing : walk.messages = []
      · obtain ⟨missing, ended⟩ := rest.of_messages_eq_nil walked nothing
        rw [nothing, ended]
        exact after_of_missing_successor found passed behind missing
      · obtain ⟨count, reached⟩ := ih walked (engine.lookup_pass message)
          (pending ++ shown [message])
        refine ⟨count + 1, ?_⟩
        have other := ((stopOn?_eq_none_iff _ _).mp passed).2.1
        rw [after_succ_of_goOn (step_of_passed found passed behind), reached,
          Move.ofCycle_settle_cons pending engine other nothing]

end Position

/-! ## What a run can come to -/

/-- What a conversation that halts returns. -/
def Halt.result : Halt → Except Error Engine.Result × Engine
  | .ended engine pending outcome => engine.finish pending outcome
  | .failed engine error => (.error error, engine)

/-- What a run from a position can return: what the interpreter returns, or, when
a limit was reached, the messages that the interpreter came upon until then, or
the position at which a walk was given up. -/
inductive Position.Returns (position : Position) :
    Except Error Engine.Result × Engine → Prop where
  | halted {halt : Halt} (halts : position.HaltsWith halt) : Returns position halt.result
  | truncated {target : Position} (reached : position.Reaches target) :
      Returns position (target.engine.finish target.pending .truncated)
  | tooDeep {target : Position} (reached : position.Reaches target) :
      Returns position
        (.error (.tooDeep target.id target.engine.config.maxWalkDepth), target.engine)

/-- The end of a run only renders: it returns the outcome it is given, and leaves
what is remembered and active as it is. -/
theorem Engine.of_finish_eq {engine final : Engine} {pending : List Message}
    {outcome : Outcome} {result : Result}
    (finished : engine.finish pending outcome = (.ok result, final)) :
    result.outcome = outcome ∧ final.state = engine.state ∧
      final.active = engine.active := by
  cases finished
  exact ⟨rfl, rfl, rfl⟩

namespace Position

theorem Returns.of_reaches {position middle : Position}
    {returned : Except Error Engine.Result × Engine} (reached : position.Reaches middle)
    (returns : middle.Returns returned) : position.Returns returned := by
  cases returns with
  | halted halts => exact .halted (reached.haltsWith halts)
  | truncated rest => exact .truncated (reached.trans rest)
  | tooDeep rest => exact .tooDeep (reached.trans rest)

/-- What is behind a result. -/
theorem Returns.of_ok {position : Position} {result : Engine.Result} {final : Engine}
    {returned : Except Error Engine.Result × Engine} (returns : position.Returns returned)
    (came : returned = (.ok result, final)) :
    (∃ last pending, position.HaltsWith (.ended last pending result.outcome) ∧
        last.finish pending result.outcome = (.ok result, final)) ∨
      (result.outcome = .truncated ∧ ∃ target, position.Reaches target ∧
        target.engine.finish target.pending .truncated = (.ok result, final)) := by
  cases returns with
  | @halted halt halts =>
      cases halt with
      | ended last pending outcome =>
          have finished : last.finish pending outcome = (.ok result, final) := came
          cases (Engine.of_finish_eq finished).1
          exact .inl ⟨last, pending, halts, finished⟩
      | failed engine error => cases came
  | @truncated target reached =>
      exact .inr ⟨(Engine.of_finish_eq came).1, target, reached, came⟩
  | tooDeep reached => cases came

/-- What is behind a failure. -/
theorem Returns.of_error {position : Position} {error : Error} {final : Engine}
    {returned : Except Error Engine.Result × Engine} (returns : position.Returns returned)
    (failed : returned = (.error error, final)) :
    position.HaltsWith (.failed final error) ∨
      ∃ pending start, error = .tooDeep start final.config.maxWalkDepth ∧
        position.Reaches { engine := final, pending, id := start } := by
  cases returns with
  | @halted halt halts =>
      cases halt with
      | ended last pending outcome => cases failed
      | failed engine cause =>
          cases failed
          exact .inl halts
  | truncated reached => cases failed
  | @tooDeep target reached =>
      cases failed
      exact .inr ⟨target.pending, target.id, rfl, reached⟩

end Position

namespace Engine

/-- What comes of a cycle: it is some messages of the interpreter, or its walk was
given up while the interpreter is still under way. -/
theorem cycle_cases (position : Position) :
    (position.engine.cycle position.id =
        (.error (.tooDeep position.id position.engine.config.maxWalkDepth),
          position.engine) ∧
      ∃ target, position.after position.engine.config.maxWalkDepth = .goOn target) ∨
      ∃ count, position.after (count + 1) =
        .ofCycle position.pending (position.engine.cycle position.id) := by
  have walks := walks_walkFrom position.engine.lookup position.engine.config.maxWalkDepth
    position.id
  rw [cycle_eq]
  split
  · rename_i tooDeep
    exact .inl ⟨rfl, Position.after_of_tooDeep walks tooDeep rfl position.pending⟩
  · rename_i walked
    exact .inr (Position.after_of_settle walks walked rfl position.pending)

/-- A run goes on from where a cycle leads. -/
theorem runCycles_succ_of_goOn {position next : Position}
    (moved : Move.ofCycle position.pending (position.engine.cycle position.id) = .goOn next)
    (cycles : Nat) :
    position.engine.runCycles position.pending (cycles + 1) position.id =
      next.engine.runCycles next.pending cycles next.id := by
  rw [runCycles]
  match came : position.engine.cycle position.id with
  | (.error _, _) =>
      rw [came] at moved
      contradiction
  | (.ok (_, .stop _), _) =>
      rw [came] at moved
      contradiction
  | (.ok (_, .goOn _), _) =>
      rw [came] at moved
      cases moved
      rfl

/-- A run returns what a cycle that ends it comes to. -/
theorem runCycles_succ_of_stop {position : Position} {halt : Halt}
    (halted : Move.ofCycle position.pending (position.engine.cycle position.id) = .stop halt)
    (cycles : Nat) :
    position.engine.runCycles position.pending (cycles + 1) position.id = halt.result := by
  rw [runCycles]
  match came : position.engine.cycle position.id with
  | (.error _, _) =>
      rw [came] at halted
      cases halted
      rfl
  | (.ok (_, .stop _), _) =>
      rw [came] at halted
      cases halted
      rfl
  | (.ok (_, .goOn _), _) =>
      rw [came] at halted
      contradiction

/-- A run only returns what the interpreter comes to. -/
theorem returns_runCycles (position : Position) (cycles : Nat) :
    position.Returns
      (position.engine.runCycles position.pending cycles position.id) := by
  induction cycles generalizing position with
  | zero => exact .truncated (.refl position)
  | succ cycles ih =>
      rcases cycle_cases position with ⟨tooDeep, _⟩ | ⟨count, moved⟩
      · rw [runCycles, tooDeep]
        exact .tooDeep (.refl position)
      · cases came : position.after (count + 1) with
        | goOn next =>
            rw [runCycles_succ_of_goOn (moved.symm.trans came)]
            exact .of_reaches ⟨count + 1, came⟩ (ih next)
        | stop halt =>
            rw [runCycles_succ_of_stop (moved.symm.trans came)]
            exact .halted ⟨count + 1, came⟩

/-- A run whose limits cover what the interpreter does returns what the
interpreter returns. -/
theorem runCycles_eq_of_halts {position : Position} {halt : Halt} {count cycles : Nat}
    (halts : position.after count = .stop halt)
    (deepEnough : count ≤ position.engine.config.maxWalkDepth)
    (longEnough : count ≤ cycles) :
    position.engine.runCycles position.pending cycles position.id = halt.result := by
  -- Every cycle is at least one message, so the messages left never outnumber the
  -- cycles left.
  induction cycles generalizing position count with
  | zero =>
      cases Nat.le_zero.mp longEnough
      contradiction
  | succ cycles ih =>
      rcases cycle_cases position with ⟨_, target, reached⟩ | ⟨first, moved⟩
      · have before := Position.lt_of_after_goOn reached halts
        omega
      · cases came : position.after (first + 1) with
        | goOn next =>
            have before := Position.lt_of_after_goOn came halts
            obtain ⟨rest, rfl⟩ := Nat.exists_eq_add_of_le (Nat.le_of_lt before)
            rw [Position.after_add_of_goOn came] at halts
            have setting := position.sameSetting_after (first + 1)
            rw [came] at setting
            have sameConfig : next.engine.config = position.engine.config := setting.config
            rw [runCycles_succ_of_goOn (moved.symm.trans came)]
            apply ih halts
            · rw [sameConfig]
              omega
            · omega
        | stop other =>
            rw [runCycles_succ_of_stop (moved.symm.trans came),
              Position.halt_unique came halts]

/-- The position at which a run of an engine begins. -/
def standingAt (engine : Engine) (id : MessageId) : Position :=
  { engine, pending := [], id }

theorem returns_run (engine : Engine) (id : MessageId) :
    (engine.standingAt id).Returns (engine.run id) :=
  returns_runCycles (engine.standingAt id) engine.config.maxCycles

end Engine

/-- A run does what the message interpreter does.

Without a limit in its way it returns what the interpreter returns: the outcome
is the same one, what is remembered and which sequence is active are the same,
and the messages are those that the interpreter came upon, rendered; a failure to
load is the same failure.  A run that was cut off by the limit of cycles shows
what the interpreter came upon so far, and a walk that was given up began where
the interpreter comes to stand.  Conversely, when the interpreter halts after so
many messages, every run that is allowed that many returns the same. -/
theorem Engine.run_agrees (engine : Engine) (id : MessageId) :
    (∀ result final, engine.run id = (.ok result, final) → result.outcome ≠ .truncated →
      ∃ last pending,
        (engine.standingAt id).HaltsWith (.ended last pending result.outcome) ∧
        last.finish pending result.outcome = (.ok result, final) ∧
        final.state = last.state ∧ final.active = last.active) ∧
    (∀ result final, engine.run id = (.ok result, final) → result.outcome = .truncated →
      ∃ target,
        (engine.standingAt id).Reaches target ∧
        target.engine.finish target.pending .truncated = (.ok result, final) ∧
        final.state = target.engine.state ∧ final.active = target.engine.active) ∧
    (∀ error final, engine.run id = (.error error, final) →
      (engine.standingAt id).HaltsWith (.failed final error) ∨
      ∃ pending start, error = .tooDeep start engine.config.maxWalkDepth ∧
        (engine.standingAt id).Reaches { engine := final, pending, id := start }) ∧
    (∀ count halt, (engine.standingAt id).after count = .stop halt →
      ∀ depth cycles, count ≤ depth → count ≤ cycles →
        (engine.withLimits depth cycles).run id =
          (halt.map (withLimits depth cycles)).result) := by
  have returns := engine.returns_run id
  refine ⟨?_, ?_, ?_, ?_⟩
  · intro result final ran uncut
    rcases returns.of_ok ran with ⟨last, pending, halts, finished⟩ | ⟨cut, _⟩
    · exact ⟨last, pending, halts, finished, (of_finish_eq finished).2⟩
    · exact absurd cut uncut
  · intro result final ran cut
    rcases returns.of_ok ran with ⟨_, _, halts, _⟩ | ⟨_, target, reached, finished⟩
    · exact absurd cut (Position.outcome_ne_truncated halts)
    · exact ⟨target, reached, finished, (of_finish_eq finished).2⟩
  · intro error final ran
    rcases returns.of_error ran with halts | ⟨pending, start, rfl, reached⟩
    · exact .inl halts
    · refine .inr ⟨pending, start, ?_, reached⟩
      obtain ⟨count, moved⟩ := reached
      have setting := (engine.standingAt id).sameSetting_after count
      rw [moved] at setting
      have sameConfig : final.config = engine.config := setting.config
      rw [sameConfig]
  · intro count halt halts depth cycles deepEnough longEnough
    have neutral := neutral_withLimits depth cycles
    have limited := neutral.after (engine.standingAt id) count
    rw [halts] at limited
    exact runCycles_eq_of_halts limited deepEnough longEnough

end Dialogue.Flow
