import Dialogue.Proofs.Limits
import Dialogue.Proofs.Results

/-!
# What a failed run leaves behind

A run fails when a walk is given up or a sequence cannot be loaded.  Nothing has
been shown then, and the active sequence is the last one that was loaded.  A walk
that is given up has resolved none of its messages, so the run leaves behind what
the cycles before that walk leave behind.
-/

namespace Dialogue.Flow

/-! ## Attempts to load -/

/-- What going to a place gets from the source, if a sequence has to be loaded. -/
def Engine.attempt? (engine : Engine) :
    Option Target → Option (Except Error ActiveSequence)
  | some (.sequence id) => some (loadSequence engine.source engine.state.files id)
  | _ => none

theorem Engine.active_goTo (engine : Engine) (target : Option Target) :
    (engine.goTo target).2.active =
      ((engine.attempt? target).bind Except.toOption).or engine.active := by
  match target with
  | none => rfl
  | some (.message _) => rfl
  | some (.sequence id) =>
      simp only [goTo, load, attempt?]
      cases loadSequence engine.source engine.state.files id <;> rfl

theorem Engine.attempt?_of_goTo_error {engine : Engine} {target : Option Target}
    {error : Error} (failed : (engine.goTo target).1 = .error error) :
    engine.attempt? target = some (.error error) := by
  match target with
  | none => contradiction
  | some (.message _) => contradiction
  | some (.sequence id) =>
      simp only [goTo, load] at failed
      rw [attempt?]
      cases loaded : loadSequence engine.source engine.state.files id with
      | error cause =>
          rw [loaded] at failed
          cases failed
          rfl
      | ok active =>
          rw [loaded] at failed
          contradiction

namespace Position

/-- What doing the message at a position gets from the source, if it has to load a
sequence. -/
def attempt? (position : Position) : Option (Except Error ActiveSequence) :=
  (position.engine.lookup position.id).bind fun message =>
    match message.kind with
    | .choice | .textInput => none
    | .autoroute =>
        position.engine.attempt? (branchTarget? position.engine.state.values message)
    | .text | .system | .dataAction =>
        (position.engine.pass message).attempt? (placeBehind message position.id)

/-- What doing so many messages from a position gets from the source, in order. -/
def attempts : Nat → Position → List (Except Error ActiveSequence)
  | 0, _ => []
  | count + 1, position =>
      position.attempt?.toList ++
        match position.step with
        | .goOn next => attempts count next
        | .stop _ => []

/-- The sequence that was loaded last while so many messages were done. -/
def lastLoaded? (position : Position) (count : Nat) : Option ActiveSequence :=
  ((position.attempts count).filterMap Except.toOption).getLast?

theorem attempt?_of_interactive {position : Position} {message : Message}
    (found : position.engine.lookup position.id = some message)
    (interactive : message.kind.isInteractive = true) : position.attempt? = none := by
  rw [attempt?, found, Option.bind_some]
  cases kind : message.kind with
  | choice => rfl
  | textInput => rfl
  | _ => simp [kind, MessageKind.isInteractive] at interactive

theorem attempt?_of_passive {position : Position} {message : Message}
    (found : position.engine.lookup position.id = some message)
    (passive : message.kind.isInteractive = false) (other : message.kind ≠ .autoroute) :
    position.attempt? =
      (position.engine.pass message).attempt? (placeBehind message position.id) := by
  rw [attempt?, found, Option.bind_some]
  cases kind : message.kind with
  | choice => simp [kind, MessageKind.isInteractive] at passive
  | textInput => simp [kind, MessageKind.isInteractive] at passive
  | autoroute => exact absurd kind other
  | _ => rfl

/-- A message either loads no sequence and leaves the active one, or does so by going
to a place. -/
theorem step_goes (position : Position) :
    (position.attempt? = none ∧ position.step.engine.active = position.engine.active ∧
      ∀ engine error, position.step ≠ .stop (.failed engine error)) ∨
      ∃ (engine : Engine) (target : Option Target) (pending : List Message),
        engine.active = position.engine.active ∧
        position.attempt? = engine.attempt? target ∧
        position.step = arrive pending (engine.goTo target) := by
  cases found : position.engine.lookup position.id with
  | none =>
      rw [step_of_lookup_eq_none found]
      refine .inl ⟨?_, rfl, ?_⟩
      · simp [attempt?, found]
      · intro engine error failed
        cases failed
  | some message =>
      rw [step_of_lookup_eq_some found]
      cases needed : message.kind.isInteractive with
      | true =>
          rw [position.obey_of_interactive needed]
          refine .inl ⟨attempt?_of_interactive found needed, rfl, ?_⟩
          intro engine error failed
          cases failed
      | false =>
          by_cases branching : message.kind = .autoroute
          · refine .inr ⟨position.engine, _, _, rfl, ?_,
              position.obey_of_autoroute branching⟩
            simp [attempt?, found, branching]
          · refine .inr ⟨position.engine.pass message, _, _, ?_,
              attempt?_of_passive found needed branching,
              position.obey_of_passive needed branching⟩
            rw [Engine.pass]
            split <;> rfl

theorem active_step (position : Position) :
    position.step.engine.active =
      (position.attempt?.bind Except.toOption).or position.engine.active := by
  rcases position.step_goes with
    ⟨nothing, same, _⟩ | ⟨engine, target, pending, same, attempted, went⟩
  · rw [nothing, same]
    rfl
  · rw [went, engine_arrive, engine.active_goTo, attempted, same]

/-- A move fails where the way to a place failed. -/
theorem of_arrive_eq_failed {pending : List Message}
    {went : Except Error (Option MessageId) × Engine} {engine : Engine} {error : Error}
    (failed : arrive pending went = .stop (.failed engine error)) :
    went.1 = .error error := by
  match went with
  | (.error cause, behind) =>
      cases failed
      rfl
  | (.ok none, behind) => cases failed
  | (.ok (some _), behind) => cases failed

theorem attempt?_of_step_failed {position : Position} {engine : Engine} {error : Error}
    (failed : position.step = .stop (.failed engine error)) :
    position.attempt? = some (.error error) := by
  rcases position.step_goes with
    ⟨_, _, fine⟩ | ⟨before, target, pending, _, attempted, went⟩
  · exact absurd failed (fine engine error)
  · rw [attempted]
    exact Engine.attempt?_of_goTo_error (of_arrive_eq_failed (went.symm.trans failed))

theorem attempts_succ_of_goOn {position next : Position}
    (moved : position.step = .goOn next) (count : Nat) :
    position.attempts (count + 1) = position.attempt?.toList ++ next.attempts count := by
  rw [attempts, moved]

theorem attempts_succ_of_halt {position : Position} {halt : Halt}
    (halted : position.step = .stop halt) (count : Nat) :
    position.attempts (count + 1) = position.attempt?.toList := by
  rw [attempts, halted, List.append_nil]

theorem getLast?_toOption (attempt : Option (Except Error ActiveSequence)) :
    (attempt.toList.filterMap Except.toOption).getLast? =
      attempt.bind Except.toOption := by
  match attempt with
  | none => rfl
  | some (.error _) => rfl
  | some (.ok _) => rfl

theorem lastLoaded?_succ_of_goOn {position next : Position}
    (moved : position.step = .goOn next) (count : Nat) :
    position.lastLoaded? (count + 1) =
      (next.lastLoaded? count).or (position.attempt?.bind Except.toOption) := by
  rw [lastLoaded?, attempts_succ_of_goOn moved, List.filterMap_append,
    List.getLast?_append, getLast?_toOption, lastLoaded?]

theorem lastLoaded?_succ_of_halt {position : Position} {halt : Halt}
    (halted : position.step = .stop halt) (count : Nat) :
    position.lastLoaded? (count + 1) = position.attempt?.bind Except.toOption := by
  rw [lastLoaded?, attempts_succ_of_halt halted, getLast?_toOption]

/-- The active sequence is the one that was loaded last. -/
theorem active_after (position : Position) (count : Nat) :
    (position.after count).engine.active =
      (position.lastLoaded? count).or position.engine.active := by
  induction count generalizing position with
  | zero => rfl
  | succ count ih =>
      have first := position.active_step
      cases moved : position.step with
      | goOn next =>
          rw [moved] at first
          have active : next.engine.active =
              (position.attempt?.bind Except.toOption).or position.engine.active := first
          rw [after_succ_of_goOn moved, lastLoaded?_succ_of_goOn moved, ih next, active,
            Option.or_assoc]
      | stop halt =>
          rw [moved] at first
          rw [after_succ_of_halt moved, lastLoaded?_succ_of_halt moved]
          exact first

/-- The attempt at which the interpreter failed is the last one. -/
theorem getLast?_attempts_of_failed {position : Position} {engine : Engine}
    {error : Error} {count : Nat}
    (failed : position.after count = .stop (.failed engine error)) :
    (position.attempts count).getLast? = some (.error error) := by
  induction count generalizing position with
  | zero => contradiction
  | succ count ih =>
      cases moved : position.step with
      | goOn next =>
          rw [after_succ_of_goOn moved] at failed
          rw [attempts_succ_of_goOn moved, List.getLast?_append, ih failed]
          rfl
      | stop halt =>
          rw [after_succ_of_halt moved] at failed
          cases failed
          rw [attempts_succ_of_halt moved, attempt?_of_step_failed moved]
          rfl

end Position

namespace Engine

/-! ## Failing runs -/

/-- A run fails at one of its turns. -/
theorem turns_of_run_error {engine final : Engine} {id : MessageId} {error : Error}
    (failed : engine.run id = (.error error, final)) :
    (engine.standingAt id).turns engine.config.maxCycles = .stop (.failed final error) := by
  rw [run_eq_result] at failed
  match came : (engine.standingAt id).turns engine.config.maxCycles with
  | .goOn target =>
      rw [came] at failed
      cases failed
  | .stop (.ended last pending outcome) =>
      rw [came] at failed
      cases failed
  | .stop (.failed last cause) =>
      rw [came] at failed
      cases failed
      rfl

/-- What a run from a message that fails with an error leaves behind. -/
structure FailsLeaving (engine : Engine) (id : MessageId) (error : Error)
    (final : Engine) : Prop where
  /-- Nothing has been shown: the lines given so far and the generator are as
  before. -/
  resolver : final.resolver = engine.resolver
  /-- The run has come some messages far; the active sequence is the one that was
  loaded last on the way there, and a failure to load ends the way. -/
  loaded : ∃ count,
    ((engine.standingAt id).after count).engine = final ∧
    final.active = ((engine.standingAt id).lastLoaded? count).or engine.active ∧
    ((∃ start limit, error = .tooDeep start limit) ∨
      ((engine.standingAt id).attempts count).getLast? = some (.error error))
  /-- Before a walk that is given up some cycles have been done, and nothing since:
  a run of that many cycles is cut off, and leaves the same remembered and active. -/
  shorter : ∀ start limit, error = .tooDeep start limit →
    (walkFrom final.lookup limit start).stop = .tooDeep ∧
    ∃ cycles < engine.config.maxCycles,
      (∃ pending, (engine.standingAt id).turns cycles =
        .goOn { engine := final, pending, id := start }) ∧
      ∃ result cut, (engine.withCycles cycles).run id = (.ok result, cut) ∧
        result.outcome = .truncated ∧ cut.state = final.state ∧ cut.active = final.active

/-- What a failed run leaves behind: nothing has been shown, the active sequence is
the one that was loaded last, and a walk that is given up has changed nothing. -/
theorem failsLeaving_of_run_error {engine final : Engine} {id : MessageId} {error : Error}
    (failed : engine.run id = (.error error, final)) :
    engine.FailsLeaving id error final where
  resolver := by
    have setting := (engine.standingAt id).sameSetting_turns engine.config.maxCycles
    rw [turns_of_run_error failed] at setting
    exact setting.resolver
  loaded := by
    have reached := (engine.standingAt id).active_after
    rcases (engine.returns_run id).of_error failed with
      ⟨count, halted⟩ | ⟨pending, start, rfl, count, moved⟩
    · have active := reached count
      rw [halted] at active
      exact ⟨count, by rw [halted]; rfl, active,
        .inr (Position.getLast?_attempts_of_failed halted)⟩
    · have active := reached count
      rw [moved] at active
      exact ⟨count, by rw [moved]; rfl, active, .inl ⟨start, _, rfl⟩⟩
  shorter := by
    rintro start limit rfl
    obtain ⟨cycles, fewer, target, moved, stopped⟩ :=
      Position.exists_turn_of_turns_stop (turns_of_run_error failed)
    rcases Position.turn_failed_cases stopped with ⟨tooDeep, rfl, same⟩ | ⟨cause, impossible⟩
    · cases same
      have ran := engine.run_withCycles cycles id
      rw [moved] at ran
      exact ⟨tooDeep, cycles, fewer, ⟨target.pending, moved⟩, _, _, ran, rfl, rfl, rfl⟩
    · contradiction

/-- A message that moves on to a sequence of which the only message counts visits
and leads to itself. -/
def treadmill : Engine :=
  { ofSequences
      [{ id := "mill"
         messages :=
          [{ id := 5, kind := .dataAction, next := some 5,
             actions := [{ kind := .increment, key := "visits" }] }] }] with
    active := some <| .of
      { id := "door"
        messages :=
          [{ id := 1, kind := .dataAction, sequence := some "mill",
             actions := [{ kind := .set, key := "visits", value := some (.int 0) }] }] } }

theorem failsLeaving_treadmill :
    ∃ final, treadmill.run 1 = (.error (.tooDeep 5 50), final) ∧
      treadmill.FailsLeaving 1 (.tooDeep 5 50) final := by
  have failing : ∃ final, treadmill.run 1 = (.error (.tooDeep 5 50), final) := ⟨_, rfl⟩
  obtain ⟨final, failed⟩ := failing
  exact ⟨final, failed, failsLeaving_of_run_error failed⟩

end Engine

end Dialogue.Flow
