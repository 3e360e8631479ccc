import Dialogue.Proofs.Agreement
import Dialogue.Proofs.Answers
import Dialogue.Proofs.Lookup

/-!
# What is written

What a conversation remembers is changed by writes alone: an action that is applied
without a failure, a value that is set under a key, and a key that is forgotten.  Each
write changes one key.  A run writes actions of the sequences that its source returns,
and nothing else: walks, conditions, texts and failing actions are no writes.
-/

namespace Dialogue

/-! ## One key -/

/-- The second state differs from the first one under a key at most, and is kept at the
same place; in memory it also has the same files. -/
structure State.DiffersAt (key : String) (before after : State) : Prop where
  elsewhere : ∀ other, other ≠ key → after.get? other = before.get? other
  file : after.file = before.file
  files : before.file = none → after.files = before.files

namespace State

theorem DiffersAt.refl (key : String) (state : State) : DiffersAt key state state :=
  ⟨fun _ _ => rfl, rfl, fun _ => rfl⟩

theorem differsAt_of_replace {state after : State} {values : Dictionary Value}
    {key : String} (replaced : state.replace values = .ok after)
    (elsewhere : ∀ other, other ≠ key → values.get? other = state.get? other) :
    DiffersAt key state after := by
  refine ⟨?_, ?_, ?_⟩
  · rw [← values_of_replace replaced] at elsewhere
    exact elsewhere
  · rw [replace] at replaced
    split at replaced
    · cases replaced
      rfl
    · split at replaced
      · contradiction
      · cases replaced
        rfl
  · intro inMemory
    rw [replace, inMemory] at replaced
    cases replaced
    rfl

theorem differsAt_of_set {state after : State} {key : String} {value : Value}
    (written : state.set key value = .ok after) : DiffersAt key state after := by
  rw [set] at written
  split at written
  · contradiction
  · apply differsAt_of_replace written
    intro other different
    rw [Dictionary.get?_insert, if_neg different, get?]

theorem differsAt_of_remove {state after : State} {key : String}
    (written : state.remove key = .ok after) : DiffersAt key state after := by
  rw [remove] at written
  split at written
  · apply differsAt_of_replace written
    intro other different
    rw [Dictionary.get?_erase, if_neg different, get?]
  · cases written
    exact .refl key state

end State

namespace Flow

theorem eq_ok_of_changed {outcome : Except StateError State} {after : State}
    (applied : changed outcome = .ok after) : outcome = .ok after := by
  cases outcome with
  | error error => contradiction
  | ok state =>
      cases applied
      rfl

/-- An action changes the key that it names, without the blank characters around it,
and nothing else. -/
theorem differsAt_of_applyAction {agenda : Agenda} {action : Action}
    {state after : State} (applied : applyAction agenda action state = .ok after) :
    State.DiffersAt (Text.trim action.key) state after := by
  have counts {lower : Bool} {key : String} {amount : Option Value}
      (counted : applyCount lower key amount state = .ok after) :
      State.DiffersAt key state after := by
    simp only [applyCount] at counted
    split at counted
    · cases counted
    · split at counted
      · cases counted
      · exact State.differsAt_of_set (eq_ok_of_changed counted)
  simp only [applyAction] at applied
  split at applied
  · cases applied
  · cases kind : action.kind with
    | set =>
        simp only [kind, applySet] at applied
        split at applied
        · cases applied
        · exact State.differsAt_of_set (eq_ok_of_changed applied)
    | increment =>
        simp only [kind] at applied
        exact counts applied
    | decrement =>
        simp only [kind] at applied
        exact counts applied
    | reset =>
        simp only [kind, applyReset] at applied
        split at applied
        · exact State.differsAt_of_set (eq_ok_of_changed applied)
        · exact State.differsAt_of_remove (eq_ok_of_changed applied)

/-! ## Writes -/

/-- One change of what is remembered. -/
inductive Write where
  /-- Apply an action. -/
  | act (action : Action)
  /-- Remember a value, as it is done with an answer. -/
  | set (key : String) (value : Value)
  /-- Forget a key. -/
  | remove (key : String)

namespace Write

/-- The key that a write is for. -/
def key : Write → String
  | .act action => Text.trim action.key
  | .set key _ => key
  | .remove key => key

/-- Carry out a write. -/
def carryOut (agenda : Agenda) (state : State) : Write → Except Error State
  | .act action => applyAction agenda action state
  | .set key value => changed (state.set key value)
  | .remove key => changed (state.remove key)

theorem differsAt_of_carryOut {agenda : Agenda} {write : Write} {state after : State}
    (done : write.carryOut agenda state = .ok after) :
    State.DiffersAt write.key state after := by
  cases write with
  | act action =>
      rw [carryOut] at done
      exact differsAt_of_applyAction done
  | set key value =>
      rw [carryOut] at done
      exact State.differsAt_of_set (eq_ok_of_changed done)
  | remove key =>
      rw [carryOut] at done
      exact State.differsAt_of_remove (eq_ok_of_changed done)

end Write

/-- The states before and behind some writes, none of which fails. -/
inductive Written (agenda : Agenda) : List Write → State → State → Prop where
  | nil (state : State) : Written agenda [] state state
  | cons {write : Write} {writes : List Write} {before middle after : State}
      (done : write.carryOut agenda before = .ok middle)
      (others : Written agenda writes middle after) :
      Written agenda (write :: writes) before after

namespace Written

variable {agenda : Agenda} {first second : List Write} {before middle after : State}

theorem single {write : Write} (done : write.carryOut agenda before = .ok after) :
    Written agenda [write] before after :=
  .cons done (.nil after)

theorem append (early : Written agenda first before middle)
    (late : Written agenda second middle after) :
    Written agenda (first ++ second) before after := by
  induction early with
  | nil _ => exact late
  | cons done _ ih => exact .cons done (ih late)

/-- A key that no write is for keeps its value. -/
theorem get?_of_forall_ne (written : Written agenda first before after) {key : String}
    (spared : ∀ write ∈ first, write.key ≠ key) : after.get? key = before.get? key := by
  induction written with
  | nil _ => rfl
  | @cons write writes _ _ _ done _ ih =>
      have different : key ≠ write.key := (spared write List.mem_cons_self).symm
      rw [ih fun other member => spared other (List.mem_cons_of_mem write member)]
      exact (Write.differsAt_of_carryOut done).elsewhere key different

theorem file (written : Written agenda first before after) : after.file = before.file := by
  induction written with
  | nil _ => rfl
  | cons done _ ih => exact ih.trans (Write.differsAt_of_carryOut done).file

/-- Writes in memory leave the files as they are. -/
theorem files (written : Written agenda first before after) (inMemory : before.file = none) :
    after.files = before.files := by
  induction written with
  | nil _ => rfl
  | cons done _ ih =>
      have differs := Write.differsAt_of_carryOut done
      exact (ih (differs.file.trans inMemory)).trans (differs.files inMemory)

end Written

theorem applyActions_cons_of_ok {agenda : Agenda} {action : Action} {state after : State}
    (applied : applyAction agenda action state = .ok after) (rest : List Action) :
    applyActions agenda (action :: rest) state = applyActions agenda rest after := by
  simp only [applyActions, List.foldl_cons, applied]

theorem applyActions_cons_of_error {agenda : Agenda} {action : Action} {state : State}
    {error : Error} (failed : applyAction agenda action state = .error error)
    (rest : List Action) :
    applyActions agenda (action :: rest) state = applyActions agenda rest state := by
  simp only [applyActions, List.foldl_cons, failed]

/-- Applying actions in order writes those that do not fail. -/
theorem exists_written_applyActions (agenda : Agenda) (actions : List Action)
    (state : State) :
    ∃ done : List Action, done.Sublist actions ∧
      Written agenda (done.map .act) state (applyActions agenda actions state) := by
  induction actions generalizing state with
  | nil => exact ⟨[], .refl [], .nil state⟩
  | cons action rest ih =>
      cases applied : applyAction agenda action state with
      | error error =>
          obtain ⟨done, within, written⟩ := ih state
          rw [applyActions_cons_of_error applied]
          exact ⟨done, within.cons action, written⟩
      | ok after =>
          obtain ⟨done, within, written⟩ := ih after
          have first : (Write.act action).carryOut agenda state = .ok after := applied
          rw [applyActions_cons_of_ok applied]
          exact ⟨action :: done, within.cons_cons action, .cons first written⟩

section Actions

variable {agenda : Agenda} {actions : List Action} {state : State}

theorem applyActions_append (before after : List Action) (state : State) :
    applyActions agenda (before ++ after) state =
      applyActions agenda after (applyActions agenda before state) := by
  simp only [applyActions, List.foldl_append]

theorem file_applyActions (agenda : Agenda) (actions : List Action) (state : State) :
    (applyActions agenda actions state).file = state.file := by
  obtain ⟨_, _, written⟩ := exists_written_applyActions agenda actions state
  exact written.file

theorem files_applyActions (memory : state.file = none) :
    (applyActions agenda actions state).files = state.files := by
  obtain ⟨_, _, written⟩ := exists_written_applyActions agenda actions state
  exact written.files memory

/-- Actions leave the keys alone that none of them names. -/
theorem get?_applyActions {key : String}
    (spared : ∀ action ∈ actions, Text.trim action.key ≠ key) :
    (applyActions agenda actions state).get? key = state.get? key := by
  obtain ⟨done, within, written⟩ := exists_written_applyActions agenda actions state
  apply written.get?_of_forall_ne
  intro write member
  obtain ⟨action, applied, rfl⟩ := List.mem_map.mp member
  exact spared action (within.subset applied)

end Actions

/-! ## What sequences can write -/

/-- An action is written in a data action message of one of the sequences that a source
returns. -/
inductive Authors (source : Source) (files : Files) : Action → Prop where
  | intro {id : String} {sequence : Sequence} {message : Message} {action : Action}
      (returned : source files id = .ok sequence) (member : message ∈ sequence.messages)
      (kind : message.kind = .dataAction) (listed : action ∈ message.actions) :
      Authors source files action

/-- A write applies an action that is written in one of the sequences of a source. -/
def Write.Authored (source : Source) (files : Files) (write : Write) : Prop :=
  ∃ action, write = .act action ∧ Authors source files action

namespace Engine

/-- An engine remembers in memory, and its active sequence is one that its source
returns. -/
structure Grounded (engine : Engine) : Prop where
  inMemory : engine.state.file = none
  sourced : ∀ active, engine.active = some active →
    ∃ id, engine.source engine.state.files id = .ok active.sequence

/-- One engine becomes another by writes that are permitted; its agenda and the
sequences of its source stay, and it stays grounded. -/
structure WritesTo (permitted : Write → Prop) (before after : Engine) : Prop where
  agenda : after.agenda = before.agenda
  source : after.source = before.source
  files : after.state.files = before.state.files
  written : ∃ writes, Written before.agenda writes before.state after.state ∧
    ∀ write ∈ writes, permitted write
  grounded : after.Grounded

namespace WritesTo

variable {permitted wider : Write → Prop} {before middle after : Engine}

theorem refl (grounded : before.Grounded) : before.WritesTo permitted before where
  agenda := rfl
  source := rfl
  files := rfl
  written := ⟨[], .nil _, fun _ member => absurd member List.not_mem_nil⟩
  grounded := grounded

theorem trans (early : before.WritesTo permitted middle)
    (late : middle.WritesTo permitted after) : before.WritesTo permitted after where
  agenda := late.agenda.trans early.agenda
  source := late.source.trans early.source
  files := late.files.trans early.files
  written := by
    obtain ⟨first, firstWritten, firstPermitted⟩ := early.written
    obtain ⟨second, secondWritten, secondPermitted⟩ := late.written
    rw [early.agenda] at secondWritten
    exact ⟨first ++ second, firstWritten.append secondWritten,
      List.forall_mem_append.mpr ⟨firstPermitted, secondPermitted⟩⟩
  grounded := late.grounded

theorem mono (writes : before.WritesTo permitted after)
    (more : ∀ write, permitted write → wider write) : before.WritesTo wider after where
  agenda := writes.agenda
  source := writes.source
  files := writes.files
  written := by
    obtain ⟨list, written, allowed⟩ := writes.written
    exact ⟨list, written, fun write member => more write (allowed write member)⟩
  grounded := writes.grounded

end WritesTo

/-- Some writes make one engine another that differs in what is remembered. -/
theorem writesTo_withState {permitted : Write → Prop} {engine : Engine}
    (grounded : engine.Grounded) {writes : List Write} {state : State}
    (written : Written engine.agenda writes engine.state state)
    (allowed : ∀ write ∈ writes, permitted write) :
    engine.WritesTo permitted { engine with state } where
  agenda := rfl
  source := rfl
  files := written.files grounded.inMemory
  written := ⟨writes, written, allowed⟩
  grounded :=
    { inMemory := written.file.trans grounded.inMemory
      sourced := by
        intro active loaded
        have files : state.files = engine.state.files := written.files grounded.inMemory
        rw [files]
        exact grounded.sourced active loaded }

/-- A sequence that has been loaded is one that the source returns. -/
theorem returned_of_loadSequence {source : Source} {files : Files} {id : String}
    {active : ActiveSequence} (loaded : loadSequence source files id = .ok active) :
    source files id = .ok active.sequence := by
  rw [loadSequence] at loaded
  split at loaded
  · contradiction
  · rename_i sequence returned
    split at loaded
    · contradiction
    · cases loaded
      exact returned

theorem writesTo_withActive {permitted : Write → Prop} {engine : Engine}
    (grounded : engine.Grounded) {id : String} {active : ActiveSequence}
    (loaded : loadSequence engine.source engine.state.files id = .ok active) :
    engine.WritesTo permitted { engine with active := some active } where
  agenda := rfl
  source := rfl
  files := rfl
  written := ⟨[], .nil _, fun _ member => absurd member List.not_mem_nil⟩
  grounded :=
    { inMemory := grounded.inMemory
      sourced := by
        rintro _ ⟨⟩
        exact ⟨id, returned_of_loadSequence loaded⟩ }

theorem writesTo_load {permitted : Write → Prop} {engine : Engine}
    (grounded : engine.Grounded) (id : String) :
    engine.WritesTo permitted (engine.load id).2 := by
  rw [load]
  cases loaded : loadSequence engine.source engine.state.files id with
  | error error => exact .refl grounded
  | ok active => exact writesTo_withActive grounded loaded

/-- Going to a place writes nothing. -/
theorem writesTo_goTo {permitted : Write → Prop} {engine : Engine}
    (grounded : engine.Grounded) (target : Option Target) :
    engine.WritesTo permitted (engine.goTo target).2 := by
  rcases engine.goTo_cases target with
    ⟨_, went⟩ | ⟨_, _, _, went⟩ | ⟨_, _, loaded, went⟩
  · rw [went]
    exact .refl grounded
  · rw [went]
    exact .refl grounded
  · rw [went]
    exact writesTo_withActive grounded loaded

/-- A message that is found stands in one of the sequences of the source. -/
theorem Grounded.exists_returned {engine : Engine} (grounded : engine.Grounded)
    {id : MessageId} {message : Message} (found : engine.lookup id = some message) :
    ∃ name sequence, engine.source engine.state.files name = .ok sequence ∧
      message ∈ sequence.messages := by
  obtain ⟨active, loaded, inside⟩ := Option.bind_eq_some_iff.mp found
  obtain ⟨name, returned⟩ := grounded.sourced active loaded
  rw [ActiveSequence.message?_eq_find?] at inside
  exact ⟨name, active.sequence, returned,
    List.mem_reverse.mp (List.mem_of_find?_eq_some inside)⟩

/-- Behind a message only its actions are written, and only if it is a data action
message. -/
theorem writesTo_pass {engine : Engine} (grounded : engine.Grounded) {id : MessageId}
    {message : Message} (found : engine.lookup id = some message) :
    engine.WritesTo (Write.Authored engine.source engine.state.files)
      (engine.pass message) := by
  rw [pass]
  split
  · rename_i kind
    obtain ⟨name, sequence, returned, member⟩ := grounded.exists_returned found
    obtain ⟨done, within, written⟩ :=
      exists_written_applyActions engine.agenda message.actions engine.state
    apply writesTo_withState grounded written
    intro write applied
    obtain ⟨action, listed, rfl⟩ := List.mem_map.mp applied
    exact ⟨action, rfl, .intro returned member kind (within.subset listed)⟩
  · exact .refl grounded

end Engine

/-! ## Runs -/

namespace Position

/-- A step writes only what the sequences of the source say. -/
theorem writesTo_step {position : Position} (grounded : position.engine.Grounded) :
    position.engine.WritesTo
      (Write.Authored position.engine.source position.engine.state.files)
      position.step.engine := by
  cases found : position.engine.lookup position.id with
  | none =>
      rw [step_of_lookup_eq_none found]
      exact .refl grounded
  | some message =>
      rw [step_of_lookup_eq_some found]
      cases needed : message.kind.isInteractive with
      | true =>
          rw [position.obey_of_interactive needed]
          exact .refl grounded
      | false =>
          by_cases branching : message.kind = .autoroute
          · rw [position.obey_of_autoroute branching, engine_arrive]
            exact Engine.writesTo_goTo grounded _
          · rw [position.obey_of_passive needed branching, engine_arrive]
            have passed := Engine.writesTo_pass grounded found
            exact passed.trans (Engine.writesTo_goTo passed.grounded _)

theorem writesTo_after {position : Position} (grounded : position.engine.Grounded)
    (count : Nat) :
    position.engine.WritesTo
      (Write.Authored position.engine.source position.engine.state.files)
      (position.after count).engine := by
  induction count generalizing position with
  | zero => exact .refl grounded
  | succ count ih =>
      have first := writesTo_step grounded
      cases moved : position.step with
      | goOn next =>
          rw [moved] at first
          have rest := ih first.grounded
          have source : next.engine.source = position.engine.source := first.source
          have files : next.engine.state.files = position.engine.state.files := first.files
          rw [source, files] at rest
          rw [after_succ_of_goOn moved]
          exact first.trans rest
      | stop halt =>
          rw [moved] at first
          rw [after_succ_of_halt moved]
          exact first

/-- What a run returns comes with the engine of a move of the interpreter, on which at
most texts have been made. -/
theorem Returns.exists_after {position : Position}
    {returned : Except Error Engine.Result × Engine} (returns : position.Returns returned) :
    ∃ count, returned.2 =
      { (position.after count).engine with resolver := returned.2.resolver } := by
  cases returns with
  | @halted halt halts =>
      obtain ⟨count, halted⟩ := halts
      refine ⟨count, ?_⟩
      rw [halted]
      cases halt <;> rfl
  | truncated reached =>
      obtain ⟨count, moved⟩ := reached
      refine ⟨count, ?_⟩
      rw [moved]
      rfl
  | tooDeep reached =>
      obtain ⟨count, moved⟩ := reached
      refine ⟨count, ?_⟩
      rw [moved]
      rfl

end Position

namespace Engine

/-- A run, whether it fails or not, writes only what the sequences of the source say. -/
theorem writesTo_run {engine : Engine} (grounded : engine.Grounded) (id : MessageId) :
    engine.WritesTo (Write.Authored engine.source engine.state.files)
      (engine.run id).2 := by
  obtain ⟨count, final⟩ := (engine.returns_run id).exists_after
  have standing : (engine.standingAt id).engine.Grounded := grounded
  have came := Position.writesTo_after standing count
  rw [final]
  exact ⟨came.agenda, came.source, came.files, came.written,
    came.grounded.inMemory, came.grounded.sourced⟩

theorem writesTo_runFrom {engine : Engine} (grounded : engine.Grounded)
    (next : Option MessageId) :
    engine.WritesTo (Write.Authored engine.source engine.state.files)
      (engine.runFrom next).2 := by
  cases next with
  | none => exact .refl grounded
  | some id => exact writesTo_run grounded id

end Engine

end Flow

end Dialogue
