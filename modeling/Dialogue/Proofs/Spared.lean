import Dialogue.Proofs.Dictionary
import Dialogue.Proofs.Presentation
import Dialogue.Proofs.Writes

/-!
# What is left alone

What may be written by operations on a session is known beforehand for actions and from
outside; an answer is written under the key of the message that it fits, and one that is
turned away is not.  A key that none of these writes is for keeps its value, however
long the session goes on, and whether the operations succeed or fail.
-/

namespace Dialogue

/-- A source of sequences in memory returns these sequences only. -/
theorem Source.mem_of_ofList {sequences : List Sequence} {files : Files} {id : String}
    {sequence : Sequence} (returned : ofList sequences files id = .ok sequence) :
    sequence ∈ sequences := by
  rw [ofList, memory] at returned
  split at returned
  · rename_i found
    cases returned
    obtain ⟨_, member, same⟩ := List.mem_map.mp (Dictionary.mem_of_get?_ofList found)
    cases same
    exact member
  · cases returned

namespace Flow.Session

/-- The session behind some operations, which may succeed or fail. -/
def operateAll (session : Session) : List Operation → Session
  | [] => session
  | operation :: rest => (session.operate operation).2.operateAll rest

/-- What some operations on a session may write: the actions of the sequences; an
answer, under the key of the message that it fits when it is given; and what is set and
removed from outside. -/
inductive Causes (session : Session) (operations : List Operation) : Write → Prop where
  | authored {write : Write}
      (said : write.Authored session.engine.source session.engine.state.files) :
      Causes session operations write
  | answer {earlier later : List Operation} {id : MessageId} {answer : Answer}
      {message : Message} {value : Value} {next : Option MessageId} {key : String}
      (place : operations = earlier ++ .call (.submit id answer) :: later)
      (found : (session.operateAll earlier).engine.lookup id = some message)
      (fits : Fits message id answer value next) (keyed : message.storeKey = some key) :
      Causes session operations (.set key value)
  | set {key : String} {value : Value} (member : .set key value ∈ operations) :
      Causes session operations (.set key value)
  | remove {key : String} (member : .remove key ∈ operations) :
      Causes session operations (.remove key)

namespace Causes

theorem append {session : Session} {first : List Operation} {write : Write}
    (causes : session.Causes first write) (second : List Operation) :
    session.Causes (first ++ second) write := by
  cases causes with
  | authored said => exact .authored said
  | @answer earlier later id answer _ _ _ _ place found fits keyed =>
      have longer : first ++ second =
          earlier ++ .call (.submit id answer) :: (later ++ second) := by
        rw [place, List.append_assoc, List.cons_append]
      exact .answer longer found fits keyed
  | set member => exact .set (List.mem_append_left second member)
  | remove member => exact .remove (List.mem_append_left second member)

theorem cons {session : Session} {operation : Operation} {rest : List Operation}
    {write : Write} (source : (session.operate operation).2.engine.source =
      session.engine.source)
    (files : (session.operate operation).2.engine.state.files = session.engine.state.files)
    (causes : (session.operate operation).2.Causes rest write) :
    session.Causes (operation :: rest) write := by
  cases causes with
  | authored said =>
      rw [source, files] at said
      exact .authored said
  | @answer earlier later id answer _ _ _ _ place found fits keyed =>
      have longer : operation :: rest =
          (operation :: earlier) ++ .call (.submit id answer) :: later := by
        rw [place, List.cons_append]
      exact .answer longer found fits keyed
  | set member => exact .set (List.mem_cons_of_mem operation member)
  | remove member => exact .remove (List.mem_cons_of_mem operation member)

end Causes

@[simp]
theorem engine_record (session : Session) (came : Except Error Engine.Result × Engine) :
    (session.record came).2.engine = came.2 := by
  obtain ⟨outcome, engine⟩ := came
  cases outcome <;> rfl

theorem writesTo_start {session : Session} (grounded : session.engine.Grounded)
    (sequence : String) :
    session.engine.WritesTo
      (Write.Authored session.engine.source session.engine.state.files)
      (session.start sequence).2.engine := by
  have loads : session.engine.WritesTo
      (Write.Authored session.engine.source session.engine.state.files)
      (session.engine.load sequence).2 := Engine.writesTo_load grounded sequence
  rw [start]
  rcases came : session.engine.load sequence with ⟨error | _, engine⟩
  · rw [came] at loads
    exact loads
  · rw [came] at loads
    have runs := Engine.writesTo_runFrom loads.grounded (activeFirst? engine.active)
    have source : engine.source = session.engine.source := loads.source
    have files : engine.state.files = session.engine.state.files := loads.files
    rw [source, files] at runs
    rw [engine_record]
    exact loads.trans runs

theorem written_of_remembered {agenda : Agenda} {state after : State}
    {key : Option String} {value : Value} (remembered : Remembered state key value after) :
    Written agenda (key.toList.map fun key => .set key value) state after := by
  cases key with
  | none =>
      cases remembered
      exact .nil _
  | some key =>
      apply Written.single
      rw [Write.carryOut, show state.set key value = .ok after from remembered]
      rfl

/-- An answer writes itself, if it is not turned away, and what the run behind it
writes. -/
theorem writesTo_submit {session : Session} (grounded : session.engine.Grounded)
    (id : MessageId) (answer : Answer) :
    session.engine.WritesTo (session.Causes [.call (.submit id answer)])
      (session.submit id answer).2.engine := by
  rcases refused_or_remembered session.engine id answer with
    ⟨error, refused⟩ | ⟨message, value, next, state, found, fits, remembered⟩
  · rw [submit_of_refused refused]
    exact .refl grounded
  · have stores : session.engine.WritesTo (session.Causes [.call (.submit id answer)])
        { session.engine with state } := by
      apply Engine.writesTo_withState grounded (written_of_remembered remembered)
      intro write member
      obtain ⟨key, keyed, rfl⟩ := List.mem_map.mp member
      have place : [Operation.call (.submit id answer)] =
          [] ++ .call (.submit id answer) :: [] := rfl
      exact .answer place found fits (Option.mem_toList.mp keyed)
    have runs := Engine.writesTo_runFrom stores.grounded next
    have files : state.files = session.engine.state.files := stores.files
    rw [submit_of_remembered found fits remembered, engine_record]
    apply stores.trans
    apply runs.mono
    intro write said
    rw [files] at said
    exact .authored said

theorem writesTo_change {session : Session} (grounded : session.engine.Grounded)
    {permitted : Write → Prop} {write : Write} {outcome : Except StateError State}
    (meant : write.carryOut session.engine.agenda session.engine.state = changed outcome)
    (allowed : permitted write) :
    session.engine.WritesTo permitted (session.change outcome).2.engine := by
  cases outcome with
  | error error => exact .refl grounded
  | ok state =>
      apply Engine.writesTo_withState grounded (.single meant)
      exact List.forall_mem_singleton.mpr allowed

/-- Every operation writes only what it may. -/
theorem writesTo_operate {session : Session} (grounded : session.engine.Grounded)
    (operation : Operation) :
    session.engine.WritesTo (session.Causes [operation])
      (session.operate operation).2.engine := by
  cases operation with
  | call call =>
      cases call with
      | start sequence => exact (writesTo_start grounded sequence).mono fun _ => .authored
      | submit id answer => exact writesTo_submit grounded id answer
  | run id => exact (Engine.writesTo_run grounded id).mono fun _ => .authored
  | load sequence => exact Engine.writesTo_load grounded sequence
  | set key value =>
      have meant : (Write.set key value).carryOut session.engine.agenda session.engine.state =
          changed (session.engine.state.set key value) := rfl
      exact writesTo_change grounded meant (.set List.mem_cons_self)
  | remove key =>
      have meant : (Write.remove key).carryOut session.engine.agenda session.engine.state =
          changed (session.engine.state.remove key) := rfl
      exact writesTo_change grounded meant (.remove List.mem_cons_self)

theorem writesTo_operateAll {session : Session} (grounded : session.engine.Grounded)
    (operations : List Operation) :
    session.engine.WritesTo (session.Causes operations)
      (session.operateAll operations).engine := by
  induction operations generalizing session with
  | nil => exact .refl grounded
  | cons operation rest ih =>
      have first := writesTo_operate grounded operation
      have others := ih first.grounded
      exact (first.mono fun write causes => causes.append rest).trans
        (others.mono fun write causes => causes.cons first.source first.files)

/-- Nothing that some operations on a session may write is for a key: it is neither the
key of an action of a data action message, without the blank characters around it, in
any sequence of the source, nor the key of a message that an answer fits when it is
given; and it is not set or removed from outside. -/
structure Spares (session : Session) (operations : List Operation) (key : String) :
    Prop where
  actions : ∀ action, Authors session.engine.source session.engine.state.files action →
    Text.trim action.key ≠ key
  answers : ∀ earlier id answer later message value next,
    operations = earlier ++ .call (.submit id answer) :: later →
    (session.operateAll earlier).engine.lookup id = some message →
    Fits message id answer value next → message.storeKey ≠ some key
  sets : ∀ value, .set key value ∉ operations
  removals : .remove key ∉ operations

/-- A key that no message of the sequences names is spared by the user. -/
theorem spares_of_unnamed {session : Session} (grounded : session.engine.Grounded)
    {operations : List Operation} {key : String}
    (unnamed : ∀ id sequence, session.engine.source session.engine.state.files id =
      .ok sequence → ∀ message ∈ sequence.messages, message.storeKey ≠ some key ∧
        ∀ action ∈ message.actions, Text.trim action.key ≠ key)
    (sets : ∀ value, .set key value ∉ operations) (removals : .remove key ∉ operations) :
    session.Spares operations key where
  actions := by
    intro action authors
    obtain ⟨returned, member, _, listed⟩ := authors
    exact (unnamed _ _ returned _ member).2 action listed
  answers := by
    intro earlier id answer later message value next _ found _
    have before := writesTo_operateAll grounded earlier
    obtain ⟨name, sequence, returned, member⟩ := before.grounded.exists_returned found
    rw [before.source, before.files] at returned
    exact (unnamed name sequence returned message member).1
  sets := sets
  removals := removals

theorem Spares.key_ne {session : Session} {operations : List Operation} {key : String}
    (spares : session.Spares operations key) {write : Write}
    (causes : session.Causes operations write) : write.key ≠ key := by
  cases causes with
  | authored said =>
      obtain ⟨action, rfl, authors⟩ := said
      exact spares.actions action authors
  | answer place found fits keyed =>
      rintro rfl
      exact spares.answers _ _ _ _ _ _ _ place found fits keyed
  | set member =>
      rintro rfl
      exact spares.sets _ member
  | remove member =>
      rintro rfl
      exact spares.removals member

/-- What any operations on a session change.

What is remembered behind them comes from what was remembered before by writes that
succeed one after another: actions of the sequences, answers that fit, and what is set
and removed from outside.  So a key that none of these is for has the same value as
before, or still none; and an answer that is turned away leaves the session as it is. -/
theorem operateAll_writes_causes {session : Session} (grounded : session.engine.Grounded)
    (operations : List Operation) :
    (∃ writes,
      Written session.engine.agenda writes session.engine.state
        (session.operateAll operations).engine.state ∧
      ∀ write ∈ writes, session.Causes operations write) ∧
    (∀ key, session.Spares operations key →
      (session.operateAll operations).engine.state.get? key =
        session.engine.state.get? key) ∧
    (∀ id answer error, Refused session.engine id answer error →
      session.operate (.call (.submit id answer)) = (.error error, session)) ∧
    (session.operateAll operations).engine.Grounded := by
  have came := writesTo_operateAll grounded operations
  refine ⟨came.written, ?_, ?_, came.grounded⟩
  · intro key spares
    obtain ⟨writes, written, causes⟩ := came.written
    apply written.get?_of_forall_ne
    intro write member
    exact spares.key_ne (causes write member)
  · intro id answer error refused
    simp only [operate, perform, submit_of_refused refused]
    rfl

/-- A conversation that counts visits, asks for the mood, and then moves on to a
sequence that is missing, with a user whose name is known. -/
def checkIn : Session :=
  { engine :=
      { Engine.ofSequences
          [{ id := "checkin"
             messages :=
              [{ id := 1, kind := .dataAction
                 actions :=
                  [{ kind := .increment, key := " visits " },
                    { kind := .set, key := "name" },
                    { kind := .reset, key := "  " }] },
                { id := 2, kind := .choice, text := "How are you?", storeKey := some "mood"
                  choices := [{ text := "Good" }, { text := "Bad" }] },
                { id := 3, kind := .text, text := "Bye", sequence := some "lost" }] }] with
        state := .inMemory (.ofList [("user", .text "Ada")]) {} } }

theorem operateAll_checkIn :
    checkIn.engine.Grounded ∧
      checkIn.Spares
        [.call (.start "checkin"), .call (.submit 2 (.choice 7)),
          .call (.submit 2 (.choice 0)), .run 9] "user" ∧
      (checkIn.operateAll
        [.call (.start "checkin"), .call (.submit 2 (.choice 7)),
          .call (.submit 2 (.choice 0)), .run 9]).engine.state.get? "user" =
        checkIn.engine.state.get? "user" := by
  have grounded : checkIn.engine.Grounded := ⟨rfl, fun _ loaded => by cases loaded⟩
  have spares : checkIn.Spares
      [.call (.start "checkin"), .call (.submit 2 (.choice 7)),
        .call (.submit 2 (.choice 0)), .run 9] "user" := by
    apply spares_of_unnamed grounded
    · intro id sequence returned message member
      have listed := @Source.mem_of_ofList _ checkIn.engine.state.files _ _ returned
      cases List.mem_singleton.mp listed
      simp only [List.mem_cons, List.not_mem_nil, or_false] at member
      rcases member with rfl | rfl | rfl
      · decide
      · decide
      · decide
    · simp
    · simp
  exact ⟨grounded, spares, (operateAll_writes_causes grounded _).2.1 "user" spares⟩

end Flow.Session

end Dialogue
