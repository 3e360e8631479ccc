import Dialogue.Flow.Session

/-!
# Answers

An answer is taken as a whole or not at all.  It is turned away, and then
nothing has happened, for one of five reasons; otherwise it is remembered under
the key of the message, and what follows is a run from the successor of the
message on what is remembered then.
-/

namespace Dialogue

/-! ## Writing one key -/

theorem State.values_of_replace {state after : State} {values : Dictionary Value}
    (replaced : state.replace values = .ok after) : after.values = values := by
  rw [replace] at replaced
  split at replaced
  · cases replaced
    rfl
  · split at replaced
    · contradiction
    · cases replaced
      rfl

/-- A value that has been set is there, and nothing else has changed. -/
theorem State.get?_of_set {state after : State} {key : String} {value : Value}
    (written : state.set key value = .ok after) (other : String) :
    after.get? other = if other = key then some value else state.get? other := by
  rw [set] at written
  split at written
  · contradiction
  · rw [get?, values_of_replace written, Dictionary.get?_insert]
    rfl

theorem MessageId.following?_eq_none_iff (id : MessageId) :
    id.following? = none ↔ id.toNat + 1 = UInt32.size := by
  have bounded := id.toNat_lt_size
  rw [following?]
  split <;> simp <;> omega

end Dialogue

namespace Dialogue.Flow

/-! ## What answers mean -/

/-- The kind of message that an answer is for. -/
def Answer.Suits : Answer → MessageKind → Prop
  | .choice _, kind => kind = .choice
  | .text _, kind => kind = .textInput

/-- An answer fits a message: it stands for a value, and the conversation goes
on behind it.  A picked choice stands for its value, or else for its label, and
its own successor comes before the one of the message. -/
inductive Fits (message : Message) (id : MessageId) :
    Answer → Value → Option MessageId → Prop where
  | choice {index : Nat} {choice : Choice} (kind : message.kind = .choice)
      (picked : message.choices[index]? = some choice) :
      Fits message id (.choice index) (choice.value.getD (.text choice.text))
        (choice.next.or (message.next.or (MessageId.following? id)))
  | text (s : String) (kind : message.kind = .textInput) :
      Fits message id (.text s) (.text s) (message.next.or (MessageId.following? id))

theorem Fits.suits {message : Message} {id : MessageId} {answer : Answer} {value : Value}
    {next : Option MessageId} (fits : Fits message id answer value next) :
    answer.Suits message.kind := by
  cases fits with
  | choice kind _ => exact kind
  | text _ kind => exact kind

/-- An answer is turned away. -/
inductive Refused (engine : Engine) (id : MessageId) (answer : Answer) : Error → Prop where
  | noActiveSequence (inactive : engine.active = none) :
      Refused engine id answer .noActiveSequence
  | messageNotFound {active : ActiveSequence} (loaded : engine.active = some active)
      (missing : active.message? id = none) :
      Refused engine id answer (.messageNotFound id)
  | outOfRange {message : Message} {index : Nat}
      (found : engine.lookup id = some message) (kind : message.kind = .choice)
      (given : answer = .choice index) (outside : message.choices.length ≤ index) :
      Refused engine id answer
        (.invalidAnswer id (.outOfRange index message.choices.length))
  | wrongKind {message : Message} (found : engine.lookup id = some message)
      (mismatch : ¬answer.Suits message.kind) :
      Refused engine id answer (.invalidAnswer id (.wrongKind answer message.kind))
  | unwritable {message : Message} {value : Value} {next : Option MessageId}
      {key : String} {cause : StateError} (found : engine.lookup id = some message)
      (fits : Fits message id answer value next) (keyed : message.storeKey = some key)
      (failed : engine.state.set key value = .error cause) :
      Refused engine id answer (.state cause)

/-- The states before and behind an answer that is remembered under a key, if it
has one. -/
def Remembered (state : State) (key : Option String) (value : Value) (after : State) :
    Prop :=
  match key with
  | none => after = state
  | some key => state.set key value = .ok after

theorem Remembered.get? {state after : State} {key : Option String} {value : Value}
    (remembered : Remembered state key value after) (other : String) :
    after.get? other = if key = some other then some value else state.get? other := by
  cases key with
  | none =>
      cases remembered
      simp
  | some key =>
      rw [State.get?_of_set remembered other]
      by_cases same : other = key
      · simp [same]
      · simp [same, Ne.symm same]

namespace Session

theorem meaning_of_fits {message : Message} {id : MessageId} {answer : Answer}
    {value : Value} {next : Option MessageId} (fits : Fits message id answer value next) :
    meaning message id answer = .ok { value, storeKey := message.storeKey, next } := by
  cases fits with
  | choice kind picked =>
      simp [meaning, kind, picked, Choice.storedValue]
  | text s kind =>
      simp [meaning, kind]

theorem meaning_of_outOfRange {message : Message} {index : Nat} (id : MessageId)
    (kind : message.kind = .choice) (outside : message.choices.length ≤ index) :
    meaning message id (.choice index) =
      .error (.invalidAnswer id (.outOfRange index message.choices.length)) := by
  simp [meaning, kind, List.getElem?_eq_none outside]

theorem meaning_of_mismatch {message : Message} {answer : Answer} (id : MessageId)
    (mismatch : ¬answer.Suits message.kind) :
    meaning message id answer =
      .error (.invalidAnswer id (.wrongKind answer message.kind)) := by
  cases answer with
  | choice index =>
      cases kind : message.kind with
      | choice => exact absurd kind mismatch
      | _ => simp [meaning, kind]
  | text s =>
      cases kind : message.kind with
      | textInput => exact absurd kind mismatch
      | _ => simp [meaning, kind]

/-- An answer fits a message, picks a choice that is not there, or is for
another kind of message. -/
theorem fits_or_not (message : Message) (id : MessageId) (answer : Answer) :
    (∃ value next, Fits message id answer value next) ∨
      (∃ index, message.kind = .choice ∧ answer = .choice index ∧
        message.choices.length ≤ index) ∨
      ¬answer.Suits message.kind := by
  by_cases suits : answer.Suits message.kind
  · cases answer with
    | choice index =>
        cases picked : message.choices[index]? with
        | none =>
            exact .inr (.inl ⟨index, suits, rfl, List.getElem?_eq_none_iff.mp picked⟩)
        | some choice => exact .inl ⟨_, _, .choice suits picked⟩
    | text s => exact .inl ⟨_, _, .text s suits⟩
  · exact .inr (.inr suits)

theorem interpret_of_lookup {engine : Engine} {id : MessageId} {message : Message}
    (found : engine.lookup id = some message) (answer : Answer) :
    interpret engine id answer = meaning message id answer := by
  obtain ⟨active, loaded, inside⟩ := Option.bind_eq_some_iff.mp found
  simp [interpret, loaded, inside]

theorem submit_of_interpret_error {session : Session} {id : MessageId} {answer : Answer}
    {error : Error} (refused : interpret session.engine id answer = .error error) :
    session.submit id answer = (.error error, session) := by
  rw [submit, refused]

/-- An answer that is turned away leaves the session as it was. -/
theorem submit_of_refused {session : Session} {id : MessageId} {answer : Answer}
    {error : Error} (refused : Refused session.engine id answer error) :
    session.submit id answer = (.error error, session) := by
  cases refused with
  | noActiveSequence inactive =>
      apply submit_of_interpret_error
      rw [interpret, inactive]
  | messageNotFound loaded missing =>
      apply submit_of_interpret_error
      simp only [interpret, loaded, missing]
  | outOfRange found kind given outside =>
      apply submit_of_interpret_error
      rw [interpret_of_lookup found, given, meaning_of_outOfRange id kind outside]
  | wrongKind found mismatch =>
      apply submit_of_interpret_error
      rw [interpret_of_lookup found, meaning_of_mismatch id mismatch]
  | unwritable found fits keyed failed =>
      simp only [submit, interpret_of_lookup found, meaning_of_fits fits, store, keyed, failed]

/-- An answer that is taken is remembered, and the conversation goes on behind
the message. -/
theorem submit_of_remembered {session : Session} {id : MessageId} {answer : Answer}
    {message : Message} {value : Value} {next : Option MessageId} {state : State}
    (found : session.engine.lookup id = some message)
    (fits : Fits message id answer value next)
    (remembered : Remembered session.engine.state message.storeKey value state) :
    session.submit id answer =
      session.record (Engine.runFrom { session.engine with state } next) := by
  simp only [submit, interpret_of_lookup found, meaning_of_fits fits, store]
  cases keyed : message.storeKey with
  | none =>
      rw [keyed] at remembered
      cases remembered
      rfl
  | some key =>
      rw [keyed] at remembered
      have written : session.engine.state.set key value = .ok state := remembered
      simp only [written]

/-- Behind a message without a successor no number is left. -/
theorem last_of_fits {message : Message} {id : MessageId} {answer : Answer}
    {value : Value} {next : Option MessageId} (fits : Fits message id answer value next)
    (nothing : next = none) : id.toNat + 1 = UInt32.size := by
  apply (MessageId.following?_eq_none_iff id).mp
  cases fits with
  | choice _ _ => exact (Option.or_eq_none_iff.mp (Option.or_eq_none_iff.mp nothing).2).2
  | text _ _ => exact (Option.or_eq_none_iff.mp nothing).2

/-- An answer is turned away, or it is taken and remembered. -/
theorem refused_or_remembered (engine : Engine) (id : MessageId) (answer : Answer) :
    (∃ error, Refused engine id answer error) ∨
      ∃ message value next state, engine.lookup id = some message ∧
        Fits message id answer value next ∧
        Remembered engine.state message.storeKey value state := by
  cases loaded : engine.active with
  | none => exact .inl ⟨_, .noActiveSequence loaded⟩
  | some active =>
      cases inside : active.message? id with
      | none => exact .inl ⟨_, .messageNotFound loaded inside⟩
      | some message =>
          have found : engine.lookup id = some message := by
            simp [Engine.lookup, activeLookup, loaded, inside]
          rcases fits_or_not message id answer with
            ⟨value, next, fits⟩ | ⟨index, kind, given, outside⟩ | mismatch
          · cases keyed : message.storeKey with
            | none =>
                refine .inr ⟨message, value, next, engine.state, found, fits, ?_⟩
                rw [keyed]
                rfl
            | some key =>
                cases written : engine.state.set key value with
                | error cause => exact .inl ⟨_, .unwritable found fits keyed written⟩
                | ok state =>
                    refine .inr ⟨message, value, next, state, found, fits, ?_⟩
                    rw [keyed]
                    exact written
          · exact .inl ⟨_, .outOfRange found kind given outside⟩
          · exact .inl ⟨_, .wrongKind found mismatch⟩

/-- An answer is all or nothing.

If it is turned away, the session is as it was.  Otherwise the message has it as
a value and a successor; the value is remembered under the key of the message, if
it has one, and under no other; the result, and all that is remembered and active
in the end, are those of a run from the successor on what is remembered then, or
of no run at all when no number is left behind the message; and the result
becomes the last one exactly when there is one. -/
theorem submit_all_or_nothing (session : Session) (id : MessageId) (answer : Answer) :
    (∀ error, Refused session.engine id answer error →
      session.submit id answer = (.error error, session)) ∧
    ((¬∃ error, Refused session.engine id answer error) →
      ∃ message value next state,
        session.engine.lookup id = some message ∧
        Fits message id answer value next ∧
        (next = none → id.toNat + 1 = UInt32.size) ∧
        Remembered session.engine.state message.storeKey value state ∧
        (∀ key, state.get? key =
          if message.storeKey = some key then some value
          else session.engine.state.get? key) ∧
        ∃ outcome engine,
          (outcome, engine) =
            (match next with
            | some successor =>
                Engine.run { session.engine with state } successor
            | none =>
                (.ok { messages := [], outcome := .complete },
                  { session.engine with state })) ∧
          session.submit id answer =
            (outcome,
              { engine
                last :=
                  match outcome with
                  | .ok result => some result
                  | .error _ => session.last })) := by
  constructor
  · intro error refused
    exact submit_of_refused refused
  · intro taken
    rcases refused_or_remembered session.engine id answer with
      refused | ⟨message, value, next, state, found, fits, remembered⟩
    · exact absurd refused taken
    · refine ⟨message, value, next, state, found, fits, ?_, remembered, remembered.get?,
        (Engine.runFrom { session.engine with state } next).1,
        (Engine.runFrom { session.engine with state } next).2, ?_, ?_⟩
      · exact last_of_fits fits
      · cases next <;> rfl
      · simp only [submit_of_remembered found fits remembered, record]
        match Engine.runFrom { session.engine with state } next with
        | (.error _, _) => rfl
        | (.ok _, _) => rfl

end Session

end Dialogue.Flow
