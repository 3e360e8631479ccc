import Dialogue.Proofs.Agreement
import Dialogue.Proofs.Answers
import Dialogue.Proofs.Blocks
import Dialogue.Proofs.Lookup

/-!
# Results of runs

A run shows messages that ask nothing, and, when it waits for the user, one
message that does at the very end.  That message is in the sequence that is
active then, with its choices on offer, and exactly the answers that it asks for
are accepted.
-/

namespace Dialogue.Flow

/-! ## What a run collects -/

namespace Engine

/-- The user can be asked for a message: it is in the active sequence, and needs
the user. -/
def CanAsk (engine : Engine) (id : MessageId) : Prop :=
  ∃ message, engine.lookup id = some message ∧ message.kind.isInteractive = true

/-- The messages that a run collected fit the way it ended: the user is asked
nothing, unless the run waits; then the last message asks for an answer, and it
is the one that the run waits for. -/
inductive Collected (engine : Engine) : List Message → Outcome → Prop where
  | passive {pending : List Message} {outcome : Outcome} (plain : Plain pending)
      (settled : ∀ id, outcome ≠ .awaiting id) : Collected engine pending outcome
  | asking {before : List Message} {message : Message} {id : MessageId}
      (plain : Plain before) (found : engine.lookup id = some message)
      (interactive : message.kind.isInteractive = true) :
      Collected engine (before ++ [message]) (.awaiting id)

theorem Collected.plain {engine : Engine} {pending : List Message} {outcome : Outcome}
    (collected : engine.Collected pending outcome)
    (settled : ∀ id, outcome ≠ .awaiting id) : Plain pending := by
  cases collected with
  | passive plain _ => exact plain
  | @asking _ _ id _ _ _ => exact absurd rfl (settled id)

theorem Collected.asked {engine : Engine} {pending : List Message} {id : MessageId}
    (collected : engine.Collected pending (.awaiting id)) :
    ∃ before message, pending = before ++ [message] ∧ Plain before ∧
      engine.lookup id = some message ∧ message.kind.isInteractive = true := by
  cases collected with
  | passive _ settled => exact absurd rfl (settled id)
  | @asking before message _ plain found interactive =>
      exact ⟨before, message, rfl, plain, found, interactive⟩

end Engine

namespace Position

/-- Going on collects plain messages only. -/
theorem plain_of_reaches {position target : Position} (reached : position.Reaches target)
    (plain : Plain position.pending) : Plain target.pending := by
  obtain ⟨count, moved⟩ := reached
  induction count generalizing position with
  | zero =>
      cases moved
      exact plain
  | succ count ih =>
      cases first : position.step with
      | stop halt =>
          rw [after_succ_of_halt first] at moved
          contradiction
      | goOn next =>
          rw [after_succ_of_goOn first] at moved
          apply ih _ moved
          rcases position.step_cases with ⟨_, _, _, waiting⟩ | advanced
          · rw [first] at waiting
            contradiction
          · rw [first] at advanced
            cases advanced with
            | goOn _ passed => exact plain.append passed

theorem collected_of_haltsWith {position : Position} {last : Engine}
    {pending : List Message} {outcome : Engine.Outcome} (plain : Plain position.pending)
    (halts : position.HaltsWith (.ended last pending outcome)) :
    last.Collected pending outcome := by
  obtain ⟨target, reached, stopped⟩ := exists_reaches_of_haltsWith halts
  have before := plain_of_reaches reached plain
  rcases target.step_cases with ⟨message, found, interactive, waiting⟩ | advanced
  · rw [stopped] at waiting
    cases waiting
    exact .asking before found interactive
  · rw [stopped] at advanced
    cases advanced with
    | finished _ passed =>
        exact .passive (before.append passed) (fun _ => Engine.Outcome.noConfusion)

end Position

namespace Engine

/-- Every result of a run is made from messages that fit the way it ended. -/
theorem exists_collected_of_run {engine final : Engine} {id : MessageId} {result : Result}
    (ran : engine.run id = (.ok result, final)) :
    ∃ (last : Engine) (pending : List Message), last.Collected pending result.outcome ∧
      last.finish pending result.outcome = (.ok result, final) := by
  rcases (engine.returns_run id).of_ok ran with
    ⟨last, pending, halts, finished⟩ | ⟨cut, target, reached, finished⟩
  · exact ⟨last, pending, Position.collected_of_haltsWith plain_nil halts, finished⟩
  · refine ⟨target.engine, target.pending, ?_, ?_⟩
    · rw [cut]
      exact .passive (Position.plain_of_reaches reached plain_nil)
        (fun _ => Outcome.noConfusion)
    · rw [cut]
      exact finished

/-- What is shown at the end of a run.  Ending it changes neither the lookup nor
what texts are made from. -/
theorem display_of_finish_eq {engine final : Engine} {pending : List Message}
    {outcome : Outcome} {result : Result}
    (finished : engine.finish pending outcome = (.ok result, final)) :
    result.messages = (final.renderer.render engine.resolver pending).1 ∧
      final.lookup = engine.lookup := by
  cases finished
  exact ⟨rfl, rfl⟩

/-- The user can be asked for the message that a run waits for. -/
theorem canAsk_of_run {engine final : Engine} {id asked : MessageId} {result : Result}
    (ran : engine.run id = (.ok result, final))
    (waits : result.outcome = .awaiting asked) : final.CanAsk asked := by
  obtain ⟨last, pending, collected, finished⟩ := exists_collected_of_run ran
  rw [waits] at collected
  obtain ⟨_, message, _, _, found, interactive⟩ := collected.asked
  rw [← (display_of_finish_eq finished).2] at found
  exact ⟨message, found, interactive⟩

end Engine

/-! ## Accepted answers -/

/-- Whether an error says that an answer is for no message, or does not fit the
message. -/
def Error.isRejection : Error → Bool
  | .noActiveSequence | .messageNotFound _ | .invalidAnswer _ _ => true
  | .tooDeep _ _ | .invalidAction _ _ | .sequence _ | .state _ => false

/-- Whether an error ends a run: a walk is given up, or a sequence cannot be
loaded. -/
def Error.endsRun : Error → Bool
  | .tooDeep _ _ | .sequence _ => true
  | .noActiveSequence | .messageNotFound _ | .invalidAction _ _ | .invalidAnswer _ _
  | .state _ => false

theorem Error.isRejection_of_endsRun {error : Error} (ends : error.endsRun = true) :
    error.isRejection = false := by
  cases error with
  | tooDeep start limit => rfl
  | sequence cause => rfl
  | _ => contradiction

theorem Engine.endsRun_of_run_error {engine final : Engine} {id : MessageId}
    {error : Error} (failed : engine.run id = (.error error, final)) :
    error.endsRun = true := by
  rcases (engine.returns_run id).of_error failed with halts | ⟨_, _, rfl, _⟩
  · obtain ⟨cause, rfl⟩ := Position.exists_cause_of_failed halts
    rfl
  · rfl

/-- All that a run from a message that may be missing can come to. -/
theorem Engine.runFrom_cases (engine : Engine) (next : Option MessageId) :
    (∃ result final, engine.runFrom next = (.ok result, final) ∧
      ∀ asked, result.outcome = .awaiting asked → final.CanAsk asked) ∨
      ∃ error final, engine.runFrom next = (.error error, final) ∧
        error.endsRun = true := by
  cases next with
  | none =>
      refine .inl ⟨.nothingLeft, engine, rfl, ?_⟩
      intro asked waits
      contradiction
  | some id =>
      rw [runFrom]
      match ran : engine.run id with
      | (.ok result, final) =>
          refine .inl ⟨result, final, rfl, ?_⟩
          intro asked waits
          exact canAsk_of_run ran waits
      | (.error error, final) =>
          exact .inr ⟨error, final, rfl, endsRun_of_run_error ran⟩

/-- An answer that fits its message is turned away only because it cannot be
written down. -/
theorem Refused.isRejection_of_fits {engine : Engine} {id : MessageId} {answer : Answer}
    {error : Error} {message : Message} {value : Value} {next : Option MessageId}
    (refused : Refused engine id answer error)
    (found : engine.lookup id = some message)
    (fits : Fits message id answer value next) : error.isRejection = false := by
  cases refused with
  | noActiveSequence inactive => simp [Engine.lookup, activeLookup, inactive] at found
  | messageNotFound loaded missing =>
      simp [Engine.lookup, activeLookup, loaded, missing] at found
  | outOfRange foundToo kind given outside =>
      cases found.symm.trans foundToo
      cases given
      cases fits with
      | choice _ picked =>
          rw [List.getElem?_eq_none outside] at picked
          contradiction
  | wrongKind foundToo mismatch =>
      cases found.symm.trans foundToo
      exact absurd fits.suits mismatch
  | unwritable _ _ _ _ => rfl

namespace Session

/-- An answer is accepted: whatever becomes of it, it is not rejected. -/
def Accepts (session : Session) (id : MessageId) (answer : Answer) : Prop :=
  ∀ error, (session.submit id answer).1 = .error error → error.isRejection = false

theorem not_accepts_of_refused {session : Session} {id : MessageId} {answer : Answer}
    {error : Error} (refused : Refused session.engine id answer error)
    (rejected : error.isRejection = true) : ¬session.Accepts id answer := by
  intro accepted
  have accepting := accepted error (congrArg Prod.fst (submit_of_refused refused))
  rw [rejected] at accepting
  contradiction

/-- The answers to a message that are accepted are the ones that fit it. -/
theorem accepts_iff {session : Session} {id : MessageId} {message : Message}
    (found : session.engine.lookup id = some message) (answer : Answer) :
    session.Accepts id answer ↔ ∃ value next, Fits message id answer value next := by
  constructor
  · intro accepted
    rcases fits_or_not message id answer with fits | ⟨index, kind, given, outside⟩ | mismatch
    · exact fits
    · exact absurd accepted (not_accepts_of_refused (.outOfRange found kind given outside) rfl)
    · exact absurd accepted (not_accepts_of_refused (.wrongKind found mismatch) rfl)
  · rintro ⟨value, next, fits⟩ error failed
    rcases refused_or_remembered session.engine id answer with
      ⟨cause, refused⟩ | ⟨second, _, _, _, foundToo, fitsToo, remembered⟩
    · rw [submit_of_refused refused] at failed
      cases failed
      exact refused.isRejection_of_fits found fits
    · rw [submit_of_remembered foundToo fitsToo remembered] at failed
      rcases Engine.runFrom_cases _ _ with ⟨_, _, ran, _⟩ | ⟨cause, _, ran, ends⟩
      · rw [ran] at failed
        contradiction
      · rw [ran] at failed
        cases failed
        exact Error.isRejection_of_endsRun ends

theorem accepts_choice_iff {session : Session} {id : MessageId} {message : Message}
    (found : session.engine.lookup id = some message) (index : Nat) :
    session.Accepts id (.choice index) ↔
      message.kind = .choice ∧ index < message.choices.length := by
  rw [accepts_iff found]
  constructor
  · rintro ⟨value, next, fits⟩
    cases fits with
    | choice kind picked => exact ⟨kind, (List.getElem?_eq_some_iff.mp picked).1⟩
  · rintro ⟨kind, inside⟩
    exact ⟨_, _, .choice kind (List.getElem?_eq_getElem inside)⟩

theorem accepts_text_iff {session : Session} {id : MessageId} {message : Message}
    (found : session.engine.lookup id = some message) (s : String) :
    session.Accepts id (.text s) ↔ message.kind = .textInput := by
  rw [accepts_iff found]
  constructor
  · rintro ⟨value, next, fits⟩
    exact fits.suits
  · intro kind
    exact ⟨_, _, .text s kind⟩

end Session

/-! ## Results that wait -/

namespace Engine

/-- Shown messages put a question: they end with the block of a message of the
active sequence, which is the only one among them that needs the user; the end of
the block offers all of its choices; and its answers are accepted. -/
structure Asks (engine : Engine) (messages : List DisplayMessage) (id : MessageId)
    (message : Message) : Prop where
  found : engine.lookup id = some message
  interactive : message.kind.isInteractive = true
  shown : ∃ before block, messages = before ++ block ∧
    (∀ displayed ∈ before, displayed.kind.isInteractive = false) ∧
    (∀ displayed ∈ block, displayed.id = id ∧ displayed.kind.isInteractive = true) ∧
    engine.renderer.IsBlock message block ∧
    ∀ displayed, block.getLast? = some displayed →
      displayed.choices.map (·.index) = List.range message.choices.length
  choice : ∀ last index, Session.Accepts { engine, last } id (.choice index) ↔
    message.kind = .choice ∧ index < message.choices.length
  text : ∀ last s, Session.Accepts { engine, last } id (.text s) ↔
    message.kind = .textInput

/-- Plain messages are shown without a need for the user. -/
theorem isInteractive_of_mem_render {renderer : Renderer} {resolver : Content.Resolver}
    {pending : List Message} (plain : Plain pending) {displayed : DisplayMessage}
    (member : displayed ∈ (renderer.render resolver pending).1) :
    displayed.kind.isInteractive = false := by
  obtain ⟨message, inside, _, _, kind⟩ := Renderer.exists_of_mem_render member
  rw [kind]
  exact (plain message inside).1

theorem isRouting_of_isInteractive {kind : MessageKind}
    (interactive : kind.isInteractive = true) : kind.isRouting = false := by
  cases kind with
  | choice => rfl
  | textInput => rfl
  | _ => contradiction

/-- A message behind plain ones is asked when it is shown. -/
theorem asks_render {engine : Engine} (resolver : Content.Resolver)
    {before : List Message} {message : Message} {id : MessageId} (plain : Plain before)
    (found : engine.lookup id = some message)
    (interactive : message.kind.isInteractive = true) :
    engine.Asks (engine.renderer.render resolver (before ++ [message])).1 id message where
  found := found
  interactive := interactive
  shown := by
    have block := engine.renderer.isBlock_render_singleton
      (engine.renderer.render resolver before).2 (isRouting_of_isInteractive interactive)
    refine ⟨_, _, Renderer.render_append _ resolver before [message], ?_, ?_, block, ?_⟩
    · intro displayed member
      exact isInteractive_of_mem_render plain member
    · intro displayed member
      obtain ⟨sameId, sameKind, _⟩ := block.same displayed member
      rw [sameId, sameKind]
      exact ⟨id_of_activeLookup_eq_some found, interactive⟩
    · intro displayed final
      rw [(block.last displayed final).indices, List.range_eq_range']
  choice := by
    intro last index
    exact Session.accepts_choice_iff found index
  text := by
    intro last s
    exact Session.accepts_text_iff found s

/-- The result of a run.

It ends in one of three ways.  No routing message is shown, and a message that
needs the user only when the run waits.  A run that waits for the user puts the
message that it waits for as a question, which the session takes answers to. -/
theorem result_of_run {engine final : Engine} {id : MessageId} {result : Result}
    (ran : engine.run id = (.ok result, final)) :
    [result.isAwaiting, result.isComplete, result.isTruncated].count true = 1 ∧
    (∀ displayed ∈ result.messages, displayed.kind.isRouting = false) ∧
    (result.isAwaiting = false →
      ∀ displayed ∈ result.messages, displayed.kind.isInteractive = false) ∧
    (∀ asked, result.outcome = .awaiting asked →
      ∃ message, final.Asks result.messages asked message) := by
  obtain ⟨last, pending, collected, finished⟩ := exists_collected_of_run ran
  obtain ⟨messages, lookup⟩ := display_of_finish_eq finished
  refine ⟨?_, ?_, ?_, ?_⟩
  · rw [Result.isTruncated, Result.isComplete, Result.isAwaiting]
    cases result.outcome <;> rfl
  · intro displayed member
    rw [messages] at member
    obtain ⟨message, _, visible, _, kind⟩ := Renderer.exists_of_mem_render member
    rw [kind]
    exact visible
  · intro settled displayed member
    rw [messages] at member
    apply isInteractive_of_mem_render _ member
    apply collected.plain
    intro asked waits
    simp [Result.isAwaiting, waits] at settled
  · intro asked waits
    rw [waits] at collected
    obtain ⟨before, message, rfl, plain, found, interactive⟩ := collected.asked
    rw [← lookup] at found
    rw [messages]
    exact ⟨message, asks_render _ plain found interactive⟩

/-- An engine that has some sequences to load, and nothing else. -/
def ofSequences (sequences : List Dialogue.Sequence) : Engine :=
  .new {}
    { year := 2024, month := 5, day := 15
      year_mem := by decide
      month_mem := by decide
      day_mem := by decide }
    (.ofList sequences) (.memory .empty) (.inMemory .empty {})

/-- A conversation that says hello and offers two choices. -/
def greeting : Engine :=
  { ofSequences [] with
    active := some <| .of
      { id := "greeting"
        messages :=
          [{ id := 1, kind := .text, text := "Hello" },
            { id := 2, kind := .choice, text := "More?",
              choices := [{ text := "Yes" }, { text := "No" }] }] } }

theorem result_of_greeting :
    ∃ result final message, greeting.run 1 = (.ok result, final) ∧
      result.outcome = .awaiting 2 ∧ final.Asks result.messages 2 message := by
  have waiting : ∃ result final, greeting.run 1 = (.ok result, final) ∧
      result.outcome = .awaiting 2 := ⟨_, _, rfl, rfl⟩
  obtain ⟨result, final, ran, waits⟩ := waiting
  obtain ⟨_, _, _, asking⟩ := result_of_run ran
  obtain ⟨message, asks⟩ := asking 2 waits
  exact ⟨result, final, message, ran, waits, asks⟩

end Engine

end Dialogue.Flow
