import Dialogue.Console.Program
import Dialogue.Proofs.IdleQueries
import Dialogue.Proofs.Results

/-!
# Lines that are turned away

A line that is no number of a choice, or whose answer does not fit, leaves the session of
a play as it is.  So such lines might as well not have been typed: without any of them the
play shows the same messages, leaves the same files and ends in the same way, and only the
prompts for these lines and the words that turned them away are missing.
-/

namespace Dialogue.Console

open Dialogue.Flow
open Content.Resolver (unmarked)

/-! ## Exchanges -/

/-- Whether a line was turned away: it is no number of a choice, or its answer does not
fit. -/
def Event.isRejection : Event → Bool
  | .notANumber => true
  | .failed (.invalidAnswer _ _) => true
  | _ => false

/-- Whether an event asks for a line. -/
def Event.isPrompt : Event → Bool
  | .prompt => true
  | _ => false

/-- What is seen of a play on lines: for each line that is answered the prompt and what
the line came to, and at last what ends the play. -/
def exchanges (session : Session) : List String → List (List Event)
  | [] =>
      match session.awaiting with
      | none => [closing session]
      | some _ => [[.prompt]]
  | line :: rest =>
      match session.awaiting with
      | none => [closing session]
      | some id =>
          match takeTurn? session id line with
          | none => [[.prompt]]
          | some (event, next) => [.prompt, event] :: exchanges next rest

/-- Whether a line was turned away in an exchange. -/
def isRejected : List Event → Bool
  | [.prompt, event] => event.isRejection
  | _ => false

/-- The exchanges are what is seen of a play, in order. -/
theorem flatten_exchanges (session : Session) (lines : List String) :
    (exchanges session lines).flatten = (playLines session lines).1 := by
  induction lines generalizing session with
  | nil =>
      rw [exchanges, playLines]
      cases session.awaiting with
      | none => simp
      | some _ => rfl
  | cons line rest ih =>
      rw [exchanges, playLines]
      cases session.awaiting with
      | none => simp
      | some id =>
          simp only
          match takeTurn? session id line with
          | none => rfl
          | some (event, next) => simp [ih next]

/-! ## Lines that are turned away -/

/-- An answer that does not fit leaves the session as it is. -/
theorem session_of_invalidAnswer {session next : Session} {id cause : MessageId}
    {answer : Answer} {fault : AnswerFault}
    (came : session.submit id answer = (.error (.invalidAnswer cause fault), next)) :
    next = session := by
  rcases Session.refused_or_remembered session.engine id answer with
    ⟨error, refused⟩ | ⟨_, _, _, _, found, fits, remembered⟩
  · rw [Session.submit_of_refused refused] at came
    cases came
    rfl
  · -- An answer that is taken can only fail behind it, and for other reasons.
    rw [Session.submit_of_remembered found fits remembered] at came
    rcases Engine.runFrom_cases _ _ with ⟨_, _, ran, _⟩ | ⟨cause, _, ran, ends⟩
    · rw [ran] at came
      cases came
    · rw [ran] at came
      cases came
      cases ends

/-- What a line comes to is no prompt. -/
theorem isPrompt_of_takeTurn? {session next : Session} {id : MessageId} {line : String}
    {event : Event} (turn : takeTurn? session id line = some (event, next)) :
    event.isPrompt = false := by
  simp only [takeTurn?] at turn
  split at turn
  · cases turn
  · simp only [answerLine] at turn
    split at turn
    · cases turn
      rfl
    · split at turn
      · cases turn
        rfl
      · cases turn
        rfl

/-- A line that is turned away leaves the session as it is. -/
theorem session_of_isRejection {session next : Session} {id : MessageId} {line : String}
    {event : Event} (turn : takeTurn? session id line = some (event, next))
    (rejection : event.isRejection = true) : next = session := by
  simp only [takeTurn?] at turn
  split at turn
  · cases turn
  · simp only [answerLine] at turn
    split at turn
    · cases turn
      rfl
    · split at turn
      · rename_i error _ came
        cases turn
        cases error with
        | invalidAnswer cause fault => exact session_of_invalidAnswer came
        | _ => cases rejection
      · cases turn
        cases rejection

/-- The marks are at exchanges in which a line was turned away. -/
def MarksRejected (marks : List Bool) (seen : List (List Event)) : Prop :=
  ∀ place : Nat, marks[place]? = some true → seen[place]?.any isRejected = true

namespace MarksRejected

variable {mark : Bool} {marks : List Bool} {first : List Event} {seen : List (List Event)}

theorem tail (marked : MarksRejected (mark :: marks) (first :: seen)) :
    MarksRejected marks seen :=
  fun place => marked (place + 1)

theorem isRejected_head (marked : MarksRejected (true :: marks) (first :: seen)) :
    isRejected first = true :=
  marked 0 rfl

/-- What ends a play is no line that is turned away, so it stays. -/
theorem unmarked_singleton {ending : List Event} (kept : isRejected ending = false)
    (marked : MarksRejected marks [ending]) : unmarked marks [ending] = [ending] := by
  rcases marks with _ | ⟨_ | _, marks⟩
  · rfl
  · cases marks with
    | nil => rfl
    | cons mark marks => cases mark <;> rfl
  · rw [marked.isRejected_head] at kept
    contradiction

end MarksRejected

/-- What can end a play: no line is turned away in it, and at most one is asked for. -/
structure IsEnding (ending : List Event) : Prop where
  kept : isRejected ending = false
  prompts : ending.countP Event.isPrompt ≤ 1

theorem isEnding_closing (session : Session) : IsEnding (closing session) := by
  rw [closing]
  cases session.last with
  | none => exact ⟨rfl, Nat.zero_le 1⟩
  | some result => exact ⟨rfl, Nat.zero_le 1⟩

theorem isEnding_prompt : IsEnding [.prompt] :=
  ⟨rfl, Nat.le_refl 1⟩

/-- A play without lines ends at once. -/
theorem exists_exchanges_nil (session : Session) :
    ∃ ending, IsEnding ending ∧ exchanges session [] = [ending] := by
  rw [exchanges]
  cases session.awaiting with
  | none => exact ⟨closing session, isEnding_closing session, rfl⟩
  | some id => exact ⟨[.prompt], isEnding_prompt, rfl⟩

/-- A line ends the play, whatever follows it, because no message waits or because the
line asks to quit; or it is answered, with no prompt, and leaves the session as it is if it
is turned away. -/
theorem line_cases (session : Session) (line : String) :
    (∃ ending, IsEnding ending ∧ ∀ others,
        exchanges session (line :: others) = [ending] ∧
          (playLines session (line :: others)).2 = session) ∨
      ∃ event next, event.isPrompt = false ∧
        (event.isRejection = true → next = session) ∧ ∀ others,
        exchanges session (line :: others) = [.prompt, event] :: exchanges next others ∧
          (playLines session (line :: others)).2 = (playLines next others).2 := by
  cases waits : session.awaiting with
  | none =>
      refine .inl ⟨closing session, isEnding_closing session, fun others => ?_⟩
      simp [exchanges, playLines, waits]
  | some id =>
      match turn : takeTurn? session id line with
      | none =>
          refine .inl ⟨[.prompt], isEnding_prompt, fun others => ?_⟩
          simp [exchanges, playLines, waits, turn]
      | some (event, next) =>
          refine .inr ⟨event, next, isPrompt_of_takeTurn? turn, session_of_isRejection turn,
            fun others => ?_⟩
          simp [exchanges, playLines, waits, turn]

theorem unmarked_nil (marks : List Bool) : unmarked marks ([] : List String) = [] := by
  rcases marks with _ | ⟨_ | _, marks⟩ <;> rfl

/-- Lines that are turned away and left out take their exchanges with them, and nothing
else. -/
theorem exchanges_unmarked {session : Session} {lines : List String} {marks : List Bool}
    (marked : MarksRejected marks (exchanges session lines)) :
    exchanges session (unmarked marks lines) = unmarked marks (exchanges session lines) ∧
      (playLines session (unmarked marks lines)).2 = (playLines session lines).2 := by
  induction lines generalizing session marks with
  | nil =>
      obtain ⟨ending, last, seen⟩ := exists_exchanges_nil session
      rw [seen] at marked
      rw [unmarked_nil, seen, marked.unmarked_singleton last.kept]
      exact ⟨rfl, rfl⟩
  | cons line rest ih =>
      rcases marks with _ | ⟨mark, marks⟩
      · exact ⟨rfl, rfl⟩
      · rcases line_cases session line with
          ⟨ending, last, ends⟩ | ⟨event, next, _, stays, goesOn⟩
        · rw [(ends rest).1] at marked
          cases mark with
          | true => exact absurd (marked.isRejected_head) (Bool.eq_false_iff.mp last.kept)
          | false =>
              rw [(ends rest).1, marked.unmarked_singleton last.kept, (ends rest).2]
              exact ends (unmarked marks rest)
        · rw [(goesOn rest).1] at marked
          cases mark with
          | true =>
              -- The session behind a line that is left out is the one before it.
              obtain rfl := stays marked.isRejected_head
              rw [(goesOn rest).1, (goesOn rest).2]
              exact ih marked.tail
          | false =>
              obtain ⟨seen, left⟩ := ih marked.tail
              rw [(goesOn rest).1, (goesOn rest).2, unmarked, unmarked, (goesOn _).1,
                (goesOn _).2, seen, left]
              exact ⟨rfl, rfl⟩

/-- At most one line more is asked for than there are. -/
theorem countP_isPrompt_playLines (session : Session) (lines : List String) :
    (playLines session lines).1.countP Event.isPrompt ≤ lines.length + 1 := by
  rw [← flatten_exchanges]
  induction lines generalizing session with
  | nil =>
      obtain ⟨ending, last, seen⟩ := exists_exchanges_nil session
      rw [seen, List.flatten_singleton]
      exact last.prompts
  | cons line rest ih =>
      rcases line_cases session line with
        ⟨ending, last, ends⟩ | ⟨event, next, noPrompt, _, goesOn⟩
      · rw [(ends rest).1, List.flatten_singleton]
        exact last.prompts.trans (Nat.le_add_left 1 _)
      · have asked : [Event.prompt, event].countP Event.isPrompt = 1 := by
          rw [List.countP_cons_of_pos rfl, List.countP_cons_of_neg (by simp [noPrompt]),
            List.countP_nil]
        rw [(goesOn rest).1, List.flatten_cons, List.countP_append, asked, List.length_cons,
          Nat.add_comm 1]
        exact Nat.succ_le_succ (ih next)

/-! ## What is seen without them -/

/-- What is not seen in exchanges that turn a line away is not missed without them. -/
theorem filterMap_flatten_unmarked {β : Type} {view : Event → Option β}
    (prompt : view .prompt = none)
    (rejection : ∀ event : Event, event.isRejection = true → view event = none)
    {seen : List (List Event)} {marks : List Bool} (marked : MarksRejected marks seen) :
    (unmarked marks seen).flatten.filterMap view = seen.flatten.filterMap view := by
  induction seen generalizing marks with
  | nil => rcases marks with _ | ⟨_ | _, marks⟩ <;> rfl
  | cons first rest ih =>
      rcases marks with _ | ⟨_ | _, marks⟩
      · rfl
      · rw [unmarked, List.flatten_cons, List.flatten_cons, List.filterMap_append,
          List.filterMap_append, ih marked.tail]
      · have nothing : first.filterMap view = [] := by
          have rejected := marked.isRejected_head
          rw [isRejected.eq_def] at rejected
          split at rejected
          · rename_i event
            simp [prompt, rejection event rejected]
          · contradiction
        rw [unmarked, List.flatten_cons, List.filterMap_append, nothing, ih marked.tail]
        rfl

/-! ## Plays -/

/-- The messages that are shown in an event. -/
def Event.batch? : Event → Option (List DisplayMessage)
  | .shown messages => some messages
  | _ => none

/-- The end that is told in an event. -/
def Event.outcome? : Event → Option Engine.Outcome
  | .closed outcome => some outcome
  | _ => none

/-- What is seen at the beginning of a play, and the session behind it, if the play
starts. -/
def begin? (files : Files) (today : Date) (folder : Path) (sequence : String)
    (content state config : Option Path) : Option (List Event × Session) :=
  match openSession files today folder content state config with
  | .error _ => none
  | .ok session =>
      match startPlay session sequence with
      | (.error _, _) => none
      | (.ok opening, session) => some (opening, session)

/-- The report of a play that starts. -/
theorem runPlay_of_begin? {files : Files} {today : Date} {folder : Path} {sequence : String}
    {content state config : Option Path} {opening : List Event} {session : Session}
    (begins : begin? files today folder sequence content state config =
      some (opening, session)) (lines : List String) :
    runPlay files today folder sequence content state config lines =
      succeed (playLines session lines).2.engine.state.files
        (screen (opening ++ (playLines session lines).1)) := by
  rw [begin?] at begins
  rw [runPlay]
  cases opened : openSession files today folder content state config with
  | error failure =>
      rw [opened] at begins
      cases begins
  | ok fresh =>
      simp only [opened] at begins ⊢
      generalize startPlay fresh sequence = started at begins ⊢
      obtain ⟨error | shown, next⟩ := started
      · cases begins
      · cases begins
        rfl

/-- A play begins with the first messages and with how to quit. -/
theorem exists_opening_of_begin? {files : Files} {today : Date} {folder : Path}
    {sequence : String} {content state config : Option Path} {opening : List Event}
    {session : Session}
    (begins : begin? files today folder sequence content state config =
      some (opening, session)) : ∃ messages, opening = [.shown messages, .quitHint] := by
  rw [begin?] at begins
  split at begins
  · cases begins
  · split at begins
    · cases begins
    · rename_i started
      cases begins
      rw [startPlay] at started
      split at started
      · cases started
      · cases started
        exact ⟨_, rfl⟩

/-- Lines that are turned away might as well not have been typed.

Take a play that starts, and lines of which some that are turned away are marked.  Without
the marked lines the play ends with the same code and leaves the same files.  On the
screen the exchanges of the marked lines, each a prompt and the words that turned the line
away, are missing, and nothing else; so the same messages are shown in the same order, and
the same end is told.  And at most one line more is asked for than there are. -/
theorem runPlay_unmarked {files : Files} {today : Date} {folder : Path} {sequence : String}
    {content state config : Option Path} {opening : List Event} {session : Session}
    (begins : begin? files today folder sequence content state config =
      some (opening, session)) (lines : List String) (marks : List Bool)
    (marked : MarksRejected marks (exchanges session lines)) :
    let whole := runPlay files today folder sequence content state config lines
    let fewer := runPlay files today folder sequence content state config
      (unmarked marks lines)
    let seen := opening ++ (exchanges session lines).flatten
    let left := opening ++ (unmarked marks (exchanges session lines)).flatten
    (fewer.exitCode = whole.exitCode ∧ fewer.errors = whole.errors ∧
        fewer.files = whole.files) ∧
      (whole.output = screen seen ∧ fewer.output = screen left) ∧
      left.filterMap Event.batch? = seen.filterMap Event.batch? ∧
      left.filterMap Event.outcome? = seen.filterMap Event.outcome? ∧
      seen.countP Event.isPrompt ≤ lines.length + 1 := by
  intro whole fewer seen left
  obtain ⟨sameExchanges, sameSession⟩ := exchanges_unmarked marked
  have wholly : whole = _ := runPlay_of_begin? begins lines
  have fewerly : fewer = _ := runPlay_of_begin? begins (unmarked marks lines)
  rw [← flatten_exchanges] at wholly fewerly
  rw [sameExchanges, sameSession] at fewerly
  have view {β : Type} {view : Event → Option β} (prompt : view .prompt = none)
      (rejection : ∀ event : Event, event.isRejection = true → view event = none) :
      left.filterMap view = seen.filterMap view := by
    rw [List.filterMap_append, List.filterMap_append,
      filterMap_flatten_unmarked prompt rejection marked]
  refine ⟨?_, ?_, ?_, ?_, ?_⟩
  · rw [wholly, fewerly]
    exact ⟨rfl, rfl, rfl⟩
  · rw [wholly, fewerly]
    exact ⟨rfl, rfl⟩
  · refine view rfl fun event rejection => ?_
    cases event with
    | shown messages => cases rejection
    | _ => rfl
  · refine view rfl fun event rejection => ?_
    cases event with
    | closed outcome => cases rejection
    | _ => rfl
  · obtain ⟨messages, rfl⟩ := exists_opening_of_begin? begins
    rw [List.countP_append, flatten_exchanges]
    exact (Nat.zero_add _).trans_le (countP_isPrompt_playLines session lines)

/-- A folder with a sequence that asks for a choice. -/
def choiceFolder : Files :=
  let script := "\x7b\"id\": \"a\", \"messages\": [\x7b\"id\": 1, \"type\": \"choice\", " ++
    "\"text\": \"Well?\", \"choices\": [\x7b\"text\": \"Yes\"\x7d]\x7d]\x7d"
  { entries := [(["a.json"], .file script.toUTF8)] }

/-- The play of the choice on some lines. -/
def playChoice (lines : List String) : Report :=
  runPlay choiceFolder (Engine.ofSequences []).today (pathOf ".") "a" none none none lines

/-- Of three lines that are turned away the first and the last are left out. -/
theorem runPlay_unmarked_choiceFolder :
    ∃ opening session,
      begin? choiceFolder ⟨2024, 5, 15, by decide, by decide, by decide⟩ (pathOf ".") "a" none
          none none = some (opening, session) ∧
        MarksRejected [true, false, true] (exchanges session ["x", "7", "", "1"]) ∧
        (playChoice ["7", "1"]).files = (playChoice ["x", "7", "", "1"]).files ∧
        (playChoice ["7", "1"]).output =
          screen (opening ++
            (unmarked [true, false, true] (exchanges session ["x", "7", "", "1"])).flatten) := by
  have checked : (begin? choiceFolder ⟨2024, 5, 15, by decide, by decide, by decide⟩
      (pathOf ".") "a" none none none).any (fun began =>
        (exchanges began.2 ["x", "7", "", "1"]).map isRejected ==
          [true, true, true, false, false]) = true := by decide +kernel
  obtain ⟨⟨opening, session⟩, begins, seen⟩ := (Option.any_eq_true _ _).mp checked
  have rejected : (exchanges session ["x", "7", "", "1"]).map isRejected =
      [true, true, true, false, false] := eq_of_beq seen
  have marked : MarksRejected [true, false, true]
      (exchanges session ["x", "7", "", "1"]) := by
    intro place mark
    have there : (exchanges session ["x", "7", "", "1"])[place]?.map isRejected =
        [true, true, true, false, false][place]? := by rw [← List.getElem?_map, rejected]
    match place with
    | 0 =>
        rw [Option.any_eq_true]
        simpa using there
    | 1 => cases mark
    | 2 =>
        rw [Option.any_eq_true]
        simpa using there
    | _ + 3 => simp at mark
  have same := runPlay_unmarked begins ["x", "7", "", "1"] [true, false, true] marked
  exact ⟨opening, session, begins, marked, same.1.2.2, same.2.1.2⟩

end Dialogue.Console
