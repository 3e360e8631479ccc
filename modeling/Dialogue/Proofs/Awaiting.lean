import Dialogue.Proofs.Results

/-!
# The message that waits

A session knows the message that waits through the result of the last call that
succeeded.  A call that succeeds leaves a message waiting only if the user can be
asked for it.  A call that fails leaves the last result as it is, but its run may
have made another sequence active before it failed, and the message that still
waits need not be in there.
-/

namespace Dialogue.Flow

/-! ## Calls -/

/-- What the user of a session does. -/
inductive Call where
  | start (sequence : String)
  | submit (id : MessageId) (answer : Answer)

theorem Engine.canAsk_congr {first second : Engine} (same : first.active = second.active)
    (id : MessageId) : first.CanAsk id ↔ second.CanAsk id := by
  rw [CanAsk, CanAsk, lookup, lookup, same]

namespace Session

/-- Do a call. -/
def perform (session : Session) : Call → Except Error Engine.Result × Session
  | .start sequence => session.start sequence
  | .submit id answer => session.submit id answer

/-- The session behind some calls, which may succeed or fail. -/
def performAll (session : Session) : List Call → Session
  | [] => session
  | call :: rest => (session.perform call).2.performAll rest

theorem performAll_append (session : Session) (first second : List Call) :
    session.performAll (first ++ second) =
      (session.performAll first).performAll second := by
  induction first generalizing session with
  | nil => rfl
  | cons call rest ih => exact ih (session.perform call).2

/-- All that a call can do: succeed, with a last result that waits for a message
that the user can be asked for, or for none; change nothing; or fail on a run,
which leaves the last result. -/
inductive Performs (session : Session) : Except Error Engine.Result × Session → Prop where
  | succeeded {result : Engine.Result} {engine : Engine}
      (asks : ∀ id, result.outcome = .awaiting id → engine.CanAsk id) :
      Performs session (.ok result, { engine, last := some result })
  | refused (error : Error) : Performs session (.error error, session)
  | failed {error : Error} (engine : Engine) (ends : error.endsRun = true) :
      Performs session (.error error, { session with engine })

theorem performs_record_runFrom (session : Session) (engine : Engine)
    (next : Option MessageId) :
    session.Performs (session.record (engine.runFrom next)) := by
  rcases engine.runFrom_cases next with
    ⟨result, final, ran, asks⟩ | ⟨error, final, ran, ends⟩
  · rw [ran]
    exact .succeeded asks
  · rw [ran]
    exact .failed final ends

theorem perform_cases (session : Session) (call : Call) :
    session.Performs (session.perform call) := by
  cases call with
  | start sequence =>
      rw [perform, start]
      cases loaded : loadSequence session.engine.source session.engine.state.files sequence with
      | error error =>
          simp only [Engine.load, loaded]
          exact .refused error
      | ok active =>
          simp only [Engine.load, loaded]
          exact performs_record_runFrom session _ _
  | submit id answer =>
      rw [perform]
      rcases refused_or_remembered session.engine id answer with
        ⟨error, refused⟩ | ⟨_, _, _, _, found, fits, remembered⟩
      · rw [submit_of_refused refused]
        exact .refused error
      · rw [submit_of_remembered found fits remembered]
        exact performs_record_runFrom session _ _

/-! ## Failing calls -/

/-- Each of some calls fails. -/
inductive Fails : Session → List Call → Prop where
  | nil (session : Session) : Fails session []
  | cons {session : Session} {call : Call} {rest : List Call} {error : Error}
      (failed : (session.perform call).1 = .error error)
      (others : Fails (session.perform call).2 rest) : Fails session (call :: rest)

/-- A call that fails leaves the message that waits. -/
theorem awaiting_of_perform_error {session : Session} {call : Call} {error : Error}
    (failed : (session.perform call).1 = .error error) :
    (session.perform call).2.awaiting = session.awaiting := by
  have performs := session.perform_cases call
  match came : session.perform call with
  | (outcome, behind) =>
      rw [came] at performs failed
      cases performs with
      | succeeded asks => contradiction
      | refused error => rfl
      | failed engine ends => rfl

/-- Some calls fail, or one among them is the last that succeeds. -/
theorem fails_or_succeeds (session : Session) (calls : List Call) :
    session.Fails calls ∨ ∃ earlier call later result,
      calls = earlier ++ call :: later ∧
      ((session.performAll earlier).perform call).1 = .ok result ∧
      (session.performAll (earlier ++ [call])).Fails later := by
  induction calls generalizing session with
  | nil => exact .inl (.nil session)
  | cons call rest ih =>
      rcases ih (session.perform call).2 with
        fails | ⟨earlier, found, later, result, rfl, succeeded, fails⟩
      · cases came : (session.perform call).1 with
        | error error => exact .inl (.cons came fails)
        | ok result => exact .inr ⟨[], call, rest, result, rfl, came, fails⟩
      · exact .inr ⟨call :: earlier, found, later, result, rfl, succeeded, fails⟩

theorem Fails.awaiting {session : Session} {calls : List Call} (fails : session.Fails calls) :
    (session.performAll calls).awaiting = session.awaiting := by
  induction fails with
  | nil session => rfl
  | cons failed _ ih => exact ih.trans (awaiting_of_perform_error failed)

/-- Behind a call that succeeded the user can be asked for the message that
waits. -/
theorem canAsk_of_perform_ok {session : Session} {call : Call} {result : Engine.Result}
    {id : MessageId} (succeeded : (session.perform call).1 = .ok result)
    (waiting : (session.perform call).2.awaiting = some id) :
    (session.perform call).2.engine.CanAsk id := by
  have performs := session.perform_cases call
  match came : session.perform call with
  | (outcome, behind) =>
      rw [came] at performs succeeded waiting
      cases performs with
      | @succeeded result engine asks =>
          apply asks
          obtain ⟨messages, outcome⟩ := result
          cases outcome with
          | awaiting asked =>
              cases waiting
              rfl
          | complete => contradiction
          | truncated => contradiction
      | refused error => contradiction
      | failed engine ends => contradiction

/-- A run that failed among some calls left another active sequence behind, in
which the user cannot be asked for a message, and it is still active at the
end. -/
inductive Strays (session : Session) (id : MessageId) : List Call → Prop where
  | intro (before : List Call) {call : Call} {rest : List Call} {error : Error}
      (failed : ((session.performAll before).perform call).1 = .error error)
      (ends : error.endsRun = true)
      (replaced : (session.performAll (before ++ [call])).engine.active ≠
        (session.performAll before).engine.active)
      (lost : ¬(session.performAll (before ++ [call])).engine.CanAsk id)
      (kept : (session.performAll (before ++ call :: rest)).engine.active =
        (session.performAll (before ++ [call])).engine.active) :
      Strays session id (before ++ call :: rest)

/-- Only a failing run makes another sequence active. -/
theorem endsRun_of_replaced {session : Session} {call : Call} {error : Error}
    (failed : (session.perform call).1 = .error error)
    (replaced : (session.perform call).2.engine.active ≠ session.engine.active) :
    error.endsRun = true := by
  have performs := session.perform_cases call
  match came : session.perform call with
  | (outcome, behind) =>
      rw [came] at performs failed replaced
      cases performs with
      | succeeded asks => contradiction
      | refused error => exact absurd rfl replaced
      | failed engine ends =>
          cases failed
          exact ends

/-- If another sequence is active behind failing calls, the run of one of them
left it behind. -/
theorem strays_of_replaced {session : Session} {id : MessageId} {calls : List Call}
    (fails : session.Fails calls)
    (replaced : (session.performAll calls).engine.active ≠ session.engine.active)
    (lost : ¬(session.performAll calls).engine.CanAsk id) : session.Strays id calls := by
  induction fails with
  | nil session => exact absurd rfl replaced
  | @cons session call rest error failed others ih =>
      by_cases kept : ((session.perform call).2.performAll rest).engine.active =
          (session.perform call).2.engine.active
      · have swapped : (session.perform call).2.engine.active ≠ session.engine.active := by
          intro same
          exact replaced (kept.trans same)
        exact .intro [] failed (endsRun_of_replaced failed swapped) swapped
          (fun asks => lost ((Engine.canAsk_congr kept id).mpr asks)) kept
      · cases ih kept lost with
        | intro before failedThere ends replacedThere lostThere keptThere =>
            exact .intro (call :: before) failedThere ends replacedThere lostThere keptThere

/-- Behind failing calls the user can be asked for a message as before, unless a
run strayed. -/
theorem canAsk_iff_of_fails {session : Session} {id : MessageId} {calls : List Call}
    (asks : session.engine.CanAsk id) (fails : session.Fails calls) :
    (session.performAll calls).engine.CanAsk id ↔ ¬session.Strays id calls := by
  constructor
  · intro still strays
    cases strays with
    | intro _ _ _ _ lost kept => exact lost ((Engine.canAsk_congr kept id).mp still)
  · intro steady
    by_cases lost : (session.performAll calls).engine.CanAsk id
    · exact lost
    · refine absurd (strays_of_replaced fails ?_ lost) steady
      intro same
      exact lost ((Engine.canAsk_congr same id).mpr asks)

/-- The message that waits.

It was left waiting by a call that succeeded, and the user could be asked for it
then; the calls since have failed.  The user can be asked for it now unless the run
of one of these left another active sequence behind, in which the user cannot. -/
theorem canAsk_awaiting_iff {engine : Engine} {calls : List Call} {id : MessageId}
    (waiting : (performAll { engine } calls).awaiting = some id) :
    ∃ earlier later,
      calls = earlier ++ later ∧
      (performAll { engine } earlier).awaiting = some id ∧
      (performAll { engine } earlier).engine.CanAsk id ∧
      (performAll { engine } earlier).Fails later ∧
      ((performAll { engine } calls).engine.CanAsk id ↔
        ¬(performAll { engine } earlier).Strays id later) := by
  rcases fails_or_succeeds { engine } calls with
    fails | ⟨earlier, call, later, result, rfl, succeeded, fails⟩
  · rw [fails.awaiting] at waiting
    contradiction
  · have behind (rest : List Call) : performAll { engine } (earlier ++ call :: rest) =
        (performAll { engine } (earlier ++ [call])).performAll rest := by
      rw [← performAll_append, List.append_assoc, List.singleton_append]
    rw [behind, fails.awaiting] at waiting
    have asks : (performAll { engine } (earlier ++ [call])).engine.CanAsk id := by
      rw [performAll_append] at waiting ⊢
      exact canAsk_of_perform_ok succeeded waiting
    refine ⟨earlier ++ [call], later, ?_, waiting, asks, fails, ?_⟩
    · rw [List.append_assoc, List.singleton_append]
    · rw [behind]
      exact canAsk_iff_of_fails asks fails

/-- Two sequences: the first one asks for a text and moves on to the second one,
of which the only message leads to itself. -/
def detour : Engine :=
  .ofSequences
    [{ id := "a"
       messages :=
        [{ id := 1, kind := .textInput, text := "Name?" },
          { id := 2, kind := .text, text := "On we go.", sequence := some "b" }] },
      { id := "b"
        messages := [{ id := 5, kind := .text, text := "Again.", next := some 5 }] }]

/-- An answer on the way to a sequence that goes round in circles. -/
def detourCalls : List Call :=
  [.start "a", .submit 1 (.text "Ada")]

/-- A message may wait that the user cannot be asked for. -/
theorem awaiting_outlives_message :
    ¬∀ (engine : Engine) (calls : List Call) (id : MessageId),
      (performAll { engine } calls).awaiting = some id →
        (performAll { engine } calls).engine.CanAsk id := by
  intro always
  obtain ⟨message, found, _⟩ := always detour detourCalls 1 rfl
  have missing : (performAll { engine := detour } detourCalls).engine.lookup 1 = none := rfl
  rw [missing] at found
  contradiction

theorem canAsk_awaiting_detour :
    (performAll { engine := detour } detourCalls).awaiting = some 1 ∧
      ∃ earlier later,
        detourCalls = earlier ++ later ∧
        (performAll { engine := detour } earlier).awaiting = some 1 ∧
        (performAll { engine := detour } earlier).engine.CanAsk 1 ∧
        (performAll { engine := detour } earlier).Fails later ∧
        ((performAll { engine := detour } detourCalls).engine.CanAsk 1 ↔
          ¬(performAll { engine := detour } earlier).Strays 1 later) :=
  ⟨rfl, canAsk_awaiting_iff rfl⟩

end Session

end Dialogue.Flow
