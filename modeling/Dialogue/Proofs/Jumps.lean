import Dialogue.Proofs.Branches
import Dialogue.Proofs.Loops

/-!
# Jumps that are followed

Over a sequence that can be used and has no issues, no jump of its authors leads nowhere:
not the ones that walks follow, not those of branches that are taken, and not those behind
answers.  A walk that comes to its end has run past the last number.
-/

namespace Dialogue

/-! ## Messages of a sequence -/

theorem Sequence.usable_of_validate {sequence : Sequence}
    (valid : sequence.validate = .ok ()) : sequence.Usable := by
  rcases sequence.usable_or_unusable with usable | ⟨cause, unusable⟩
  · exact usable
  · rw [validate_of_unusable unusable] at valid
    cases valid

/-- A message of a sequence that can be used is the one that is found under its number. -/
theorem Sequence.Usable.message?_of_mem {sequence : Sequence} (usable : sequence.Usable)
    {message : Message} (member : message ∈ sequence.messages) :
    sequence.message? message.id = some message := by
  obtain ⟨before, after, place⟩ := List.append_of_mem member
  have distinct := usable.distinct
  rw [place, List.map_append, List.map_cons, List.nodup_middle, List.nodup_cons] at distinct
  rw [message?, List.find?_eq_some_iff_append]
  refine ⟨beq_self_eq_true _, before, after, place, ?_⟩
  intro other early
  rw [Bool.not_eq_true', beq_eq_false_iff_ne]
  intro same
  exact distinct.1 (List.mem_append_left _ (same ▸ List.mem_map_of_mem early))

namespace Flow

/-! ## Jumps of walks -/

theorem Stop.eq_finished_iff (stop : Stop) :
    stop = .finished ↔ stop.name = "endOfChain" ∧ stop.message? = none := by
  cases stop <;> simp [name, message?]

/-- A message is the last one of a sequence: it names no successor, and no message has the
number behind it. -/
structure RunsOut (sequence : Sequence) (message : Message) : Prop where
  unnamed : message.next = none
  noMore : ∀ next, MessageId.following? message.id = some next → sequence.has next = false

/-- A walk from a number that has no message visits nothing. -/
theorem Walks.messages_eq_nil {lookup : Lookup} {limit : Nat} {id : MessageId} {walk : Walk}
    (walks : Walks lookup limit id walk) (missing : lookup id = none) : walk.messages = [] := by
  cases walks with
  | nothing _ _ => rfl
  | tooDeep _ => rfl
  | stopped _ found _ | last _ found _ _ | onward found _ _ _ =>
      rw [missing] at found
      cases found

/-- A number without a message behind a message of a sequence without issues is not the
one that its author named. -/
theorem runsOut_of_missing {sequence : Sequence} (clean : sequence.lint = [])
    {id next : MessageId} {message : Message} (found : sequence.message? id = some message)
    (behind : message.next.or (MessageId.following? id) = some next)
    (missing : sequence.has next = false) : RunsOut sequence message := by
  have member : message ∈ sequence.messages := List.mem_of_find?_eq_some found
  have unnamed : message.next = none := by
    cases named : message.next with
    | none => rfl
    | some authored =>
        rw [named, Option.some_or] at behind
        cases behind
        rw [Sequence.has_of_next clean member named] at missing
        cases missing
  refine ⟨unnamed, ?_⟩
  rw [unnamed, Option.none_or] at behind
  intro further counted
  rw [numbered_message? sequence id message found, behind] at counted
  cases counted
  exact missing

/-- A walk over a sequence without issues that comes to its end has run past the last
number. -/
theorem Walks.exists_runsOut {sequence : Sequence} (clean : sequence.lint = [])
    {limit : Nat} {start : MessageId} {walk : Walk}
    (walks : Walks sequence.message? limit start walk) (there : sequence.has start = true)
    (finished : walk.stop = .finished) :
    ∃ message, walk.messages.getLast? = some message ∧ RunsOut sequence message := by
  induction walks with
  | nothing limit missing =>
      rw [Sequence.has, missing] at there
      cases there
  | tooDeep _ => cases finished
  | stopped limit found reason =>
      cases finished
      rcases stopOn?_cases reason with ⟨_, reason⟩ | ⟨_, reason⟩ | ⟨_, _, _, _, reason⟩
      all_goals contradiction
  | @last id message limit found passed behind =>
      obtain ⟨unnamed, noMore⟩ := Option.or_eq_none_iff.mp behind
      refine ⟨message, rfl, unnamed, ?_⟩
      rw [numbered_message? sequence id message found, noMore]
      exact nofun
  | @onward limit id next message walk found passed behind rest ih =>
      -- The walk ends on this message if no message is next, even before its limit.
      cases onward : sequence.has next with
      | true =>
          obtain ⟨other, last, runsOut⟩ := ih onward finished
          exact ⟨other, by rw [List.getLast?_cons, last, Option.getD_some], runsOut⟩
      | false =>
          have missing : sequence.message? next = none := by
            simpa [Sequence.has] using onward
          have nothing := rest.messages_eq_nil missing
          exact ⟨message, by rw [nothing, List.getLast?_singleton],
            runsOut_of_missing clean found behind onward⟩

/-! ## Jumps of branches -/

/-- A branch of a sequence without issues that leads to a message leads to one of the
sequence. -/
theorem has_of_branchTarget? {sequence : Sequence} (clean : sequence.lint = [])
    {message : Message} (member : message ∈ sequence.messages)
    (kind : message.kind = .autoroute) {state : Dictionary Value} {id : MessageId}
    (leads : branchTarget? state message = some (.message id)) : sequence.has id = true := by
  rw [branchTarget?] at leads
  cases taken : routeTaken? state message with
  | none =>
      rw [taken] at leads
      obtain ⟨next, named, same⟩ := Option.map_eq_some_iff.mp leads
      cases same
      exact Sequence.has_of_next clean member named
  | some route =>
      rw [taken] at leads
      have listed : route ∈ message.routes := by
        rcases Option.or_eq_some_iff.mp taken with live | ⟨_, fallback⟩
        · exact List.mem_of_find?_eq_some live
        · exact List.mem_of_find?_eq_some fallback
      cases named : route.next with
      | some next =>
          simp only [Route.target, named] at leads
          cases leads
          exact Sequence.has_of_route clean member kind listed named
      | none =>
          simp only [Route.target, named] at leads
          obtain ⟨other, _, same⟩ := Option.map_eq_some_iff.mp leads
          cases same

/-- An engine that goes on from a message either was sent to it, or has loaded the sequence
that begins with it. -/
theorem Engine.cases_of_goTo_eq_some {engine behind : Engine} {target : Option Target}
    {id : MessageId} (went : engine.goTo target = (.ok (some id), behind)) :
    (target = some (.message id) ∧ behind = engine) ∨
      ∃ other loaded, target = some (.sequence other) ∧
        Request.Gets engine.source ⟨engine.state.files, other⟩ loaded ∧
        behind = { engine with active := some (.of loaded) } ∧ loaded.first? = some id := by
  match target with
  | none => cases went
  | some (.message id) =>
      cases went
      exact .inl ⟨rfl, rfl⟩
  | some (.sequence other) =>
      rcases Request.gets_or_declined engine.source ⟨engine.state.files, other⟩ with
        ⟨loaded, gets⟩ | ⟨error, declined⟩
      · rw [goTo_of_gets gets, Prod.mk.injEq] at went
        obtain ⟨begins, rfl⟩ := went
        exact .inr ⟨other, loaded, rfl, gets, rfl, Except.ok.inj begins⟩
      · rw [goTo_of_declined declined] at went
        cases went

/-! ## Jumps behind answers -/

/-- The successor that the author named for an answer to a message: the one of the picked
choice, or else the one of the message. -/
def authoredNext? (message : Message) : Answer → Option MessageId
  | .choice index => (message.choices[index]?.bind (·.next)).or message.next
  | .text _ => message.next

theorem Fits.next_eq {message : Message} {id : MessageId} {answer : Answer} {value : Value}
    {next : Option MessageId} (fits : Fits message id answer value next) :
    next = (authoredNext? message answer).or (MessageId.following? id) := by
  cases fits with
  | choice _ picked =>
      rw [authoredNext?, picked, Option.bind_some, Option.or_assoc]
  | text _ _ => rfl

/-- An answer to a message of a sequence without issues leads to a message of it if it leads
where the author said. -/
theorem has_of_authoredNext? {sequence : Sequence} (clean : sequence.lint = [])
    {message : Message} (member : message ∈ sequence.messages) {answer : Answer}
    (suits : answer.Suits message.kind) {next : MessageId}
    (named : authoredNext? message answer = some next) : sequence.has next = true := by
  cases answer with
  | choice index =>
      rcases Option.or_eq_some_iff.mp named with own | ⟨_, shared⟩
      · obtain ⟨choice, picked, leads⟩ := Option.bind_eq_some_iff.mp own
        have offered : choice ∈ message.choices := List.mem_of_getElem? picked
        exact Sequence.has_of_choice clean member suits offered leads
      · exact Sequence.has_of_next clean member shared
  | text s => exact Sequence.has_of_next clean member named

/-- A message of the active sequence is asked under its number. -/
theorem Engine.lookup_of_mem {engine : Engine} {sequence : Sequence}
    (loaded : engine.active.map (·.sequence) = some sequence) (usable : sequence.Usable)
    {message : Message} (member : message ∈ sequence.messages) :
    engine.lookup message.id = some message := by
  obtain ⟨active, activated, rfl⟩ := Option.map_eq_some_iff.mp loaded
  rw [lookup, activeLookup, activated, Option.bind_some,
    ActiveSequence.message?_of_usable usable, usable.message?_of_mem member]

/-- An answer that a message takes goes on where the message says. -/
theorem Session.next_of_interpret {engine : Engine} {message : Message}
    (found : engine.lookup message.id = some message) {answer : Answer} {meaning : Meaning}
    (accepted : interpret engine message.id answer = .ok meaning) :
    answer.Suits message.kind ∧
      meaning.next = (authoredNext? message answer).or (MessageId.following? message.id) := by
  rw [interpret_of_lookup found] at accepted
  rcases fits_or_not message message.id answer with
    ⟨value, next, fits⟩ | ⟨index, kind, rfl, outside⟩ | mismatch
  · rw [meaning_of_fits fits] at accepted
    cases accepted
    exact ⟨fits.suits, fits.next_eq⟩
  · rw [meaning_of_outOfRange message.id kind outside] at accepted
    cases accepted
  · rw [meaning_of_mismatch message.id mismatch] at accepted
    cases accepted

/-! ## Jumps of a sequence -/

/-- Over a sequence that can be used and has no issues, no jump of its authors leads
nowhere.

A walk from one of its messages that comes to its end has run past the last number.  A
branch that goes on from a message either stays with the sequence and goes on from a message
of it, or has loaded another sequence and goes on where that begins.  An answer that is
accepted goes on where the author said, from a message of the sequence, or else from the
next number. -/
theorem jumps_lead_somewhere {sequence : Sequence} (valid : sequence.validate = .ok ())
    (clean : sequence.lint = []) :
    (∀ limit start, sequence.has start = true →
      (walkFrom sequence.message? limit start).stop.name = "endOfChain" →
      (walkFrom sequence.message? limit start).stop.message? = none →
        ∃ message, (walkFrom sequence.message? limit start).messages.getLast? = some message ∧
          RunsOut sequence message) ∧
    (∀ engine : Engine, ∀ message ∈ sequence.messages, message.kind = .autoroute →
      ∀ id behind, engine.takeBranch message = (.ok (some id), behind) →
        (branchTarget? engine.state.values message = some (.message id) ∧ behind = engine ∧
          sequence.has id = true) ∨
        ∃ target loaded, branchTarget? engine.state.values message = some (.sequence target) ∧
          Request.Gets engine.source ⟨engine.state.files, target⟩ loaded ∧
          behind = { engine with active := some (.of loaded) } ∧ loaded.first? = some id) ∧
    (∀ engine : Engine, engine.active.map (·.sequence) = some sequence →
      ∀ message ∈ sequence.messages, ∀ answer meaning,
        Session.interpret engine message.id answer = .ok meaning →
          answer.Suits message.kind ∧
          meaning.next = (authoredNext? message answer).or (MessageId.following? message.id) ∧
          ∀ next, authoredNext? message answer = some next → sequence.has next = true) := by
  have usable := Sequence.usable_of_validate valid
  refine ⟨?_, ?_, ?_⟩
  · intro limit start there name nowhere
    exact (walks_walkFrom _ limit start).exists_runsOut clean there
      ((Stop.eq_finished_iff _).mpr ⟨name, nowhere⟩)
  · intro engine message member kind id behind branched
    rcases Engine.cases_of_goTo_eq_some branched with ⟨leads, stays⟩ | leaves
    · exact .inl ⟨leads, stays, has_of_branchTarget? clean member kind leads⟩
    · exact .inr leaves
  · intro engine loaded message member answer meaning accepted
    have found := Engine.lookup_of_mem loaded usable member
    obtain ⟨suits, onward⟩ := Session.next_of_interpret found accepted
    exact ⟨suits, onward, fun next => has_of_authoredNext? clean member suits⟩

/-- A choice of which one option leads on by itself. -/
def offer : Message :=
  { id := 3, kind := .choice, text := "More?", next := some 5
    choices := [{ text := "Yes", next := some 1 }, { text := "No" }] }

/-- A branch back to the offer and one to the end. -/
def turn : Message :=
  { id := 5, kind := .autoroute, routes := [.when "again" 3, .fallback 7] }

/-- A sequence without issues. -/
def tour : Sequence :=
  { id := "tour"
    messages :=
      [{ id := 1, kind := .text, text := "Look!", next := some 3 }, offer, turn,
        { id := 7, kind := .text, text := "Bye." }] }

/-- A conversation on the tour. -/
def touring : Engine :=
  { Engine.ofSequences [] with active := some (.of tour) }

theorem jumps_lead_somewhere_tour :
    (tour.validate = .ok () ∧ tour.lint = []) ∧
    (∃ message, (walkFrom tour.message? 2 7).messages.getLast? = some message ∧
      RunsOut tour message) ∧
    (touring.takeBranch turn = (.ok (some 7), touring) ∧ tour.has 7 = true) ∧
    ∃ meaning, Session.interpret touring 3 (.choice 0) = .ok meaning ∧
      meaning.next = some 1 ∧ tour.has 1 = true := by
  have valid : tour.validate = .ok () := by rfl
  have clean : tour.lint = [] := by rfl
  obtain ⟨ends, branches, answers⟩ := jumps_lead_somewhere valid clean
  have branched : touring.takeBranch turn = (.ok (some 7), touring) := by rfl
  have leads : branchTarget? touring.state.values turn = some (.message 7) := by rfl
  have within : tour.has 7 = true := by
    rcases branches touring turn (by simp [tour]) rfl 7 touring branched with
      ⟨_, _, there⟩ | ⟨target, _, leaves, _⟩
    · exact there
    · rw [leads] at leaves
      cases leaves
  have accepted : ∃ meaning, Session.interpret touring 3 (.choice 0) = .ok meaning := ⟨_, rfl⟩
  obtain ⟨meaning, accepted⟩ := accepted
  obtain ⟨_, onward, somewhere⟩ :=
    answers touring rfl offer (by simp [tour]) (.choice 0) meaning accepted
  exact ⟨⟨valid, clean⟩, ends 2 7 (by decide) (by decide) (by decide), ⟨branched, within⟩,
    meaning, accepted, onward, somewhere 1 rfl⟩

end Flow

end Dialogue
