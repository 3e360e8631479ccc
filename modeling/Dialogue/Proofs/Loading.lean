import Dialogue.Flow.Engine
import Dialogue.Proofs.Lookup
import Dialogue.Proofs.Text.Trimming
import Mathlib.Data.List.Induction

/-!
# Loading sequences

A sequence can be used when its id is not blank and no two of its messages share
a number.  The active sequence is always the one that the last successful request
got from the source, so it can be used; and because its numbers are distinct, the
index and a search from the front find the same messages.
-/

namespace Dialogue

namespace Sequence

/-! ## Sequences that can be used -/

/-- A sequence can be used: its id is not blank, and no two of its messages share
a number. -/
structure Usable (sequence : Sequence) : Prop where
  named : Text.trim sequence.id ≠ ""
  distinct : (sequence.messages.map (·.id)).Nodup

/-- A sequence cannot be used, for a reason.  A blank id comes before everything
else; of the messages whose number occurred before them the earliest counts. -/
inductive Unusable (sequence : Sequence) : SequenceError → Prop where
  | unnamed (blank : Text.trim sequence.id = "") : Unusable sequence (.blankId sequence.id)
  | repeated {before after : List Message} {message : Message}
      (named : Text.trim sequence.id ≠ "")
      (place : sequence.messages = before ++ message :: after)
      (distinct : (before.map (·.id)).Nodup) (again : message.id ∈ before.map (·.id)) :
      Unusable sequence (.duplicateMessage sequence.id message.id)

/-- The numbers of messages are distinct, or there is an earliest message whose
number occurred before it. -/
theorem distinct_or_repeated (messages : List Message) :
    (messages.map (·.id)).Nodup ∨ ∃ before message after,
      messages = before ++ message :: after ∧ (before.map (·.id)).Nodup ∧
        message.id ∈ before.map (·.id) := by
  -- A message at the end only counts when nothing before it is repeated.
  induction messages using List.reverseRecOn with
  | nil => exact .inl List.nodup_nil
  | append_singleton messages message ih =>
      rcases ih with distinct | ⟨before, earlier, after, rfl, distinct, again⟩
      · by_cases again : message.id ∈ messages.map (·.id)
        · exact .inr ⟨messages, message, [], rfl, distinct, again⟩
        · refine .inl ?_
          rw [List.map_append, List.map_singleton, (List.perm_append_singleton _ _).nodup_iff]
          exact List.nodup_cons.mpr ⟨again, distinct⟩
      · refine .inr ⟨before, earlier, after ++ [message], ?_, distinct, again⟩
        simp

theorem usable_or_unusable (sequence : Sequence) :
    sequence.Usable ∨ ∃ cause, sequence.Unusable cause := by
  by_cases named : Text.trim sequence.id = ""
  · exact .inr ⟨_, .unnamed named⟩
  · rcases distinct_or_repeated sequence.messages with
      distinct | ⟨before, message, after, place, distinct, again⟩
    · exact .inl ⟨named, distinct⟩
    · exact .inr ⟨_, .repeated named place distinct again⟩

/-- Messages with new numbers are passed, and their numbers noted. -/
theorem firstRepeated?_append {before : List Message} (seen : List MessageId)
    (distinct : (before.map (·.id)).Nodup) (fresh : ∀ message ∈ before, message.id ∉ seen)
    (rest : List Message) :
    firstRepeated? seen (before ++ rest) =
      firstRepeated? ((before.map (·.id)).reverse ++ seen) rest := by
  induction before generalizing seen with
  | nil => rfl
  | cons message before ih =>
      rw [List.map_cons, List.nodup_cons] at distinct
      have unseen : message.id ∉ seen := fresh message List.mem_cons_self
      have later : ∀ other ∈ before, other.id ∉ message.id :: seen := by
        intro other member noted
        rcases List.mem_cons.mp noted with same | early
        · exact distinct.1 (same ▸ List.mem_map_of_mem member)
        · exact fresh other (List.mem_cons_of_mem message member) early
      rw [List.cons_append, firstRepeated?, ih _ distinct.2 later]
      simp [unseen]

theorem validate_of_usable {sequence : Sequence} (usable : sequence.Usable) :
    sequence.validate = .ok () := by
  have named : Text.isBlankText sequence.id = false := by
    simpa [Text.trim_eq_empty_iff] using usable.named
  have passed := firstRepeated?_append [] usable.distinct (by simp) []
  rw [List.append_nil] at passed
  simp [validate, named, passed, firstRepeated?]

theorem validate_of_unusable {sequence : Sequence} {cause : SequenceError}
    (unusable : sequence.Unusable cause) : sequence.validate = .error cause := by
  cases unusable with
  | unnamed blank =>
      simp [validate, (Text.trim_eq_empty_iff _).mp blank]
  | @repeated before after message named place distinct again =>
      have spelled : Text.isBlankText sequence.id = false := by
        simpa [Text.trim_eq_empty_iff] using named
      have passed := firstRepeated?_append [] distinct (by simp) (message :: after)
      have noted : (before.map (·.id)).contains message.id = true := by
        simpa using again
      simp_all [validate, firstRepeated?]

end Sequence

namespace Flow

/-! ## Finding messages -/

/-- Of messages with distinct numbers the last one with a number is the first. -/
theorem find?_reverse_of_distinct {messages : List Message}
    (distinct : (messages.map (·.id)).Nodup) (id : MessageId) :
    (messages.reverse.find? fun message => message.id == id) =
      messages.find? fun message => message.id == id := by
  induction messages with
  | nil => rfl
  | cons message rest ih =>
      rw [List.map_cons, List.nodup_cons] at distinct
      rw [List.reverse_cons, List.find?_append, ih distinct.2]
      by_cases same : message.id = id
      · have others : (rest.find? fun other => other.id == id) = none := by
          rw [List.find?_eq_none]
          intro other member equal
          apply distinct.1
          rw [same, ← eq_of_beq equal]
          exact List.mem_map_of_mem member
        simp [same, others]
      · simp [same]

/-- The index of a sequence that can be used finds what a search from the front
finds. -/
theorem ActiveSequence.message?_of_usable {active : ActiveSequence}
    (usable : active.sequence.Usable) (id : MessageId) :
    active.message? id = active.sequence.message? id := by
  rw [message?_eq_find?, find?_reverse_of_distinct usable.distinct, Sequence.message?]

/-! ## Requests -/

/-- A request for the sequence with an id, and the files as they are then. -/
structure Request where
  files : Files
  id : String

namespace Request

/-- A request gets a sequence: the source returns it, and it can be used. -/
structure Gets (source : Source) (request : Request) (sequence : Sequence) : Prop where
  returned : source request.files request.id = .ok sequence
  usable : sequence.Usable

/-- A request is declined: the source fails, or it returns a sequence that cannot
be used. -/
inductive Declined (source : Source) (request : Request) : Error → Prop where
  | failed {cause : SequenceError}
      (failure : source request.files request.id = .error cause) :
      Declined source request (.sequence cause)
  | unusable {sequence : Sequence} {cause : SequenceError}
      (returned : source request.files request.id = .ok sequence)
      (unusable : sequence.Unusable cause) : Declined source request (.sequence cause)

theorem gets_or_declined (source : Source) (request : Request) :
    (∃ sequence, request.Gets source sequence) ∨ ∃ error, request.Declined source error := by
  cases returned : source request.files request.id with
  | error cause => exact .inr ⟨_, .failed returned⟩
  | ok sequence =>
      rcases sequence.usable_or_unusable with usable | ⟨cause, unusable⟩
      · exact .inl ⟨sequence, returned, usable⟩
      · exact .inr ⟨_, .unusable returned unusable⟩

theorem loadSequence_of_gets {source : Source} {request : Request} {sequence : Sequence}
    (gets : request.Gets source sequence) :
    loadSequence source request.files request.id = .ok (.of sequence) := by
  simp only [loadSequence, gets.returned, Sequence.validate_of_usable gets.usable]

theorem loadSequence_of_declined {source : Source} {request : Request} {error : Error}
    (declined : request.Declined source error) :
    loadSequence source request.files request.id = .error error := by
  cases declined with
  | failed failure => simp only [loadSequence, failure]
  | unusable returned unusable =>
      simp only [loadSequence, returned, Sequence.validate_of_unusable unusable]

end Request

/-- What the last successful one of some requests got. -/
inductive LastGot (source : Source) : List Request → Option Sequence → Prop where
  | nothing {requests : List Request}
      (declined : ∀ request ∈ requests, ∃ error, request.Declined source error) :
      LastGot source requests none
  | sequence (earlier : List Request) {request : Request} {later : List Request}
      {sequence : Sequence} (gets : request.Gets source sequence)
      (declined : ∀ other ∈ later, ∃ error, other.Declined source error) :
      LastGot source (earlier ++ request :: later) (some sequence)

theorem LastGot.append_gets (source : Source) (requests : List Request)
    {request : Request} {sequence : Sequence} (gets : request.Gets source sequence) :
    LastGot source (requests ++ [request]) (some sequence) := by
  apply LastGot.sequence requests gets
  intro other member
  contradiction

theorem LastGot.append_declined {source : Source} {requests : List Request}
    {got : Option Sequence} (last : LastGot source requests got) {request : Request}
    {error : Error} (declined : request.Declined source error) :
    LastGot source (requests ++ [request]) got := by
  have more {others : List Request}
      (before : ∀ other ∈ others, ∃ error, other.Declined source error) :
      ∀ other ∈ others ++ [request], ∃ error, other.Declined source error :=
    List.forall_mem_append.mpr ⟨before, List.forall_mem_singleton.mpr ⟨error, declined⟩⟩
  cases last with
  | nothing others => exact .nothing (more others)
  | sequence earlier gets others =>
      rw [List.append_assoc, List.cons_append]
      exact .sequence earlier gets (more others)

/-- What some requests got can be used. -/
theorem LastGot.usable {source : Source} {requests : List Request} {sequence : Sequence}
    (last : LastGot source requests (some sequence)) : sequence.Usable := by
  cases last with
  | sequence _ gets _ => exact gets.usable

namespace Engine

/-- Make a request on the files as they are then. -/
def request (engine : Engine) (request : Request) : Except Error Unit × Engine :=
  load { engine with state := { engine.state with files := request.files } } request.id

/-- The engine behind some requests, of which any may fail. -/
def requestAll (engine : Engine) (requests : List Request) : Engine :=
  requests.foldl (fun engine request => (engine.request request).2) engine

theorem request_of_gets {engine : Engine} {request : Request} {sequence : Sequence}
    (gets : request.Gets engine.source sequence) :
    engine.request request =
      (.ok (),
        { engine with
          state := { engine.state with files := request.files }
          active := some (.of sequence) }) := by
  simp only [Engine.request, load, Request.loadSequence_of_gets gets]

theorem request_of_declined {engine : Engine} {request : Request} {error : Error}
    (declined : request.Declined engine.source error) :
    engine.request request =
      (.error error, { engine with state := { engine.state with files := request.files } }) := by
  simp only [Engine.request, load, Request.loadSequence_of_declined declined]

theorem request_eq_ok_iff (engine : Engine) (request : Request) :
    (engine.request request).1 = .ok () ↔
      ∃ sequence, request.Gets engine.source sequence := by
  constructor
  · intro succeeded
    rcases request.gets_or_declined engine.source with gets | ⟨error, declined⟩
    · exact gets
    · rw [request_of_declined declined] at succeeded
      contradiction
  · rintro ⟨sequence, gets⟩
    rw [request_of_gets gets]

theorem request_eq_error_iff (engine : Engine) (request : Request) (error : Error) :
    (engine.request request).1 = .error error ↔ request.Declined engine.source error := by
  constructor
  · intro failed
    rcases request.gets_or_declined engine.source with ⟨_, gets⟩ | ⟨cause, declined⟩
    · rw [request_of_gets gets] at failed
      contradiction
    · rw [request_of_declined declined] at failed
      cases failed
      exact declined
  · intro declined
    rw [request_of_declined declined]

/-- A request leaves the source as it is. -/
theorem source_request (engine : Engine) (request : Request) :
    (engine.request request).2.source = engine.source := by
  rcases request.gets_or_declined engine.source with ⟨_, gets⟩ | ⟨_, declined⟩
  · rw [request_of_gets gets]
  · rw [request_of_declined declined]

theorem requestAll_append_singleton (engine : Engine) (requests : List Request)
    (request : Request) :
    engine.requestAll (requests ++ [request]) =
      ((engine.requestAll requests).request request).2 := by
  rw [requestAll, List.foldl_append]
  rfl

theorem source_requestAll (engine : Engine) (requests : List Request) :
    (engine.requestAll requests).source = engine.source := by
  induction requests using List.reverseRecOn with
  | nil => rfl
  | append_singleton requests request ih =>
      rw [requestAll_append_singleton, source_request, ih]

/-- The active sequence is what the last successful request got. -/
theorem lastGot_requestAll {engine : Engine} (nothing : engine.active = none)
    (requests : List Request) :
    LastGot engine.source requests
      ((engine.requestAll requests).active.map (·.sequence)) := by
  induction requests using List.reverseRecOn with
  | nil =>
      rw [requestAll, List.foldl_nil, nothing]
      exact .nothing (fun _ member => absurd member List.not_mem_nil)
  | append_singleton requests request ih =>
      have same := engine.source_requestAll requests
      rw [requestAll_append_singleton]
      rcases request.gets_or_declined engine.source with ⟨sequence, gets⟩ | ⟨error, declined⟩
      · rw [request_of_gets (same ▸ gets)]
        exact .append_gets _ requests gets
      · rw [request_of_declined (same ▸ declined)]
        exact ih.append_declined declined

/-- Behind any requests to a new engine, the active sequence is what the source
returned for the last successful one of them, and it can be used.

A further request succeeds exactly when it gets a sequence that can be used; it
fails with an error exactly when it is declined for it, and then the active
sequence and all look-ups stay as they are.  The index finds under each number
what a search from the front of the active sequence finds, so walks over the
engine are walks over the sequence. -/
theorem requests_keep_usable (config : Config) (today : Date) (source : Source)
    (library : Content.Library) (state : State) (requests : List Request) :
    let engine := (new config today source library state).requestAll requests
    LastGot source requests (engine.active.map (·.sequence)) ∧
    (∀ active, engine.active = some active → active.sequence.Usable) ∧
    (∀ request, (engine.request request).1 = .ok () ↔
      ∃ sequence, request.Gets source sequence) ∧
    (∀ request error, (engine.request request).1 = .error error ↔
      request.Declined source error) ∧
    (∀ request error, (engine.request request).1 = .error error →
      (engine.request request).2.active = engine.active ∧
        (engine.request request).2.lookup = engine.lookup) ∧
    (∀ id, engine.lookup id = engine.active.bind fun active => active.sequence.message? id) ∧
    (∀ active, engine.active = some active → ∀ limit id,
      walkFrom engine.lookup limit id = walkFrom active.sequence.message? limit id) := by
  intro engine
  have nothing : (new config today source library state).active = none := rfl
  have got : LastGot source requests (engine.active.map (·.sequence)) :=
    lastGot_requestAll nothing requests
  have same : engine.source = source := source_requestAll _ requests
  have usable : ∀ active, engine.active = some active → active.sequence.Usable := by
    intro active loaded
    rw [loaded] at got
    exact got.usable
  have found : ∀ active, engine.active = some active →
      engine.lookup = active.sequence.message? := by
    intro active loaded
    funext id
    simp [lookup, activeLookup, loaded, ActiveSequence.message?_of_usable (usable active loaded)]
  refine ⟨got, usable, ?_, ?_, ?_, ?_, ?_⟩
  · intro request
    rw [request_eq_ok_iff, same]
  · intro request error
    rw [request_eq_error_iff, same]
  · intro request error failed
    rw [request_of_declined ((request_eq_error_iff engine request error).mp failed)]
    exact ⟨rfl, rfl⟩
  · intro id
    cases loaded : engine.active with
    | none => simp [lookup, activeLookup, loaded]
    | some active => simp [found active loaded]
  · intro active loaded limit id
    rw [found active loaded]

end Engine

end Flow

end Dialogue
