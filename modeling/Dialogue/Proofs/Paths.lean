import Dialogue.Proofs.Answers
import Dialogue.Proofs.Walks

/-!
# Paths

The path from a message is what a walk follows when nothing limits it.  It comes to a
number, visits the message that is there, and goes on to one other number or ends.  A
walk visits the first messages of the path, as many as it may; it is given up exactly
when the path visits more of them, and otherwise it reports how the path ends.
-/

namespace Dialogue.Flow

/-! ## Steps and ends -/

/-- A path does not end on a message: it does not need the user, does not branch, and
does not move on to another sequence. -/
structure Passed (message : Message) : Prop where
  noChoice : message.kind ≠ .choice
  noInput : message.kind ≠ .textInput
  noBranch : message.kind ≠ .autoroute
  stays : message.sequence = none

/-- A path goes on from a number to another one: to the authored successor of the
message that is there, or else to the number behind it. -/
inductive Leads (lookup : Lookup) (id : MessageId) : MessageId → Prop where
  | authored {message : Message} {next : MessageId} (found : lookup id = some message)
      (passed : Passed message) (named : message.next = some next) : Leads lookup id next
  | counted {message : Message} (found : lookup id = some message)
      (passed : Passed message) (unnamed : message.next = none)
      (more : id.toNat + 1 < UInt32.size) : Leads lookup id (id + 1)

/-- A path ends at a number.  The end has a reason; it may be on a message, and it may
lead to a sequence. -/
inductive Ends (lookup : Lookup) (id : MessageId) :
    String → Option MessageId → Option String → Prop where
  | missing (missing : lookup id = none) : Ends lookup id "endOfChain" none none
  | asking {message : Message} (found : lookup id = some message)
      (asks : message.kind = .choice ∨ message.kind = .textInput) :
      Ends lookup id "interactiveMessage" (some id) none
  | branching {message : Message} (found : lookup id = some message)
      (branches : message.kind = .autoroute) : Ends lookup id "endOfChain" (some id) none
  | leaving {message : Message} {target : String} (found : lookup id = some message)
      (noChoice : message.kind ≠ .choice) (noInput : message.kind ≠ .textInput)
      (noBranch : message.kind ≠ .autoroute) (leaves : message.sequence = some target) :
      Ends lookup id "sequenceBoundary" (some id) (some target)
  | last {message : Message} (found : lookup id = some message) (passed : Passed message)
      (unnamed : message.next = none) (noMore : id.toNat + 1 = UInt32.size) :
      Ends lookup id "endOfChain" none none

theorem isInteractive_iff (kind : MessageKind) :
    kind.isInteractive = true ↔ kind = .choice ∨ kind = .textInput := by
  cases kind <;> simp [MessageKind.isInteractive]

theorem stopOn?_eq_none_iff_passed (id : MessageId) (message : Message) :
    stopOn? id message = none ↔ Passed message := by
  rw [stopOn?_eq_none_iff, Bool.eq_false_iff, Ne, isInteractive_iff, not_or]
  constructor
  · rintro ⟨⟨noChoice, noInput⟩, noBranch, stays⟩
    exact ⟨noChoice, noInput, noBranch, stays⟩
  · rintro ⟨noChoice, noInput, noBranch, stays⟩
    exact ⟨⟨noChoice, noInput⟩, noBranch, stays⟩

theorem following?_eq_some_iff (id next : MessageId) :
    MessageId.following? id = some next ↔ id.toNat + 1 < UInt32.size ∧ id + 1 = next := by
  rw [MessageId.following?]
  split
  · rename_i more
    simp [more]
  · rename_i noMore
    simp [noMore]

/-- A path goes on where a walk does. -/
theorem leads_iff {lookup : Lookup} {id next : MessageId} :
    Leads lookup id next ↔ ∃ message, lookup id = some message ∧
      stopOn? id message = none ∧
      message.next.or (MessageId.following? id) = some next := by
  constructor
  · intro leads
    cases leads with
    | authored found passed named =>
        refine ⟨_, found, (stopOn?_eq_none_iff_passed id _).mpr passed, ?_⟩
        rw [named, Option.some_or]
    | counted found passed unnamed more =>
        refine ⟨_, found, (stopOn?_eq_none_iff_passed id _).mpr passed, ?_⟩
        rw [unnamed, Option.none_or]
        exact (following?_eq_some_iff id _).mpr ⟨more, rfl⟩
  · rintro ⟨message, found, unstopped, behind⟩
    have passed := (stopOn?_eq_none_iff_passed id message).mp unstopped
    cases named : message.next with
    | some authored =>
        rw [named, Option.some_or] at behind
        cases behind
        exact .authored found passed named
    | none =>
        rw [named, Option.none_or] at behind
        obtain ⟨more, rfl⟩ := (following?_eq_some_iff id next).mp behind
        exact .counted found passed named more

/-- A number that a path goes on from has a message that it passes. -/
theorem Leads.exists_passed {lookup : Lookup} {id next : MessageId}
    (leads : Leads lookup id next) :
    ∃ message, lookup id = some message ∧ Passed message ∧
      (message.next = none → id.toNat + 1 < UInt32.size) := by
  cases leads with
  | @authored message next found passed named =>
      refine ⟨message, found, passed, ?_⟩
      rw [named]
      exact nofun
  | counted found passed _ more => exact ⟨_, found, passed, fun _ => more⟩

theorem Leads.unique {lookup : Lookup} {id first second : MessageId}
    (one : Leads lookup id first) (other : Leads lookup id second) : first = second := by
  obtain ⟨message, found, -, behind⟩ := leads_iff.mp one
  obtain ⟨same, foundToo, -, behindToo⟩ := leads_iff.mp other
  cases found.symm.trans foundToo
  rw [behind] at behindToo
  exact Option.some.inj behindToo

/-- A walk that stops on a message reports the end of the path there. -/
theorem ends_of_stopOn? {lookup : Lookup} {id : MessageId} {message : Message} {stop : Stop}
    (found : lookup id = some message) (reason : stopOn? id message = some stop) :
    Ends lookup id stop.name stop.message? stop.target? := by
  rcases stopOn?_cases reason with
    ⟨interactive, rfl⟩ | ⟨branches, rfl⟩ | ⟨passive, noBranch, target, leaves, rfl⟩
  · exact .asking found ((isInteractive_iff _).mp interactive)
  · exact .branching found branches
  · rw [Bool.eq_false_iff, Ne, isInteractive_iff, not_or] at passive
    exact .leaving found passive.1 passive.2 noBranch leaves

/-- A walk that has no number to go on to reports the end of the path there. -/
theorem ends_of_last {lookup : Lookup} {id : MessageId} {message : Message}
    (found : lookup id = some message) (passed : stopOn? id message = none)
    (behind : message.next.or (MessageId.following? id) = none) :
    Ends lookup id "endOfChain" none none := by
  obtain ⟨unnamed, noMore⟩ := Option.or_eq_none_iff.mp behind
  exact .last found ((stopOn?_eq_none_iff_passed id message).mp passed) unnamed
    ((MessageId.following?_eq_none_iff id).mp noMore)

/-! ## Places of a path -/

/-- A path comes to a number, at a place. -/
inductive Comes (lookup : Lookup) (start : MessageId) : Nat → MessageId → Prop where
  | start : Comes lookup start 0 start
  | onward {place : Nat} {id next : MessageId} (came : Comes lookup start place id)
      (leads : Leads lookup id next) : Comes lookup start (place + 1) next

/-- A path visits a message, at a place. -/
def Visits (lookup : Lookup) (start : MessageId) (place : Nat) (message : Message) : Prop :=
  ∃ id, Comes lookup start place id ∧ lookup id = some message

section Places

variable {lookup : Lookup} {start : MessageId}

theorem Comes.unique {place : Nat} {first second : MessageId}
    (one : Comes lookup start place first) (other : Comes lookup start place second) :
    first = second := by
  induction one generalizing second with
  | start =>
      cases other
      rfl
  | onward _ leads ih =>
      cases other with
      | onward came leadsToo =>
          rw [ih came] at leads
          exact leads.unique leadsToo

/-- The path from where a number leads is the rest of the path from the number. -/
theorem comes_succ_iff {place : Nat} {next id : MessageId} (leads : Leads lookup start next) :
    Comes lookup start (place + 1) id ↔ Comes lookup next place id := by
  constructor
  · intro came
    induction place generalizing id with
    | zero =>
        cases came with
        | onward before leadsToo =>
            cases before
            rw [leadsToo.unique leads]
            exact .start
    | succ place ih =>
        cases came with
        | onward before leadsToo => exact .onward (ih before) leadsToo
  · intro came
    induction came with
    | start => exact .onward .start leads
    | onward _ leadsToo ih => exact .onward ih leadsToo

theorem visits_zero_iff (message : Message) :
    Visits lookup start 0 message ↔ lookup start = some message := by
  constructor
  · rintro ⟨id, came, found⟩
    cases came
    exact found
  · intro found
    exact ⟨start, .start, found⟩

theorem visits_succ_iff {next : MessageId} (leads : Leads lookup start next) (place : Nat)
    (message : Message) :
    Visits lookup start (place + 1) message ↔ Visits lookup next place message := by
  simp only [Visits, comes_succ_iff leads]

/-- A path that visits a message has visited one at every place before. -/
theorem Visits.exists_of_le {place earlier : Nat} {message : Message}
    (visits : Visits lookup start place message) (before : earlier ≤ place) :
    ∃ other, Visits lookup start earlier other := by
  obtain ⟨rest, rfl⟩ := Nat.exists_eq_add_of_le before
  induction rest generalizing message with
  | zero => exact ⟨message, visits⟩
  | succ rest ih =>
      obtain ⟨id, came, found⟩ := visits
      cases came with
      | onward before leads =>
          obtain ⟨other, there, -⟩ := leads.exists_passed
          exact ih ⟨_, before, there⟩ (Nat.le_add_right _ _)

/-- A path that has a place behind its first one leads there. -/
theorem Comes.exists_leads {place : Nat} {id : MessageId}
    (came : Comes lookup start (place + 1) id) : ∃ next, Leads lookup start next := by
  induction place generalizing id with
  | zero =>
      cases came with
      | onward before leads =>
          cases before
          exact ⟨id, leads⟩
  | succ place ih =>
      cases came with
      | onward before _ => exact ih before

/-- A path does not go on from its end. -/
theorem not_leads_of_ends {reason : String} {asked : Option MessageId}
    {target : Option String} (ends : Ends lookup start reason asked target)
    (next : MessageId) : ¬Leads lookup start next := by
  intro leads
  obtain ⟨message, found, passed, counted⟩ := leads.exists_passed
  cases ends with
  | missing missing =>
      rw [missing] at found
      cases found
  | asking foundToo asks =>
      cases found.symm.trans foundToo
      exact asks.elim passed.noChoice passed.noInput
  | branching foundToo branches =>
      cases found.symm.trans foundToo
      exact passed.noBranch branches
  | leaving foundToo _ _ _ leaves =>
      cases found.symm.trans foundToo
      rw [passed.stays] at leaves
      cases leaves
  | last foundToo _ unnamed noMore =>
      cases found.symm.trans foundToo
      exact Nat.ne_of_lt (counted unnamed) noMore

/-- A path that ends at its first place visits nothing behind it. -/
theorem not_visits_succ {reason : String} {asked : Option MessageId}
    {target : Option String} (ends : Ends lookup start reason asked target) (place : Nat)
    (message : Message) : ¬Visits lookup start (place + 1) message := by
  rintro ⟨id, came, -⟩
  obtain ⟨next, leads⟩ := came.exists_leads
  exact not_leads_of_ends ends next leads

/-- A path that ends on its first message visits that message and no other. -/
theorem getElem?_singleton_iff_visits {message : Message} {reason : String}
    {asked : Option MessageId} {target : Option String} (found : lookup start = some message)
    (ends : Ends lookup start reason asked target) (limit place : Nat) (other : Message) :
    [message][place]? = some other ↔
      place < limit + 1 ∧ Visits lookup start place other := by
  cases place with
  | zero => simp [visits_zero_iff, found]
  | succ place => simp [not_visits_succ ends place other]

end Places

/-! ## Walks along paths -/

section Walks

variable {lookup : Lookup} {limit : Nat} {start : MessageId} {walk : Walk}

/-- A walk visits the first messages of the path. -/
theorem Walks.getElem?_messages_iff (walks : Walks lookup limit start walk) (place : Nat)
    (message : Message) :
    walk.messages[place]? = some message ↔
      place < limit ∧ Visits lookup start place message := by
  induction walks generalizing place with
  | nothing limit missing =>
      cases place with
      | zero => simp [visits_zero_iff, missing]
      | succ place => simp [not_visits_succ (.missing missing) place message]
  | tooDeep found => simp
  | stopped limit found reason =>
      exact getElem?_singleton_iff_visits found (ends_of_stopOn? found reason) limit place message
  | last limit found passed behind =>
      exact getElem?_singleton_iff_visits found (ends_of_last found passed behind) limit place
        message
  | @onward limit id next first walk found passed behind _ ih =>
      -- The rest of the walk follows the rest of the path, with one message fewer to visit.
      cases place with
      | zero => simp [visits_zero_iff, found]
      | succ place =>
          have leads : Leads lookup id next := leads_iff.mpr ⟨first, found, passed, behind⟩
          rw [List.getElem?_cons_succ, ih place, visits_succ_iff leads, Nat.succ_lt_succ_iff]

/-- A walk is given up exactly when the path visits more messages than it may. -/
theorem Walks.stop_eq_tooDeep_iff (walks : Walks lookup limit start walk) :
    walk.stop = .tooDeep ↔ ∃ message, Visits lookup start limit message := by
  induction walks with
  | @nothing id limit missing =>
      refine iff_of_false Stop.noConfusion ?_
      rintro ⟨message, visits⟩
      cases limit with
      | zero =>
          rw [visits_zero_iff, missing] at visits
          cases visits
      | succ limit => exact not_visits_succ (.missing missing) limit message visits
  | tooDeep found => exact iff_of_true rfl ⟨_, (visits_zero_iff _).mpr found⟩
  | @stopped id message stop limit found reason =>
      refine iff_of_false ?_ ?_
      · rintro rfl
        exact stopOn?_ne_tooDeep id message reason
      · rintro ⟨other, visits⟩
        exact not_visits_succ (ends_of_stopOn? found reason) limit other visits
  | last limit found passed behind =>
      refine iff_of_false Stop.noConfusion ?_
      rintro ⟨other, visits⟩
      exact not_visits_succ (ends_of_last found passed behind) limit other visits
  | onward found passed behind _ ih =>
      have leads := leads_iff.mpr ⟨_, found, passed, behind⟩
      simp only [ih, visits_succ_iff leads]

/-- A walk that is not given up reports how the path ends. -/
theorem Walks.exists_ends (walks : Walks lookup limit start walk)
    (walked : walk.stop ≠ .tooDeep) :
    ∃ place id, Comes lookup start place id ∧
      Ends lookup id walk.stop.name walk.stop.message? walk.stop.target? := by
  induction walks with
  | nothing limit missing => exact ⟨0, _, .start, .missing missing⟩
  | tooDeep found => exact absurd rfl walked
  | stopped limit found reason => exact ⟨0, _, .start, ends_of_stopOn? found reason⟩
  | last limit found passed behind => exact ⟨0, _, .start, ends_of_last found passed behind⟩
  | onward found passed behind _ ih =>
      obtain ⟨place, id, came, ends⟩ := ih walked
      have leads := leads_iff.mpr ⟨_, found, passed, behind⟩
      exact ⟨place + 1, id, (comes_succ_iff leads).mpr came, ends⟩

end Walks

theorem Stop.name_eq_maxDepthReached_iff (stop : Stop) :
    stop.name = "maxDepthReached" ↔ stop = .tooDeep := by
  cases stop <;> simp [name]

theorem Stop.isSome_target?_iff (stop : Stop) :
    stop.target?.isSome = true ↔ stop.name = "sequenceBoundary" := by
  cases stop <;> simp [name, target?]

/-- A walk is the beginning of the path from where it starts.

The messages it visits are the first ones of the path, as many as it may visit, or all
of them if these are fewer.  The reason to stop is the depth exactly when the path visits
more messages than that; then the walk stops on no message.  Otherwise the walk stops for
the reason, on the message and with the target with which the path ends.  There is a
target exactly at the boundary of a sequence. -/
theorem walkFrom_eq_beginning_of_path (lookup : Lookup) (limit : Nat) (start : MessageId) :
    let walk := walkFrom lookup limit start
    (∀ place message, walk.messages[place]? = some message ↔
      place < limit ∧ Visits lookup start place message) ∧
    (walk.stop.name = "maxDepthReached" ↔ ∃ message, Visits lookup start limit message) ∧
    (walk.stop.name = "maxDepthReached" ∧ walk.stop.message? = none ∨
      (∀ place message, walk.messages[place]? = some message ↔
        Visits lookup start place message) ∧
      ∃ place id, Comes lookup start place id ∧
        Ends lookup id walk.stop.name walk.stop.message? walk.stop.target?) ∧
    (walk.stop.target?.isSome = true ↔ walk.stop.name = "sequenceBoundary") := by
  intro walk
  have walks : Walks lookup limit start walk := walks_walkFrom lookup limit start
  refine ⟨walks.getElem?_messages_iff, ?_, ?_, walk.stop.isSome_target?_iff⟩
  · rw [Stop.name_eq_maxDepthReached_iff, walks.stop_eq_tooDeep_iff]
  · by_cases tooDeep : walk.stop = .tooDeep
    · rw [tooDeep]
      exact .inl ⟨rfl, rfl⟩
    · refine .inr ⟨?_, walks.exists_ends tooDeep⟩
      intro place message
      rw [walks.getElem?_messages_iff, and_iff_right_iff_imp]
      intro visits
      apply Nat.lt_of_not_le
      intro beyond
      exact tooDeep (walks.stop_eq_tooDeep_iff.mpr (visits.exists_of_le beyond))

end Dialogue.Flow
