import Dialogue.Proofs.Paths
import Dialogue.Sequence.Basic
import Mathlib.Combinatorics.Pigeonhole

/-!
# Loops

A path that comes back to a number goes round for ever: from the second time on it can
only repeat what it did from the first.  A path over so many messages that does not come
back to a number visits each of them at most once.  So a limit that covers a sequence
gives up the walks that go round in circles, and no others.
-/

namespace Dialogue.Flow

/-- A path comes back to a number that it has visited. -/
def ComesBack (lookup : Lookup) (start : MessageId) : Prop :=
  ∃ first second id, first < second ∧ Comes lookup start first id ∧
    Comes lookup start second id

section Loops

variable {lookup : Lookup} {start : MessageId}

/-- What a path does behind a place is the path from there. -/
theorem Comes.behind {place rest : Nat} {middle id : MessageId}
    (came : Comes lookup start place middle) (further : Comes lookup start (place + rest) id) :
    Comes lookup middle rest id := by
  induction rest generalizing id with
  | zero =>
      rw [came.unique further]
      exact .start
  | succ rest ih =>
      cases further with
      | onward before leads => exact .onward (ih before) leads

/-- A path goes on from every place but its last. -/
theorem Comes.exists_leads_of_lt {place later : Nat} {id last : MessageId}
    (came : Comes lookup start place id) (further : Comes lookup start later last)
    (before : place < later) : ∃ next, Leads lookup id next := by
  obtain ⟨rest, rfl⟩ := Nat.exists_eq_add_of_lt before
  have behind : Comes lookup id (rest + 1) last := came.behind further
  exact behind.exists_leads

/-- A path that comes back goes on from every number. -/
theorem ComesBack.exists_leads (back : ComesBack lookup start) {place : Nat} {id : MessageId}
    (came : Comes lookup start place id) : ∃ next, Leads lookup id next := by
  obtain ⟨first, second, again, before, once, twice⟩ := back
  by_cases inside : place < second
  · exact came.exists_leads_of_lt twice inside
  · -- From the first time on the number is farther ahead than from the second.
    obtain ⟨rest, rfl⟩ := Nat.exists_eq_add_of_le (Nat.le_of_not_lt inside)
    obtain ⟨lap, rfl⟩ := Nat.exists_eq_add_of_lt before
    have near : Comes lookup again rest id := twice.behind came
    rw [Nat.add_assoc, Nat.add_assoc] at came
    have far : Comes lookup again (lap + (1 + rest)) id := once.behind came
    exact near.exists_leads_of_lt far (by omega)

/-- A path that comes back never ends. -/
theorem ComesBack.exists_visits (back : ComesBack lookup start) (place : Nat) :
    ∃ message, Visits lookup start place message := by
  have endless : ∃ id, Comes lookup start place id := by
    induction place with
    | zero => exact ⟨start, .start⟩
    | succ place ih =>
        obtain ⟨id, came⟩ := ih
        obtain ⟨next, leads⟩ := back.exists_leads came
        exact ⟨next, .onward came leads⟩
  obtain ⟨id, came⟩ := endless
  obtain ⟨next, leads⟩ := back.exists_leads came
  obtain ⟨message, found, -⟩ := leads.exists_passed
  exact ⟨message, id, came, found⟩

/-- A walk that is given up has visited as many messages as it may. -/
theorem Walks.length_of_tooDeep {limit : Nat} {walk : Walk}
    (walks : Walks lookup limit start walk) (tooDeep : walk.stop = .tooDeep) :
    walk.messages.length = limit := by
  induction walks with
  | nothing _ _ => contradiction
  | tooDeep _ => rfl
  | @stopped id message stop _ _ reason =>
      cases tooDeep
      exact absurd reason (stopOn?_ne_tooDeep id message)
  | last _ _ _ _ => contradiction
  | onward _ _ _ _ ih => exact congrArg (· + 1) (ih tooDeep)

/-- Every walk over a path that comes back is given up. -/
theorem ComesBack.givesUp (back : ComesBack lookup start) (limit : Nat) :
    (walkFrom lookup limit start).stop = .tooDeep ∧
      (walkFrom lookup limit start).messages.length = limit := by
  have walks := walks_walkFrom lookup limit start
  have tooDeep := walks.stop_eq_tooDeep_iff.mpr (back.exists_visits limit)
  exact ⟨tooDeep, walks.length_of_tooDeep tooDeep⟩

/-- The messages of a walk are those under the numbers that the path comes to. -/
theorem Walks.exists_numbers {limit : Nat} {walk : Walk}
    (walks : Walks lookup limit start walk) :
    ∃ ids : List MessageId, ids.map lookup = walk.messages.map some ∧
      ∀ place id, ids[place]? = some id → Comes lookup start place id := by
  have alone {id : MessageId} (place : Nat) (other : MessageId)
      (there : [id][place]? = some other) : Comes lookup id place other := by
    cases place with
    | zero =>
        cases there
        exact .start
    | succ place => cases there
  induction walks with
  | nothing _ _ => exact ⟨[], rfl, nofun⟩
  | tooDeep _ => exact ⟨[], rfl, nofun⟩
  | @stopped id message stop _ found _ => exact ⟨[id], by simp [found], alone⟩
  | @last id message _ found _ _ => exact ⟨[id], by simp [found], alone⟩
  | @onward limit id next message walk found passed behind _ ih =>
      obtain ⟨ids, looked, comes⟩ := ih
      refine ⟨id :: ids, by simp [found, looked], ?_⟩
      intro place other there
      cases place with
      | zero =>
          cases there
          exact .start
      | succ place =>
          have leads : Leads lookup id next := leads_iff.mpr ⟨message, found, passed, behind⟩
          exact (comes_succ_iff leads).mpr (comes place other there)

/-- Numbers at the places of a path that does not come back are distinct. -/
theorem nodup_of_comes {ids : List MessageId} (straight : ¬ComesBack lookup start)
    (comes : ∀ place id, ids[place]? = some id → Comes lookup start place id) :
    ids.Nodup := by
  rw [List.nodup_iff_getElem?_ne_getElem?]
  intro first second before inside same
  have twice := List.getElem?_eq_getElem inside
  exact straight ⟨first, second, ids[second], before, comes first _ (same.trans twice),
    comes second _ twice⟩

end Loops

/-! ## Loops of a sequence -/

/-- Under each number a message is found that has this number. -/
def Numbered (lookup : Lookup) : Prop :=
  ∀ id message, lookup id = some message → message.id = id

theorem map_id_eq_of_numbered {lookup : Lookup} (numbered : Numbered lookup)
    {ids : List MessageId} {messages : List Message}
    (looked : ids.map lookup = messages.map some) : messages.map (·.id) = ids := by
  induction ids generalizing messages with
  | nil =>
      cases messages with
      | nil => rfl
      | cons message rest => cases looked
  | cons id ids ih =>
      cases messages with
      | nil => cases looked
      | cons message rest =>
          obtain ⟨found, others⟩ := List.cons.inj looked
          rw [List.map_cons, ih others, numbered id message found]

theorem numbered_message? (sequence : Sequence) : Numbered sequence.message? := by
  intro id message found
  simpa using List.find?_some found

/-- A path over a sequence that visits more messages than there are comes back. -/
theorem comesBack_of_visits {sequence : Sequence} {start : MessageId} {limit : Nat}
    (covers : sequence.messages.length ≤ limit) {message : Message}
    (visits : Visits sequence.message? start limit message) :
    ComesBack sequence.message? start := by
  let numbers : Finset MessageId := (sequence.messages.map (·.id)).toFinset
  have comes : ∀ place ≤ limit, ∃ id, Comes sequence.message? start place id ∧ id ∈ numbers := by
    intro place inside
    obtain ⟨other, id, came, found⟩ := visits.exists_of_le inside
    refine ⟨id, came, List.mem_toFinset.mpr ?_⟩
    rw [← numbered_message? sequence id other found]
    exact List.mem_map_of_mem (List.mem_of_find?_eq_some found)
  choose! number came listed using comes
  have fewer : numbers.card < (Finset.range (limit + 1)).card := by
    rw [Finset.card_range]
    calc
      numbers.card ≤ (sequence.messages.map (·.id)).length := List.toFinset_card_le _
      _ = sequence.messages.length := List.length_map _
      _ < limit + 1 := Nat.lt_succ_of_le covers
  have maps : ∀ place ∈ Finset.range (limit + 1), number place ∈ numbers := by
    intro place member
    exact listed place (Nat.le_of_lt_succ (Finset.mem_range.mp member))
  obtain ⟨first, firstMem, second, secondMem, different, same⟩ :=
    Finset.exists_ne_map_eq_of_card_lt_of_maps_to fewer maps
  have once := came first (Nat.le_of_lt_succ (Finset.mem_range.mp firstMem))
  have twice := came second (Nat.le_of_lt_succ (Finset.mem_range.mp secondMem))
  rw [← same] at twice
  rcases Nat.lt_or_gt_of_ne different with before | behind
  · exact ⟨first, second, _, before, once, twice⟩
  · exact ⟨second, first, _, behind, twice, once⟩

/-- The depth of walks only keeps loops out.

A walk that is not given up visits the messages under the numbers that its path comes to.
These are distinct, and they are the messages' own if the look-up finds each message under
its number.  Over a sequence with at most as many messages as may be visited, a walk is
given up exactly when its path comes back to a number; then it is given up at every depth,
with as many messages as may be visited. -/
theorem tooDeep_iff_comesBack (lookup : Lookup) (sequence : Sequence) (limit : Nat)
    (start : MessageId) :
    ((walkFrom lookup limit start).stop ≠ .tooDeep →
      ∃ ids : List MessageId, ids.Nodup ∧
        (∀ place id, ids[place]? = some id → Comes lookup start place id) ∧
        ids.map lookup = (walkFrom lookup limit start).messages.map some ∧
        (Numbered lookup → (walkFrom lookup limit start).messages.map (·.id) = ids)) ∧
    (sequence.messages.length ≤ limit →
      ((walkFrom sequence.message? limit start).stop = .tooDeep ↔
        ComesBack sequence.message? start) ∧
      (ComesBack sequence.message? start → ∀ depth,
        (walkFrom sequence.message? depth start).stop = .tooDeep ∧
          (walkFrom sequence.message? depth start).messages.length = depth)) := by
  constructor
  · intro walked
    obtain ⟨ids, looked, comes⟩ := (walks_walkFrom lookup limit start).exists_numbers
    have straight : ¬ComesBack lookup start := fun back => walked (back.givesUp limit).1
    exact ⟨ids, nodup_of_comes straight comes, comes, looked,
      fun numbered => map_id_eq_of_numbered numbered looked⟩
  · intro covers
    refine ⟨⟨?_, fun back => (back.givesUp limit).1⟩, fun back => back.givesUp⟩
    intro tooDeep
    obtain ⟨message, visits⟩ :=
      (walks_walkFrom sequence.message? limit start).stop_eq_tooDeep_iff.mp tooDeep
    exact comesBack_of_visits covers visits

/-- Two messages that lead to each other, and two behind them that do not. -/
def carousel : Sequence :=
  { id := "carousel"
    messages :=
      [{ id := 1, kind := .text, text := "Round" },
        { id := 2, kind := .text, text := "and round", next := some 1 },
        { id := 3, kind := .text, text := "Get off here." },
        { id := 4, kind := .textInput, text := "Your name?" }] }

theorem tooDeep_iff_comesBack_carousel :
    ((walkFrom carousel.message? 4 3).stop ≠ .tooDeep ∧ ∃ ids : List MessageId, ids.Nodup ∧
        (∀ place id, ids[place]? = some id → Comes carousel.message? 3 place id) ∧
        ids.map carousel.message? = (walkFrom carousel.message? 4 3).messages.map some ∧
        (walkFrom carousel.message? 4 3).messages.map (·.id) = ids) ∧
      (carousel.messages.length ≤ 4 ∧ ComesBack carousel.message? 1 ∧ ∀ depth,
        (walkFrom carousel.message? depth 1).stop = .tooDeep ∧
          (walkFrom carousel.message? depth 1).messages.length = depth) := by
  have covered : carousel.messages.length ≤ 4 := by decide
  have walked : (walkFrom carousel.message? 4 3).stop ≠ .tooDeep := by decide
  obtain ⟨ids, distinct, comes, looked, own⟩ :=
    (tooDeep_iff_comesBack carousel.message? carousel 4 3).1 walked
  obtain ⟨givenUp, always⟩ := (tooDeep_iff_comesBack carousel.message? carousel 4 1).2 covered
  have back : ComesBack carousel.message? 1 := givenUp.mp (by decide)
  exact ⟨⟨walked, ids, distinct, comes, looked, own (numbered_message? carousel)⟩, covered,
    back, always back⟩

end Dialogue.Flow
