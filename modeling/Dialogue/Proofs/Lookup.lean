import Dialogue.Flow.ActiveSequence
import Std.Data.TreeMap.Lemmas

/-!
# Looking up messages of the active sequence

The index of an active sequence stands for a search from the end of the
sequence: it finds the last message with a number, and nothing else.  In
particular the message that is found under a number has that number.
-/

namespace Dialogue.Flow.ActiveSequence

/-- The index of some messages behind others, read together with all of them:
the last one with a number is found, or else what the index held before. -/
theorem bind_indexFrom (before messages : List Message)
    (index : Std.TreeMap MessageId Nat) (id : MessageId) :
    ((indexFrom before.length index messages)[id]?).bind
        (fun place => (before ++ messages)[place]?) =
      (messages.reverse.find? fun message => message.id == id).or
        ((index[id]?).bind fun place => (before ++ messages)[place]?) := by
  -- A message that is indexed moves over to the ones before, so that places stay.
  induction messages generalizing before index with
  | nil => simp [indexFrom]
  | cons message rest ih =>
      have later := ih (before ++ [message]) (index.insert message.id before.length)
      rw [List.append_assoc, List.singleton_append, List.length_append,
        List.length_singleton] at later
      rw [indexFrom, later, List.reverse_cons, List.find?_append, Option.or_assoc]
      congr 1
      rw [Std.TreeMap.getElem?_insert]
      by_cases same : message.id = id
      · simp [same]
      · simp [same]

/-- The message with a number is the last one that has it. -/
theorem message?_eq_find? (active : ActiveSequence) (id : MessageId) :
    active.message? id =
      active.sequence.messages.reverse.find? fun message => message.id == id := by
  have found := bind_indexFrom [] active.sequence.messages ∅ id
  rw [List.length_nil, ← active.indexed] at found
  simpa [message?] using found

/-- The message that is found under a number has that number. -/
theorem id_of_message?_eq_some {active : ActiveSequence} {id : MessageId}
    {message : Message} (found : active.message? id = some message) :
    message.id = id := by
  rw [message?_eq_find?] at found
  simpa using List.find?_some found

end Dialogue.Flow.ActiveSequence

namespace Dialogue.Flow

/-- The same for a sequence that may be missing. -/
theorem id_of_activeLookup_eq_some {active : Option ActiveSequence} {id : MessageId}
    {message : Message} (found : activeLookup active id = some message) :
    message.id = id := by
  obtain ⟨sequence, _, inside⟩ := Option.bind_eq_some_iff.mp found
  exact ActiveSequence.id_of_message?_eq_some inside

end Dialogue.Flow
