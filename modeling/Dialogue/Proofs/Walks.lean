import Dialogue.Flow.Walk

/-!
# The course of a walk

What a walk does is decided by the message it stands at: whether it is there, is
one to stop on, and leads to another number.  The relation of this module has one
case for each, and every walk is in it, so a proof about walks is an induction on
their course.
-/

namespace Dialogue.Flow

/-! ## Reasons to stop -/

/-- A walk goes on behind a message only if it does not need the user, does
not branch and does not move on to another sequence. -/
theorem stopOn?_eq_none_iff (id : MessageId) (message : Message) :
    stopOn? id message = none ↔
      message.kind.isInteractive = false ∧ message.kind ≠ .autoroute ∧
        message.sequence = none := by
  rw [stopOn?]
  split
  · simp_all
  · split <;> simp_all

/-- The reasons to stop on a message, in the order in which they count. -/
theorem stopOn?_cases {id : MessageId} {message : Message} {stop : Stop}
    (stopped : stopOn? id message = some stop) :
    (message.kind.isInteractive = true ∧ stop = .interactive id) ∨
      (message.kind = .autoroute ∧ stop = .branch id) ∨
      (message.kind.isInteractive = false ∧ message.kind ≠ .autoroute ∧
        ∃ target, message.sequence = some target ∧ stop = .boundary id target) := by
  rw [stopOn?] at stopped
  split at stopped
  · rename_i interactive
    exact .inl ⟨interactive, (Option.some.inj stopped).symm⟩
  · rename_i passive
    split at stopped
    · rename_i branching
      exact .inr (.inl ⟨branching, (Option.some.inj stopped).symm⟩)
    · rename_i other
      obtain ⟨target, moves, rfl⟩ := Option.map_eq_some_iff.mp stopped
      exact .inr (.inr ⟨by simpa using passive, other, target, moves, rfl⟩)

/-- No message is a reason to give a walk up. -/
theorem stopOn?_ne_tooDeep (id : MessageId) (message : Message) :
    stopOn? id message ≠ some .tooDeep := by
  intro stopped
  rcases stopOn?_cases stopped with ⟨_, reason⟩ | ⟨_, reason⟩ | ⟨_, _, _, _, reason⟩
  all_goals contradiction

/-! ## Courses -/

/-- The walks from a message that may visit so many messages. -/
inductive Walks (lookup : Lookup) : Nat → MessageId → Walk → Prop where
  | nothing {id : MessageId} (limit : Nat) (missing : lookup id = none) :
      Walks lookup limit id { messages := [], stop := .finished }
  | tooDeep {id : MessageId} {message : Message} (found : lookup id = some message) :
      Walks lookup 0 id { messages := [], stop := .tooDeep }
  | stopped {id : MessageId} {message : Message} {stop : Stop} (limit : Nat)
      (found : lookup id = some message) (reason : stopOn? id message = some stop) :
      Walks lookup (limit + 1) id { messages := [message], stop }
  | last {id : MessageId} {message : Message} (limit : Nat)
      (found : lookup id = some message) (passed : stopOn? id message = none)
      (behind : message.next.or (MessageId.following? id) = none) :
      Walks lookup (limit + 1) id { messages := [message], stop := .finished }
  | onward {limit : Nat} {id next : MessageId} {message : Message} {walk : Walk}
      (found : lookup id = some message) (passed : stopOn? id message = none)
      (behind : message.next.or (MessageId.following? id) = some next)
      (rest : Walks lookup limit next walk) :
      Walks lookup (limit + 1) id { walk with messages := message :: walk.messages }

theorem walks_walkFrom (lookup : Lookup) (limit : Nat) (id : MessageId) :
    Walks lookup limit id (walkFrom lookup limit id) := by
  induction limit generalizing id with
  | zero =>
      rw [walkFrom]
      cases found : lookup id with
      | none => exact .nothing 0 found
      | some message => exact .tooDeep found
  | succ limit ih =>
      rw [walkFrom]
      cases found : lookup id with
      | none => exact .nothing _ found
      | some message =>
          simp only
          cases passed : stopOn? id message with
          | some stop => exact .stopped limit found passed
          | none =>
              simp only
              cases behind : message.next.or (MessageId.following? id) with
              | none => exact .last limit found passed behind
              | some next => exact .onward found passed behind (ih next)

/-- A walk that visits nothing stands where no message is, unless it is given
up. -/
theorem Walks.of_messages_eq_nil {lookup : Lookup} {limit : Nat} {id : MessageId}
    {walk : Walk} (walks : Walks lookup limit id walk) (walked : walk.stop ≠ .tooDeep)
    (nothing : walk.messages = []) : lookup id = none ∧ walk.stop = .finished := by
  cases walks with
  | nothing _ missing => exact ⟨missing, rfl⟩
  | tooDeep _ => exact absurd rfl walked
  | stopped _ _ _ => contradiction
  | last _ _ _ _ => contradiction
  | onward _ _ _ _ => contradiction

end Dialogue.Flow
