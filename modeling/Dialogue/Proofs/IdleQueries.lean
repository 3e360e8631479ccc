import Dialogue.Proofs.Lines

/-!
# Questions that need not be asked

A text that is remembered, and one without a line, leave the resolver as it is: nothing is
drawn for them.  So they may be left out of any questions, and all other answers stay what
they are.
-/

namespace Dialogue.Content.Resolver

/-- The elements of a list that are not marked. -/
def unmarked {α : Type} : List Bool → List α → List α
  | true :: marks, _ :: rest => unmarked marks rest
  | false :: marks, first :: rest => first :: unmarked marks rest
  | _, rest => rest

/-- A query asks for a text that is remembered, or that has no line. -/
def Idle (resolver : Resolver) (variants : String → List String) (query : Query) : Prop :=
  ∃ text, query.text? = some text ∧
    ((∃ line, resolver.cache.get? text = some line) ∨
      (resolver.resolve? variants text).1 = none)

/-- The answers to some queries, in order. -/
def answers (resolver : Resolver) (variants : String → List String) :
    List Query → List (Option String)
  | [] => []
  | query :: rest =>
      (resolver.answer variants query).1 ::
        (resolver.answer variants query).2.answers variants rest

variable {resolver : Resolver} {variants : String → List String}

theorem Idle.snd_answer {query : Query} (idle : resolver.Idle variants query) :
    (resolver.answer variants query).2 = resolver := by
  obtain ⟨text, asks, ⟨line, cached⟩ | missing⟩ := idle
  · rw [snd_answer_of_text asks, resolve?_of_cached cached]
  · rw [snd_answer_of_text asks, snd_resolve?_of_none missing]

/-- Idle queries that are left out change neither the other answers nor what is
remembered and drawn later. -/
theorem answers_unmarked (resolver : Resolver) (queries : List Query) (marks : List Bool)
    (idle : ∀ earlier query later, queries = earlier ++ query :: later →
      marks[earlier.length]? = some true →
        (resolver.after variants earlier).Idle variants query) :
    resolver.answers variants (unmarked marks queries) =
        unmarked marks (resolver.answers variants queries) ∧
      resolver.after variants (unmarked marks queries) = resolver.after variants queries := by
  induction queries generalizing resolver marks with
  | nil =>
      rcases marks with _ | ⟨_ | _, marks⟩
      · exact ⟨rfl, rfl⟩
      · exact ⟨rfl, rfl⟩
      · exact ⟨rfl, rfl⟩
  | cons query rest ih =>
      cases marks with
      | nil => exact ⟨rfl, rfl⟩
      | cons mark marks =>
          have idleLater : ∀ earlier other later, rest = earlier ++ other :: later →
              marks[earlier.length]? = some true →
                ((resolver.answer variants query).2.after variants earlier).Idle
                  variants other := by
            intro earlier other later split marked
            apply idle (query :: earlier) other later
            · rw [split, List.cons_append]
            · simpa using marked
          have further := ih (resolver.answer variants query).2 marks idleLater
          cases mark with
          | true =>
              -- A query that is left out would have led to the same resolver.
              have still := (idle [] query rest rfl rfl).snd_answer
              rw [after] at still
              simp only [unmarked, answers, after, still] at further ⊢
              exact further
          | false =>
              simp only [unmarked, answers, after]
              exact ⟨by rw [further.1], further.2⟩

/-- Questions about greetings: the second one is answered from memory, and the third one has
no answer. -/
def repeatedGreetings : List Query :=
  [.line "bot.greet.user.morning", .line "bot.greet.user.morning", .line "hello", .forget,
    .line "bot.greet.user"]

theorem answers_unmarked_repeatedGreetings :
    (∀ earlier query later, repeatedGreetings = earlier ++ query :: later →
      [false, true, true][earlier.length]? = some true →
        ((new {}).after (Library.memory greetings {}) earlier).Idle
          (Library.memory greetings {}) query) ∧
      (new {}).answers (Library.memory greetings {})
          [.line "bot.greet.user.morning", .forget, .line "bot.greet.user"] =
        unmarked [false, true, true]
          ((new {}).answers (Library.memory greetings {}) repeatedGreetings) := by
  have idle : ∀ earlier query later, repeatedGreetings = earlier ++ query :: later →
      [false, true, true][earlier.length]? = some true →
        ((new {}).after (Library.memory greetings {}) earlier).Idle
          (Library.memory greetings {}) query := by
    intro earlier query later split marked
    match earlier with
    | [] => cases marked
    | [_] =>
        cases split
        exact ⟨_, rfl, .inl ⟨"Hello", by decide +kernel⟩⟩
    | [_, _] =>
        cases split
        exact ⟨_, rfl, .inr (by decide +kernel)⟩
    | _ :: _ :: _ :: _ => simp at marked
  exact ⟨idle, (answers_unmarked (new {}) repeatedGreetings [false, true, true] idle).1⟩

end Dialogue.Content.Resolver
