import Dialogue.Flow.Engine

/-!
# Blocks of displayed messages

A message is shown as a block: one displayed message for each part of its text,
all under the number of the message, of which the last one offers the choices.
What a list of messages is shown as is the blocks of its messages one behind the
other, without the routing messages.
-/

namespace Dialogue.Flow

namespace Renderer

/-- Displayed choices offer authored ones: they are as many, numbered in order
from a number on, and each has a text that its authored choice was resolved
to. -/
inductive Offers (renderer : Renderer) :
    Nat → List Choice → List DisplayChoice → Prop where
  | nil (index : Nat) : Offers renderer index [] []
  | cons {index : Nat} {choice : Choice} {rest : List Choice}
      {others : List DisplayChoice} (resolver : Content.Resolver)
      (remaining : Offers renderer (index + 1) rest others) :
      Offers renderer index (choice :: rest)
        ({ index
           text := (renderer.resolveText resolver choice.text choice.contentKey).1 } ::
          others)

theorem offers_resolveChoices (renderer : Renderer) (index : Nat)
    (resolver : Content.Resolver) (choices : List Choice) :
    renderer.Offers index choices (renderer.resolveChoices index resolver choices).1 := by
  induction choices generalizing index resolver with
  | nil => exact .nil index
  | cons choice rest ih => exact .cons resolver (ih _ _)

theorem Offers.indices {renderer : Renderer} {index : Nat} {choices : List Choice}
    {displayed : List DisplayChoice} (offers : renderer.Offers index choices displayed) :
    displayed.map (·.index) = List.range' index choices.length := by
  induction offers with
  | nil index => rfl
  | cons resolver _ ih =>
      rw [List.map_cons, ih, List.length_cons, List.range'_succ]

/-- The displayed messages that a message is shown as. -/
structure IsBlock (renderer : Renderer) (message : Message)
    (block : List DisplayMessage) : Prop where
  nonempty : block ≠ []
  same : ∀ displayed ∈ block,
    displayed.id = message.id ∧ displayed.kind = message.kind ∧
      displayed.delay = message.delay ∧ displayed.storeKey = message.storeKey
  earlier : ∀ displayed ∈ block.dropLast, displayed.choices = []
  last : ∀ displayed, block.getLast? = some displayed →
    renderer.Offers 0 message.choices displayed.choices

theorem parts_ne_nil (renderer : Renderer) (text : String) : renderer.parts text ≠ [] := by
  rw [parts]
  split
  · exact List.cons_ne_nil _ _
  · simp only
    split
    · exact List.cons_ne_nil _ _
    · rename_i kept
      intro nothing
      rw [List.map_eq_nil_iff] at nothing
      simp [nothing] at kept

/-- One part more in front of a block. -/
theorem IsBlock.cons {renderer : Renderer} {message : Message}
    {rest : List DisplayMessage} (behind : renderer.IsBlock message rest) (text : String) :
    renderer.IsBlock message
      ({ id := message.id, kind := message.kind, text, delay := message.delay,
         choices := [], storeKey := message.storeKey } :: rest) where
  nonempty := List.cons_ne_nil _ _
  same := by
    intro displayed member
    rcases List.mem_cons.mp member with rfl | later
    · exact ⟨rfl, rfl, rfl, rfl⟩
    · exact behind.same displayed later
  earlier := by
    intro displayed member
    rw [List.dropLast_cons_of_ne_nil behind.nonempty] at member
    rcases List.mem_cons.mp member with rfl | later
    · rfl
    · exact behind.earlier displayed later
  last := by
    intro displayed final
    rw [List.getLast?_cons_of_ne_nil behind.nonempty] at final
    exact behind.last displayed final

theorem isBlock_block {renderer : Renderer} {message : Message}
    {choices : List DisplayChoice} (offers : renderer.Offers 0 message.choices choices)
    {texts : List String} (given : texts ≠ []) :
    renderer.IsBlock message (block message choices texts) := by
  induction texts with
  | nil => exact absurd rfl given
  | cons text rest ih =>
      cases rest with
      | nil =>
          exact
            { nonempty := List.cons_ne_nil _ _
              same := by simp [block]
              earlier := by simp [block]
              last := by simpa [block] using offers }
      | cons second rest =>
          have more : second :: rest ≠ [] := List.cons_ne_nil second rest
          rw [block]
          · exact (ih more).cons text
          · exact more

theorem isBlock_renderMessage (renderer : Renderer) (resolver : Content.Resolver)
    (message : Message) :
    renderer.IsBlock message (renderer.renderMessage resolver message).1 :=
  isBlock_block (renderer.offers_resolveChoices 0 _ message.choices)
    (renderer.parts_ne_nil _)

/-- Messages are shown one behind the other. -/
theorem render_append (renderer : Renderer) (resolver : Content.Resolver)
    (first second : List Message) :
    (renderer.render resolver (first ++ second)).1 =
      (renderer.render resolver first).1 ++
        (renderer.render (renderer.render resolver first).2 second).1 := by
  induction first generalizing resolver with
  | nil => rfl
  | cons message rest ih =>
      simp only [List.cons_append, render]
      split
      · exact ih resolver
      · simp only [ih, List.append_assoc]

/-- Whatever is shown belongs to a message that is no routing message. -/
theorem exists_of_mem_render {renderer : Renderer} {resolver : Content.Resolver}
    {messages : List Message} {displayed : DisplayMessage}
    (member : displayed ∈ (renderer.render resolver messages).1) :
    ∃ message ∈ messages, message.kind.isRouting = false ∧
      displayed.id = message.id ∧ displayed.kind = message.kind := by
  induction messages generalizing resolver with
  | nil => contradiction
  | cons message rest ih =>
      simp only [render] at member
      split at member
      · obtain ⟨found, later, facts⟩ := ih member
        exact ⟨found, List.mem_cons_of_mem message later, facts⟩
      · rename_i visible
        rcases List.mem_append.mp member with first | others
        · have facts := (renderer.isBlock_renderMessage resolver message).same displayed first
          exact ⟨message, List.mem_cons_self, by simpa using visible, facts.1, facts.2.1⟩
        · obtain ⟨found, later, facts⟩ := ih others
          exact ⟨found, List.mem_cons_of_mem message later, facts⟩

/-- A single message is shown as its block. -/
theorem isBlock_render_singleton (renderer : Renderer) (resolver : Content.Resolver)
    {message : Message} (visible : message.kind.isRouting = false) :
    renderer.IsBlock message (renderer.render resolver [message]).1 := by
  have only : (renderer.render resolver [message]).1 =
      (renderer.renderMessage resolver message).1 := by
    simp [render, visible]
  rw [only]
  exact renderer.isBlock_renderMessage resolver message

end Renderer

end Dialogue.Flow
