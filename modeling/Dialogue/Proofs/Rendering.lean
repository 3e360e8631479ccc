import Dialogue.Proofs.Blocks
import Dialogue.Proofs.Text.Pieces
import Dialogue.Proofs.Text.Trimming

/-!
# What a batch of messages is shown as

A phrase is shown as the line for its content key, or else as its literal text, with the
placeholders replaced.  The texts and labels of a batch are resolved one after another, so the
resolver that a phrase meets is the one behind all phrases in front of it.

A batch is shown as one block for each of its messages that is no routing message, and the
block of a message is determined by the message and by that resolver: the parts of the
resolved text, and behind the last part the choices with their resolved labels.
-/

namespace Dialogue

/-! ## Parts of a text -/

namespace Flow

/-- The parts in which a text is shown.  Without an occurrence of the delimiter it is a
single part; otherwise the parts are the pieces between the occurrences that are not blank,
trimmed, or an empty text if there is no such piece. -/
inductive PartsOf (delimiter text : String) : List String → Prop
  | whole (uncut : delimiter = "" ∨ ¬delimiter.toList <:+: text.toList) :
      PartsOf delimiter text [text]
  | pieces {pieces : List String} (nonempty : delimiter ≠ "")
      (occurs : delimiter.toList <:+: text.toList)
      (cut : Text.Cut delimiter.toList text.toList (pieces.map String.toList))
      (visible : ∃ piece ∈ pieces, Text.isBlankText piece = false) :
      PartsOf delimiter text
        ((pieces.filter fun piece => !Text.isBlankText piece).map Text.trim)
  | blank {pieces : List String} (nonempty : delimiter ≠ "")
      (occurs : delimiter.toList <:+: text.toList)
      (cut : Text.Cut delimiter.toList text.toList (pieces.map String.toList))
      (blank : ∀ piece ∈ pieces, Text.isBlankText piece = true) :
      PartsOf delimiter text [""]

/-- No part holds the delimiter. -/
theorem PartsOf.not_infix_of_mem {delimiter text : String} {parts : List String}
    (is : PartsOf delimiter text parts) (nonempty : delimiter ≠ "") {part : String}
    (member : part ∈ parts) : ¬delimiter.toList <:+: part.toList := by
  have characters : delimiter.toList ≠ [] := by simpa using nonempty
  cases is with
  | whole uncut =>
      rw [List.mem_singleton] at member
      exact member ▸ uncut.resolve_left nonempty
  | pieces _ _ cut _ =>
      obtain ⟨piece, kept, rfl⟩ := List.mem_map.mp member
      have listed := List.mem_map_of_mem (f := String.toList) (List.mem_of_mem_filter kept)
      intro inside
      exact cut.not_infix_of_mem characters listed (inside.trans (Text.toList_trim_infix piece))
  | blank _ _ _ _ =>
      rw [List.mem_singleton] at member
      subst member
      simpa using characters

namespace Renderer

theorem partsOf_parts (renderer : Renderer) (text : String) :
    PartsOf renderer.delimiter text (renderer.parts text) := by
  simp only [parts]
  split
  · rename_i uncut
    apply PartsOf.whole
    rw [Bool.or_eq_true, Bool.not_eq_true', ← Bool.not_eq_true, Text.occurs_iff] at uncut
    exact uncut.imp_left fun empty => by simpa using empty
  · rename_i uncut
    rw [Bool.or_eq_true, Bool.not_eq_true', ← Bool.not_eq_true, Text.occurs_iff, not_or,
      not_not] at uncut
    obtain ⟨nonempty, occurs⟩ := uncut
    have characters : renderer.delimiter.toList ≠ [] := by simpa using nonempty
    have named : renderer.delimiter ≠ "" := by simpa using nonempty
    let texts := Text.pieces renderer.delimiter.toList text.toList
    have cut : Text.Cut renderer.delimiter.toList text.toList
        ((texts.map String.ofList).map String.toList) := by
      simpa [Function.comp_def] using Text.cut_pieces characters text.toList
    -- A piece is dropped if nothing of it remains, that is, if it is blank.
    have kept : ((texts.map Text.trimmed).filter fun part => !part.isEmpty).map String.ofList =
        ((texts.map String.ofList).filter fun piece => !Text.isBlankText piece).map Text.trim := by
      have remains (cs : List Char) : (Text.trimmed cs).isEmpty = cs.all Text.isBlank := by
        rw [Bool.eq_iff_iff, List.isEmpty_iff, Text.trimmed_eq_nil_iff]
      simp [List.filter_map, Function.comp_def, remains, Text.isBlankText, Text.trim]
    split
    · rename_i nothing
      apply PartsOf.blank named occurs cut
      rw [List.isEmpty_iff] at nothing
      rw [nothing, List.map_nil, eq_comm, List.map_eq_nil_iff, List.filter_eq_nil_iff] at kept
      simpa using kept
    · rename_i something
      rw [kept]
      apply PartsOf.pieces named occurs cut
      by_contra allBlank
      apply something
      have noPiece :
          (texts.map String.ofList).filter (fun piece => !Text.isBlankText piece) = [] := by
        simpa using allBlank
      rw [noPiece, List.map_nil, List.map_eq_nil_iff] at kept
      exact List.isEmpty_iff.mpr kept

end Renderer

end Flow

/-! ## Phrases of a batch -/

/-- A literal text, and the content key of a line that replaces it. -/
structure Phrase where
  literal : String
  contentKey : Option String

/-- The label of a choice. -/
def Choice.label (choice : Choice) : Phrase :=
  { literal := choice.text, contentKey := choice.contentKey }

/-- The phrase that a message says. -/
def Message.saying (message : Message) : Phrase :=
  { literal := message.text, contentKey := message.contentKey }

/-- The phrases of a message in the order in which they are resolved: what it says and the
labels of its choices.  Of a routing message none is resolved. -/
def Message.phrases (message : Message) : List Phrase :=
  if message.kind.isRouting then [] else message.saying :: message.choices.map Choice.label

namespace Flow.Renderer

open Content (Resolver)

/-- The line of a phrase when it meets a resolver: the one that is given for its content key,
or else its literal text. -/
def line (renderer : Renderer) (resolver : Resolver) (phrase : Phrase) : String :=
  (phrase.contentKey.bind fun key => (resolver.resolve? renderer.variants key).1).getD
    phrase.literal

/-- The text of a phrase: its line, with the placeholders replaced. -/
def resolved (renderer : Renderer) (resolver : Resolver) (phrase : Phrase) : String :=
  substitute renderer.state (renderer.line resolver phrase)

/-- The resolver behind a phrase.  It has been asked for the content key if there is one. -/
def asked (renderer : Renderer) (resolver : Resolver) (phrase : Phrase) : Resolver :=
  match phrase.contentKey with
  | none => resolver
  | some key => (resolver.resolve? renderer.variants key).2

/-- The resolver behind phrases that are resolved one after another. -/
def behind (renderer : Renderer) (resolver : Resolver) (phrases : List Phrase) : Resolver :=
  phrases.foldl renderer.asked resolver

variable (renderer : Renderer) (resolver : Resolver)

/-- A phrase is resolved to its line with the placeholders replaced, and only its content key
is asked for. -/
theorem resolveText_eq (literal : String) (contentKey : Option String) :
    renderer.resolveText resolver literal contentKey =
      (renderer.resolved resolver { literal, contentKey },
        renderer.asked resolver { literal, contentKey }) := by
  cases contentKey <;> rfl

theorem behind_cons (phrase : Phrase) (rest : List Phrase) :
    renderer.behind resolver (phrase :: rest) =
      renderer.behind (renderer.asked resolver phrase) rest :=
  rfl

theorem behind_append (first second : List Phrase) :
    renderer.behind resolver (first ++ second) =
      renderer.behind (renderer.behind resolver first) second :=
  List.foldl_append

/-- The label of a choice meets the resolver behind the labels in front of it. -/
theorem getElem?_resolveChoices (index : Nat) (choices : List Choice) (i : Nat) :
    (renderer.resolveChoices index resolver choices).1[i]? =
      choices[i]?.map fun choice =>
        { index := index + i
          text := renderer.resolved
            (renderer.behind resolver ((choices.take i).map Choice.label)) choice.label } := by
  induction choices generalizing index resolver i with
  | nil => rfl
  | cons choice rest ih =>
      rw [resolveChoices, resolveText_eq]
      cases i with
      | zero => simp only [List.getElem?_cons_zero, Option.map_some, List.take_zero, List.map_nil,
          Nat.add_zero, Choice.label, behind, List.foldl_nil]
      | succ i =>
          simp only [List.getElem?_cons_succ, ih, List.take_succ_cons, List.map_cons, behind_cons,
            Choice.label, Nat.add_right_comm index 1 i, Nat.add_assoc]

theorem snd_resolveChoices (index : Nat) (choices : List Choice) :
    (renderer.resolveChoices index resolver choices).2 =
      renderer.behind resolver (choices.map Choice.label) := by
  induction choices generalizing index resolver with
  | nil => rfl
  | cons choice rest ih =>
      rw [resolveChoices, resolveText_eq, List.map_cons, behind_cons]
      exact ih _ _

/-! ## Blocks of a batch -/

/-- A choice of a message as it is shown when the message meets a resolver: numbered by its
place, with the label that it gets behind the text and the labels in front of it. -/
def offered (message : Message) (place : Nat) (choice : Choice) : DisplayChoice :=
  let before := message.saying :: (message.choices.take place).map Choice.label
  { index := place, text := renderer.resolved (renderer.behind resolver before) choice.label }

/-- The block that a message is shown as when it meets a resolver.  All of it bears the
number, kind, delay and key of the message; its texts are the parts of the resolved text, and
none of them holds the delimiter; the last one offers the choices of the message in order,
numbered from 0, and the others offer none. -/
structure Shows (message : Message) (block : List DisplayMessage) : Prop
    extends IsBlock renderer message block where
  choices : ∀ displayed, block.getLast? = some displayed → ∀ place,
    displayed.choices[place]? =
      message.choices[place]?.map (renderer.offered resolver message place)
  texts : PartsOf renderer.delimiter (renderer.resolved resolver message.saying)
    (block.map (·.text))
  apart : renderer.delimiter ≠ "" → ∀ displayed ∈ block,
    ¬renderer.delimiter.toList <:+: displayed.text.toList

theorem map_text_block (message : Message) (choices : List DisplayChoice)
    (texts : List String) : (block message choices texts).map (·.text) = texts := by
  induction texts with
  | nil => rfl
  | cons text rest ih =>
      cases rest with
      | nil => rfl
      | cons second rest =>
          rw [block, List.map_cons, ih]
          exact List.cons_ne_nil second rest

theorem choices_of_getLast?_block {message : Message} {choices : List DisplayChoice}
    {texts : List String} {displayed : DisplayMessage}
    (last : (block message choices texts).getLast? = some displayed) :
    displayed.choices = choices := by
  induction texts with
  | nil => cases last
  | cons text rest ih =>
      cases rest with
      | nil =>
          cases last
          rfl
      | cons second rest =>
          have more : second :: rest ≠ [] := List.cons_ne_nil second rest
          have nonempty : block message choices (second :: rest) ≠ [] := by
            intro nothing
            have texts := map_text_block message choices (second :: rest)
            rw [nothing] at texts
            cases texts
          rw [block, List.getLast?_cons_of_ne_nil nonempty] at last
          · exact ih last
          · exact more

/-- A message is shown as a block. -/
theorem shows_renderMessage (message : Message) :
    renderer.Shows resolver message (renderer.renderMessage resolver message).1 := by
  have is := renderer.isBlock_renderMessage resolver message
  have texts : (renderer.renderMessage resolver message).1.map (·.text) =
      renderer.parts (renderer.resolved resolver message.saying) := by
    rw [renderMessage, resolveText_eq]
    exact map_text_block _ _ _
  have parts := renderer.partsOf_parts (renderer.resolved resolver message.saying)
  refine ⟨is, ?_, texts ▸ parts, ?_⟩
  · intro displayed final place
    rw [renderMessage, resolveText_eq] at final
    rw [choices_of_getLast?_block final, getElem?_resolveChoices]
    simp only [Nat.zero_add]
    rfl
  · intro nonempty displayed member
    apply parts.not_infix_of_mem nonempty
    rw [← texts]
    exact List.mem_map_of_mem member

theorem snd_renderMessage {message : Message} (visible : message.kind.isRouting = false) :
    (renderer.renderMessage resolver message).2 =
      renderer.behind resolver message.phrases := by
  have phrases : message.phrases = message.saying :: message.choices.map Choice.label :=
    if_neg (Bool.eq_false_iff.mp visible)
  rw [renderMessage, resolveText_eq, phrases, behind_cons]
  exact renderer.snd_resolveChoices _ 0 message.choices

/-- Whether a message is shown. -/
def isShown (message : Message) : Bool :=
  !message.kind.isRouting

/-- Rendering loses, doubles and reorders nothing.

What a batch is shown as are blocks one behind the other, as many as messages that are no
routing messages.  The block of such a message stands at its place among them, and the
message is shown as this block when it meets the resolver behind all phrases of the messages
in front of it. -/
theorem render_eq_flatten_blocks (messages : List Message) :
    ∃ blocks : List (List DisplayMessage),
      (renderer.render resolver messages).1 = blocks.flatten ∧
        blocks.length = messages.countP isShown ∧
        ∀ before message after, messages = before ++ message :: after →
          message.kind.isRouting = false →
            ∃ block, blocks[before.countP isShown]? = some block ∧
              renderer.Shows (renderer.behind resolver (before.flatMap Message.phrases))
                message block := by
  induction messages generalizing resolver with
  | nil =>
      refine ⟨[], rfl, rfl, ?_⟩
      intro before message after split
      cases before <;> cases split
  | cons first rest ih =>
      by_cases hidden : first.kind.isRouting = true
      · have notShown : isShown first = false := by simp [isShown, hidden]
        have silent : first.phrases = [] := if_pos hidden
        obtain ⟨blocks, flat, count, each⟩ := ih resolver
        refine ⟨blocks, ?_, ?_, ?_⟩
        · rw [render, if_pos hidden, flat]
        · rw [List.countP_cons_of_neg (by simp [notShown]), count]
        · intro before message after split visible
          cases before with
          | nil =>
              cases split
              rw [hidden] at visible
              cases visible
          | cons other before =>
              obtain ⟨rfl, tails⟩ := List.cons.inj split
              rw [List.countP_cons_of_neg (by simp [notShown]), List.flatMap_cons, silent,
                List.nil_append]
              exact each before message after tails visible
      · rw [Bool.not_eq_true] at hidden
        have shown : isShown first = true := by simp [isShown, hidden]
        obtain ⟨blocks, flat, count, each⟩ := ih (renderer.behind resolver first.phrases)
        refine ⟨(renderer.renderMessage resolver first).1 :: blocks, ?_, ?_, ?_⟩
        · rw [render, if_neg (by simp [hidden]), List.flatten_cons, ← flat,
            ← snd_renderMessage renderer resolver hidden]
        · rw [List.countP_cons_of_pos shown, List.length_cons, count]
        · intro before message after split visible
          cases before with
          | nil =>
              cases split
              exact ⟨_, rfl, renderer.shows_renderMessage resolver first⟩
          | cons other before =>
              obtain ⟨rfl, tails⟩ := List.cons.inj split
              rw [List.countP_cons_of_pos shown, List.getElem?_cons_succ, List.flatMap_cons,
                behind_append]
              exact each before message after tails visible

/-- A question in two parts, with blank text between two delimiters. -/
def question : Message :=
  { id := 3, kind := .choice, text := "Ready? ||| |||Set?", storeKey := some "race.start"
    choices := [{ text := "Yes" }, { text := "No", contentKey := some "user.reply.no" }] }

/-- The question behind a message that routes and one that is shown. -/
def race : List Message :=
  [{ id := 1, kind := .autoroute }, { id := 2, kind := .system, text := "On your marks" },
    question]

theorem render_eq_flatten_blocks_race :
    let renderer : Renderer := { state := .empty, variants := fun _ => [], delimiter := "|||" }
    let resolver := Resolver.new {}
    race = race.take 2 ++ question :: [] ∧ question.kind.isRouting = false ∧
      (∃ blocks : List (List DisplayMessage),
        (renderer.render resolver race).1 = blocks.flatten ∧ blocks.length = 2 ∧
          ∃ block, blocks[1]? = some block ∧
            renderer.Shows (renderer.behind resolver [(race.getD 1 question).saying])
              question block) ∧
      (renderer.render resolver race).1.map (fun shown => (shown.text, shown.choices.length)) =
        [("On your marks", 0), ("Ready?", 0), ("Set?", 2)] := by
  intro renderer resolver
  have split : race = race.take 2 ++ question :: [] := rfl
  have visible : question.kind.isRouting = false := rfl
  obtain ⟨blocks, flat, count, each⟩ := renderer.render_eq_flatten_blocks resolver race
  exact ⟨split, visible, ⟨blocks, flat, count, each _ _ _ split visible⟩, by decide +kernel⟩

end Flow.Renderer

end Dialogue
