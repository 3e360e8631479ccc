import Dialogue.Proofs.Chains
import Dialogue.Proofs.Lines

/-!
# The first level with lines

A text that is not remembered is looked up along its chain as far as the first level that has
a line which is not blank.  One of the lines of this level is drawn, once; what is authored
for the levels behind it, or for keys that are not in the chain, makes no difference to the
answer and to what the resolver is afterwards.
-/

namespace Dialogue

/-! ## A single draw -/

namespace Random.Generator

/-- A number was drawn once: it is below the count, it is the part of the count that the next
two words amount to when they are read as a fraction, and the generator stands behind one of
them or both. -/
structure Draws (g : Generator) (count index : Nat) (moved : Generator) : Prop where
  below : index < count
  scaled : count ≤ UInt32.size →
    index = (g.word * UInt32.size + g.advance.word) * count / UInt32.size ^ 2
  moved : moved = g.advance ∨ moved = g.advance.advance

/-- The second word counts only if the first one leaves the number open. -/
theorem fst_pick_eq_scaled (g : Generator) {count : Nat} (positive : 0 < count)
    (small : count ≤ UInt32.size) :
    (g.pick count).1 =
      (g.word * UInt32.size + g.advance.word) * count / UInt32.size ^ 2 := by
  have word : g.advance.word < UInt32.size := UInt32.toNat_lt _
  have second : g.advance.word * count / UInt32.size < count :=
    Nat.div_lt_of_lt_mul (Nat.mul_lt_mul_of_pos_right word positive)
  have split : (g.word * UInt32.size + g.advance.word) * count / UInt32.size ^ 2 =
      (g.word * count + g.advance.word * count / UInt32.size) / UInt32.size := by
    rw [pow_two, ← Nat.div_div_eq_div_mul, Nat.add_mul, Nat.mul_right_comm, Nat.add_comm,
      Nat.add_mul_div_right _ _ (by decide), Nat.add_comm]
  rw [split]
  simp only [pick, UInt32.size] at small second ⊢
  generalize g.word * count = scaled
  generalize g.advance.word * count / 4294967296 = carried at second ⊢
  split
  · split <;> omega
  · omega

theorem draws_pick (g : Generator) {count : Nat} (positive : 0 < count) :
    g.Draws count (g.pick count).1 (g.pick count).2 where
  below := g.pick_lt positive
  scaled := g.fst_pick_eq_scaled positive
  moved := by
    simp only [pick]
    split
    · exact .inr rfl
    · exact .inl rfl

end Random.Generator

namespace Content.Resolver

/-! ## Libraries that agree -/

/-- A resolver gives the same answer about a text, and is the same afterwards, for every
library whose lines differ from the authored ones at most at keys of a class. -/
def Answers (resolver : Resolver) (authored : String → List String) (text : String)
    (answer : Option String × Resolver) (free : String → Prop) : Prop :=
  ∀ (library : Library) (files : Files) (lines : String → List String),
    library.Offers files lines → (∀ key, lines key ≠ authored key → free key) →
      resolver.resolve? (library files) text = answer

variable {variants : String → List String} {resolver : Resolver} {text : String}

theorem firstUsable?_append {before : List String} {level : String}
    (empty : ∀ earlier ∈ before, variants earlier = []) (nonempty : variants level ≠ [])
    (behind : List String) :
    firstUsable? variants (before ++ level :: behind) = some (variants level) := by
  have skipped : (before.map variants).find? (fun lines => !lines.isEmpty) = none := by
    simpa using empty
  have kept : (!(variants level).isEmpty) = true := by simpa using nonempty
  rw [firstUsable?, List.map_append, List.find?_append, skipped, Option.none_or, List.map_cons]
  exact List.find?_cons_of_pos kept

theorem draw_of_pick (text : String) {lines : List String} {index : Nat} {line : String}
    {moved : Random.Generator} (picked : resolver.generator.pick lines.length = (index, moved))
    (listed : lines[index]? = some line) :
    resolver.draw text lines =
      (line,
        { resolver with cache := resolver.cache.insert text line, generator := moved }) := by
  simp only [draw, picked, List.getD_eq_getElem?_getD, listed, Option.getD_some]

/-- No level has lines. -/
theorem resolve?_of_forall_eq_nil (uncached : resolver.cache.get? text = none)
    (empty : ∀ level ∈ resolver.chain text, variants level = []) :
    resolver.resolve? variants text = (none, resolver) := by
  simp only [resolve?, uncached, firstUsable?_eq_none_iff.mpr empty]

/-- A line of the first level that has any is drawn. -/
theorem resolve?_of_chain (uncached : resolver.cache.get? text = none)
    {before behind : List String} {level : String}
    (chain : resolver.chain text = before ++ level :: behind)
    (empty : ∀ earlier ∈ before, variants earlier = []) (nonempty : variants level ≠ []) :
    resolver.resolve? variants text =
      (resolver.draw text (variants level)).map some id := by
  simp only [resolve?, uncached, chain, firstUsable?_append empty nonempty behind]
  rfl

variable {authored : String → List String}

theorem answers_of_forall_eq_nil (uncached : resolver.cache.get? text = none)
    (blank : ∀ level ∈ resolver.chain text, usable (authored level) = []) :
    resolver.Answers authored text (none, resolver) fun other => other ∉ resolver.chain text := by
  intro library files lines offers altered
  apply resolve?_of_forall_eq_nil uncached
  intro level member
  have same : lines level = authored level := by
    by_contra different
    exact altered level different member
  rw [offers, same, blank level member]

theorem answers_of_chain (uncached : resolver.cache.get? text = none)
    {before behind : List String} {level : String}
    (chain : resolver.chain text = before ++ level :: behind)
    (distinct : (resolver.chain text).Nodup)
    (blank : ∀ earlier ∈ before, usable (authored earlier) = [])
    (nonempty : usable (authored level) ≠ []) {index : Nat} {line : String}
    {moved : Random.Generator}
    (picked : resolver.generator.pick (usable (authored level)).length = (index, moved))
    (listed : (usable (authored level))[index]? = some line) :
    resolver.Answers authored text
      (some line, { resolver with cache := resolver.cache.insert text line, generator := moved })
      fun other => other ∉ resolver.chain text ∨ other ∈ behind := by
  intro library files lines offers altered
  have regrouped : resolver.chain text = (before ++ [level]) ++ behind := by simp [chain]
  -- The levels up to this one are in the chain and do not stand behind it.
  have same : ∀ other ∈ before ++ [level], library files other = usable (authored other) := by
    intro other member
    have kept : lines other = authored other := by
      by_contra different
      rw [regrouped] at altered distinct
      rcases altered other different with outside | later
      · exact outside (List.mem_append_left behind member)
      · exact (List.nodup_append.mp distinct).2.2 other member other later rfl
    rw [offers, kept]
  have here := same level (by simp)
  have empty : ∀ earlier ∈ before, library files earlier = [] := fun earlier member =>
    (same earlier (by simp [member])).trans (blank earlier member)
  rw [resolve?_of_chain uncached chain empty (here ▸ nonempty), here,
    draw_of_pick text picked listed]
  rfl

/-- A resolver looks up a text no further than to the first level with lines.

The text is a key that the resolver does not remember.  Either no level of the chain has a
line that is not blank: then there is no line, the resolver stays as it is, and only the
levels of the chain matter.  Or there is a first level that has some: then one of these lines
is drawn, once, and remembered, and only the levels as far as this one matter. -/
theorem answers_of_first_level (resolver : Resolver) {text : String} {key : Key}
    (parsed : Key.parse? text = some key) (uncached : resolver.cache.get? text = none)
    (authored : String → List String) :
    let chain := key.chain resolver.settings
    ((∀ level ∈ chain, ∀ variant ∈ authored level, Text.isBlankText variant = true) ∧
        resolver.Answers authored text (none, resolver) fun other => other ∉ chain) ∨
      ∃ before level behind, chain = before ++ level :: behind ∧
        (∀ earlier ∈ before, ∀ variant ∈ authored earlier, Text.isBlankText variant = true) ∧
        (∃ variant ∈ authored level, Text.isBlankText variant = false) ∧
        ∃ index line moved,
          resolver.generator.pick (usable (authored level)).length = (index, moved) ∧
            resolver.generator.Draws (usable (authored level)).length index moved ∧
            (usable (authored level))[index]? = some line ∧
            resolver.Answers authored text
              (some line,
                { resolver with cache := resolver.cache.insert text line, generator := moved })
              fun other => other ∉ chain ∨ other ∈ behind := by
  intro chain
  have levels : resolver.chain text = chain := by rw [Resolver.chain, parsed]
  have distinct : chain.Nodup :=
    (key.chain_eq_eraseDups resolver.settings ▸ firstOccurrences_eraseDups _).nodup
  rw [← levels] at distinct ⊢
  cases first : firstUsable? (fun level => usable (authored level)) (resolver.chain text) with
  | none =>
      have blank := firstUsable?_eq_none_iff.mp first
      exact .inl ⟨fun level member => usable_eq_nil_iff.mp (blank level member),
        answers_of_forall_eq_nil uncached blank⟩
  | some _ =>
      obtain ⟨before, level, behind, split, blank, rfl, nonempty⟩ := firstUsable?_eq_some first
      have visible : ∃ variant ∈ authored level, Text.isBlankText variant = false := by
        obtain ⟨variant, member⟩ := List.exists_mem_of_ne_nil _ nonempty
        obtain ⟨listed, notBlank⟩ := mem_usable_iff.mp member
        exact ⟨variant, listed, notBlank⟩
      obtain ⟨index, moved, picked⟩ : ∃ index moved,
          resolver.generator.pick (usable (authored level)).length = (index, moved) :=
        ⟨_, _, rfl⟩
      have draws := resolver.generator.draws_pick (List.length_pos_iff.mpr nonempty)
      rw [picked] at draws
      have listed := List.getElem?_eq_getElem draws.below
      exact .inr ⟨before, level, behind, split,
        fun earlier member => usable_eq_nil_iff.mp (blank earlier member), visible, index, _,
        moved, picked, draws, listed,
        answers_of_chain uncached split distinct blank nonempty picked listed⟩

/-- The greetings for users that are known by now, and one that was written for another level
since then. -/
def moreGreetings : Dictionary (List String) :=
  greetings.insert "bot.greet.user.positive" ["Lovely to see you"]

/-- A greeting for the morning is one of the greetings for users, and stays the same when
others are written for a level behind them. -/
theorem answers_of_first_level_greetings :
    let text := "bot.greet.user.morning"
    let key : Key :=
      { actor := "bot", action := "greet", subject := "user", modifiers := ["morning"] }
    Key.parse? text = some key ∧ (new {}).cache.get? text = none ∧
      ∃ index line, index < 2 ∧ ["Hello", "Hi"][index]? = some line ∧
        ((new {}).resolve? (Library.memory greetings {}) text).1 = some line ∧
        (new {}).resolve? (Library.memory moreGreetings {}) text =
          (new {}).resolve? (Library.memory greetings {}) text := by
  intro text key
  have parsed : Key.parse? text = some key := by decide +kernel
  have uncached : (new {}).cache.get? text = none := rfl
  let authored := fun key => (greetings.get? key).getD []
  have levels : key.chain (new {}).settings =
      [text, "bot.greet.user", "bot.greet.user.positive", "bot.greet.user.neutral"] := by
    decide +kernel
  have known : usable (authored "bot.greet.user") = ["Hello", "Hi"] := by decide +kernel
  have hello : "Hello" ∈ authored "bot.greet.user" ∧ Text.isBlankText "Hello" = false := by
    decide +kernel
  have morning : ∀ variant ∈ authored text, Text.isBlankText variant = true := by
    decide +kernel
  refine ⟨parsed, uncached, ?_⟩
  rcases answers_of_first_level (new {}) parsed uncached authored with
    ⟨blank, -⟩ | ⟨before, level, behind, split, blank, ⟨variant, listed, visible⟩, index, line,
      moved, -, draws, drawn, answers⟩
  · exact absurd (blank _ (by simp [levels]) _ hello.1) (by simp [hello.2])
  · rw [levels] at split
    -- The first level with lines is the second one.
    rcases before with _ | ⟨first, _ | ⟨second, rest⟩⟩
    · obtain ⟨rfl, -⟩ := List.cons.inj split
      exact absurd (morning variant listed) (by simp [visible])
    · obtain ⟨-, rfl, rfl⟩ : _ ∧ _ ∧ _ := by simpa using split
      rw [known] at draws drawn
      have old := answers (Library.memory greetings) {} _ (Library.offers_memory _ _)
        fun other different => absurd rfl different
      have new := answers (Library.memory moreGreetings) {} _ (Library.offers_memory _ _) (by
        intro other different
        refine .inr (List.mem_cons.mpr (.inl ?_))
        by_contra elsewhere
        apply different
        simp only [moreGreetings, Dictionary.get?_insert, if_neg elsewhere, authored])
      exact ⟨index, line, draws.below, drawn, congrArg Prod.fst old, new.trans old.symm⟩
    · obtain ⟨-, rfl, -⟩ : _ ∧ _ ∧ _ := by simpa using split
      exact absurd (blank _ (by simp) _ hello.1) (by simp [hello.2])

end Content.Resolver

end Dialogue
