import Dialogue.Content.Resolver
import Dialogue.Proofs.Dictionary
import Mathlib.Data.Set.Card

/-!
# The lines that a resolver gives

A resolver may be asked for lines, told to forget, and asked again.  Whatever it
remembers on the way was authored for the text it is remembered under, a text keeps its
line until the resolver forgets, and only texts that no line serves are answered by
something else.
-/

namespace Dialogue

/-! ## Drawing a number -/

namespace Random.Generator

/-- A number that is picked is below the count that it is picked for. -/
theorem pick_lt (g : Generator) {count : Nat} (positive : 0 < count) :
    (g.pick count).1 < count := by
  have word : g.word < UInt32.size := UInt32.toNat_lt _
  have product : (g.word + 1) * count ≤ UInt32.size * count :=
    Nat.mul_le_mul_right count word
  rw [Nat.add_mul, Nat.one_mul] at product
  simp only [pick, UInt32.size] at product ⊢
  generalize g.word * count = scaled at product ⊢
  generalize g.advance.word * count = second
  -- Where the lower half may overflow, the upper half is not the greatest number yet.
  split
  · split <;> omega
  · omega

end Random.Generator

namespace Content

/-! ## Lines of a text -/

/-- A library offers the authored lines of each key that are not blank. -/
def Library.Offers (library : Library) (files : Files) (authored : String → List String) :
    Prop :=
  ∀ key, library files key = usable (authored key)

theorem Library.offers_memory (variants : Dictionary (List String)) (files : Files) :
    (memory variants).Offers files fun key => (variants.get? key).getD [] :=
  fun _ => rfl

/-- The variants that the files of a folder hold for a key. -/
def Library.held (root : Path) (files : Files) (key : String) : List String :=
  let text? := (pathOf? root key).bind fun path => (files.read path).toOption
  (text?.bind fun text => (Decoder.decodeText decodeVariants text).toOption).getD []

theorem Library.offers_folder (root : Path) (files : Files) :
    (folder root).Offers files (held root files) := by
  intro key
  rw [folder, held]
  cases pathOf? root key with
  | none => rfl
  | some path =>
      simp only [Option.bind_some]
      cases files.read path with
      | error _ => rfl
      | ok text =>
          simp only [Except.toOption, Option.bind_some]
          cases Decoder.decodeText decodeVariants text with
          | error _ => rfl
          | ok variants => rfl

/-- A line serves a text: the text is a key, and the line is one of the lines that are
not blank of the first key of its chain that has such lines. -/
def Serves (authored : String → List String) (settings : Settings) (text line : String) :
    Prop :=
  ∃ key before level behind,
    Key.parse? text = some key ∧
      key.chain settings = before ++ level :: behind ∧
      (∀ other ∈ before, ∀ variant ∈ authored other, Text.isBlankText variant = true) ∧
      line ∈ authored level ∧ Text.isBlankText line = false

/-- A text that no line serves: it is no key, or no key of its chain has a line that is
not blank. -/
def Unserved (authored : String → List String) (settings : Settings) (text : String) :
    Prop :=
  Key.parse? text = none ∨
    ∃ key, Key.parse? text = some key ∧
      ∀ level ∈ key.chain settings, ∀ variant ∈ authored level,
        Text.isBlankText variant = true

theorem Serves.not_unserved {authored : String → List String} {settings : Settings}
    {text line : String} (serves : Serves authored settings text line) :
    ¬Unserved authored settings text := by
  obtain ⟨key, before, level, behind, parsed, chain, _, member, notBlank⟩ := serves
  rintro (malformed | ⟨other, again, blank⟩)
  · rw [parsed] at malformed
    cases malformed
  · rw [parsed] at again
    cases again
    have reached : level ∈ key.chain settings := by simp [chain]
    rw [blank level reached line member] at notBlank
    cases notBlank

theorem mem_usable_iff {variants : List String} {line : String} :
    line ∈ usable variants ↔ line ∈ variants ∧ Text.isBlankText line = false := by
  simp [usable]

theorem usable_eq_nil_iff {variants : List String} :
    usable variants = [] ↔ ∀ variant ∈ variants, Text.isBlankText variant = true := by
  simp [usable]

namespace Resolver

/-! ## One question -/

/-- What is asked of a resolver. -/
inductive Query where
  /-- The line for a text. -/
  | line (text : String)
  /-- The line for a text, or another one if there is none. -/
  | lineOr (text fallback : String)
  /-- To forget the lines given so far. -/
  | forget

/-- The text that a query asks for. -/
def Query.text? : Query → Option String
  | .line text => some text
  | .lineOr text _ => some text
  | .forget => none

/-- The answer to a query, and the resolver behind it. -/
def answer (resolver : Resolver) (variants : String → List String) :
    Query → Option String × Resolver
  | .line text => resolver.resolve? variants text
  | .lineOr text fallback =>
      let (line, resolver) := resolver.resolve variants text fallback
      (some line, resolver)
  | .forget => (none, resolver.clear)

theorem Query.asks_or_forget (query : Query) :
    (∃ text, query.text? = some text) ∨ query = .forget := by
  cases query with
  | line text => exact .inl ⟨text, rfl⟩
  | lineOr text fallback => exact .inl ⟨text, rfl⟩
  | forget => exact .inr rfl

variable {resolver : Resolver} {variants : String → List String}
  {authored : String → List String}

theorem resolve?_of_cached {text line : String}
    (cached : resolver.cache.get? text = some line) :
    resolver.resolve? variants text = (some line, resolver) := by
  rw [resolve?, cached]

/-- A text without a line leaves the resolver as it is. -/
theorem snd_resolve?_of_none {text : String}
    (missing : (resolver.resolve? variants text).1 = none) :
    (resolver.resolve? variants text).2 = resolver := by
  rw [resolve?] at missing ⊢
  split
  · rfl
  · split
    · rfl
    · rename_i new _ lines found
      rw [new, found] at missing
      cases missing

/-- The line that a question gives is the one remembered for its text behind it; other
texts are not touched. -/
theorem get?_cache_resolve? (asked text : String) :
    (resolver.resolve? variants asked).2.cache.get? text =
      if text = asked then (resolver.resolve? variants asked).1
      else resolver.cache.get? text := by
  rw [resolve?]
  split
  · rename_i line cached
    split
    · rename_i same
      rw [same, cached]
    · rfl
  · rename_i new
    split
    · split
      · rename_i same
        rw [same, new]
      · rfl
    · rw [draw, Dictionary.get?_insert]

@[simp]
theorem settings_resolve? (text : String) :
    (resolver.resolve? variants text).2.settings = resolver.settings := by
  rw [resolve?]
  split
  · rfl
  · split <;> rfl

theorem snd_answer_of_text {query : Query} {text : String} (asks : query.text? = some text) :
    (resolver.answer variants query).2 = (resolver.resolve? variants text).2 := by
  cases query with
  | line other =>
      cases asks
      rfl
  | lineOr other fallback =>
      cases asks
      rfl
  | forget => cases asks

theorem fst_answer_of_resolved {query : Query} {text line : String}
    (asks : query.text? = some text)
    (resolved : (resolver.resolve? variants text).1 = some line) :
    (resolver.answer variants query).1 = some line := by
  cases query with
  | line other =>
      cases asks
      exact resolved
  | lineOr other fallback =>
      cases asks
      simp only [answer, resolve, resolved, Option.getD_some]
  | forget => cases asks

@[simp]
theorem settings_answer (query : Query) :
    (resolver.answer variants query).2.settings = resolver.settings := by
  rcases query.asks_or_forget with ⟨text, asks⟩ | rfl
  · rw [snd_answer_of_text asks, settings_resolve?]
  · rfl

/-! ## The lines that are found -/

/-- The first key of a chain that has usable lines, among those before it and behind. -/
theorem firstUsable?_eq_some {keys : List String} {lines : List String}
    (found : firstUsable? variants keys = some lines) :
    ∃ before level behind, keys = before ++ level :: behind ∧
      (∀ other ∈ before, variants other = []) ∧ variants level = lines ∧ lines ≠ [] := by
  rw [firstUsable?, List.find?_map] at found
  obtain ⟨level, first, rfl⟩ := Option.map_eq_some_iff.mp found
  obtain ⟨nonempty, before, behind, split, empty⟩ := List.find?_eq_some_iff_append.mp first
  refine ⟨before, level, behind, split, ?_, rfl, ?_⟩
  · intro other member
    simpa using empty other member
  · simpa using nonempty

theorem firstUsable?_eq_none_iff {keys : List String} :
    firstUsable? variants keys = none ↔ ∀ level ∈ keys, variants level = [] := by
  simp [firstUsable?]

/-- What is drawn is one of the lines. -/
theorem fst_draw_mem (text : String) {lines : List String} (nonempty : lines ≠ []) :
    (resolver.draw text lines).1 ∈ lines := by
  have below : (resolver.generator.pick lines.length).1 < lines.length :=
    Random.Generator.pick_lt _ (List.length_pos_iff.mpr nonempty)
  have drawn : (resolver.draw text lines).1 = lines[(resolver.generator.pick lines.length).1] := by
    simp [draw, below]
  rw [drawn]
  exact List.getElem_mem below

/-- Every line that is remembered serves its text. -/
def Sound (authored : String → List String) (resolver : Resolver) : Prop :=
  ∀ text line, resolver.cache.get? text = some line →
    Serves authored resolver.settings text line

theorem sound_new (settings : Settings) : (new settings).Sound authored := by
  intro text line cached
  cases cached

section Sound

variable (offers : ∀ key, variants key = usable (authored key))

include offers

/-- The line that a sound resolver gives serves the text. -/
theorem Sound.serves (sound : resolver.Sound authored) {text line : String}
    (resolved : (resolver.resolve? variants text).1 = some line) :
    Serves authored resolver.settings text line := by
  rw [resolve?] at resolved
  split at resolved
  · rename_i cached
    cases resolved
    exact sound text line cached
  · split at resolved
    · cases resolved
    · rename_i lines found
      have drawn : (resolver.draw text lines).1 = line := Option.some.inj resolved
      obtain ⟨before, level, behind, chain, empty, rfl, nonempty⟩ := firstUsable?_eq_some found
      have member : (resolver.draw text (variants level)).1 ∈ variants level :=
        fst_draw_mem text nonempty
      rw [drawn, offers level] at member
      obtain ⟨listed, notBlank⟩ := mem_usable_iff.mp member
      rw [Resolver.chain] at chain
      split at chain
      · rename_i key parsed
        refine ⟨key, before, level, behind, parsed, chain, ?_, listed, notBlank⟩
        intro other earlier
        exact usable_eq_nil_iff.mp (offers other ▸ empty other earlier)
      · -- The chain of a text that is no key is empty.
        simp at chain

theorem Sound.resolve?_eq_none_iff (sound : resolver.Sound authored) (text : String) :
    (resolver.resolve? variants text).1 = none ↔
      Unserved authored resolver.settings text := by
  constructor
  · intro missing
    rw [resolve?] at missing
    split at missing
    · cases missing
    · split at missing
      · rename_i exhausted
        rw [firstUsable?_eq_none_iff, Resolver.chain] at exhausted
        match parsed : Key.parse? text with
        | none => exact .inl parsed
        | some key =>
            refine .inr ⟨key, parsed, fun level member => ?_⟩
            rw [parsed] at exhausted
            exact usable_eq_nil_iff.mp (offers level ▸ exhausted level member)
      · cases missing
  · intro unserved
    match resolved : (resolver.resolve? variants text).1 with
    | none => rfl
    | some line => exact absurd unserved (sound.serves offers resolved).not_unserved

theorem Sound.resolve? (sound : resolver.Sound authored) (text : String) :
    (resolver.resolve? variants text).2.Sound authored := by
  intro other line cached
  rw [settings_resolve?]
  rw [get?_cache_resolve?] at cached
  split at cached
  · rename_i same
    exact same ▸ sound.serves offers cached
  · exact sound other line cached

theorem Sound.answer (sound : resolver.Sound authored) (query : Query) :
    (resolver.answer variants query).2.Sound authored := by
  rcases query.asks_or_forget with ⟨text, asks⟩ | rfl
  · rw [snd_answer_of_text asks]
    exact sound.resolve? offers text
  · intro text line cached
    cases cached

end Sound

/-! ## Many questions -/

/-- The resolver behind some queries. -/
def after (resolver : Resolver) (variants : String → List String) : List Query → Resolver
  | [] => resolver
  | query :: rest => (resolver.answer variants query).2.after variants rest

theorem after_append (resolver : Resolver) (first second : List Query) :
    resolver.after variants (first ++ second) =
      (resolver.after variants first).after variants second := by
  induction first generalizing resolver with
  | nil => rfl
  | cons query rest ih => exact ih _

theorem after_append_singleton (queries : List Query) (query : Query) :
    resolver.after variants (queries ++ [query]) =
      ((resolver.after variants queries).answer variants query).2 := by
  rw [after_append]
  rfl

@[simp]
theorem settings_after (resolver : Resolver) (queries : List Query) :
    (resolver.after variants queries).settings = resolver.settings := by
  induction queries generalizing resolver with
  | nil => rfl
  | cons query rest ih => rw [after, ih, settings_answer]

theorem Sound.after (offers : ∀ key, variants key = usable (authored key))
    (sound : resolver.Sound authored) (queries : List Query) :
    (resolver.after variants queries).Sound authored := by
  induction queries generalizing resolver with
  | nil => exact sound
  | cons query rest ih => exact ih (sound.answer offers query)

/-- A line that is remembered stays until the resolver is told to forget. -/
theorem cached_after {text line : String} (cached : resolver.cache.get? text = some line)
    {queries : List Query} (kept : .forget ∉ queries) :
    (resolver.after variants queries).cache.get? text = some line := by
  induction queries generalizing resolver with
  | nil => exact cached
  | cons query rest ih =>
      rw [List.mem_cons, not_or] at kept
      apply ih _ kept.2
      rcases query.asks_or_forget with ⟨asked, asks⟩ | rfl
      · rw [snd_answer_of_text asks, get?_cache_resolve?]
        split
        · rename_i same
          rw [← same, resolve?_of_cached cached]
        · exact cached
      · exact absurd rfl kept.1

/-- Behind a question that gave a line, the text keeps the line until the resolver is told
to forget. -/
theorem answer_after_of_resolved {first second : Query} {text line : String}
    (asksFirst : first.text? = some text) (asksSecond : second.text? = some text)
    (resolved : (resolver.resolve? variants text).1 = some line) {between : List Query}
    (kept : .forget ∉ between) :
    ((resolver.after variants (first :: between)).answer variants second).1 = some line := by
  have cached : (resolver.answer variants first).2.cache.get? text = some line := by
    rw [snd_answer_of_text asksFirst, get?_cache_resolve?, if_pos rfl, resolved]
  have still : ((resolver.answer variants first).2.after variants between).cache.get? text =
      some line := cached_after cached kept
  apply fst_answer_of_resolved asksSecond
  rw [after, resolve?_of_cached still]

/-- Since it was last told to forget, a resolver has given a line for a text. -/
def Gave (resolver : Resolver) (variants : String → List String) (queries : List Query)
    (text : String) : Prop :=
  ∃ earlier query later, queries = earlier ++ query :: later ∧
    query.text? = some text ∧ .forget ∉ later ∧
      ((resolver.after variants earlier).resolve? variants text).1 ≠ none

theorem gave_append_singleton_iff {queries : List Query} {last : Query} {text : String} :
    resolver.Gave variants (queries ++ [last]) text ↔
      last.text? = some text ∧
          ((resolver.after variants queries).resolve? variants text).1 ≠ none ∨
        last ≠ .forget ∧ resolver.Gave variants queries text := by
  constructor
  · rintro ⟨earlier, query, later, split, asks, kept, resolved⟩
    rcases List.eq_nil_or_concat later with rfl | ⟨later, other, rfl⟩
    · obtain ⟨rfl, same⟩ := List.append_inj' split rfl
      cases same
      exact .inl ⟨asks, resolved⟩
    · rw [List.concat_eq_append, ← List.cons_append, ← List.append_assoc] at split
      obtain ⟨rfl, same⟩ := List.append_inj' split rfl
      cases same
      simp only [List.concat_eq_append, List.mem_append, List.mem_singleton, not_or] at kept
      exact .inr ⟨fun same => kept.2 same.symm, earlier, query, later, rfl, asks, kept.1,
        resolved⟩
  · rintro (⟨asks, resolved⟩ | ⟨kept, earlier, query, later, rfl, asks, others, resolved⟩)
    · exact ⟨queries, last, [], rfl, asks, List.not_mem_nil, resolved⟩
    · refine ⟨earlier, query, later ++ [last], ?_, asks, ?_, resolved⟩
      · rw [List.append_assoc, List.cons_append]
      · simpa [others] using fun same => kept same.symm

/-- A new resolver remembers lines for the texts that it gave lines for since it was last
told to forget. -/
theorem mem_keys_after_new_iff (settings : Settings) (queries : List Query) (text : String) :
    text ∈ ((new settings).after variants queries).cache.keys ↔
      (new settings).Gave variants queries text := by
  simp only [Dictionary.mem_keys_iff, ← Option.ne_none_iff_exists']
  induction queries using List.reverseRecOn with
  | nil =>
      constructor
      · intro cached
        exact absurd rfl cached
      · rintro ⟨earlier, query, later, split, _⟩
        cases earlier <;> cases split
  | append_singleton queries last ih =>
      rw [gave_append_singleton_iff, ← ih, after_append_singleton]
      rcases last.asks_or_forget with ⟨asked, asks⟩ | rfl
      · have kept : last ≠ .forget := by
          rintro rfl
          cases asks
        rw [snd_answer_of_text asks, get?_cache_resolve?]
        by_cases same : text = asked
        · -- What is remembered for a text is a line that it was given.
          subst same
          simp only [asks, true_and, if_pos, ne_eq, kept, not_false_eq_true]
          constructor
          · exact .inl
          · rintro (resolved | cached)
            · exact resolved
            · obtain ⟨line, cached⟩ := Option.ne_none_iff_exists'.mp cached
              rw [resolve?_of_cached cached]
              exact Option.some_ne_none line
        · have different : last.text? ≠ some text := by
            rw [asks]
            exact fun equal => same (Option.some.inj equal).symm
          simp [same, different, kept]
      · simp [answer, clear, Query.text?]

/-- What a new resolver has to show for any questions about a library that does not change.

Every line that it remembers serves its text.  A text that was given a line is given the
same line again, with whatever fallback, until the resolver is told to forget.  A text
goes without a line, and is answered by the fallback whatever that is, exactly if no line
serves it; otherwise the answer serves it.  As many lines are remembered as there are
texts that were given one since the resolver was last told to forget. -/
theorem serves_after_new {library : Library} {files : Files}
    {authored : String → List String} (offers : library.Offers files authored)
    (settings : Settings) (queries : List Query) :
    let lines := library files
    let resolver := (new settings).after lines queries
    (∀ entry ∈ resolver.cache.entries, Serves authored settings entry.1 entry.2) ∧
      (∀ text line first between second,
        (resolver.resolve? lines text).1 = some line →
        first.text? = some text → second.text? = some text → .forget ∉ between →
          (resolver.answer lines first).1 = some line ∧
            ((resolver.after lines (first :: between)).answer lines second).1 = some line) ∧
      (∀ text,
        ((resolver.resolve? lines text).1 = none ↔ Unserved authored settings text) ∧
          ((∀ fallback, (resolver.resolve lines text fallback).1 = fallback) ↔
            Unserved authored settings text) ∧
          ∀ line, (resolver.resolve? lines text).1 = some line →
            Serves authored settings text line) ∧
      resolver.cache.size = {text | (new settings).Gave lines queries text}.ncard := by
  intro lines resolver
  have sound : resolver.Sound authored := (sound_new settings).after offers queries
  have same : resolver.settings = settings := settings_after (new settings) queries
  have missing (text : String) :
      (resolver.resolve? lines text).1 = none ↔ Unserved authored settings text :=
    same ▸ sound.resolve?_eq_none_iff offers text
  refine ⟨?_, ?_, ?_, ?_⟩
  · rintro ⟨text, line⟩ member
    exact same ▸ sound text line ((Dictionary.mem_entries_iff _ _ _).mp member)
  · intro text line first between second resolved asksFirst asksSecond kept
    exact ⟨fst_answer_of_resolved asksFirst resolved,
      answer_after_of_resolved asksFirst asksSecond resolved kept⟩
  · intro text
    refine ⟨missing text, ?_, fun line resolved => same ▸ sound.serves offers resolved⟩
    rw [← missing text]
    constructor
    · -- A line cannot be equal to two different fallbacks.
      intro falls
      by_contra found
      obtain ⟨line, resolved⟩ := Option.ne_none_iff_exists'.mp found
      have empty := falls ""
      have other := falls " "
      simp only [resolve, resolved, Option.getD_some] at empty other
      exact absurd (empty.symm.trans other) (by decide)
    · intro unresolved fallback
      simp only [resolve, unresolved, Option.getD_none]
  · have keys : {text | (new settings).Gave lines queries text} =
        (resolver.cache.keys.toFinset : Set String) := by
      ext text
      simp only [Set.mem_ofPred_eq, List.coe_toFinset]
      exact (mem_keys_after_new_iff settings queries text).symm
    rw [keys, Set.ncard_coe_finset,
      List.toFinset_card_of_nodup (Dictionary.nodup_keys _), Dictionary.keys,
      List.length_map, Dictionary.size]

/-- Two greetings for users, one of them for the morning and one that is blank. -/
def greetings : Dictionary (List String) :=
  .ofList [("bot.greet.user", ["Hello", " ", "Hi"]), ("bot.greet.user.morning", ["  "])]

theorem serves_after_new_greetings :
    (Library.memory greetings).Offers {} (fun key => (greetings.get? key).getD []) ∧
      ∀ fallback,
        (((new {}).after (Library.memory greetings {})
          [.line "bot.greet.user.morning", .line "hello", .forget]).resolve
            (Library.memory greetings {}) "bot.greet" fallback).1 = fallback := by
  have offers := Library.offers_memory greetings {}
  exact ⟨offers, ((serves_after_new offers {} _).2.2.1 "bot.greet").2.1.mpr
    (.inl (by decide +kernel))⟩

end Resolver

end Content

end Dialogue
