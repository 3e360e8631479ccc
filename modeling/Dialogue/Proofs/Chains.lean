import Dialogue.Content.Resolver
import Dialogue.Proofs.Text.Pieces
import Dialogue.Proofs.Text.Trimming

/-!
# Chains of content keys

The text of a key is what was parsed, without the blank characters around it.  The chain of a
key holds the keys to be tried for it, each where it stands for the first time among them; so
it has no repetitions, begins with the key itself, and finds the same key as a search through
all of them, however modifiers, default modifiers and generic subjects coincide.
-/

namespace Dialogue.Content

/-! ## First occurrences -/

/-- A list holds the members of another one, each where it occurs first. -/
structure FirstOccurrences (all kept : List String) : Prop where
  mem_iff : ∀ text, text ∈ kept ↔ text ∈ all
  ordered : kept.Pairwise fun first second => all.idxOf first < all.idxOf second

/-- Dropping later occurrences leaves the first ones. -/
theorem firstOccurrences_eraseDups (all : List String) :
    FirstOccurrences all all.eraseDups where
  mem_iff text := List.mem_eraseDups
  ordered := by
    induction all using List.reverseRecOn with
    | nil => exact .nil
    | append_singleton all last ih =>
        have earlier : all.eraseDups.Pairwise fun first second =>
            (all ++ [last]).idxOf first < (all ++ [last]).idxOf second := by
          apply ih.imp_of_mem
          intro first second firstIn secondIn before
          rw [List.idxOf_append_of_mem (List.mem_eraseDups.mp firstIn),
            List.idxOf_append_of_mem (List.mem_eraseDups.mp secondIn)]
          exact before
        rw [List.eraseDups_append]
        by_cases old : last ∈ all
        · have dropped : [last].removeAll all = [] := by simp [List.removeAll, old]
          rw [dropped, List.eraseDups_nil, List.append_nil]
          exact earlier
        · have added : [last].removeAll all = [last] := by simp [List.removeAll, old]
          rw [added, List.eraseDups_cons, List.filter_nil, List.eraseDups_nil,
            List.pairwise_append]
          refine ⟨earlier, List.pairwise_singleton _ _, ?_⟩
          intro text member other isLast
          have known := List.mem_eraseDups.mp member
          rw [List.mem_singleton.mp isLast, List.idxOf_append_of_mem known,
            List.idxOf_append_of_notMem old]
          exact Nat.lt_add_right _ (List.idxOf_lt_length_of_mem known)

namespace FirstOccurrences

variable {all kept : List String}

theorem nodup (is : FirstOccurrences all kept) : kept.Nodup := by
  apply is.ordered.imp
  rintro text _ before rfl
  exact Nat.lt_irrefl _ before

/-- A search finds the same among the first occurrences as among all. -/
theorem find?_eq (is : FirstOccurrences all kept) (p : String → Bool) :
    kept.find? p = all.find? p := by
  cases found : all.find? p with
  | none =>
      rw [List.find?_eq_none] at found ⊢
      exact fun text member => found text ((is.mem_iff text).mp member)
  | some text =>
      obtain ⟨holds, front, back, rfl, notBefore⟩ := List.find?_eq_some_iff_append.mp found
      have listed : text ∈ kept := (is.mem_iff text).mpr (by simp)
      obtain ⟨before, behind, rfl⟩ := List.append_of_mem listed
      have notInFront : text ∉ front := fun member => by simpa [holds] using notBefore text member
      have place : (front ++ text :: back).idxOf text = front.length := by
        rw [List.idxOf_append_of_notMem notInFront, List.idxOf_cons_self, Nat.add_zero]
      refine List.find?_eq_some_iff_append.mpr ⟨holds, before, behind, rfl, ?_⟩
      intro other member
      have earlier := (List.pairwise_append.mp is.ordered).2.2 other member text
        List.mem_cons_self
      rw [place] at earlier
      -- What occurs before the text that is found stands in front of it.
      apply notBefore other
      by_contra outside
      rw [List.idxOf_append_of_notMem outside] at earlier
      exact absurd earlier (Nat.not_lt.mpr (Nat.le_add_right _ _))

end FirstOccurrences

namespace Key

/-! ## Texts of keys -/

/-- The text of the key for a subject with some modifiers, one behind the other. -/
def spelled (key : Key) (subject : String) (modifiers : List String) : String :=
  modifiers.foldl (fun front modifier => front ++ "." ++ modifier)
    (key.actor ++ "." ++ key.action ++ "." ++ subject)

theorem dotted_eq_spelled (key : Key) (subject : String) (modifiers : List String) :
    dotted ([key.actor, key.action, subject] ++ modifiers) = key.spelled subject modifiers := by
  induction modifiers using List.reverseRecOn with
  | nil => simp [dotted, spelled, String.intercalate_cons_cons, String.append_assoc]
  | append_singleton modifiers last ih =>
      rw [dotted] at ih
      rw [spelled, List.foldl_append, List.foldl_cons, List.foldl_nil, ← spelled, ← ih, dotted,
        ← List.append_assoc, String.intercalate_append_of_ne_nil (by simp) (by simp),
        String.intercalate_singleton]

/-- The names of a key are the pieces of the text that was parsed. -/
theorem names_of_parse? {text : String} {key : Key} (parsed : parse? text = some key) :
    [key.actor, key.action, key.subject] ++ key.modifiers =
      Text.piecesAt '.' (Text.trim text) := by
  simp only [parse?] at parsed
  split at parsed
  · cases parsed
  · split at parsed
    · rename_i names
      cases parsed
      rw [names]
      rfl
    · cases parsed

/-- The text of a key is the trimmed text that was parsed. -/
theorem text_of_parse? {raw : String} {key : Key} (parsed : parse? raw = some key) :
    key.text = Text.trim raw := by
  rw [text, names_of_parse? parsed]
  exact Text.intercalate_piecesAt '.' _

theorem parse?_trim (text : String) : parse? (Text.trim text) = parse? text := by
  have again : Text.trim (Text.trim text) = Text.trim text := by
    simp only [Text.trim, String.toList_ofList, Text.trimmed_trimmed]
  rw [parse?, again, parse?]

/-! ## Keys to be tried -/

/-- The keys to be tried for one subject, in order: with the modifiers dropped from the end
one at a time until the bare key is left, and the bare key with each default modifier. -/
def row (key : Key) (subject : String) (defaults : List String) : List String :=
  key.modifiers.inits.reverse.map (key.spelled subject) ++
    defaults.map fun modifier => key.spelled subject [modifier]

/-- The keys to be tried for a key, in order and with repetitions: those for its subject, and
those for the generic subject if it has one that is different. -/
def scan (key : Key) (settings : Settings) : List String :=
  key.row key.subject settings.defaultModifiers ++
    match settings.aliases.get? key.subject with
    | some generic =>
        if generic = key.subject then [] else key.row generic settings.defaultModifiers
    | none => []

theorem levels_eq_row (key : Key) (subject : String) (defaults : List String) :
    key.levels subject defaults = key.row subject defaults := by
  have shortened : key.modifiers.inits =
      (List.range (key.modifiers.length + 1)).map key.modifiers.take := by
    apply List.ext_getElem (by simp)
    intro count _ _
    simp [List.getElem_inits]
  simp only [levels, row, shortened, ← List.map_reverse, List.map_map, Function.comp_def,
    dotted_eq_spelled]

theorem candidates_eq_scan (key : Key) (settings : Settings) :
    key.candidates settings = key.scan settings := by
  simp only [candidates, scan, levels_eq_row, Settings.aliasOf?]
  cases settings.aliases.get? key.subject with
  | none => rfl
  | some generic =>
      by_cases same : generic = key.subject
      · simp [Option.filter, same]
      · simp [Option.filter, same]

/-- The first key to be tried is the key itself. -/
theorem exists_scan_eq_cons (key : Key) (settings : Settings) :
    ∃ rest, key.scan settings = key.text :: rest := by
  have whole : key.text = key.spelled key.subject key.modifiers :=
    key.dotted_eq_spelled key.subject key.modifiers
  have longest : ∃ shorter, key.modifiers.inits.reverse = key.modifiers :: shorter := by
    cases key.modifiers using List.reverseRecOn with
    | nil => exact ⟨[], rfl⟩
    | append_singleton modifiers last =>
        rw [List.inits_append]
        exact ⟨modifiers.inits.reverse, by simp⟩
  obtain ⟨shorter, split⟩ := longest
  rw [scan, row, split, whole]
  exact ⟨_, rfl⟩

theorem chain_eq_eraseDups (key : Key) (settings : Settings) :
    key.chain settings = (key.scan settings).eraseDups := by
  rw [chain, candidates_eq_scan]

/-- The chain of a parsed key.

The text of the key is the parsed text without the blank characters around it, and it is
parsed to the same key.  The chain begins with it, has no repetitions and holds the keys to be
tried, each where it occurs first among them; so a search through the chain finds the same key
as one through all keys to be tried. -/
theorem chain_in_order {raw : String} {key : Key} (parsed : parse? raw = some key)
    (settings : Settings) :
    key.text = Text.trim raw ∧
      parse? key.text = some key ∧
      (key.chain settings).head? = some (Text.trim raw) ∧
      (key.chain settings).Nodup ∧
      FirstOccurrences (key.scan settings) (key.chain settings) ∧
      ∀ hasLines : String → Bool,
        (key.chain settings).find? hasLines = (key.scan settings).find? hasLines := by
  have text := text_of_parse? parsed
  have first : FirstOccurrences (key.scan settings) (key.chain settings) :=
    key.chain_eq_eraseDups settings ▸ firstOccurrences_eraseDups _
  refine ⟨text, ?_, ?_, first.nodup, first, first.find?_eq⟩
  · rw [text, parse?_trim, parsed]
  · obtain ⟨rest, split⟩ := key.exists_scan_eq_cons settings
    rw [chain_eq_eraseDups, split, List.eraseDups_cons, List.head?_cons, text]

/-- A key whose modifier is a default one too, and whose generic subject holds a point. -/
theorem chain_in_order_cheers :
    let key : Key :=
      { actor := "bot", action := "cheer", subject := "race", modifiers := ["loud", "positive"] }
    let settings := Settings.withAlias {} "race" "race.loud"
    parse? " bot.cheer.race.loud.positive\n" = some key ∧
      key.text = "bot.cheer.race.loud.positive" ∧
      (key.chain settings).head? = some "bot.cheer.race.loud.positive" ∧
      (key.scan settings).length = 10 ∧
      key.chain settings =
        ["bot.cheer.race.loud.positive", "bot.cheer.race.loud", "bot.cheer.race",
          "bot.cheer.race.positive", "bot.cheer.race.neutral",
          "bot.cheer.race.loud.loud.positive", "bot.cheer.race.loud.loud",
          "bot.cheer.race.loud.neutral"] := by
  intro key settings
  have parsed : parse? " bot.cheer.race.loud.positive\n" = some key := by decide +kernel
  have trimmed : Text.trim " bot.cheer.race.loud.positive\n" = "bot.cheer.race.loud.positive" := by
    decide +kernel
  obtain ⟨text, -, head, -⟩ := chain_in_order parsed settings
  exact ⟨parsed, trimmed ▸ text, trimmed ▸ head, by decide +kernel, by decide +kernel⟩

end Key

end Dialogue.Content
