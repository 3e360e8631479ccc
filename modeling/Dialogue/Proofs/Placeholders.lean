import Dialogue.Flow.Template
import Mathlib.Data.List.TakeWhile

/-!
# What is put in place of placeholders

A placeholder holds no brace but its first and its last character.  So no placeholder that
begins in front of an opening brace goes beyond it, and the text in front of a placeholder is
replaced as if nothing followed; behind its closing brace the replacement starts afresh.  This
holds for any text around it, also for one with stray braces.  A text without placeholders is
left as it is, and with it what has been put in: it is not looked at again.
-/

namespace Dialogue.Flow

/-! ## The form of a placeholder -/

section Form

variable {key rest cs : List Char} {default : Option (List Char)}

/-- What stands behind the opening brace of a placeholder. -/
def placeholderTail (key : List Char) (default : Option (List Char)) : List Char :=
  match default with
  | none => key ++ ['\x7d']
  | some content => key ++ '|' :: (content ++ ['\x7d'])

/-- A key and a default that a placeholder can have. -/
structure CanFill (key : List Char) (default : Option (List Char)) : Prop where
  named : key ≠ []
  key : ∀ c ∈ key, isKeyChar c = true
  default : ∀ content, default = some content → ∀ c ∈ content, isDefaultChar c = true

/-- The placeholder with a key and a default. -/
def placeholderOf (key : List Char) (default : Option (List Char)) : Placeholder :=
  { key, default := default.getD [], length := (placeholderTail key default).length }

/-- A run of characters of a class ends in front of a character of another class. -/
theorem run_append {p : Char → Bool} {run : List Char} (inside : ∀ c ∈ run, p c = true)
    {c : Char} (outside : p c = false) (rest : List Char) :
    (run ++ c :: rest).takeWhile p = run ∧ (run ++ c :: rest).dropWhile p = c :: rest := by
  constructor
  · rw [List.takeWhile_append_of_pos inside,
      List.takeWhile_cons_of_neg (Bool.eq_false_iff.mp outside), List.append_nil]
  · rw [List.dropWhile_append_of_pos inside,
      List.dropWhile_cons_of_neg (Bool.eq_false_iff.mp outside)]

/-- A placeholder is found behind its opening brace, whatever follows it. -/
theorem placeholder?_tail (fills : CanFill key default) (rest : List Char) :
    placeholder? (placeholderTail key default ++ rest) = some (placeholderOf key default) := by
  have named : key.isEmpty = false := by simpa using fills.named
  cases default with
  | none =>
      have shape : placeholderTail key none ++ rest = key ++ '\x7d' :: rest := by
        rw [placeholderTail, List.append_assoc]
        rfl
      obtain ⟨run, behind⟩ := run_append fills.key (show isKeyChar '\x7d' = false from rfl) rest
      rw [shape]
      simp [placeholder?, run, behind, named, placeholderOf, placeholderTail]
  | some content =>
      have shape : placeholderTail key (some content) ++ rest =
          key ++ '|' :: (content ++ '\x7d' :: rest) := by
        simp [placeholderTail]
      obtain ⟨run, behind⟩ := run_append fills.key (show isKeyChar '|' = false from rfl)
        (content ++ '\x7d' :: rest)
      obtain ⟨runDefault, behindDefault⟩ := run_append (fills.default content rfl)
        (show isDefaultChar '\x7d' = false from rfl) rest
      rw [shape]
      simp [placeholder?, run, behind, named, runDefault, behindDefault, placeholderOf,
        placeholderTail]
      omega

/-- What is found behind an opening brace is a placeholder with a key and a default. -/
theorem exists_of_placeholder? {p : Placeholder} (found : placeholder? cs = some p) :
    ∃ key default rest, CanFill key default ∧ cs = placeholderTail key default ++ rest ∧
      p = placeholderOf key default := by
  have keyChars : ∀ c ∈ cs.takeWhile isKeyChar, isKeyChar c = true := fun c member =>
    List.mem_takeWhile_imp member
  have split := List.takeWhile_append_dropWhile (p := isKeyChar) (l := cs)
  simp only [placeholder?] at found
  split at found
  · cases found
  · rename_i nonempty
    have named : cs.takeWhile isKeyChar ≠ [] := by simpa using nonempty
    split at found
    · rename_i rest behind
      have fills : CanFill (cs.takeWhile isKeyChar) none :=
        ⟨named, keyChars, fun _ given => by cases given⟩
      rw [behind] at split
      refine ⟨_, none, rest, fills, ?_, ?_⟩
      · rw [placeholderTail, List.append_assoc]
        exact split.symm
      · cases found
        simp [placeholderOf, placeholderTail]
    · rename_i rest behind
      have splitDefault := List.takeWhile_append_dropWhile (p := isDefaultChar) (l := rest)
      split at found
      · rename_i after closing
        have fills : CanFill (cs.takeWhile isKeyChar) (some (rest.takeWhile isDefaultChar)) := by
          refine ⟨named, keyChars, ?_⟩
          rintro _ ⟨⟩ c member
          exact List.mem_takeWhile_imp member
        rw [closing] at splitDefault
        rw [behind, ← splitDefault] at split
        refine ⟨_, _, after, fills, ?_, ?_⟩
        · simpa [placeholderTail] using split.symm
        · cases found
          simp [placeholderOf, placeholderTail]
          omega
      · cases found
    · cases found

/-- There is no opening brace in a placeholder but the first one. -/
theorem openingBrace_not_mem_tail (fills : CanFill key default) :
    '\x7b' ∉ placeholderTail key default := by
  have notKey : '\x7b' ∉ key := fun member => by cases fills.key _ member
  cases default with
  | none => simp [placeholderTail, notKey]
  | some content =>
      have notDefault : '\x7b' ∉ content := fun member => by
        cases fills.default content rfl _ member
      simp [placeholderTail, notKey, notDefault]

/-- What begins in front of an opening brace does not go beyond it. -/
theorem placeholder?_append (cs rest : List Char) :
    placeholder? (cs ++ '\x7b' :: rest) = placeholder? cs := by
  cases found : placeholder? cs with
  | some p =>
      obtain ⟨key, default, after, fills, rfl, rfl⟩ := exists_of_placeholder? found
      rw [List.append_assoc, placeholder?_tail fills]
  | none =>
      rw [Option.eq_none_iff_forall_ne_some]
      intro p longer
      obtain ⟨key, default, after, fills, shape, -⟩ := exists_of_placeholder? longer
      rcases List.append_eq_append_iff.mp shape with ⟨more, inside, brace⟩ | ⟨more, rfl, -⟩
      · cases more with
        | nil =>
            rw [List.append_nil] at inside
            rw [← inside, ← List.append_nil (placeholderTail key default),
              placeholder?_tail fills] at found
            cases found
        | cons c others =>
            cases brace
            apply openingBrace_not_mem_tail fills
            rw [inside]
            exact List.mem_append_right _ List.mem_cons_self
      · rw [placeholder?_tail fills] at found
        cases found

end Form

/-! ## Replacing -/

section Replacing

variable (state : Dictionary Value)

/-- Characters that are to be passed over are passed over. -/
theorem substituteFrom_append (front rest : List Char) :
    substituteFrom state front.length (front ++ rest) = substituteFrom state 0 rest := by
  induction front with
  | nil => rfl
  | cons c front ih => exact ih

/-- A text in front of an opening brace is replaced as if nothing followed. -/
theorem substituteFrom_append_brace {skip : Nat} {front : List Char} (short : skip ≤ front.length)
    (rest : List Char) :
    substituteFrom state skip (front ++ '\x7b' :: rest) =
      substituteFrom state skip front ++ substituteFrom state 0 ('\x7b' :: rest) := by
  induction front generalizing skip with
  | nil =>
      obtain rfl := Nat.le_zero.mp short
      rfl
  | cons c front ih =>
      cases skip with
      | succ skip => exact ih (Nat.le_of_succ_le_succ short)
      | zero =>
          generalize substituteFrom state 0 ('\x7b' :: rest) = replaced at ih ⊢
          simp only [List.cons_append, substituteFrom, placeholder?_append]
          split
          · split
            · rename_i p found
              obtain ⟨key, default, after, fills, rfl, rfl⟩ := exists_of_placeholder? found
              have inside : (placeholderOf key default).length ≤
                  (placeholderTail key default ++ after).length := by
                rw [List.length_append]
                exact Nat.le_add_right _ _
              rw [ih inside, List.append_assoc]
            · rw [ih (Nat.zero_le _), List.cons_append]
          · rw [ih (Nat.zero_le _), List.cons_append]

/-- A placeholder is replaced by what it stands for, and behind it the replacement starts
afresh. -/
theorem substituteFrom_placeholder {key : List Char} {default : Option (List Char)}
    (fills : CanFill key default) (rest : List Char) :
    substituteFrom state 0 ('\x7b' :: (placeholderTail key default ++ rest)) =
      (placeholderOf key default).content state ++ substituteFrom state 0 rest := by
  rw [substituteFrom, if_pos rfl, placeholder?_tail fills]
  simp only [placeholderOf, substituteFrom_append]

/-- A text without placeholders stays as it is. -/
theorem substituteFrom_of_forall_ne {cs : List Char}
    (absent : ∀ front key default back, CanFill key default →
      cs ≠ front ++ '\x7b' :: (placeholderTail key default ++ back)) :
    substituteFrom state 0 cs = cs := by
  induction cs with
  | nil => rfl
  | cons c cs ih =>
      have absentBehind : ∀ front key default back, CanFill key default →
          cs ≠ front ++ '\x7b' :: (placeholderTail key default ++ back) := by
        rintro front key default back fills rfl
        exact absent (c :: front) key default back fills rfl
      rw [substituteFrom]
      split
      · rename_i opening
        cases found : placeholder? cs with
        | none => simp only [ih absentBehind]
        | some p =>
            obtain ⟨key, default, back, fills, rfl, -⟩ := exists_of_placeholder? found
            rw [opening] at absent
            exact absurd rfl (absent [] key default back fills)
      · rw [ih absentBehind]

end Replacing

/-! ## Texts with placeholders -/

/-- A key and a default that can be written into a placeholder: the key is not empty and
consists of letters and digits of ASCII, underscores, points and hyphens, and the default
holds no brace. -/
structure IsPlaceholder (key : String) (default : Option String) : Prop where
  named : key ≠ ""
  key : ∀ c ∈ key.toList, c.isAlpha ∨ c.isDigit ∨ c = '_' ∨ c = '.' ∨ c = '-'
  default : ∀ content, default = some content → '\x7b' ∉ content.toList ∧ '\x7d' ∉ content.toList

/-- A placeholder as it is written: a key between braces, or a key and a default with a bar
between them. -/
def placeholderText (key : String) (default : Option String) : String :=
  match default with
  | none => "\x7b" ++ key ++ "\x7d"
  | some content => "\x7b" ++ key ++ "|" ++ content ++ "\x7d"

/-- What a placeholder stands for: the value under its key as people read it, and the default,
if there is one, when the value is missing or null. -/
def shownFor (state : Dictionary Value) (key : String) (default : Option String) : String :=
  match state.get? key with
  | none | some .null => default.getD ""
  | some value => value.display

theorem canFill_iff (key : String) (default : Option String) :
    CanFill key.toList (default.map String.toList) ↔ IsPlaceholder key default := by
  have keyChar (c : Char) : isKeyChar c = true ↔
      (c.isAlpha ∨ c.isDigit ∨ c = '_' ∨ c = '.' ∨ c = '-') := by
    simp [isKeyChar, Char.isAlphanum, or_assoc]
  have defaultChars (content : String) : (∀ c ∈ content.toList, isDefaultChar c = true) ↔
      '\x7b' ∉ content.toList ∧ '\x7d' ∉ content.toList := by
    constructor
    · intro inside
      exact ⟨fun opening => absurd (inside _ opening) (by decide),
        fun closing => absurd (inside _ closing) (by decide)⟩
    · rintro ⟨noOpening, noClosing⟩ c member
      have notOpening : c ≠ '\x7b' := fun same => noOpening (same ▸ member)
      have notClosing : c ≠ '\x7d' := fun same => noClosing (same ▸ member)
      simp [isDefaultChar, notOpening, notClosing]
  constructor
  · intro fills
    refine ⟨?_, ?_, ?_⟩
    · rintro rfl
      exact fills.named rfl
    · intro c member
      exact (keyChar c).mp (fills.key c member)
    · rintro content rfl
      exact (defaultChars content).mp (fills.default content.toList rfl)
  · intro is
    refine ⟨?_, ?_, ?_⟩
    · intro nothing
      exact is.named (String.toList_eq_nil_iff.mp nothing)
    · intro c member
      exact (keyChar c).mpr (is.key c member)
    · intro characters given
      obtain ⟨content, rfl, rfl⟩ := Option.map_eq_some_iff.mp given
      exact (defaultChars content).mpr (is.default content rfl)

theorem toList_placeholderText (key : String) (default : Option String) :
    (placeholderText key default).toList =
      '\x7b' :: placeholderTail key.toList (default.map String.toList) := by
  cases default with
  | none => simp [placeholderText, placeholderTail]
  | some content => simp [placeholderText, placeholderTail]

theorem content_placeholderOf (state : Dictionary Value) (key : String)
    (default : Option String) :
    (placeholderOf key.toList (default.map String.toList)).content state =
      (shownFor state key default).toList := by
  have missing : (default.map String.toList).getD [] = (default.getD "").toList := by
    cases default <;> rfl
  rw [Placeholder.content, placeholderOf, String.ofList_toList, shownFor]
  cases found : state.get? key with
  | none => exact missing
  | some value =>
      cases value with
      | null => exact missing
      | _ => rfl

/-- Placeholders are replaced one by one.

A placeholder in a text is replaced by what it stands for, and the text before it and the text
behind it are replaced as if they stood alone, whatever braces they hold; what is put in is
not looked at again.  A text in which no placeholder stands is left as it is. -/
theorem substitute_append (state : Dictionary Value) :
    (∀ front key default back, IsPlaceholder key default →
      substitute state (front ++ placeholderText key default ++ back) =
        substitute state front ++ shownFor state key default ++ substitute state back) ∧
    ∀ text : String, (∀ front key default back, IsPlaceholder key default →
        text ≠ front ++ placeholderText key default ++ back) →
      substitute state text = text := by
  constructor
  · intro front key default back is
    have fills := (canFill_iff key default).mpr is
    have replaced := substituteFrom_append_brace state (Nat.zero_le front.toList.length)
      (placeholderTail key.toList (default.map String.toList) ++ back.toList)
    rw [substituteFrom_placeholder state fills, content_placeholderOf] at replaced
    simp only [substitute, String.toList_append, toList_placeholderText, List.cons_append,
      replaced, String.ofList_append, String.ofList_toList, String.append_assoc]
  · intro text absent
    have absentInside : ∀ front key default back, CanFill key default →
        text.toList ≠ front ++ '\x7b' :: (placeholderTail key default ++ back) := by
      intro front key default back fills shape
      have texts : (default.map String.ofList).map String.toList = default := by
        cases default <;> simp
      have is : IsPlaceholder (String.ofList key) (default.map String.ofList) := by
        rw [← canFill_iff, String.toList_ofList, texts]
        exact fills
      apply absent (String.ofList front) _ _ (String.ofList back) is
      apply String.toList_inj.mp
      simp only [String.toList_append, toList_placeholderText, String.toList_ofList, texts,
        List.append_assoc, List.cons_append]
      exact shape
    rw [substitute, substituteFrom_of_forall_ne state absentInside, String.ofList_toList]

/-- A name that looks like a placeholder, and a city that is not known. -/
def namedOddly : Dictionary Value :=
  .ofList [("user.name", .text "\x7bcity\x7d"), ("city", .null)]

/-- A placeholder right behind one that is not closed, and a text without placeholders. -/
theorem substitute_append_namedOddly :
    IsPlaceholder "user.name" none ∧
      shownFor namedOddly "user.name" none = "\x7bcity\x7d" ∧
      substitute namedOddly
          ("\x7bcity|" ++ placeholderText "user.name" none ++ "\x7d \x7bcity|a | b\x7d") =
        "\x7bcity|" ++ "\x7bcity\x7d" ++ "\x7d a | b" ∧
      (∀ front key default back, IsPlaceholder key default →
        "city|\x7d" ≠ front ++ placeholderText key default ++ back) ∧
      substitute namedOddly "city|\x7d" = "city|\x7d" := by
  have keyChars : "user.name".toList.all isKeyChar = true := by decide +kernel
  have is : IsPlaceholder "user.name" none := by
    apply (canFill_iff "user.name" none).mp
    refine ⟨by decide, List.all_eq_true.mp keyChars, ?_⟩
    rintro _ ⟨⟩
  have shown : shownFor namedOddly "user.name" none = "\x7bcity\x7d" := by decide +kernel
  have before : substitute namedOddly "\x7bcity|" = "\x7bcity|" := by decide +kernel
  have behind : substitute namedOddly "\x7d \x7bcity|a | b\x7d" = "\x7d a | b" := by
    decide +kernel
  have absent : ∀ front key default back, IsPlaceholder key default →
      "city|\x7d" ≠ front ++ placeholderText key default ++ back := by
    intro front key default back _ shape
    have opening : '\x7b' ∈ "city|\x7d".toList := by
      rw [shape]
      simp [toList_placeholderText]
    exact absurd opening (by decide)
  obtain ⟨replaces, keeps⟩ := substitute_append namedOddly
  have replaced := replaces "\x7bcity|" "user.name" none "\x7d \x7bcity|a | b\x7d" is
  rw [shown, before, behind] at replaced
  exact ⟨is, shown, replaced, absent, keeps _ absent⟩

end Dialogue.Flow
