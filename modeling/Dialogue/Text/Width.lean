import Dialogue.Text.Width.Classes

/-!
# Widths of texts

How many columns a text takes where every character stands on a grid.  Mostly
its characters take their own columns, one, two or none.  But a mark can ask
for another form of the character in front of it, a joiner makes one picture
of two, and some letters are written as one.  All of this shows at the end of
a group first, so a text is measured from its end: `Behind` says what has been
met there, and `step` measures the character in front of it.
-/

namespace Dialogue.Text

/-- The last part of a group of letters that can be written as one. -/
inductive Ending where
  | hebrewLamed
  | bugineseYa
  /-- The letter ya and the vowel sign in front of it. -/
  | bugineseSignYa
  | tifinagh
  /-- A Tifinagh consonant and the sign in front of it that joins. -/
  | tifinaghSign
  | lisuTone
  | turkicI
  | khmerLetter
deriving DecidableEq, Repr

/-- What stands behind a place in a text, as far as it can change the width of
what stands in front. -/
inductive Behind where
  | other
  | lineEnd
  | picture
  | tone
  | flagLetter
  | flagLetters
  /-- A joiner and a picture. -/
  | joined
  /-- The mark of a key, in front of a joiner and a picture. -/
  | joinedKey
  /-- A flag letter in front of a joiner and a picture. -/
  | joinedFlagLetter
  /-- Several flag letters there, an even or odd number of them. -/
  | joinedFlagLetters (even : Bool)
  /-- The end of a tag there, with so many letters in front of it. -/
  | joinedTagLetters (count : Nat)
  /-- The end of a tag there, with so many digits as the last to be met. -/
  | joinedTagDigits (count : Nat)
  | arabicAlef
  /-- The end of a group of letters, and whether a joiner stands in front. -/
  | group (last : Ending) (withJoiner : Bool)
  | kiratVowelE
  | kiratVowelAi
deriving DecidableEq, Repr

/-- What stands behind a place, and the forms that marks there ask for. -/
structure After where
  behind : Behind := .other
  asPicture : Bool := false
  asNarrow : Bool := false
  asWide : Bool := false
deriving DecidableEq, Repr

/-- The joiner without a width. -/
def isJoiner (c : Char) : Bool :=
  c.toNat = 0x200D

namespace Behind

/-- What a character is for the characters in front of it. -/
def ofChar (c : Char) : Behind :=
  if c = '\n' then .lineEnd
  else if isAlef c then .arabicAlef
  else if c.toNat = 0x5DC then .group .hebrewLamed false
  else if c.toNat = 0x1A10 then .group .bugineseYa false
  else if isTifinagh c then .group .tifinagh false
  else if c.toNat = 0xA4FC || c.toNat = 0xA4FD then .group .lisuTone false
  else if c.toNat = 0x10C03 then .group .turkicI false
  else if isSubscribed c then .group .khmerLetter false
  else if c.toNat = 0x16D67 then .kiratVowelE
  else if c.toNat = 0x16D68 then .kiratVowelAi
  else if isFlagLetter c then .flagLetter
  else if isTone c then .tone
  else if isPicture c then .picture
  else .other

/-- Whether marks leave alone what stands behind them. -/
def outlastsMarks : Behind → Bool
  | .arabicAlef => true
  | .group _ _ => true
  | _ => false

/-- Whether a picture in front joins the picture behind. -/
def isJoined : Behind → Bool
  | .joined => true
  | .joinedKey => true
  | _ => false

end Behind

namespace After

/-- Behind a mark that asks for a picture. -/
def askPicture (after : After) : After :=
  if after.behind.outlastsMarks then { after with asPicture := true }
  else if after.behind.isJoined then { behind := after.behind, asPicture := true }
  else { asPicture := true }

/-- Behind a mark that asks for a plain sign. -/
def askNarrow (after : After) : After :=
  if after.behind.outlastsMarks then { after with asNarrow := true }
  else { asNarrow := true }

/-- Behind a mark that asks for a wide quotation mark. -/
def askWide (after : After) : After :=
  if after.behind.outlastsMarks then { after with asWide := true }
  else { asWide := true }

/-- Nobody asks for a picture any more. -/
def withoutPicture (after : After) : After :=
  if !after.asPicture then after
  else if after.behind.outlastsMarks then { after with asPicture := false }
  else {}

end After

/-! ## Joining -/

/-- The columns that a character adds in front of the end of a group of
letters, and what stands behind the next one, if it belongs to the group. -/
def Ending.join (last : Ending) (withJoiner : Bool) (c : Char) : Option (Int × Behind) :=
  match last with
  | .hebrewLamed => if withJoiner && c.toNat = 0x5D0 then some (0, .other) else none
  | .bugineseYa =>
      if withJoiner && c.toNat = 0x1A17 then some (0, .group .bugineseSignYa true) else none
  | .bugineseSignYa => if c.toNat = 0x1A15 then some (0, .other) else none
  | .tifinagh =>
      if c.toNat = 0x2D7F then some (1, .group .tifinaghSign true)
      else if withJoiner && isTifinagh c then some (0, .other)
      else none
  | .tifinaghSign => if isTifinagh c then some (-1, .other) else none
  | .lisuTone => if isIn [(0xA4F8, 0xA4FB)] c then some (0, .other) else none
  | .turkicI => if withJoiner && c.toNat = 0x10C32 then some (0, .other) else none
  | .khmerLetter => if c.toNat = 0x17D2 then some (-1, .other) else none

/-- The columns that a character adds in front of what joins with it, and what
stands behind the next one.  A character that makes one with others that have
been measured takes back what they added. -/
def Behind.join (behind : Behind) (c : Char) : Option (Int × Behind) :=
  match behind with
  | .other => none
  | .lineEnd => none
  | .picture => if isJoiner c then some (0, .joined) else none
  | .tone =>
      if isToneBase c then some (0, .picture)
      else if isJoiner c then some (0, .joined)
      else none
  | .flagLetter => if isFlagLetter c then some (1, .flagLetters) else none
  | .flagLetters =>
      if isFlagLetter c then some (1, .flagLetters)
      else if isJoiner c then some (0, .joined)
      else none
  | .joined =>
      if c.toNat = 0x20E3 then some (0, .joinedKey)
      else if isFlagLetter c then some (1, .joinedFlagLetter)
      else if isTone c then some (0, .tone)
      else if c.toNat = 0xE007F then some (0, .joinedTagLetters 0)
      else if isPicture c then some (0, .picture)
      else none
  | .joinedKey => none
  | .joinedFlagLetter => if isFlagLetter c then some (-1, .joinedFlagLetters true) else none
  | .joinedFlagLetters even =>
      if isFlagLetter c then
        if even then some (3, .joinedFlagLetters false)
        else some (-1, .joinedFlagLetters true)
      else if isJoiner c then some (0, .joined)
      else none
  | .joinedTagLetters count =>
      if isTagLetter c && count < 6 then some (0, .joinedTagLetters (count + 1))
      else if isTagDigit c && count < 5 then some (0, .joinedTagDigits 1)
      else if c.toNat = 0x1F3F4 && 3 ≤ count then some (0, .picture)
      else none
  | .joinedTagDigits count =>
      if isTagDigit c && count < 3 then some (0, .joinedTagDigits (count + 1))
      else if c.toNat = 0x1F3F4 && count = 3 then some (0, .picture)
      else none
  | .arabicAlef =>
      if isLam c then some (0, .other)
      else if isPassedOver c then some (0, .arabicAlef)
      else none
  | .group last withJoiner =>
      if isJoiner c then some (0, .group last true)
      else if isHiddenMark c then some (0, .group last withJoiner)
      else last.join withJoiner c
  | .kiratVowelE =>
      if c.toNat = 0x16D63 then some (0, .other)
      else if c.toNat = 0x16D67 then some (0, .kiratVowelAi)
      else if c.toNat = 0x16D68 then some (1, .kiratVowelE)
      else if c.toNat = 0x16D69 then some (0, .other)
      else none
  | .kiratVowelAi => if c.toNat = 0x16D63 then some (0, .other) else none

/-! ## Measuring -/

/-- The columns that a character adds, which no mark asks for another form,
and what stands behind the next one.  Of the characters up to the first one
outside of ASCII only a line end takes part in a group. -/
def plainStep (c : Char) (behind : Behind) : Int × Behind :=
  if c.toNat ≤ 0xA0 then
    if c = '\r' && behind = .lineEnd then (0, .other)
    else (1, if c = '\n' then .lineEnd else .other)
  else
    match behind.join c with
    | some outcome => outcome
    | none => (columns c, .ofChar c)

/-- The columns that a character adds in front of what has been measured, and
what stands behind the next one. -/
def step (c : Char) (after : After) : Int × After :=
  if after.asPicture && hasPictureForm c then
    (if after.behind.isJoined then 0 else 2, { behind := .picture })
  else
    let after := after.withoutPicture
    if c.toNat = 0xFE0F then (0, after.askPicture)
    else if c.toNat = 0xFE0E then (0, after.askNarrow)
    else if c.toNat = 0xFE01 then (0, after.askWide)
    else if after.asNarrow && hasNarrowForm c then (1, {})
    else if after.asWide && hasWideForm c then (2, {})
    else
      let (own, behind) := plainStep c after.behind
      (own, { behind := behind })

/-- The columns of a text. -/
def width (s : String) : Nat :=
  (s.toList.foldr
    (fun c (measured : Int × After) =>
      let (own, after) := step c measured.2
      (own + measured.1, after))
    (0, {})).1.toNat

end Dialogue.Text
