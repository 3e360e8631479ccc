import Dialogue.Json.Draft

/-!
# Quoted texts in documents

A quoted text is scanned into units: characters, and code units written as
four hexadecimal digits.  Two code units that form a surrogate pair stand for
one character; a surrogate without its partner leaves the text without a
value.
-/

namespace Dialogue.Json

/-- What a quoted text is made of. -/
inductive TextUnit where
  | char (c : Char)
  | code (n : Nat)

/-- The value of a hexadecimal digit. -/
def hexValue? (c : Char) : Option Nat :=
  if c.isDigit then some (c.toNat - '0'.toNat)
  else if 'a' ≤ c && c ≤ 'f' then some (c.toNat - 'a'.toNat + 10)
  else if 'A' ≤ c && c ≤ 'F' then some (c.toNat - 'A'.toNat + 10)
  else none

/-- The number that four hexadecimal digits stand for. -/
def hexCode? (a b c d : Char) : Option Nat :=
  match hexValue? a, hexValue? b, hexValue? c, hexValue? d with
  | some a, some b, some c, some d => some (((a * 16 + b) * 16 + c) * 16 + d)
  | _, _, _, _ => none

/-- The character that a backslash and a letter stand for. -/
def shortEscape? (c : Char) : Option Char :=
  match c with
  | '"' => some '"'
  | '\\' => some '\\'
  | '/' => some '/'
  | 'b' => some '\x08'
  | 'f' => some '\x0c'
  | 'n' => some '\n'
  | 'r' => some '\r'
  | 't' => some '\t'
  | _ => none

/-- The fault of a code unit that is not four hexadecimal digits: the text is
unfinished when fewer than four bytes are left of it. -/
def codeFault (cs : List Char) : Fault :=
  if (String.ofList cs).utf8ByteSize < 4 then .unfinished else .malformed

/-- The units of a quoted text, and what follows its closing quote or the
fault that stopped the scan. -/
def scanUnits : List Char → List TextUnit × Except Fault (List Char)
  | [] => ([], .error .unfinished)
  | '"' :: rest => ([], .ok rest)
  | '\\' :: 'u' :: a :: b :: c :: d :: rest =>
      match hexCode? a b c d with
      | none => ([], .error (codeFault (a :: b :: c :: d :: rest)))
      | some n =>
          let (units, stop) := scanUnits rest
          (.code n :: units, stop)
  | '\\' :: 'u' :: rest => ([], .error (codeFault rest))
  | '\\' :: [] => ([], .error .unfinished)
  | '\\' :: c :: rest =>
      match shortEscape? c with
      | none => ([], .error .malformed)
      | some c =>
          let (units, stop) := scanUnits rest
          (.char c :: units, stop)
  | c :: rest =>
      if c.toNat < 0x20 then
        ([], .error .malformed)
      else
        let (units, stop) := scanUnits rest
        (.char c :: units, stop)

/-- Whether a code unit opens a surrogate pair. -/
def isLeading (n : Nat) : Bool :=
  0xD800 ≤ n && n ≤ 0xDBFF

/-- Whether a code unit closes a surrogate pair. -/
def isTrailing (n : Nat) : Bool :=
  0xDC00 ≤ n && n ≤ 0xDFFF

/-- The characters that units stand for, unless a surrogate is without its
partner. -/
def characters? : List TextUnit → Option (List Char)
  | [] => some []
  | .char c :: rest => (characters? rest).map (c :: ·)
  | .code n :: rest =>
      if isTrailing n then
        none
      else if isLeading n then
        match rest with
        | .code m :: rest =>
            if isTrailing m then
              let c := Char.ofNat (0x10000 + (n - 0xD800) * 0x400 + (m - 0xDC00))
              (characters? rest).map (c :: ·)
            else
              none
        | _ => none
      else
        (characters? rest).map (Char.ofNat n :: ·)

/-- Units without a leading surrogate at their end, whose partner may still
have been to come. -/
def withoutOpenPair (units : List TextUnit) : List TextUnit :=
  match units.getLast? with
  | some (.code n) => if isLeading n then units.dropLast else units
  | _ => units

/-- The draft of a quoted text whose opening quote has been read, and what
follows it unless reading stopped. -/
def scanText (cs : List Char) : Draft × Option (List Char) :=
  match scanUnits cs with
  | (units, .ok rest) =>
      match characters? units with
      | some characters => (.text (String.ofList characters), some rest)
      | none => (.unfit none, some rest)
  | (units, .error fault) =>
      match characters? (withoutOpenPair units) with
      | some _ => (.broken fault, none)
      | none => (.unfit (some fault), none)

end Dialogue.Json
