/-!
# Cutting a text at a separator

`pieces` cuts a text at the occurrences of a separator, found from left to
right and without overlap; joining the pieces with the separator gives the
text back.  `occurs` says whether there is a place to cut at all.
-/

namespace Dialogue.Text

/-- Put a character in front of the first piece. -/
def consHead {α : Type} (c : α) : List (List α) → List (List α)
  | [] => [[c]]
  | piece :: rest => (c :: piece) :: rest

/-- Cut at a separator, with `skip` characters of an occurrence still to be
passed over. -/
def piecesFrom {α : Type} [BEq α] (separator : List α) :
    Nat → List α → List (List α)
  | _, [] => [[]]
  | skip + 1, _ :: rest => piecesFrom separator skip rest
  | 0, c :: rest =>
      if separator.isPrefixOf (c :: rest) then
        [] :: piecesFrom separator (separator.length - 1) rest
      else
        consHead c (piecesFrom separator 0 rest)

/-- The parts of a text between the occurrences of a non-empty separator. -/
def pieces {α : Type} [BEq α] (separator text : List α) : List (List α) :=
  piecesFrom separator 0 text

/-- Whether one text stands somewhere in another. -/
def occurs {α : Type} [BEq α] (part : List α) : List α → Bool
  | [] => part.isEmpty
  | c :: rest => part.isPrefixOf (c :: rest) || occurs part rest

/-- The parts of a text between the occurrences of one character. -/
def piecesAt (separator : Char) (s : String) : List String :=
  (pieces [separator] s.toList).map String.ofList

theorem consHead_ne_nil {α : Type} (c : α) (parts : List (List α)) :
    consHead c parts ≠ [] := by
  cases parts <;> simp [consHead]

end Dialogue.Text
