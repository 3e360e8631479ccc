/-!
# Documents

A document is what scripts, settings and states are written in: null, a truth
value, a number, a text, a list of documents, or a record of named ones whose
order counts.
-/

namespace Dialogue

/-- A whole document. -/
inductive Json where
  | null
  | bool (b : Bool)
  | int (n : Int)
  | float (x : Float)
  | text (s : String)
  | list (items : List Json)
  | record (fields : List (String × Json))

namespace Json

instance : Inhabited Json :=
  ⟨.null⟩

/-- A record field that is written only when it is present. -/
def optionalField (name : String) (value : Option Json) : List (String × Json) :=
  match value with
  | none => []
  | some value => [(name, value)]

/-- A record field that is written only when it is a non-empty list. -/
def listField (name : String) (items : List Json) : List (String × Json) :=
  if items.isEmpty then [] else [(name, .list items)]

/-- A natural number as a document. -/
def nat (n : Nat) : Json :=
  .int n

/-- An optional document, null when it is missing. -/
def ofOption (value : Option Json) : Json :=
  value.getD .null

end Json

end Dialogue
