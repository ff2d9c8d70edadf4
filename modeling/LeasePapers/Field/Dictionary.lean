import LeasePapers.Field.Basic
import LeasePapers.Field.Value
import LeasePapers.Text.Map

/-! Dictionaries of fields: what a form sends, and what every stage of the work hands on. A field is
found by its name, whether the name is a known one or not.
-/

namespace LeasePapers

/-- A dictionary from names of fields to their values. -/
abbrev Dictionary := TextMap Field.Value

namespace Dictionary

/-- The text of a field, if it holds one. -/
def text? (fields : Dictionary) (name : Text) : Option Text :=
  (fields.get? name).bind Field.Value.text?

/-- The trimmed text of a field, if anything is left of it. -/
def filled? (fields : Dictionary) (name : Text) : Option Text :=
  match (text? fields name).map Text.trim with
  | some [] => none
  | other => other

/-- Whether a field is missing or its value blank. -/
def isBlank (fields : Dictionary) (name : Text) : Bool :=
  match fields.get? name with
  | some value => value.isBlank
  | none => true

/-- The list of a field, empty if the field has none. -/
def list (fields : Dictionary) (name : Text) : List Text :=
  ((fields.get? name).bind Field.Value.toList?).getD []

end Dictionary

end LeasePapers
