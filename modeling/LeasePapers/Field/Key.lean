import LeasePapers.Field.Basic
import LeasePapers.Text.Order

/-! Keys of fields. A key is made from a known field or from any name, and that name may be the name
of a known field; keys are compared by their names alone.
-/

namespace LeasePapers.Field

/-- The key of a field: a known field, or a name as a form sends it. -/
inductive Key where
  | known (field : Field)
  | custom (name : Text)
  deriving Repr

namespace Key

/-- The name that a key stands for. -/
def name : Key → Text
  | .known field => field.name
  | .custom name => name

/-- A key stands for its name. -/
instance : Coe Key Text := ⟨name⟩

/-- The key that is made from a name: the known field of that name, if there is one. -/
def ofName (name : Text) : Key :=
  match ofName? name with
  | some field => .known field
  | none => .custom name

/-- Two keys are the same if their names are. -/
instance : BEq Key := ⟨fun first second => first.name == second.name⟩

/-- How one key stands to another: by their names. -/
def order (first second : Key) : Ordering :=
  Text.order first.name second.name

/-- Whether a key has the name of a known field. -/
def isKnown (key : Key) : Bool :=
  match ofName key.name with
  | .known _ => true
  | .custom _ => false

end Key

end LeasePapers.Field
