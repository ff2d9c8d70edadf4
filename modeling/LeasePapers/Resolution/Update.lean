import LeasePapers.Field.Dictionary

/-! Updates of a dictionary: for every known field, whether it is kept, written or taken out. An
update is a function of the field, so no field is updated twice and no order matters.
-/

namespace LeasePapers

/-- What happens to a field. -/
inductive Change where
  | keep
  | write (value : Field.Value)
  | clear
  deriving DecidableEq, Repr

namespace Change

/-- Writes a text. -/
def text (content : Text) : Change :=
  .write (.text content)

/-- The first change that is one. -/
def orElse : Change → Change → Change
  | .keep, other => other
  | change, _ => change

/-- Makes a change to the field with that name. -/
def apply (fields : Dictionary) (name : Text) : Change → Dictionary
  | .keep => fields
  | .write value => fields.insert name value
  | .clear => fields.erase name

end Change

namespace Dictionary

/-- Makes a change to every known field. -/
def update (fields : Dictionary) (change : Field → Change) : Dictionary :=
  Field.all.foldl (fun fields field => (change field).apply fields field) fields

end Dictionary

end LeasePapers
