import LeasePapers.Redaction.Address
import LeasePapers.Redaction.Document
import LeasePapers.Redaction.Email
import LeasePapers.Redaction.Prose
import LeasePapers.Redaction.Rule

/-! Redaction of a whole dictionary. Blank texts and placeholders are left as they are, so a field
is present after redaction exactly if it was before; lists keep their length and their kind.
-/

namespace LeasePapers.Redaction

/-- A text, redacted by a rule. -/
def redactBy (names : List KnownName) : Rule → Text → Text
  | .name => redactName
  | .nameList => redactNames
  | .address => redactAddress
  | .cpf => redactCpf
  | .rg => redactRg
  | .document => redactDocument
  | .phone => redactPhone
  | .email => redactEmail
  | .prose => redactProse names

/-- A text of a field, redacted unless there is nothing to redact. -/
def redactText (names : List KnownName) (rule : Rule) (text : Text) : Text :=
  if Text.isAllBlank text ∨ isPlaceholder text then text else redactBy names rule text

/-- The elements of a text that spells a JSON array. -/
def spelledList? (text : Text) : Option (List Text) :=
  if (Text.trimStart text).head? = some '[' then Field.arrayElements? text else none

/-- The value of a field, redacted. A text that spells a list is redacted element by element and
spells a list again. -/
def redactValue (names : List KnownName) (rule : Rule) : Field.Value → Field.Value
  | .list items => .list (items.map (redactText names rule))
  | .text content =>
      match spelledList? content with
      | some items => .text (Field.arrayText (items.map (redactText names rule)))
      | none => .text (redactText names rule content)

/-- A dictionary, redacted: each field by its rule, and fields without a rule not at all. -/
def redact [Patterns] (fields : Dictionary) : Dictionary :=
  let names := searchedNames fields
  fields.mapValues (fun name value =>
    match ruleFor? name with
    | some rule => redactValue names rule value
    | none => value)

end LeasePapers.Redaction
