import LeasePapers.Json.Reader
import LeasePapers.Json.Printer
import LeasePapers.Name.List
import LeasePapers.Text.Blank

/-! The value of a field: a text, or a short list of texts such as the names of the guarantors.
Where a list is asked for, a text that spells a JSON array will do as well.
-/

namespace LeasePapers.Field

/-- The value of a field. -/
inductive Value where
  | text (text : Text)
  | list (items : List Text)
  deriving DecidableEq, Repr

/-- The text that an element of a JSON array stands for: a string for itself, any other value for
its JSON text. -/
def elementText : Json.Value → Text
  | .string text => text
  | value => value.compact

/-- The elements of a text that spells a JSON array. -/
def arrayElements? (text : Text) : Option (List Text) :=
  match Json.ofText? text with
  | some (.array items) => some (items.map elementText)
  | _ => none

/-- A list of texts as a JSON array on one line. -/
def arrayText (items : List Text) : Text :=
  ['['] ++ Text.join [','] (items.map Json.quote) ++ [']']

namespace Value

/-- The text, if the value is one. -/
def text? : Value → Option Text
  | .text content => some content
  | .list _ => none

/-- Whether the value is a text of blanks or the empty list. -/
def isBlank : Value → Bool
  | .text content => Text.isAllBlank content
  | .list items => items.isEmpty

/-- The value as a list, if it is one or spells one. -/
def toList? : Value → Option (List Text)
  | .list items => some items
  | .text content => arrayElements? content

/-- What stands for the value in a document. -/
def display : Value → Text
  | .text content => content
  | .list items => Name.joinAll items

/-- The value as one text: a text as it is, a list as a JSON array. -/
def serialized : Value → Text
  | .text content => content
  | .list items => arrayText items

end Value

end LeasePapers.Field
