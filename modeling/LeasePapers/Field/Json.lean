import LeasePapers.Failure
import LeasePapers.Field.Dictionary

/-! Dictionaries as JSON objects. Numbers and truth values are read as their text, `null` means that
the field is missing, and a list holds no `null` and no further list. Fields are written in the
order of their names.
-/

namespace LeasePapers.Field

/-- A magnitude as a text: the shortest digits that read back, without an exponent. -/
def magnitudeText (x : Number.Double) : Text :=
  if x.significand = 0 then ['0'] else (x.shortest .upward).positional

/-- A whole number beyond 64 signed bits counts as a magnitude. -/
def wholeText (value : Int) : Text :=
  if value < Number.twoTo 63 then Number.signedDigits value
  else
    match Number.Double.ofQuotient? value.toNat 1 with
    | some x => magnitudeText x
    | none => []

/-- The text of a number in a form. -/
def numberText : Json.Number → Text
  | .whole value => wholeText value
  | .binary negative x => if negative then '-' :: magnitudeText x else magnitudeText x

/-- The text of a single value in a form. -/
def scalarText? : Json.Value → Option Text
  | .string text => some text
  | .boolean true => some "true"
  | .boolean false => some "false"
  | .number value => some (numberText value)
  | _ => none

/-- The value of a field in a form; `null` is none, and other shapes are refused. -/
def Value.ofJson? : Json.Value → Option (Option Value)
  | .null => some none
  | .array items => (items.mapM scalarText?).map (fun items => some (.list items))
  | value => (scalarText? value).map (fun text => some (.text text))

/-- The value of a field laid out inside a dictionary. -/
def Value.laidOut : Value → Text
  | .text content => Json.quote content
  | .list items => Json.laidOut '[' ']' 1 (items.map Json.quote)

end LeasePapers.Field

namespace LeasePapers.Dictionary

/-- Takes one member of an object in. -/
def addMember (fields : Dictionary) (member : Text × Json.Value) : Option Dictionary :=
  (Field.Value.ofJson? member.2).map (fun
    | some value => fields.insert member.1 value
    | none => fields.erase member.1)

/-- Reads a dictionary from a JSON object. -/
def ofJson (text : Text) : Except Failure Dictionary :=
  match Json.ofText? text with
  | some (.object members) =>
      match members.foldlM addMember TextMap.empty with
      | some fields => .ok fields
      | none => .error (.malformedFields text)
  | _ => .error (.malformedFields text)

/-- Writes a dictionary as a JSON object over several lines. -/
def toJson (fields : Dictionary) : Text :=
  Json.laidOut '\x7b' '\x7d' 0
    (fields.entries.map (fun (name, value) => Json.memberText name value.laidOut))

end LeasePapers.Dictionary
