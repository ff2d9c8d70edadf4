import LeasePapers.Json.Value
import LeasePapers.Text.Map

/-! JSON texts of values, on one line or laid out over several. In strings only the quote, the
backslash and control characters are escaped.
-/

namespace LeasePapers.Json

/-- A hexadecimal digit. -/
def hexDigit (n : Nat) : Char :=
  Nat.digitChar n

/-- The escaped form of a character inside a string. -/
def escapeChar (c : Char) : Text :=
  if c = '"' then ['\\', '"']
  else if c = '\\' then ['\\', '\\']
  else if c = '\x08' then ['\\', 'b']
  else if c = '\t' then ['\\', 't']
  else if c = '\n' then ['\\', 'n']
  else if c = '\x0c' then ['\\', 'f']
  else if c = '\r' then ['\\', 'r']
  else if c < ' ' then
    ['\\', 'u', '0', '0', hexDigit (c.toNat / 16), hexDigit (c.toNat % 16)]
  else [c]

/-- A string with its quotes. -/
def quote (text : Text) : Text :=
  '"' :: text.flatMap escapeChar ++ ['"']

/-- A magnitude in a value: with a point for decimal exponents from -5 to 15, else with an
exponent. -/
def magnitudeText (x : Number.Double) : Text :=
  if x.significand = 0 then ['0', '.', '0']
  else
    let d := x.shortest .toEven
    if -4 ≤ d.point ∧ d.point ≤ 16 then d.pointed else d.scientific

/-- A number in a value. -/
def Number.text : Number → Text
  | .whole value => Number.signedDigits value
  | .binary negative x => if negative then '-' :: magnitudeText x else magnitudeText x

/-- Members in ascending order of their names, of repeated names only the last. -/
def sortedMembers (members : List (Text × Text)) : List (Text × Text) :=
  (TextMap.ofList members).entries

mutual

/-- A value on one line without blanks; the members of an object in ascending order. -/
def Value.compact : Value → Text
  | .null => "null"
  | .boolean true => "true"
  | .boolean false => "false"
  | .number value => value.text
  | .string text => quote text
  | .array items => ['['] ++ Text.join [','] (compactItems items) ++ [']']
  | .object members =>
      ['\x7b']
        ++ Text.join [','] ((sortedMembers (compactMembers members)).map
            (fun (name, text) => quote name ++ [':'] ++ text))
        ++ ['\x7d']

/-- The items of an array, each on one line. -/
def compactItems : List Value → List Text
  | [] => []
  | item :: rest => item.compact :: compactItems rest

/-- The members of an object with their values on one line. -/
def compactMembers : List (Text × Value) → List (Text × Text)
  | [] => []
  | (name, value) :: rest => (name, value.compact) :: compactMembers rest

end

/-- A line break followed by the blanks of a depth. -/
def newLine (depth : Nat) : Text :=
  '\n' :: List.replicate (2 * depth) ' '

/-- Texts between brackets, each on a line of its own one step further in. -/
def laidOut (opening closing : Char) (depth : Nat) (parts : List Text) : Text :=
  if parts = [] then [opening, closing]
  else
    [opening] ++ newLine (depth + 1) ++ Text.join (',' :: newLine (depth + 1)) parts
      ++ newLine depth ++ [closing]

/-- A member of an object that is laid out. -/
def memberText (name value : Text) : Text :=
  quote name ++ [':', ' '] ++ value

end LeasePapers.Json
