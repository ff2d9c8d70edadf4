import LeasePapers.Redaction.Placeholder
import LeasePapers.Text.Letter
import LeasePapers.Text.Upper
import LeasePapers.Text.WordChar

/-! Redacted addresses: the city and the state, if they can be told. A city is letters and spaces;
after a dash between blanks follow the two letters of the state, as a word of their own or the end
of one.
-/

namespace LeasePapers.Redaction

/-- Whether a character may stand in the name of a city. -/
def isCityChar (c : Char) : Bool :=
  Text.isLetter c || c == ' '

/-- A hyphen or an en dash. -/
def isDash (c : Char) : Bool :=
  c == '-' || c == '–'

/-- The text without spaces at its end. -/
def withoutTrailingSpaces (text : Text) : Text :=
  (text.reverse.dropWhile (· == ' ')).reverse

/-- The two letters of a state at the beginning of a text where a word ends after them, and what
follows. -/
def stateAt? : Text → Option (Text × Text)
  | a :: b :: rest =>
      if Text.isLetter a && Text.isLetter b && Text.wordEndsBefore rest then
        some ([a, b], rest)
      else none
  | _ => none

/-- The city and the state at the beginning of a text, and what follows them. -/
def cityStateAt? (text : Text) : Option (Text × Text × Text) :=
  if text.head?.any Text.isLetter then
    let city := withoutTrailingSpaces (text.takeWhile isCityChar)
    match (text.dropWhile isCityChar).dropWhile Text.isBlank with
    | dash :: rest =>
        if isDash dash then
          (stateAt? (rest.dropWhile Text.isBlank)).map (fun (state, after) => (city, state, after))
        else none
    | [] => none
  else none

/-- The first city and state in a text. -/
def findCityState? : Text → Option (Text × Text)
  | [] => none
  | c :: rest =>
      match cityStateAt? (c :: rest) with
      | some (city, state, _) => some (city, state)
      | none => findCityState? rest

/-- The city and the state that a text consists of. -/
def wholeCityState? (text : Text) : Option (Text × Text) :=
  match cityStateAt? text with
  | some (city, state, []) => some (city, state)
  | _ => none

/-- An address, redacted. The city and the state are those that the last part after a comma consists
of, or else the first ones in the address. Failing these, the last of several parts is shown if it
begins with a letter and has no digit. -/
def redactAddress (text : Text) : Text :=
  let address := Text.trim text
  if address = [] then addressMissing
  else
    let parts := Text.pieces (· == ',') address
    let last := Text.trim (parts.getLastD [])
    match (wholeCityState? last).or (findCityState? address) with
    | some (city, state) =>
        Text.withoutBraces (city ++ [' ', '-', ' '] ++ Text.upper state)
    | none =>
        if 1 < parts.length ∧ last.head?.any Text.isAlphabetic ∧ !last.any Char.isDigit then
          Text.withoutBraces last
        else cityUnknown

end LeasePapers.Redaction
