import LeasePapers.Amount.Basic

/-! Amounts read out of a text. Digits, commas, dots and hyphens count and all else is passed over.
Which of comma and dot is the decimal mark is told by their number and order; the other only groups
digits. What does not fit the mantissa after the mark is rounded off half up.
-/

namespace LeasePapers.Amount

/-- The last comma or dot. -/
def lastSeparator? (text : Text) : Option Char :=
  text.reverse.find? (fun c => c = ',' || c = '.')

/-- The decimal mark: the last separator if both kinds occur, or the only separator there is.
Several separators of one kind group digits. -/
def decimalMark? (text : Text) : Option Char :=
  let commas := text.count ','
  let dots := text.count '.'
  if (commas = 0 ∨ dots = 0) ∧ commas + dots ≠ 1 then none else lastSeparator? text

/-- The text with a dot for the decimal mark and no other separator. -/
def plainForm (text : Text) : Text :=
  let mark? := decimalMark? text
  text.filterMap (fun c =>
    if mark? = some c then some '.' else if c = ',' ∨ c = '.' then none else some c)

/-- Rounds a mantissa as the next character says: a digit from five upwards rounds up, and a second
mark counts as the digit zero. A mantissa that outgrows its bound gives its last place up. -/
def roundOff? (mantissa scale : Nat) (next : Char) : Option (Nat × Nat) :=
  if next.isDigit ∨ next = '.' then
    if next.isDigit ∧ 5 ≤ next.toNat - '0'.toNat then
      if mantissa + 1 < mantissaBound then some (mantissa + 1, scale)
      else if scale = 0 then none
      else some ((mantissa + 5) / 10, scale - 1)
    else some (mantissa, scale)
  else none

/-- Reads a decimal on from a mantissa and a scale; `pointed` says whether the mark has been read
and `seen` whether a digit has. With the mantissa or the scale exhausted, the next character rounds
and the rest is passed over; before the mark there is no such way out. -/
def readFrom? (mantissa scale : Nat) (pointed seen : Bool) : Text → Option (Nat × Nat)
  | [] => if seen then some (mantissa, scale) else none
  | c :: rest =>
      if pointed && scale == greatestScale then roundOff? mantissa scale c
      else if c.isDigit then
        let next := mantissa * 10 + (c.toNat - '0'.toNat)
        if next < mantissaBound then
          readFrom? next (if pointed then scale + 1 else scale) pointed true rest
        else if pointed then roundOff? mantissa scale c
        else none
      else if c = '.' ∧ !pointed then readFrom? mantissa scale true seen rest
      else none

/-- The amount that a plain form spells: an optional hyphen, digits, and a mark among them. -/
def ofPlain? (text : Text) : Option Amount :=
  let (negative, unsigned) :=
    match text with
    | '-' :: rest => (true, rest)
    | _ => (false, text)
  (readFrom? 0 0 false false unsigned).bind (fun (mantissa, scale) =>
    ofParts? negative mantissa scale)

/-- Whether a character can belong to an amount. -/
def isPart (c : Char) : Bool :=
  c.isDigit || c == ',' || c == '.' || c == '-'

/-- The amount that a text spells. -/
def ofText? (text : Text) : Option Amount :=
  let kept := text.filter isPart
  if kept.any Char.isDigit then ofPlain? (plainForm kept) else none

end LeasePapers.Amount
