import LeasePapers.Calendar.Local

/-! Dates in ISO order, which some forms send in place of the local one. The reader is lenient:
blanks may stand before each number, and day and month may have one digit.
-/

namespace LeasePapers.Calendar

/-- The leading digits of a text, at most so many of them, and the rest. At least one digit has to
be there. -/
def leadingNumber? (most : Nat) (text : Text) : Option (Nat × Text) :=
  let found := (text.take most).takeWhile Char.isDigit
  if found = [] then none else some (Number.ofDigits found, text.drop found.length)

/-- A year after optional blanks: up to four digits, or a sign and any number of digits. -/
def isoYear? (text : Text) : Option (Int × Text) :=
  match Text.trimStart text with
  | '-' :: rest => (leadingNumber? rest.length rest).map (fun (n, rest) => (-(n : Int), rest))
  | '+' :: rest => (leadingNumber? rest.length rest).map (fun (n, rest) => ((n : Int), rest))
  | rest => (leadingNumber? 4 rest).map (fun (n, rest) => ((n : Int), rest))

/-- A hyphen, optional blanks and a number of one or two digits. -/
def hyphenNumber? : Text → Option (Nat × Text)
  | '-' :: rest => leadingNumber? 2 (Text.trimStart rest)
  | _ => none

/-- Reads a whole text as year, month and day. -/
def Date.ofIso? (text : Text) : Option Date := do
  let (year, rest) ← isoYear? text
  let (month, rest) ← hyphenNumber? rest
  let (day, rest) ← hyphenNumber? rest
  if rest = [] then Date.ofParts? year month day else none

/-- Cuts a text after exactly `size` bytes, if a character ends there. -/
def cutAtByte : Nat → Text → Option (Text × Text)
  | 0, text => some ([], text)
  | _ + 1, [] => none
  | size + 1, c :: rest =>
      if c.utf8Size ≤ size + 1 then
        (cutAtByte (size + 1 - c.utf8Size) rest).map (fun (head, tail) => (c :: head, tail))
      else none

/-- The date part of an ISO date: ten bytes, alone or before a `T` or a space. -/
def isoHead? (text : Text) : Option Text :=
  match cutAtByte 10 text with
  | some (head, []) => some head
  | some (head, 'T' :: _) => some head
  | some (head, ' ' :: _) => some head
  | _ => none

/-- Brings a date into local form. A text that already is a local date, or that is none, is kept as
it stands. -/
def localize (value : Text) : Text :=
  let trimmed := Text.trim value
  if (Date.ofLocal? trimmed).isSome then value
  else
    match (isoHead? trimmed).bind Date.ofIso? with
    | some date => date.toLocal
    | none => value

end LeasePapers.Calendar
