import LeasePapers.Json.Value

/-! Number literals of JSON. A literal is an optional minus, a whole part without needless zeros, an
optional fraction and an optional exponent. Only as many digits as fit 64 bits are kept: digits of
the whole part beyond them count as a power of ten, digits of the fraction not at all.
-/

namespace LeasePapers.Json

/-- A number as it is written. -/
structure Literal where
  negative : Bool
  whole : Text
  fraction : Option Text
  exponent : Option Int

namespace Literal

/-- A whole part: zero alone, or digits that begin with another one. -/
def whole? (digits : Text) : Option Text :=
  match digits with
  | [] => none
  | '0' :: _ :: _ => none
  | _ => some digits

/-- The digits of an exponent after its sign. -/
def exponentDigits? (negative : Bool) (digits : Text) : Option Int :=
  if digits ≠ [] ∧ Text.allDigits digits then
    some (if negative then -(Number.ofDigits digits : Int) else Number.ofDigits digits)
  else none

/-- An exponent: nothing, or the mark, an optional sign and digits. -/
def exponent? : Text → Option (Option Int)
  | [] => some none
  | mark :: '-' :: digits =>
      if mark = 'e' ∨ mark = 'E' then (exponentDigits? true digits).map some else none
  | mark :: '+' :: digits =>
      if mark = 'e' ∨ mark = 'E' then (exponentDigits? false digits).map some else none
  | mark :: digits =>
      if mark = 'e' ∨ mark = 'E' then (exponentDigits? false digits).map some else none

/-- A literal without its minus. -/
def unsigned? (negative : Bool) (text : Text) : Option Literal := do
  let whole ← whole? (text.takeWhile Char.isDigit)
  match text.dropWhile Char.isDigit with
  | '.' :: rest =>
      let fraction := rest.takeWhile Char.isDigit
      let exponent ← exponent? (rest.dropWhile Char.isDigit)
      if fraction = [] then none else some ⟨negative, whole, some fraction, exponent⟩
  | rest => return ⟨negative, whole, none, ← exponent? rest⟩

/-- Reads a whole text as a literal. -/
def ofText? : Text → Option Literal
  | '-' :: rest => unsigned? true rest
  | text => unsigned? false text

/-- The bound that the kept digits stay below. -/
def digitBound : Nat := Number.twoTo 64

/-- Takes digits into a number as long as it stays below the bound; also the count of digits left
over from the first that does not fit. -/
def takeDigits (number : Nat) : Text → Nat × Nat
  | [] => (number, 0)
  | digit :: rest =>
      let next := number * 10 + Number.ofDigits [digit]
      if next < digitBound then takeDigits next rest else (number, rest.length + 1)

/-- The magnitude of a literal; none if it is too great. -/
def magnitude? (l : Literal) : Option Number.Double :=
  let (number, dropped) := takeDigits 0 l.whole
  let fraction := l.fraction.getD []
  let (number, ignored) := takeDigits number fraction
  let places : Int := (fraction.length : Int) - ignored
  Number.Double.ofScientific? number (dropped - places + l.exponent.getD 0)

/-- The number that a literal stands for. -/
def number? (l : Literal) : Option Number :=
  let value := Number.ofDigits l.whole
  if l.fraction = none ∧ l.exponent = none ∧ ¬l.negative ∧ value < digitBound then
    some (.whole value)
  else if l.fraction = none ∧ l.exponent = none ∧ l.negative ∧ 0 < value ∧ value ≤ Number.twoTo 63 then
    some (.whole (-value))
  else l.magnitude?.map (.binary l.negative)

end Literal

end LeasePapers.Json
