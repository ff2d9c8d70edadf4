import LeasePapers.Number.Digits
import LeasePapers.Number.Double
import LeasePapers.Number.Power
import LeasePapers.Yaml.Scalar

/-! Plain scalars that read back as something else than a text: as nothing, as a truth value or as a
number. A text of this kind has to be quoted.
-/

namespace LeasePapers.Yaml

/-- Whether a scalar is among the given spellings. -/
def spells (spellings : List String) (text : Text) : Bool :=
  spellings.any (fun spelling => spelling.toList = text)

/-- Whether a scalar stands for nothing. -/
def isNull (text : Text) : Bool :=
  text.isEmpty || spells ["null", "Null", "NULL", "~"] text

/-- The truth value that a scalar stands for. -/
def boolean? (text : Text) : Option Bool :=
  if spells ["true", "True", "TRUE"] text then some true
  else if spells ["false", "False", "FALSE"] text then some false
  else none

/-- The text without one sign at its beginning. -/
def withoutSign : Text → Text
  | c :: rest => if c == '-' || c == '+' then rest else c :: rest
  | [] => []

/-- Whether a text is digits with a zero in front of others, which is no number. -/
def hasLeadingZero (text : Text) : Bool :=
  match withoutSign text with
  | '0' :: d :: rest => Text.allDigits (d :: rest)
  | _ => false

/-- The number that digits to a base spell. -/
def numberIn? (base : Nat) (digits : Text) : Option Nat :=
  if digits = [] then none
  else
    digits.foldl (fun read c =>
      read.bind (fun n =>
        (hexDigit? c).bind (fun d => if d < base then some (base * n + d) else none))) (some 0)

/-- The number that digits after a mark for their base spell. -/
def marked? : Text → Option Nat
  | '0' :: 'x' :: digits => numberIn? 16 digits
  | '0' :: 'o' :: digits => numberIn? 8 digits
  | '0' :: 'b' :: digits => numberIn? 2 digits
  | _ => none

/-- Whether a scalar is an integer of 128 bits to a marked base. -/
def isMarkedInteger : Text → Bool
  | '-' :: rest => (marked? rest).any (· ≤ Number.twoTo 127)
  | '+' :: rest => (marked? rest).any (· < Number.twoTo 128)
  | text => (marked? text).any (· < Number.twoTo 128)

/-- A decimal number as it is written: the digits before and after the point, and the exponent. -/
structure Spelled where
  whole : Text
  places : Text
  exponent : Int

/-- The exponent at the end of a number. -/
def exponent? : Text → Option Int
  | [] => some 0
  | e :: rest =>
      if e = 'e' ∨ e = 'E' then
        let digits := withoutSign rest
        if digits ≠ [] ∧ Text.allDigits digits then
          let size : Int := Number.ofDigits digits
          some (if rest.head? = some '-' then -size else size)
        else none
      else none

/-- The parts of a decimal number without a sign. Digits stand before or after the point. -/
def spelled? (text : Text) : Option Spelled :=
  let whole := text.takeWhile Char.isDigit
  let rest := text.dropWhile Char.isDigit
  let (places, rest) :=
    match rest with
    | '.' :: rest => (rest.takeWhile Char.isDigit, rest.dropWhile Char.isDigit)
    | _ => ([], rest)
  if whole = [] ∧ places = [] then none
  else (exponent? rest).map (fun exponent => ⟨whole, places, exponent⟩)

/-- Whether a decimal number is below the bound of the binary format. -/
def Spelled.isFinite (number : Spelled) : Bool :=
  let mantissa := Number.ofDigits (number.whole ++ number.places)
  let exponent := number.exponent - number.places.length
  let size : Int := (Number.digits mantissa).length + exponent
  if mantissa = 0 ∨ size ≤ 308 then true
  else if 310 < size then false
  else if 0 ≤ exponent then
    (Number.Double.ofQuotient? (mantissa * Number.tenTo exponent.toNat) 1).isSome
  else (Number.Double.ofQuotient? mantissa (Number.tenTo (-exponent).toNat)).isSome

/-- Whether a scalar is a finite decimal number, an infinity or no number by name. -/
def isDecimal (text : Text) : Bool :=
  spells [".inf", ".Inf", ".INF", "+.inf", "+.Inf", "+.INF", "-.inf", "-.Inf", "-.INF",
    ".nan", ".NaN", ".NAN"] text
    || (spelled? (withoutSign text)).any Spelled.isFinite

/-- Whether a plain scalar does not read back as a text. -/
def readsOtherwise (text : Text) : Bool :=
  isNull text || (boolean? text).isSome || hasLeadingZero text || isMarkedInteger text
    || isDecimal text

end LeasePapers.Yaml
