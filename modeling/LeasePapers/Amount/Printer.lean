import LeasePapers.Amount.Basic
import LeasePapers.Text.Basic

/-! Amounts as they are written: dots between groups of three digits, a comma before the places, and
the sign before everything else.
-/

namespace LeasePapers

/-- Digits in reverse with a dot after every three of them, as long as more follow. -/
def groupReversed : Text → Text
  | a :: b :: c :: d :: rest => a :: b :: c :: '.' :: groupReversed (d :: rest)
  | few => few

/-- Digits with dots between groups of three, counted from the right. -/
def groupDigits (digits : Text) : Text :=
  (groupReversed digits.reverse).reverse

/-- Digits after the mark without trailing zeros beyond a least number, and filled up with zeros to
that number. -/
def fitPlaces (least : Nat) (places : Text) : Text :=
  let beyond := ((places.drop least).reverse.dropWhile (· == '0')).reverse
  places.take least ++ List.replicate (least - places.length) '0' ++ beyond

namespace Amount

/-- The amount with dots between groups of digits, rounded to at most `most` places and written with
at least `least`. -/
def grouped (amount : Amount) (least most : Nat) : Text :=
  let (mantissa, scale) := amount.rounded most
  let whole := groupDigits (wholeDigits mantissa scale)
  let places := fitPlaces least (placeDigits mantissa scale)
  let unsigned := if places = [] then whole else whole ++ [','] ++ places
  if amount.negative ∧ mantissa ≠ 0 then '-' :: unsigned else unsigned

/-- The amount as money: two places, after the symbol of the currency. -/
def currency (amount : Amount) (symbol : Text) : Text :=
  match amount.grouped 2 2 with
  | '-' :: unsigned => ['-'] ++ symbol ++ [' '] ++ unsigned
  | unsigned => symbol ++ [' '] ++ unsigned

/-- The amount as a plain number with up to three places. -/
def number (amount : Amount) : Text :=
  amount.grouped 0 3

/-- The amount with a point and all of its places. -/
def plain (amount : Amount) : Text :=
  let whole := wholeDigits amount.mantissa amount.scale
  let places := placeDigits amount.mantissa amount.scale
  let unsigned := if places = [] then whole else whole ++ ['.'] ++ places
  if amount.negative then '-' :: unsigned else unsigned

end Amount

end LeasePapers
