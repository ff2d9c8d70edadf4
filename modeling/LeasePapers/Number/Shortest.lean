import LeasePapers.Number.Double

/-! The shortest decimal that reads back as a given magnitude, and its two ways of being written.
For one digit, two digits and so on, the two neighbours of the magnitude on that decimal grid are
tried; the first grid on which one of them reads back gives the digits, and of two that read back
the nearer is taken.
-/

namespace LeasePapers.Number

/-- Which of two decimals is taken that lie equally near. -/
inductive Tie where
  | toEven
  | upward
  deriving DecidableEq, Repr

/-- The decimal `0.d₁d₂d₃… · 10 ^ point` with the given digits, the first of them not zero. -/
structure Decimal where
  digits : Text
  point : Int

namespace Double

/-- A magnitude in quarters of its last place, with the borders of what rounds to it. Below a power
of two the gap is half as wide. -/
structure Interval where
  low : Nat
  middle : Nat
  high : Nat
  closed : Bool

/-- The interval of a magnitude, in units of `2 ^ (exponent - 2)`. -/
def interval (x : Double) : Interval :=
  { low := 4 * x.significand -
      (if x.significand = twoTo 52 ∧ x.exponent ≠ -1074 then 1 else 2)
    middle := 4 * x.significand
    high := 4 * x.significand + 2
    closed := x.significand % 2 == 0 }

/-- The decimals `digit · 10 ^ grid` next to a magnitude are compared with it as exact quotients:
`unit` is the value of one unit of the interval on the grid. -/
def unitOn (x : Double) (grid : Int) : Nat × Nat :=
  let (up, down) := scaleDown 1 1 (2 - x.exponent)
  if 0 ≤ grid then (up, down * tenTo grid.toNat) else (up * tenTo (-grid).toNat, down)

/-- Whether a multiple of the grid reads back as the magnitude. -/
def readsBack (borders : Interval) (unit : Nat × Nat) (multiple : Nat) : Bool :=
  let place := multiple * unit.2
  let low := borders.low * unit.1
  let high := borders.high * unit.1
  if borders.closed then low ≤ place && place ≤ high else low < place && place < high

/-- The multiple of the grid to take for a magnitude, if one reads back. -/
def onGrid? (tie : Tie) (x : Double) (grid : Int) : Option Nat :=
  let borders := x.interval
  let unit := x.unitOn grid
  let exact := borders.middle * unit.1
  let below := exact / unit.2
  let above := below + 1
  match readsBack borders unit below, readsBack borders unit above with
  | false, false => none
  | true, false => some below
  | false, true => some above
  | true, true =>
      let toBelow := exact - below * unit.2
      let toAbove := above * unit.2 - exact
      if toBelow < toAbove then some below
      else if toAbove < toBelow then some above
      else
        match tie with
        | .upward => some above
        | .toEven => some (below + below % 2)

/-- The first grid from `grid` downwards on which the magnitude has a decimal. -/
def searchGrids (tie : Tie) (x : Double) : Nat → Int → Option (Nat × Int)
  | 0, _ => none
  | tries + 1, grid =>
      match x.onGrid? tie grid with
      | some multiple => some (multiple, grid)
      | none => searchGrids tie x tries (grid - 1)

/-- The greatest power of ten that is at most a positive magnitude. -/
def floorLog10 (x : Double) : Int :=
  let (up, down) := x.quotient
  if down ≤ up then ((digits (up / down)).length : Int) - 1
  else
    let guess := (digits (down / up)).length
    if down ≤ up * tenTo (guess - 1) then 1 - (guess : Int) else -(guess : Int)

/-- The shortest decimal of a positive magnitude. Seventeen digits always suffice. -/
def shortest (tie : Tie) (x : Double) : Decimal :=
  match searchGrids tie x 18 x.floorLog10 with
  | some (multiple, grid) =>
      let all := digits multiple
      let kept := (all.reverse.dropWhile (· == '0')).reverse
      ⟨kept, grid + all.length⟩
  | none => ⟨[], 0⟩

end Double

namespace Decimal

/-- The decimal without an exponent: whole part and fraction. -/
def parts (d : Decimal) : Text × Text :=
  if d.point ≤ 0 then (['0'], List.replicate (-d.point).toNat '0' ++ d.digits)
  else
    let size := d.point.toNat
    (d.digits.take size ++ List.replicate (size - d.digits.length) '0', d.digits.drop size)

/-- The decimal without an exponent, and without a point if it is whole. -/
def positional (d : Decimal) : Text :=
  match d.parts with
  | (whole, []) => whole
  | (whole, fraction) => whole ++ ['.'] ++ fraction

/-- The decimal without an exponent and with at least one place after the point. -/
def pointed (d : Decimal) : Text :=
  match d.parts with
  | (whole, []) => whole ++ ['.', '0']
  | (whole, fraction) => whole ++ ['.'] ++ fraction

/-- One digit before the point, and a signed exponent of ten. -/
def scientific (d : Decimal) : Text :=
  let mantissa :=
    match d.digits with
    | first :: [] => [first]
    | first :: rest => first :: '.' :: rest
    | [] => ['0']
  let exponent := d.point - 1
  mantissa ++ ['e', if exponent < 0 then '-' else '+'] ++ Number.digits exponent.natAbs

end Decimal

end LeasePapers.Number
