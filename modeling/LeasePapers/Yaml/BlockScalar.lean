import LeasePapers.Number.Digits
import LeasePapers.Yaml.Scalar

/-! Block scalars of YAML, literal and folded. They stand on the lines behind their sign, in a
column that is given there or is that of their first line. In a folded one a line break becomes a
space, unless a line beside it begins with a blank.
-/

namespace LeasePapers.Yaml

/-- What becomes of the line breaks at the end of a block scalar: all are dropped, or all but one,
or none. -/
inductive Chomping where
  | strip
  | clip
  | keep
  deriving DecidableEq, Repr

/-- The chomping that a sign stands for. -/
def Chomping.ofSign? (c : Char) : Option Chomping :=
  if c = '-' then some .strip else if c = '+' then some .keep else none

/-- The digit that says how far a block scalar is indented, if one begins a text, and what follows.
A zero says nothing. -/
def indentDigit? : Text → Option (Option Nat × Text)
  | [] => some (none, [])
  | c :: rest =>
      if c = '0' then none
      else if c.isDigit then some (some (Number.ofDigits [c]), rest)
      else some (none, c :: rest)

/-- What stands behind the sign of a block scalar: its chomping and its indentation, in any order.
-/
def blockSigns? (text : Text) : Option (Chomping × Option Nat × Text) :=
  match text.head?.bind Chomping.ofSign? with
  | some chomping => (indentDigit? text.tail).map (fun (indent, rest) => (chomping, indent, rest))
  | none =>
      (indentDigit? text).map (fun (indent, rest) =>
        match (if indent.isSome then rest.head?.bind Chomping.ofSign? else none) with
        | some chomping => (chomping, indent, rest.tail)
        | none => (.clip, indent, rest))

/-- The column of the first line with a character, or of a line of spaces before it that is longer.
No tab may stand there. -/
def firstColumn? (widest column : Nat) : Text → Option Nat
  | [] => some (max widest column)
  | c :: rest =>
      if c == ' ' then firstColumn? widest (column + 1) rest
      else if c == '\t' then none
      else if isBreak c then firstColumn? (max widest column) 0 rest
      else some (max widest column)

/-- The line breaks that have been read since the last line with a character: the one that ends it,
if there is such a line, and those of empty lines. `blank` is whether the line begins with a blank.
-/
structure Breaks where
  first : Option Char
  more : Text
  blank : Bool

namespace Breaks

/-- Nothing has been read. -/
def empty : Breaks := ⟨none, [], false⟩

/-- What line breaks stand for in front of a line, which begins with a blank or not. -/
def text (folded : Bool) (breaks : Breaks) (blank : Bool) : Text :=
  if folded && breaks.first == some '\n' && !breaks.blank && !blank then
    if breaks.more = [] then [' '] else breaks.more
  else breaks.first.toList ++ breaks.more

/-- What line breaks stand for at the end. -/
def chomped (breaks : Breaks) : Chomping → Text
  | .strip => []
  | .clip => breaks.first.toList
  | .keep => breaks.first.toList ++ breaks.more

end Breaks

/-- Reads a block scalar on, inside of a line or at the beginning of one. Its lines stand in the
column `indent`, and it ends where one with a character begins further left. -/
def blockFrom (folded : Bool) (chomping : Chomping) (indent : Nat) (inside : Bool)
    (breaks : Breaks) (line column : Nat)
    : Text → Option (Text × Cursor)
  | [] => some (breaks.chomped chomping, ⟨[], line, column, true⟩)
  | c :: rest =>
      if isBreak c then
        let breaks : Breaks :=
          if inside then { breaks with first := some c, more := [] }
          else { breaks with more := breaks.more ++ [c] }
        blockFrom folded chomping indent false breaks (line + 1) 0 rest
      else if inside then
        prepend [c] (blockFrom folded chomping indent true breaks line (column + 1) rest)
      else if column < indent then
        if c == ' ' then
          blockFrom folded chomping indent false breaks line (column + 1) rest
        else if c == '\t' then none
        else some (breaks.chomped chomping, ⟨c :: rest, line, column, true⟩)
      else
        prepend (breaks.text folded (isGap c) ++ [c])
          (blockFrom folded chomping indent true ⟨none, [], isGap c⟩ line (column + 1) rest)

/-- Whether a block scalar begins here. -/
def beginsBlock (cursor : Cursor) : Bool :=
  cursor.rest.head? == some '|' || cursor.rest.head? == some '>'

/-- Reads a block scalar. `indent` is the column behind that of the block around it, and the first
one for a scalar outside of any block. -/
def block? (indent : Nat) (cursor : Cursor) : Option (Text × Cursor) := do
  let (chomping, digit, rest) ← blockSigns? cursor.rest.tail
  let rest ← afterLine? rest
  let column ←
    match digit with
    | some digit => some (indent - 1 + digit)
    | none => (firstColumn? 0 0 rest).map (fun column => max column (max indent 1))
  blockFrom (cursor.rest.head? == some '>') chomping column false .empty (cursor.line + 1) 0 rest

end LeasePapers.Yaml
