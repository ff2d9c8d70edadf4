import LeasePapers.Yaml.Cursor

/-! Scalars of YAML, plain and quoted. Between two characters of a scalar that are not blank, blanks
on one line are kept; around a line break they are dropped, and the break is folded into a space, or
into one break less if there are several.
-/

namespace LeasePapers.Yaml

/-- What has been read since the last character that is not blank: blanks, or line breaks. The first
break is missing if it was escaped. -/
inductive Gap where
  | blanks (read : Text)
  | breaks (first : Option Char) (more : Text)

namespace Gap

/-- Nothing has been read. -/
def empty : Gap := .blanks []

/-- Reads a blank or a line break. -/
def add : Gap → Char → Gap
  | .blanks read, c => if isBreak c then .breaks (some c) [] else .blanks (read ++ [c])
  | .breaks first more, c => if isBreak c then .breaks first (more ++ [c]) else .breaks first more

/-- What a gap stands for. -/
def text : Gap → Text
  | .blanks read => read
  | .breaks (some '\n') [] => [' ']
  | .breaks (some '\n') more => more
  | .breaks (some c) more => c :: more
  | .breaks none more => more

/-- Whether a gap has a line break. -/
def isBroken : Gap → Bool
  | .blanks _ => false
  | .breaks _ _ => true

/-- Whether a gap has anything. -/
def isSome : Gap → Bool
  | .blanks read => !read.isEmpty
  | .breaks _ _ => true

end Gap

/-- The line and the column after a blank or a line break. -/
def afterGap (c : Char) (line column : Nat) : Nat × Nat :=
  if isBreak c then (line + 1, 0) else (line, column + 1)

/-- Puts text in front of a scalar that has been read. -/
def prepend (text : Text) : Option (Text × Cursor) → Option (Text × Cursor) :=
  Option.map (fun (read, cursor) => (text ++ read, cursor))

/-- Whether a character separates the parts of flow collections. -/
def isFlowMark (c : Char) : Bool :=
  c == ',' || c == '[' || c == ']' || c == '\x7b' || c == '\x7d'

/-- Whether a plain scalar ends before a character that is not blank: at a mark between documents,
at a comment, before a colon and a blank, at a mark of a flow collection around it, or outdented. -/
def plainEnds (inFlow : Bool) (indent column : Nat) (gap : Gap) (c : Char) (rest : Text) : Bool :=
  Cursor.isAnyMark column (c :: rest) || (c == '#' && gap.isSome) || (c == ':' && isCut rest)
    || (if inFlow then isFlowMark c else gap.isBroken && column < indent)

/-- Whether a colon is out of place inside a flow collection: right before one of its marks. -/
def isStrayColon (inFlow : Bool) (c : Char) (rest : Text) : Bool :=
  inFlow && c == ':' && rest.head?.any (fun next => isFlowMark next || next == '?')

/-- Reads a plain scalar on from a gap. Its further lines stand at least at the column `indent`, and
no tab may stand before that column. -/
def plainFrom (inFlow : Bool) (indent : Nat) (gap : Gap) (line column : Nat)
    : Text → Option (Text × Cursor)
  | [] => some ([], ⟨[], line, column, gap.isBroken⟩)
  | c :: rest =>
      if isGap c || isBreak c then
        if gap.isBroken && c == '\t' && column < indent then none
        else
          plainFrom inFlow indent (gap.add c) (afterGap c line column).1
            (afterGap c line column).2 rest
      else if plainEnds inFlow indent column gap c rest then
        some ([], ⟨c :: rest, line, column, gap.isBroken⟩)
      else if isStrayColon inFlow c rest then none
      else prepend (gap.text ++ [c]) (plainFrom inFlow indent .empty line (column + 1) rest)

/-- Reads a plain scalar. -/
def plain? (inFlow : Bool) (indent : Nat) (cursor : Cursor) : Option (Text × Cursor) :=
  plainFrom inFlow indent .empty cursor.line cursor.column cursor.rest

/-- Whether a plain scalar begins here. -/
def beginsPlain (inFlow : Bool) : Text → Bool
  | [] => false
  | c :: rest =>
      if c == '-' then !isCut rest
      else if c == '?' || c == ':' then !inFlow && !isCut rest
      else !isGap c && !isBreak c && !isFlowMark c
        && !(['#', '&', '*', '!', '|', '>', '\'', '"', '%', '@', '\x60'].contains c)

/-- Reads a single-quoted scalar on from a gap. Two quotes stand for one. -/
def singleFrom (gap : Gap) (line column : Nat) : Text → Option (Text × Cursor)
  | [] => none
  | c :: rest =>
      if Cursor.isAnyMark column (c :: rest) then none
      else if isGap c || isBreak c then
        singleFrom (gap.add c) (afterGap c line column).1 (afterGap c line column).2 rest
      else if c == '\'' then
        match rest with
        | '\'' :: rest => prepend (gap.text ++ ['\'']) (singleFrom .empty line (column + 2) rest)
        | _ => some (gap.text, ⟨rest, line, column + 1, false⟩)
      else prepend (gap.text ++ [c]) (singleFrom .empty line (column + 1) rest)

/-- The value of a hexadecimal digit. -/
def hexDigit? (c : Char) : Option Nat :=
  if '0' ≤ c ∧ c ≤ '9' then some (c.toNat - '0'.toNat)
  else if 'a' ≤ c ∧ c ≤ 'f' then some (c.toNat - 'a'.toNat + 10)
  else if 'A' ≤ c ∧ c ≤ 'F' then some (c.toNat - 'A'.toNat + 10)
  else none

/-- The number that hexadecimal digits spell. -/
def hexNumber? (digits : Text) : Option Nat :=
  digits.foldl (fun read c => read.bind (fun n => (hexDigit? c).map (16 * n + ·))) (some 0)

/-- The character with a number, if there is one. -/
def charAt? (n : Nat) : Option Char :=
  if n.isValidChar then some (Char.ofNat n) else none

/-- The escapes of one letter, with the characters they stand for. -/
def escapes : List (Char × Char) :=
  [('0', '\x00'), ('a', '\x07'), ('b', '\x08'), ('t', '\t'), ('\t', '\t'), ('n', '\n'),
   ('v', '\x0B'), ('f', '\x0C'), ('r', '\r'), ('e', '\x1B'), (' ', ' '), ('"', '"'), ('/', '/'),
   ('\\', '\\'), ('N', '\u0085'), ('_', '\u00A0'), ('L', '\u2028'), ('P', '\u2029')]

/-- The number of hexadecimal digits after an escape, if it takes some. -/
def escapeWidth? (c : Char) : Option Nat :=
  match c with
  | 'x' => some 2
  | 'u' => some 4
  | 'U' => some 8
  | _ => none

/-- Reads a double-quoted scalar on from a gap. `code` holds the hexadecimal digits of an escape
that has been read in part, and how many are still to come. -/
def doubleFrom (gap : Gap) (code : Option (Text × Nat)) (line column : Nat)
    : Text → Option (Text × Cursor)
  | [] => none
  | c :: rest =>
      match code with
      | some (digits, missing) =>
          if missing = 1 then
            ((hexNumber? (digits ++ [c])).bind charAt?).bind (fun spelled =>
              prepend [spelled] (doubleFrom .empty none line (column + 1) rest))
          else doubleFrom .empty (some (digits ++ [c], missing - 1)) line (column + 1) rest
      | none =>
          if Cursor.isAnyMark column (c :: rest) then none
          else if isGap c || isBreak c then
            doubleFrom (gap.add c) none (afterGap c line column).1 (afterGap c line column).2 rest
          else if c == '"' then some (gap.text, ⟨rest, line, column + 1, false⟩)
          else if c == '\\' then
            match rest with
            | [] => none
            | d :: rest =>
                if isBreak d then
                  prepend gap.text (doubleFrom (.breaks none []) none (line + 1) 0 rest)
                else
                  match escapeWidth? d, (escapes.find? (fun entry => entry.1 == d)).map (·.2) with
                  | some width, _ =>
                      prepend gap.text (doubleFrom .empty (some ([], width)) line (column + 2) rest)
                  | none, some spelled =>
                      prepend (gap.text ++ [spelled])
                        (doubleFrom .empty none line (column + 2) rest)
                  | none, none => none
          else prepend (gap.text ++ [c]) (doubleFrom .empty none line (column + 1) rest)

end LeasePapers.Yaml
