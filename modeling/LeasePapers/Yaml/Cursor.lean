import LeasePapers.Text.Basic

/-! Places in a YAML text, and the way from one token to the next over blanks, comments and line
breaks. Columns count characters from zero.
-/

namespace LeasePapers.Yaml

/-- Whether a character breaks lines. -/
def isBreak (c : Char) : Bool :=
  c == '\n' || c == '\r' || c == '\u0085' || c == '\u2028' || c == '\u2029'

/-- Whether a character is a space or a tab. -/
def isGap (c : Char) : Bool :=
  c == ' ' || c == '\t'

/-- Whether a text is at its end, or goes on with a blank or a line break. -/
def isCut : Text → Bool
  | [] => true
  | c :: _ => isGap c || isBreak c

/-- What follows the line that ends here, up to blanks and a comment. -/
def afterLine? (text : Text) : Option Text :=
  let rest := text.dropWhile isGap
  match (if rest.head? = some '#' then rest.dropWhile (!isBreak ·) else rest) with
  | [] => some []
  | c :: rest => if isBreak c then some rest else none

/-- Whether a character may stand in a document at all. -/
def isAllowed (c : Char) : Bool :=
  let n := c.toNat
  n == 0x9 || n == 0xA || n == 0xD || (0x20 ≤ n && n ≤ 0x7E) || n == 0x85
    || (0xA0 ≤ n && n ≤ 0xD7FF) || (0xE000 ≤ n && n ≤ 0xFFFD && n != 0xFEFF) || 0x10000 ≤ n

/-- The text with one form for the common line breaks. The two separators of lines and paragraphs
are kept, since folding does not replace them. -/
def withPlainBreaks : Text → Text
  | [] => []
  | '\r' :: '\n' :: rest => '\n' :: withPlainBreaks rest
  | c :: rest => (if c == '\r' || c == '\u0085' then '\n' else c) :: withPlainBreaks rest

/-- A place in a text: what follows, its line and column, and whether a block may begin here, as it
may at the beginning of a line and after a hyphen. -/
structure Cursor where
  rest : Text
  line : Nat
  column : Nat
  fresh : Bool
  deriving DecidableEq, Repr

namespace Cursor

/-- The beginning of a text. -/
def start (text : Text) : Cursor := ⟨text, 0, 0, true⟩

/-- The place so many characters of the line further on. -/
def past (cursor : Cursor) (count : Nat) (fresh : Bool) : Cursor :=
  ⟨cursor.rest.drop count, cursor.line, cursor.column + count, fresh⟩

/-- The next token at or after a place inside or outside a comment. Tabs are passed over inside flow
collections and where no block may begin; a line break lets blocks begin, but not inside flow
collections. -/
def tokenFrom (inFlow comment fresh : Bool) (line column : Nat) : Text → Cursor
  | [] => ⟨[], line, column, fresh⟩
  | c :: rest =>
      if isBreak c then tokenFrom inFlow false (fresh || !inFlow) (line + 1) 0 rest
      else if comment || c == ' ' || (c == '\t' && (inFlow || !fresh)) then
        tokenFrom inFlow comment fresh line (column + 1) rest
      else if c == '#' then tokenFrom inFlow true fresh line (column + 1) rest
      else ⟨c :: rest, line, column, fresh⟩

/-- The next token at or after a place. -/
def toToken (inFlow : Bool) (cursor : Cursor) : Cursor :=
  tokenFrom inFlow false cursor.fresh cursor.line cursor.column cursor.rest

/-- Whether a line begins with a mark of three characters between documents. -/
def isMark (c : Char) (column : Nat) (rest : Text) : Bool :=
  match Text.dropLead? [c, c, c] rest with
  | some after => column == 0 && isCut after
  | none => false

/-- Whether a document ends here: at one of its marks. -/
def isAnyMark (column : Nat) (rest : Text) : Bool :=
  isMark '-' column rest || isMark '.' column rest

/-- Whether the document ends here: at a mark or with the text. -/
def isDone (cursor : Cursor) : Bool :=
  cursor.rest.isEmpty || isAnyMark cursor.column cursor.rest

/-- Whether an item of a block sequence begins here. -/
def isItem (cursor : Cursor) : Bool :=
  cursor.rest.head? == some '-' && isCut cursor.rest.tail

/-- Whether a key of a block mapping begins here that is marked as one. -/
def isQuery (cursor : Cursor) : Bool :=
  cursor.rest.head? == some '?' && isCut cursor.rest.tail

/-- Whether the value of a block mapping begins here. -/
def isColon (cursor : Cursor) : Bool :=
  cursor.rest.head? == some ':' && isCut cursor.rest.tail

/-- Whether what stands between two places can be a key: on one line, and not too long. -/
def canBeKey (first last : Cursor) : Bool :=
  first.line == last.line && first.rest.length ≤ last.rest.length + 1024

end Cursor

end LeasePapers.Yaml
