import LeasePapers.Yaml.Resolved

/-! Scalars of YAML as they are written. A text stands plain where it reads back as it is, between
single quotes where it would not, between double quotes where it needs escapes, and as a literal
block where it has several lines.
-/

namespace LeasePapers.Yaml

/-- Whether a character is written as it is. -/
def isPrintable (c : Char) : Bool :=
  let n := c.toNat
  n == 0xA || (0x20 ≤ n && n ≤ 0x7E) || (0xA0 ≤ n && n ≤ 0xD7FF)
    || (0xE000 ≤ n && n ≤ 0xFFFD && n != 0xFEFF) || 0x10000 ≤ n

/-- A way of writing a scalar. -/
inductive Style where
  | plain
  | single
  | double
  | literal
  deriving DecidableEq, Repr

/-- Whether two neighbours in a text satisfy a condition. -/
def anyNeighbours (p : Char → Char → Bool) : Text → Bool
  | a :: b :: rest => p a b || anyNeighbours p (b :: rest)
  | _ => false

/-- Whether a character is a space or a line break. -/
def isSpaceOrBreak (c : Char) : Bool :=
  c == ' ' || isBreak c

/-- Whether a colon before a blank or a number sign after one stands in a text, or a colon at its
end. -/
def hasMarkInside : Text → Bool
  | [] => false
  | c :: rest =>
      (c == ':' && isCut rest) || ((isGap c || isBreak c) && rest.head? == some '#')
        || hasMarkInside rest

/-- Whether a text begins like something else than a plain scalar. -/
def beginsWithMark (text : Text) : Bool :=
  Text.startsWith "---" text || Text.startsWith "..." text
    || match text with
      | [] => false
      | c :: rest =>
          ['#', ',', '[', ']', '\x7b', '\x7d', '&', '*', '!', '|', '>', '\'', '"', '%', '@',
            '\x60'].contains c || ((c == '?' || c == '-') && isCut rest)

/-- Whether spaces stand at an end of a line, or blanks or breaks at an end of the text. -/
def hasOuterSpace (text : Text) : Bool :=
  text.head?.any isSpaceOrBreak || text.getLast?.any isSpaceOrBreak

/-- Whether a text may stand plain. -/
def allowsPlain (text : Text) : Bool :=
  text.all isPrintable && !text.any isBreak && !hasOuterSpace text && !beginsWithMark text
    && !hasMarkInside text

/-- Whether a text may stand between single quotes. -/
def allowsSingle (text : Text) : Bool :=
  text.all isPrintable
    && !anyNeighbours (fun a b => (a == ' ' && isBreak b) || (isBreak a && b == ' ')) text

/-- Whether a text may stand as a literal block. -/
def allowsLiteral (text : Text) : Bool :=
  text.all isPrintable && text.getLast? != some ' '
    && !anyNeighbours (fun a b => a == ' ' && isBreak b) text

/-- The style in which a text is written. -/
def styleOf (text : Text) : Style :=
  if text.any (· == '\n') then if allowsLiteral text then .literal else .double
  else if !readsOtherwise text && allowsPlain text then .plain
  else if allowsSingle text then .single
  else .double

/-- The column in which the further lines of a scalar stand. -/
def indentation : Text := [' ', ' ']

/-- The inside of a single-quoted scalar; a line after a break is indented. -/
def singleBody (broken : Bool) : Text → Text
  | [] => if broken then indentation else []
  | c :: rest =>
      if isBreak c then c :: singleBody true rest
      else
        (if broken then indentation else []) ++ (if c == '\'' then ['\'', '\''] else [c])
          ++ singleBody false rest

/-- The hexadecimal digits of a number in capitals, filled up with zeros. -/
def hexDigits (width n : Nat) : Text :=
  let digits := (Nat.toDigits 16 n).map Char.toUpper
  List.replicate (width - digits.length) '0' ++ digits

/-- The letters for characters that have an escape of their own. -/
def writtenEscapes : List (Char × Char) :=
  [('\x00', '0'), ('\x07', 'a'), ('\x08', 'b'), ('\t', 't'), ('\n', 'n'), ('\x0B', 'v'),
   ('\x0C', 'f'), ('\r', 'r'), ('\x1B', 'e'), ('"', '"'), ('\\', '\\'), ('\u0085', 'N'),
   ('\u2028', 'L'), ('\u2029', 'P')]

/-- A character as an escape. -/
def escape (c : Char) : Text :=
  match (writtenEscapes.find? (fun entry => entry.1 == c)).map (·.2) with
  | some letter => ['\\', letter]
  | none =>
      let n := c.toNat
      if n ≤ 0xFF then ['\\', 'x'] ++ hexDigits 2 n
      else if n ≤ 0xFFFF then ['\\', 'u'] ++ hexDigits 4 n
      else ['\\', 'U'] ++ hexDigits 8 n

/-- The inside of a double-quoted scalar. -/
def doubleBody (text : Text) : Text :=
  text.flatMap (fun c =>
    if !isPrintable c || isBreak c || c == '"' || c == '\\' then escape c else [c])

/-- The lines of a literal block, indented where they are not empty. -/
def literalBody (atStart : Bool) : Text → Text
  | [] => []
  | c :: rest =>
      if isBreak c then c :: literalBody true rest
      else (if atStart then indentation else []) ++ [c] ++ literalBody false rest

/-- What says how many line breaks end a literal block: none, one, or all that are there. -/
def chomping (text : Text) : Text :=
  match text.reverse with
  | [] => ['-']
  | [last] => if isBreak last then ['+'] else ['-']
  | last :: before :: _ =>
      if !isBreak last then ['-'] else if isBreak before then ['+'] else []

/-- The first line of a literal block. -/
def literalHeader (text : Text) : Text :=
  ['|'] ++ (if text.head?.any isSpaceOrBreak then ['2'] else []) ++ chomping text ++ ['\n']

/-- A scalar as it is written after a key or a hyphen. -/
def scalarText (text : Text) : Text :=
  match styleOf text with
  | .plain => text
  | .single => ['\''] ++ singleBody false text ++ ['\'']
  | .double => ['"'] ++ doubleBody text ++ ['"']
  | .literal => literalHeader text ++ literalBody true text

/-- The text with a line break at its end. -/
def asLine (text : Text) : Text :=
  if text.getLast? = some '\n' then text else text ++ ['\n']

/-- A member of a block mapping with a scalar for its value. -/
def scalarMember (key value : Text) : Text :=
  asLine (key ++ [':', ' '] ++ scalarText value)

/-- A member of a block mapping with a sequence of scalars for its value. -/
def listMember (key : Text) (items : List Text) : Text :=
  match items with
  | [] => key ++ [':', ' ', '[', ']', '\n']
  | items =>
      key ++ [':', '\n'] ++ items.flatMap (fun item => asLine (['-', ' '] ++ scalarText item))

end LeasePapers.Yaml
