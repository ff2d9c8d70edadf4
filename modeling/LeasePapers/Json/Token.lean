import LeasePapers.Json.Literal

/-! The tokens of a JSON text. The reader goes over the text once and keeps what it is in the middle
of: nothing, a string, an escape, a number or a word. Only space, tab, line feed and carriage return
may stand between tokens; a string holds no raw control character, and an escaped surrogate only
as one half of a pair.
-/

namespace LeasePapers.Json

/-- A token of a JSON text. -/
inductive Token where
  | openArray
  | closeArray
  | openObject
  | closeObject
  | comma
  | colon
  | string (text : Text)
  | number (value : Number)
  | null
  | boolean (value : Bool)

/-- What the reader is in the middle of. Strings, numbers and words carry what has been read of
them; an escape sequence carries its value so far and how many digits it still needs, and its first
half if that was a leading surrogate. -/
inductive Reading where
  | between
  | string (read : Text)
  | escape (read : Text)
  | hex (read : Text) (value missing : Nat)
  | pairSlash (read : Text) (leading : Nat)
  | pairMark (read : Text) (leading : Nat)
  | pairHex (read : Text) (leading value missing : Nat)
  | number (read : Text)
  | word (read : Text)

/-- Blanks of JSON. -/
def isSpace (c : Char) : Bool :=
  c == ' ' || c == '\t' || c == '\n' || c == '\r'

/-- The value of a hexadecimal digit. -/
def hexValue? (c : Char) : Option Nat :=
  if c.isDigit then some (c.toNat - '0'.toNat)
  else if 'a' ≤ c ∧ c ≤ 'f' then some (c.toNat - 'a'.toNat + 10)
  else if 'A' ≤ c ∧ c ≤ 'F' then some (c.toNat - 'A'.toNat + 10)
  else none

/-- The character that a letter after a backslash stands for. -/
def simpleEscape? (c : Char) : Option Char :=
  if c = '"' then some '"' else if c = '\\' then some '\\' else if c = '/' then some '/'
  else if c = 'b' then some '\x08' else if c = 'f' then some '\x0c'
  else if c = 'n' then some '\n' else if c = 'r' then some '\r' else if c = 't' then some '\t'
  else none

/-- Characters that occur in numbers. -/
def isNumberChar (c : Char) : Bool :=
  c.isDigit || c == '-' || c == '+' || c == '.' || c == 'e' || c == 'E'

/-- The token that a word is. -/
def Token.ofWord? (word : Text) : Option Token :=
  if word = "null".toList then some .null
  else if word = "true".toList then some (.boolean true)
  else if word = "false".toList then some (.boolean false)
  else none

/-- The token that a run of number characters is. -/
def Token.ofNumber? (run : Text) : Option Token :=
  ((Literal.ofText? run).bind Literal.number?).map .number

/-- The token that a mark on its own is. -/
def Token.ofMark? (c : Char) : Option Token :=
  if c = '[' then some .openArray
  else if c = ']' then some .closeArray
  else if c = '\x7b' then some .openObject
  else if c = '\x7d' then some .closeObject
  else if c = ',' then some .comma
  else if c = ':' then some .colon
  else none

/-- One character between tokens: the token that it completes, and what it begins. -/
def readBetween (c : Char) : Option (List Token × Reading) :=
  if isSpace c then some ([], .between)
  else if c = '"' then some ([], .string [])
  else if c = '-' ∨ c.isDigit then some ([], .number [c])
  else if c.isLower then some ([], .word [c])
  else (Token.ofMark? c).map (fun token => ([token], .between))

/-- A finished escape sequence. A leading surrogate waits for its other half. -/
def readCode (read : Text) (value : Nat) : Option Reading :=
  if 0xD800 ≤ value ∧ value ≤ 0xDBFF then some (.pairSlash read value)
  else if 0xDC00 ≤ value ∧ value ≤ 0xDFFF then none
  else some (.string (read ++ [Char.ofNat value]))

/-- A finished pair of surrogates. -/
def readPair (read : Text) (leading value : Nat) : Option Reading :=
  if 0xDC00 ≤ value ∧ value ≤ 0xDFFF then
    some (.string
      (read ++ [Char.ofNat (0x10000 + (leading - 0xD800) * 0x400 + (value - 0xDC00))]))
  else none

/-- One character: the tokens that it completes, and what the reader is in after it. -/
def readChar (c : Char) : Reading → Option (List Token × Reading)
  | .between => readBetween c
  | .string read =>
      if c = '"' then some ([.string read], .between)
      else if c = '\\' then some ([], .escape read)
      else if c < ' ' then none
      else some ([], .string (read ++ [c]))
  | .escape read =>
      if c = 'u' then some ([], .hex read 0 4)
      else (simpleEscape? c).map (fun meant => ([], .string (read ++ [meant])))
  | .hex read value missing => do
      let value := value * 16 + (← hexValue? c)
      if missing = 1 then return ([], ← readCode read value)
      else return ([], .hex read value (missing - 1))
  | .pairSlash read leading => if c = '\\' then some ([], .pairMark read leading) else none
  | .pairMark read leading => if c = 'u' then some ([], .pairHex read leading 0 4) else none
  | .pairHex read leading value missing => do
      let value := value * 16 + (← hexValue? c)
      if missing = 1 then return ([], ← readPair read leading value)
      else return ([], .pairHex read leading value (missing - 1))
  | .number read =>
      if isNumberChar c then some ([], .number (read ++ [c]))
      else do
        let token ← Token.ofNumber? read
        let (tokens, next) ← readBetween c
        return (token :: tokens, next)
  | .word read =>
      if c.isLower then some ([], .word (read ++ [c]))
      else do
        let token ← Token.ofWord? read
        let (tokens, next) ← readBetween c
        return (token :: tokens, next)

/-- The end of the text: the token that it completes. -/
def readEnd : Reading → Option (List Token)
  | .between => some []
  | .number read => (Token.ofNumber? read).map ([·])
  | .word read => (Token.ofWord? read).map ([·])
  | _ => none

/-- The tokens of a text that is read on from somewhere. -/
def tokensFrom? (reading : Reading) : Text → Option (List Token)
  | [] => readEnd reading
  | c :: rest => do
      let (tokens, next) ← readChar c reading
      return tokens ++ (← tokensFrom? next rest)

/-- The tokens of a text. -/
def tokens? (text : Text) : Option (List Token) :=
  tokensFrom? .between text

end LeasePapers.Json
