import LeasePapers.Text.Blank

/-! The words and separators of a free-text field of names. Names are separated by a comma, by a
line break, or by the word `e` standing alone; other blanks only part the words of one name.
-/

namespace LeasePapers.Name

/-- What may stand between two names. -/
inductive Separator where
  | comma
  | newline
  | conjunction
  deriving DecidableEq, Repr

/-- A word of a name or a separator. -/
inductive Token where
  | word (text : Text)
  | separator (kind : Separator)
  deriving DecidableEq, Repr

/-- The separator that a single character is. -/
def Separator.ofChar? (c : Char) : Option Separator :=
  if c = ',' then some .comma else if c = '\n' then some .newline else none

/-- The token of a finished run of characters, if there is one. The word `e` is a conjunction. -/
def Token.ofRun (run : Text) : List Token :=
  if run = [] then []
  else if run = ['e'] ∨ run = ['E'] then [.separator .conjunction]
  else [.word run]

/-- The tokens of `run` continued by a text. -/
def tokensAfter (run : Text) : Text → List Token
  | [] => Token.ofRun run
  | c :: rest =>
      match Separator.ofChar? c with
      | some kind => Token.ofRun run ++ .separator kind :: tokensAfter [] rest
      | none =>
          if Text.isBlank c then Token.ofRun run ++ tokensAfter [] rest
          else tokensAfter (run ++ [c]) rest

/-- The words and separators of a text, in order. -/
def tokenize (text : Text) : List Token :=
  tokensAfter [] text

end LeasePapers.Name
