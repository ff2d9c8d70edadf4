import LeasePapers.Text.Basic

/-! Blank characters and what is cut at them. Blank means the Unicode property `White_Space`, which
holds of the no-break spaces and of the line and paragraph separators, and not of the zero-width
space.
-/

namespace LeasePapers.Text

/-- The property `White_Space`. -/
def isBlank (c : Char) : Bool :=
  ('\t' ≤ c && c ≤ '\r') || c == ' ' || c == '\x85' || c == '\xa0' || c == '\u1680'
    || ('\u2000' ≤ c && c ≤ '\u200a') || c == '\u2028' || c == '\u2029' || c == '\u202f'
    || c == '\u205f' || c == '\u3000'

/-- The text without its leading blanks. -/
def trimStart (text : Text) : Text :=
  text.dropWhile isBlank

/-- The text without its trailing blanks. -/
def trimEnd (text : Text) : Text :=
  (text.reverse.dropWhile isBlank).reverse

/-- The text without leading and trailing blanks. -/
def trim (text : Text) : Text :=
  trimEnd (trimStart text)

/-- Whether nothing but blanks is in the text. -/
def isAllBlank (text : Text) : Bool :=
  text.all isBlank

/-- The maximal runs of characters that are not blank. -/
def words (text : Text) : List Text :=
  (pieces isBlank text).filter (· ≠ [])

end LeasePapers.Text
