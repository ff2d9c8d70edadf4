import LeasePapers.Text.Blank
import LeasePapers.Text.Upper
import LeasePapers.Text.Lower

/-! Given names: the first word of a full name, and its spelling with one capital.
-/

namespace LeasePapers.Name

/-- The first word of a full name. -/
def first? (full : Text) : Option Text :=
  (Text.words full).head?

/-- The first character in capital form and every other one in its small form. -/
def capitalize : Text → Text
  | [] => []
  | c :: rest => Text.upperChar c ++ Text.lowerEach rest

/-- The given names of a list of people, each with one capital. -/
def givenNames (names : List Text) : List Text :=
  (names.filterMap first?).map capitalize

end LeasePapers.Name
