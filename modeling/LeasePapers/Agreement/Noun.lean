import LeasePapers.Agreement.Basic
import LeasePapers.Text.Upper

/-! The nouns for the roles of a contract, in their four forms.
-/

namespace LeasePapers

/-- A noun in its four forms. -/
structure Noun where
  masculine : Text
  feminine : Text
  masculinePlural : Text
  femininePlural : Text
  deriving DecidableEq, Repr

namespace Noun

/-- The form that agrees. -/
def form (noun : Noun) (a : Agreement) : Text :=
  a.choose noun.masculine noun.feminine noun.masculinePlural noun.femininePlural

/-- The form in capitals. -/
def heading (noun : Noun) (a : Agreement) : Text :=
  Text.upper (noun.form a)

/-- The form after its article. -/
def withArticle (noun : Noun) (a : Agreement) : Text :=
  a.article ++ [' '] ++ noun.form a

/-- The form after `de` and its article. -/
def afterOf (noun : Noun) (a : Agreement) : Text :=
  a.ofArticle ++ [' '] ++ noun.form a

/-- The form after `a` and its article. -/
def afterTo (noun : Noun) (a : Agreement) : Text :=
  a.toArticle ++ [' '] ++ noun.form a

/-- Who rents. -/
def locatario : Noun := ⟨"locatário", "locatária", "locatários", "locatárias"⟩

/-- Who lets. -/
def locador : Noun := ⟨"locador", "locadora", "locadores", "locadoras"⟩

/-- Who owns. -/
def proprietario : Noun :=
  ⟨"proprietário", "proprietária", "proprietários", "proprietárias"⟩

/-- Who guarantees. -/
def fiador : Noun := ⟨"fiador", "fiadora", "fiadores", "fiadoras"⟩

end Noun

end LeasePapers
