import LeasePapers.Agreement.Noun
import LeasePapers.Field.Basic

/-! The roles of a rental contract, and where a form says who holds them.
-/

namespace LeasePapers

/-- A role of a contract. -/
inductive Role where
  | owner
  | tenant
  | guarantor
  deriving DecidableEq, Repr

namespace Role

/-- The fields that hold one full name each. -/
def slots : Role → List Field
  | .owner => []
  | .tenant =>
      [.primeiroLocatario, .segundoLocatario, .terceiroLocatario, .quartoLocatario]
  | .guarantor => [.primeiroFiador, .segundoFiador, .terceiroFiador, .quartoFiador]

/-- The fields that hold names in free text, the first filled one counts. -/
def freeTexts : Role → List Field
  | .owner => [.nomesResumidosLocadores, .nomeProprietario]
  | .tenant => [.nomeLocatario]
  | .guarantor => [.nomeFiador]

/-- The field that holds the marker of the gender. -/
def genderField : Role → Field
  | .owner => .generoProprietario
  | .tenant => .generoLocatario
  | .guarantor => .generoFiador

/-- The noun for who holds the role. -/
def noun : Role → Noun
  | .owner => .locador
  | .tenant => .locatario
  | .guarantor => .fiador

end Role

end LeasePapers
