import LeasePapers.Text.Blank
import LeasePapers.Text.Capital

/-! Texts that stand for a missing value: capitals in brackets. Redaction leaves them as they are,
and puts such texts itself where nothing can be shown.
-/

namespace LeasePapers.Redaction

/-- What stands between brackets at the ends of a text. -/
def bracketed? (text : Text) : Option Text :=
  (Text.dropLead? ['['] text).bind (Text.dropTail? [']'])

/-- Whether a character may stand in a placeholder. -/
def mayStandInPlaceholder (c : Char) : Bool :=
  Text.isCapital c || c.isDigit || c == ' ' || c == '/' || c == '_'

/-- Whether a text is a placeholder: between brackets it has a capital, and nothing but capitals,
digits, spaces, slashes and underscores. -/
def isPlaceholder (text : Text) : Bool :=
  (bracketed? (Text.trim text)).any (fun inner =>
    inner.any Text.isCapital && inner.all mayStandInPlaceholder)

/-- Instead of a name that is missing. -/
def nameMissing : Text := "[NOME NÃO INFORMADO]"

/-- Instead of a list of names that is missing. -/
def namesMissing : Text := "[NOMES NÃO INFORMADOS]"

/-- Instead of an address that is missing. -/
def addressMissing : Text := "[ENDEREÇO NÃO INFORMADO]"

/-- Instead of an address that shows no city. -/
def cityUnknown : Text := "[CIDADE]"

/-- Instead of a taxpayer number that is missing. -/
def cpfMissing : Text := "[CPF NÃO INFORMADO]"

/-- Instead of a taxpayer number with a wrong number of digits. -/
def cpfInvalid : Text := "[CPF INVÁLIDO]"

/-- Instead of an identity number that is missing. -/
def rgMissing : Text := "[RG NÃO INFORMADO]"

/-- Instead of an identity number with a wrong number of digits. -/
def rgInvalid : Text := "[RG INVÁLIDO]"

/-- Instead of a telephone number that is missing. -/
def phoneMissing : Text := "[TELEFONE NÃO INFORMADO]"

/-- Instead of a telephone number with too few digits. -/
def phoneInvalid : Text := "[TELEFONE INVÁLIDO]"

/-- Instead of a mail address that is missing. -/
def emailMissing : Text := "[EMAIL NÃO INFORMADO]"

/-- Instead of a mail address without a domain. -/
def emailInvalid : Text := "[EMAIL INVÁLIDO]"

end LeasePapers.Redaction
