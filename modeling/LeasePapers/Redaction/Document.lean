import LeasePapers.Redaction.Placeholder

/-! Redacted numbers of documents and telephones: of all digits, the last two are shown.
-/

namespace LeasePapers.Redaction

/-- The ASCII digits of a text. -/
def digitsOf (text : Text) : Text :=
  text.filter Char.isDigit

/-- The last two digits of a text. -/
def lastTwo (text : Text) : Text :=
  (digitsOf text).drop ((digitsOf text).length - 2)

/-- Masks all digits but the last two, if the text is not blank and its number of digits fits. -/
def redactNumber (missing invalid mask : Text) (fits : Nat → Bool) (text : Text) : Text :=
  if Text.isAllBlank text then missing
  else if fits (digitsOf text).length then mask ++ lastTwo text
  else invalid

/-- How many digits a taxpayer number has. -/
def cpfDigits : Nat := 11

/-- A taxpayer number, redacted. -/
def redactCpf : Text → Text :=
  redactNumber cpfMissing cpfInvalid "***.***.***-" (fun count => count == cpfDigits)

/-- An identity number, redacted. -/
def redactRg : Text → Text :=
  redactNumber rgMissing rgInvalid "***.***-" (fun count => 5 ≤ count && count ≤ 12)

/-- The number of a document that is either, redacted. -/
def redactDocument (text : Text) : Text :=
  if (digitsOf text).length = cpfDigits then redactCpf text else redactRg text

/-- A telephone number, redacted. -/
def redactPhone : Text → Text :=
  redactNumber phoneMissing phoneInvalid "(**) *****-" (fun count => 8 ≤ count)

end LeasePapers.Redaction
