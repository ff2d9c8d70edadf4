import LeasePapers.Redaction.Placeholder

/-! Redacted mail addresses: the first character and the domain are shown.
-/

namespace LeasePapers.Redaction

/-- A mail address, redacted. -/
def redactEmail (text : Text) : Text :=
  let trimmed := Text.trim text
  if trimmed = [] then emailMissing
  else
    match Text.cutOnce '@' trimmed with
    | none => emailInvalid
    | some (_, []) => emailInvalid
    | some (person, domain) =>
        Text.withoutBraces ([person.headD '*', '*', '*', '*', '@'] ++ domain)

end LeasePapers.Redaction
