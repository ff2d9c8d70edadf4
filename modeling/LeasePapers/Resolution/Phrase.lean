import LeasePapers.Party.Basic

/-! What the fields of several roles are filled with: truth values, trimmed texts, names, and what
stands for each of them when it is missing.
-/

namespace LeasePapers.Resolution

/-- What stands for a given name that is missing. -/
def missingGivenName : Text := "[PRIMEIRO NOME]"

/-- What stands for a free text that is missing. -/
def missingFreeText : Text := "[TEXTOLIVRE]"

/-- A truth value as a text. -/
def flag (b : Bool) : Text :=
  if b then "true" else "false"

/-- The trimmed text of a field, or what stands for it. -/
def filledOr (raw : Dictionary) (field : Field) (other : Text) : Text :=
  (Dictionary.filled? raw field).getD other

/-- The first given name of a party. -/
def leadingGivenName (party : Party) : Text :=
  party.givenNames.head?.getD missingGivenName

/-- The names of a party in one text, or what stands for them. -/
def namesOr (party : Party) (placeholder : Text) : Text :=
  if party.names = [] then placeholder else Name.joinAll party.names

end LeasePapers.Resolution
