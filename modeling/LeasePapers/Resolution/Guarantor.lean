import LeasePapers.Resolution.Phrase
import LeasePapers.Resolution.Update

/-! What follows for the guarantors of a contract.
-/

namespace LeasePapers.Resolution

/-- What happens to a field on behalf of the guarantors. Their formatted names are taken out if
there are none. -/
def guarantorChange (tag : Text) (raw : Dictionary) : Field → Change :=
  let party := Party.ofFields .guarantor raw
  fun
    | .fiadores => .write (.list party.names)
    | .isMultipleFiadores => .text (flag party.isPlural)
    | .fiadorTerm => .text (party.noun.heading party.agreement)
    | .fiador1 => .text (party.names.getD 0 [])
    | .fiador2 => .text (party.names.getD 1 [])
    | .fiador3 => .text (party.names.getD 2 [])
    | .fiador4 => .text (party.names.getD 3 [])
    | .nomeFiadoresFormatado =>
        if party.names = [] then .clear else .text (Name.joinEmphasized tag party.names)
    | _ => .keep

end LeasePapers.Resolution
