import LeasePapers.Resolution.Contract
import LeasePapers.Resolution.Guarantor
import LeasePapers.Resolution.Owner
import LeasePapers.Resolution.Tenant

/-! Resolution: everything that follows from a form is worked out of the form as it came and written
into the dictionary. All other fields are handed through, and nothing ever fails.
-/

namespace LeasePapers.Resolution

/-- What happens to a field. Every change is worked out of the form as it came, so a stale value of
a field that follows from others has no part in it. -/
def change (tag : Text) (moment : Calendar.Moment) (raw : Dictionary) : Field → Change :=
  let tenant := tenantChange raw
  let owner := ownerChange tag raw
  let guarantor := guarantorChange tag raw
  let contract := contractChange moment raw
  fun field =>
    ((tenant field).orElse (owner field)).orElse ((guarantor field).orElse (contract field))

/-- The dictionary with everything that follows. -/
def resolve (tag : Text) (moment : Calendar.Moment) (raw : Dictionary) : Dictionary :=
  Dictionary.update raw (change tag moment raw)

end LeasePapers.Resolution
