import LeasePapers.Text.Upper

/-! What stands in a document for a field that is missing.
-/

namespace LeasePapers.Template

/-- The name of a missing field in capitals and brackets. -/
def placeholder (field : Text) : Text :=
  ['['] ++ Text.upper field ++ [']']

end LeasePapers.Template
