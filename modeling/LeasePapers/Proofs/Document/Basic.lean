import LeasePapers.Document
import LeasePapers.Proofs.Redaction.Lookup

/-! Documents that are redacted: what a form is prepared to, as a whole and field by field.
-/

namespace LeasePapers.Document

variable [Redaction.Patterns] {settings : Settings}

/-- With redaction switched on, preparing is resolving and then redacting. -/
theorem prepare_of_redacts (h : settings.redacts = true) (moment : Calendar.Moment)
    (raw : Dictionary)
    : prepare settings moment raw
      = Redaction.redact (Resolution.resolve settings.emphasisTag moment raw) :=
  if_pos h

/-- What a field holds at the end depends on what it held, its change and its rule. -/
theorem get?_prepare (h : settings.redacts = true) (moment : Calendar.Moment) (raw : Dictionary)
    (field : Field)
    : (prepare settings moment raw).get? field.name
      = ((Resolution.change settings.emphasisTag moment raw field).on (raw.get? field.name)).map
          (Redaction.redactField
            (Redaction.searchedNames (Resolution.resolve settings.emphasisTag moment raw))
            field.name) := by
  have hget := Redaction.get?_redact (Resolution.resolve settings.emphasisTag moment raw) field.name
  rw [prepare_of_redacts h, hget, Resolution.resolve, Dictionary.get?_update]

end LeasePapers.Document
