import LeasePapers.Redaction.Basic
import LeasePapers.Resolution.Basic
import LeasePapers.Template.Render

/-! Documents: a form is resolved, redacted if the settings say so, and put into a template.
-/

namespace LeasePapers.Document

variable [Redaction.Patterns]

/-- The dictionary that a document is rendered from. -/
def prepare (settings : Settings) (moment : Calendar.Moment) (raw : Dictionary) : Dictionary :=
  let resolved := Resolution.resolve settings.emphasisTag moment raw
  if settings.redacts then Redaction.redact resolved else resolved

/-- The document of a template and a form. -/
def generate (template : Template) (settings : Settings) (moment : Calendar.Moment)
    (raw : Dictionary) : Text :=
  template.render (prepare settings moment raw) settings

end LeasePapers.Document
