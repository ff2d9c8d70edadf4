import LeasePapers.Document
import LeasePapers.Proofs.Redaction.Lists
import LeasePapers.Proofs.Resolution.Derived

/-! Guarantors as a list and as a text that spells it. A form may give them either way: it is
resolved to the same, so its documents are the same, and where it is only redacted the guarantors
are the same list again.
-/

namespace LeasePapers.Document

section

variable (fields : Dictionary) (items : List Text)

/-- A form with a list of guarantors. -/
def asList : Dictionary :=
  fields.insert Field.fiadores (.list items)

/-- The form with the guarantors in a text that spells the list. -/
def asText : Dictionary :=
  fields.insert Field.fiadores (.text (Field.Value.list items).serialized)

/-- A list that is written as text is taken for the same list. -/
theorem toList?_serialized
    : (Field.Value.text (Field.Value.list items).serialized).toList? = items :=
  Field.arrayElements?_arrayText items

/-- The two forms differ at the guarantors alone. -/
theorem asList_agreeOff_asText
    : Dictionary.AgreeOff [.fiadores] (asList fields items) (asText fields items) := by
  intro name hname
  have hother : name ≠ Field.fiadores.name := (hname .fiadores (by simp)).symm
  rw [asList, asText, TextMap.get?_insert, TextMap.get?_insert, if_neg hother, if_neg hother]

/-- The guarantors of one form are the items. -/
theorem toList?_asList
    : ((asList fields items).get? Field.fiadores.name).bind Field.Value.toList? = some items := by
  rw [asList, TextMap.get?_insert, if_pos rfl]
  rfl

/-- The guarantors of the other form are the same items, by way of their text. -/
theorem toList?_asText
    : ((asText fields items).get? Field.fiadores.name).bind Field.Value.toList? = some items := by
  rw [asText, TextMap.get?_insert, if_pos rfl]
  exact toList?_serialized items

/-- The guarantors are the same list in both forms. -/
theorem list_asList
    : Dictionary.list (asList fields items) Field.fiadores.name
      = Dictionary.list (asText fields items) Field.fiadores.name := by
  rw [Dictionary.list, Dictionary.list, toList?_asList, toList?_asText]

end

/-- A list of guarantors and the text that spells it are the same to resolution, to every document
and to redaction. -/
theorem generate_asText [Redaction.Patterns] (fields : Dictionary) (items : List Text)
    : (Field.Value.text (Field.Value.list items).serialized).toList? = some items
      ∧ (∀ tag moment,
          Resolution.resolve tag moment (asList fields items)
            = Resolution.resolve tag moment (asText fields items))
      ∧ (∀ template settings moment,
          generate template settings moment (asList fields items)
            = generate template settings moment (asText fields items))
      ∧ Dictionary.AgreeOff [.fiadores] (Redaction.redact (asList fields items))
          (Redaction.redact (asText fields items))
      ∧ ∃ redacted,
          ((Redaction.redact (asList fields items)).get? Field.fiadores).bind Field.Value.toList?
            = some redacted
          ∧ ((Redaction.redact (asText fields items)).get? Field.fiadores).bind Field.Value.toList?
            = some redacted := by
  have hagree := asList_agreeOff_asText fields items
  have hlist := list_asList fields items
  have hresolve : ∀ tag moment, Resolution.resolve tag moment (asList fields items)
      = Resolution.resolve tag moment (asText fields items) :=
    fun tag moment => Resolution.resolve_congr_of_list hagree hlist
  have hnames : Redaction.searchedNames (asList fields items)
      = Redaction.searchedNames (asText fields items) :=
    Redaction.searchedNames_congr_of_list (hagree.agreeOn (by decide)) hlist
  refine ⟨toList?_serialized items, hresolve, fun template settings moment => ?_,
    Redaction.redact_agreeOff_fiadores hagree hlist, _,
    Redaction.toList?_redact_fiadores (toList?_asList fields items), ?_⟩
  · rw [generate, generate, prepare, prepare, hresolve]
  · rw [hnames]
    exact Redaction.toList?_redact_fiadores (toList?_asText fields items)

end LeasePapers.Document
