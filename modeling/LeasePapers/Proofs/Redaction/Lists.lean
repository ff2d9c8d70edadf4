import LeasePapers.Proofs.Json.Arrays
import LeasePapers.Proofs.Redaction.Lookup

/-! Lists in a redacted form. A list and a text that spells it are both redacted element by element,
so they are still the same list afterwards.
-/

namespace LeasePapers.Redaction

variable (names : List KnownName) (rule : Rule)

/-- Whatever spells an array is found out by its first mark. -/
theorem spelledList?_eq (text : Text) : spelledList? text = Field.arrayElements? text := by
  rw [spelledList?]
  split
  · rfl
  · rename_i hhead
    cases h : Field.arrayElements? text with
    | none => rfl
    | some items => exact absurd (Field.head?_of_arrayElements? h) hhead

/-- An array that is written as text is spelled by it. -/
theorem spelledList?_arrayText (items : List Text)
    : spelledList? (Field.arrayText items) = some items :=
  (spelledList?_eq _).trans (Field.arrayElements?_arrayText items)

/-- The items of a list are redacted one by one. -/
theorem toList?_redactValue {value : Field.Value} {items : List Text}
    (h : value.toList? = some items)
    : (redactValue names rule value).toList? = some (items.map (redactText names rule)) := by
  cases value with
  | list given =>
      obtain rfl : given = items := Option.some.inj h
      rfl
  | text content =>
      have hspelled : spelledList? content = some items := (spelledList?_eq content).trans h
      simp only [redactValue, hspelled]
      exact Field.arrayElements?_arrayText _

/-- Two forms that list the same guarantors in different ways are redacted alike. -/
theorem redact_agreeOff_fiadores [Patterns] {first second : Dictionary}
    (h : Dictionary.AgreeOff [.fiadores] first second)
    (hlist : Dictionary.list first Field.fiadores = Dictionary.list second Field.fiadores)
    : Dictionary.AgreeOff [.fiadores] (redact first) (redact second) := by
  have hnames : searchedNames first = searchedNames second :=
    searchedNames_congr_of_list (h.agreeOn (by decide)) hlist
  intro name hname
  rw [get?_redact, get?_redact, hnames, h name hname]

/-- What is listed after redaction are the redacted guarantors, one by one. -/
theorem toList?_redact_fiadores [Patterns] {fields : Dictionary} {items : List Text}
    (h : (fields.get? Field.fiadores.name).bind Field.Value.toList? = some items)
    : ((redact fields).get? Field.fiadores.name).bind Field.Value.toList?
      = some (items.map (redactText (searchedNames fields) .name)) := by
  have hrule : ruleFor? Field.fiadores.name = some .name := ruleFor?_of_mem (by decide)
  obtain ⟨value, hvalue, hitems⟩ := Option.bind_eq_some_iff.mp h
  rw [get?_redact, hvalue]
  simp only [Option.map_some, Option.bind_some, redactField, hrule]
  exact toList?_redactValue (searchedNames fields) .name hitems

end LeasePapers.Redaction
