import LeasePapers.Proofs.Redaction.Lists
import LeasePapers.Template.Render

/-! The shape of a redacted dictionary. Redaction goes over a dictionary value by value and over a
list element by element, so names, kinds of values and lengths of lists stay what they are, also
where a list is spelled in a text.
-/

namespace LeasePapers.Redaction

/-- Two values have the same shape: both are texts, and if the first spells a list, the second
spells one of the same length; or both are lists of the same length.
-/
inductive SameShape : Field.Value → Field.Value → Prop
  | text {content redacted : Text}
      (spelled : ∀ items ∈ Field.arrayElements? content,
        ∃ others ∈ Field.arrayElements? redacted, others.length = items.length)
    : SameShape (.text content) (.text redacted)
  | list {items redacted : List Text} (length : redacted.length = items.length)
    : SameShape (.list items) (.list redacted)

/-- A value has its own shape. -/
theorem sameShape_refl (value : Field.Value) : SameShape value value := by
  cases value with
  | text content => exact .text (fun items hitems => ⟨items, hitems, rfl⟩)
  | list items => exact .list rfl

/-- By whatever rule a value is redacted, it keeps its shape. -/
theorem sameShape_redactValue (names : List KnownName) (rule : Rule) (value : Field.Value)
    : SameShape value (redactValue names rule value) := by
  cases value with
  | list items => exact .list (List.length_map _)
  | text content =>
      have hspelled : ∀ items ∈ Field.arrayElements? content,
          (redactValue names rule (.text content)).toList?
            = some (items.map (redactText names rule)) :=
        fun items hitems => toList?_redactValue names rule hitems
      rw [redactValue] at hspelled ⊢
      split at hspelled
      all_goals
        exact .text (fun items hitems => ⟨_, hspelled items hitems, List.length_map _⟩)

/-- A field keeps the shape of its value. -/
theorem sameShape_redactField (names : List KnownName) (name : Text) (value : Field.Value)
    : SameShape value (redactField names name value) := by
  rw [redactField]
  split
  · exact sameShape_redactValue names _ value
  · exact sameShape_refl value

/-- Redaction keeps the keys. -/
theorem keys_redact [Patterns] (fields : Dictionary) : (redact fields).keys = fields.keys :=
  TextMap.keys_eq_of_isSome (fun name => by rw [get?_redact, Option.isSome_map])

/-- A field that holds or spells a list is repeated over as often as before. -/
theorem length_list_redact [Patterns] {fields : Dictionary} {name : Text} {items : List Text}
    (h : (fields.get? name).bind Field.Value.toList? = some items)
    : (Dictionary.list (redact fields) name).length = items.length := by
  obtain ⟨value, hvalue, hitems⟩ := Option.bind_eq_some_iff.mp h
  have hshape := sameShape_redactField (searchedNames fields) name value
  rw [Dictionary.list, get?_redact, hvalue, Option.map_some, Option.bind_some]
  generalize redactField (searchedNames fields) name value = redacted at hshape
  cases hshape with
  | text spelled =>
      obtain ⟨others, hothers, hlength⟩ := spelled items hitems
      rw [Field.Value.toList?, Option.mem_def.mp hothers]
      exact hlength
  | list length =>
      obtain rfl := Option.some.inj hitems
      exact length

/-- Redaction keeps the shape of a dictionary: its names, every field without a rule, the kind of
each value and the length of each list, held or spelled; so every repetition over a list runs as
often as before.
-/
theorem sameShape_redact [Patterns] (fields : Dictionary)
    : (redact fields).keys = fields.keys
      ∧ (∀ name, ruleFor? name = none → (redact fields).get? name = fields.get? name)
      ∧ (∀ name, Option.Rel SameShape (fields.get? name) ((redact fields).get? name))
      ∧ ∀ name items, (fields.get? name).bind Field.Value.toList? = some items →
          ∀ settings scope,
            (Template.Context.runs ⟨redact fields, settings, scope⟩ name).length
              = (Template.Context.runs ⟨fields, settings, scope⟩ name).length := by
  refine ⟨keys_redact fields, fun name hrule => get?_redact_of_noRule hrule fields,
    fun name => ?_, fun name items hlist settings scope => ?_⟩
  · rw [get?_redact]
    cases fields.get? name with
    | none => exact .none
    | some value => exact .some (sameShape_redactField _ name value)
  · have hbefore : Dictionary.list fields name = items := by rw [Dictionary.list, hlist]; rfl
    simp only [Template.Context.runs, Template.Context.elements, List.length_map,
      List.length_zipIdx, length_list_redact hlist, hbefore]

/-- A form with guarantors in a text that spells a list, and with a field of its own. -/
def spelledGuarantors : Dictionary :=
  TextMap.ofList
    [("valorAluguel", .text "1500"),
     (Field.fiadores.name, .text "[\"Ana Souza\", \"\", 7]")]

/-- Guarantors in a text are repeated over as often as before, an empty one included. -/
theorem sameShape_redact_spelledGuarantors
    : (redact spelledGuarantors).get? "valorAluguel" = some (.text "1500")
      ∧ (redact spelledGuarantors).get? Field.fiadores
        = some (.text "[\"Ana S.\",\"\",\"7\"]")
      ∧ (Template.Context.runs ⟨redact spelledGuarantors, .default, none⟩ Field.fiadores).length
        = 3 := by
  obtain ⟨-, hkept, -, hruns⟩ := sameShape_redact spelledGuarantors
  refine ⟨(hkept _ (by decide +kernel)).trans (by decide +kernel), by decide +kernel, ?_⟩
  exact (hruns _ ["Ana Souza".toList, [], "7".toList] (by decide +kernel) .default none).trans
    (by decide +kernel)

end LeasePapers.Redaction
