import LeasePapers.Proofs.Field.Dictionary
import LeasePapers.Redaction.Basic

/-! Redaction field by field: which rule a field has, what stands at its name afterwards, and which
fields the names come from that prose is searched for.
-/

namespace LeasePapers.Redaction

/-- The rule of a known field. -/
theorem ruleFor?_name (field : Field)
    : ruleFor? field.name = (rules.find? (fun entry => entry.1 = field)).map (·.2) := by
  have hsame : ∀ entry : Field × Rule,
      decide (entry.1.name = field.name) = decide (entry.1 = field) := by
    intro entry
    rw [decide_eq_decide]
    exact ⟨Field.name_inj, fun he => by rw [he]⟩
  simp only [ruleFor?, hsame]

/-- No field has two rules, so each of them is found. -/
theorem ruleFor?_of_mem {field : Field} {rule : Rule} (h : (field, rule) ∈ rules)
    : ruleFor? field.name = some rule := by
  have hfound : ∀ entry ∈ rules,
      (rules.find? (fun other => other.1 = entry.1)).map (·.2) = some entry.2 := by
    decide
  rw [ruleFor?_name]
  exact hfound _ h

/-- There is no rule for a name of no field. -/
theorem ruleFor?_unknown {name : Text} (h : Field.ofName? name = none) : ruleFor? name = none := by
  rw [ruleFor?, Option.map_eq_none_iff, List.find?_eq_none]
  intro entry _ hname
  exact Field.name_ne_of_ofName? h entry.1 (of_decide_eq_true hname)

/-- The value of a field with that name, redacted by its rule. -/
def redactField (names : List KnownName) (name : Text) (value : Field.Value) : Field.Value :=
  match ruleFor? name with
  | some rule => redactValue names rule value
  | none => value

/-- What a field holds is redacted by itself, given the names that are searched for. -/
theorem get?_redact [Patterns] (fields : Dictionary) (name : Text)
    : (redact fields).get? name
      = (fields.get? name).map (redactField (searchedNames fields) name) :=
  TextMap.get?_mapValues _ fields name

/-- Fields that carry no personal data are left alone. -/
theorem get?_redact_of_noRule [Patterns] {name : Text} (h : ruleFor? name = none)
    (fields : Dictionary)
    : (redact fields).get? name = fields.get? name := by
  rw [get?_redact]
  cases fields.get? name with
  | none => rfl
  | some value => simp [redactField, h]

/-- A text that is redacted as a whole: neither blank, nor a placeholder, nor a list. -/
structure Redactable (text : Text) : Prop where
  notBlank : Text.isAllBlank text = false
  notPlaceholder : isPlaceholder text = false
  notList : spelledList? text = none

/-- A text that is neither blank, a placeholder nor a list is redacted by its rule. -/
theorem Redactable.redactText {text : Text} (h : Redactable text) (names : List KnownName)
    (rule : Rule)
    : redactText names rule text = redactBy names rule text := by
  simp [Redaction.redactText, h.notBlank, h.notPlaceholder]

/-- A text that is neither blank, a placeholder nor a list is redacted to a text. -/
theorem Redactable.redactValue {text : Text} (h : Redactable text) (names : List KnownName)
    (rule : Rule)
    : redactValue names rule (.text text) = .text (redactBy names rule text) := by
  rw [Redaction.redactValue, h.notList, ← h.redactText]

/-- The fields that give names to search prose for. -/
def nameFields : List Field :=
  [Role.tenant, .owner, .guarantor].flatMap (fun role => role.freeTexts ++ role.slots)
    ++ [.fiadores]

/-- Dictionaries that agree on the fields with names give the same names to search prose for. The
guarantors may be listed in different ways. -/
theorem searchedNames_congr_of_list [Patterns] {first second : Dictionary}
    (h : Dictionary.AgreeOn (nameFields.filter (· ≠ .fiadores)) first second)
    (hlist : Dictionary.list first Field.fiadores = Dictionary.list second Field.fiadores)
    : searchedNames first = searchedNames second := by
  have hamong : ∀ read : List Field, (∀ field ∈ read, field ∈ nameFields.filter (· ≠ .fiadores))
      → filledAmong first read = filledAmong second read :=
    fun read hread => List.filterMap_congr (fun field hmem => h.filled? (hread field hmem))
  have hrole : ∀ role, knownForRole first role = knownForRole second role := by
    intro role
    have htexts := hamong role.freeTexts (by cases role <;> decide)
    have hslots := hamong role.slots (by cases role <;> decide)
    rw [knownForRole, knownForRole, htexts, hslots]
  have hlisted : knownInList first = knownInList second := by
    rw [knownInList, knownInList, hlist]
  rw [searchedNames, searchedNames, knownNames, knownNames, funext hrole, hlisted]

/-- Dictionaries that agree on all fields with names give the same names to search prose for. -/
theorem searchedNames_congr [Patterns] {first second : Dictionary}
    (h : Dictionary.AgreeOn nameFields first second)
    : searchedNames first = searchedNames second :=
  searchedNames_congr_of_list (h.mono (fun _ hmem => List.mem_of_mem_filter hmem))
    (h.list (by decide))

/-- The names that prose is searched for are known from the form. -/
theorem mem_knownNames_of_searched [Patterns] {fields : Dictionary} {name : KnownName}
    (h : name ∈ searchedNames fields)
    : name ∈ knownNames fields :=
  List.mem_of_mem_filter h

end LeasePapers.Redaction
