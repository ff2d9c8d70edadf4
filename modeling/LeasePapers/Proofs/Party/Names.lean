import LeasePapers.Proofs.Field.Dictionary
import LeasePapers.Proofs.Name.Entry
import LeasePapers.Party.Basic

/-! What a form says of a role: who holds it, by the places where names may stand, and the marker of
its gender.
-/

namespace LeasePapers

/-- A marker is spelled by its word, in any letter case and between any blanks. -/
theorem Marker.ofText?_eq_some_iff {text : Text} {marker : Marker}
    : ofText? text = some marker ↔ Text.lower (Text.trim text) = marker.word := by
  unfold ofText?
  constructor
  · intro h
    simpa [eq_comm] using List.find?_some h
  · intro h
    simp only [h]
    cases marker <;> rfl

/-- A name is given as its first word with one capital. -/
def Name.GivenAs (name given : Text) : Prop :=
  ∃ word rest, Text.words name = word :: rest ∧ given = capitalize word

namespace Party

variable {role : Role} {fields : Dictionary} {name : Text}

/-- A form marks the gender of a role. -/
def Marks (role : Role) (fields : Dictionary) (marker : Marker) : Prop :=
  ∃ text, Dictionary.text? fields role.genderField = some text
    ∧ Text.lower (Text.trim text) = marker.word

/-- A marker stands for a role if and only if the party has it. -/
theorem marks_iff {marker : Marker}
    : Marks role fields marker ↔ (ofFields role fields).marker = some marker := by
  simp only [ofFields, Option.bind_eq_some_iff, Marker.ofText?_eq_some_iff, Marks]

-----------------------------------------------------------------------------------------
-- The names of a party
-----------------------------------------------------------------------------------------

/-- The names that a form gives for a role: those in the slots if any slot is filled, else those in
the first free text that is filled, if there are any in it, else those that are listed, if the role
is that of the guarantors. None are given if a form answers that there are no guarantors. -/
def statedNames (role : Role) (fields : Dictionary) : List Text :=
  if role = .guarantor
      ∧ ∃ answer ∈ Dictionary.filled? fields Field.temFiador, ¬Text.eqAsciiCase answer "sim" then []
  else if slotNames role fields ≠ [] then slotNames role fields
  else if freeTextNames role fields ≠ [] then freeTextNames role fields
  else if role = .guarantor then listedNames fields
  else []

/-- From a single place the names are taken as they are. -/
theorem names_of_single_place (source : Source) (names : List Text)
    : (firstFilled [(source, names)]).2 = names := by
  rw [firstFilled]
  split
  · rename_i hnil
    rw [hnil]
    rfl
  · rfl

/-- From several places the names are taken of the first one with any. -/
theorem names_of_place_cons (source : Source) (names : List Text)
    (rest : List (Source × List Text))
    : (firstFilled ((source, names) :: rest)).2
      = if names ≠ [] then names else (firstFilled rest).2 := by
  by_cases hnil : names = []
  · rw [firstFilled, if_pos hnil, if_neg (not_not.mpr hnil)]
  · rw [firstFilled, if_neg hnil, if_pos hnil]

/-- There are no guarantors if and only if the answer is filled in with anything but yes. -/
theorem hasGuarantors_eq_false_iff
    : hasGuarantors fields = false
      ↔ ∃ answer ∈ Dictionary.filled? fields Field.temFiador,
          ¬Text.eqAsciiCase answer "sim" := by
  rw [hasGuarantors]
  cases Dictionary.filled? fields Field.temFiador <;> simp

/-- The people who hold a role are those that a form names for it. -/
theorem names_ofFields (role : Role) (fields : Dictionary)
    : (ofFields role fields).names = statedNames role fields := by
  rw [ofFields, statedNames]
  cases role with
  | owner =>
      have hslots : slotNames .owner fields = [] := rfl
      simp [places, names_of_single_place, hslots]
  | tenant =>
      rw [places, names_of_place_cons, names_of_place_cons]
      simp [firstFilled]
  | guarantor =>
      simp only [places, ← hasGuarantors_eq_false_iff]
      cases hasGuarantors fields with
      | false => rfl
      | true =>
          rw [if_pos rfl, names_of_place_cons, names_of_place_cons, names_of_single_place]
          simp

/-- The name in a slot has no blanks around it, and is something. -/
theorem trim_of_mem_slotNames (h : name ∈ slotNames role fields)
    : Text.trim name = name ∧ name ≠ [] := by
  obtain ⟨slot, -, hslot⟩ := List.mem_filterMap.mp h
  exact Dictionary.trim_of_filled? hslot

/-- The names in a free text have no blanks around them, and are something. -/
theorem trim_of_mem_freeTextNames (h : name ∈ freeTextNames role fields)
    : Text.trim name = name ∧ name ≠ [] := by
  rw [freeTextNames] at h
  cases hfree : freeText? role fields with
  | none =>
      rw [hfree] at h
      cases h
  | some text =>
      rw [hfree] at h
      exact ⟨Name.trim_of_mem_split h, Name.ne_nil_of_mem_split h⟩

/-- The names of a list have no blanks around them, and are something. -/
theorem trim_of_mem_listedNames (h : name ∈ listedNames fields)
    : Text.trim name = name ∧ name ≠ [] := by
  obtain ⟨hmem, hne⟩ := List.mem_filter.mp h
  obtain ⟨item, -, rfl⟩ := List.mem_map.mp hmem
  exact ⟨Text.trim_trim item, by simpa using hne⟩

/-- Wherever the names of a party come from, they begin and end in no blanks. -/
theorem trim_of_mem_names (h : name ∈ (ofFields role fields).names)
    : Text.trim name = name ∧ name ≠ [] := by
  rw [names_ofFields, statedNames] at h
  split_ifs at h
  · cases h
  · exact trim_of_mem_slotNames h
  · exact trim_of_mem_freeTextNames h
  · exact trim_of_mem_listedNames h
  · cases h

/-- Every name has a given name, and the given names are in the order of the names. -/
theorem givenAs_givenNames (role : Role) (fields : Dictionary)
    : List.Forall₂ Name.GivenAs (statedNames role fields) (ofFields role fields).givenNames := by
  have hall : ∀ names : List Text, (∀ name ∈ names, Text.trim name = name ∧ name ≠ [])
      → List.Forall₂ Name.GivenAs names (Name.givenNames names) := by
    intro names hnames
    induction names with
    | nil => exact .nil
    | cons name rest ih =>
        obtain ⟨⟨htrim, hne⟩, hrest⟩ := List.forall_mem_cons.mp hnames
        obtain ⟨word, more, hwords⟩ := List.exists_cons_of_ne_nil (Text.words_ne_nil htrim hne)
        have hfirst : Name.first? name = some word := by rw [Name.first?, hwords, List.head?_cons]
        rw [Name.givenNames, List.filterMap_cons_some hfirst, List.map_cons]
        exact .cons ⟨word, more, hwords, rfl⟩ (ih hrest)
  rw [givenNames, ← names_ofFields]
  exact hall _ (fun _ => trim_of_mem_names)

/-- Tenants come from the slots if and only if one is filled. -/
theorem source_eq_slots_iff (fields : Dictionary)
    : (ofFields .tenant fields).source = .slots ↔ slotNames .tenant fields ≠ [] := by
  rw [ofFields, places, firstFilled]
  by_cases hslots : slotNames .tenant fields = []
  · rw [if_pos hslots, firstFilled]
    split <;> simp [firstFilled, hslots]
  · simp [hslots]

/-- If a slot is filled, the tenants are those of the slots. -/
theorem names_of_slots (h : slotNames .tenant fields ≠ [])
    : (ofFields .tenant fields).names = slotNames .tenant fields := by
  rw [ofFields, places, firstFilled, if_neg h]

end Party

end LeasePapers
