import LeasePapers.Proofs.Field.Dictionary
import LeasePapers.Proofs.Name.Entry
import LeasePapers.Redaction.Prose

/-! The names that prose is searched for. Each of them is given by the form, as a slot, in a free
text or in the list of guarantors, or is a whole free text; redaction changes it, and longer ones
come before shorter ones.
-/

namespace LeasePapers.Redaction

-----------------------------------------------------------------------------------------
-- What a form gives
-----------------------------------------------------------------------------------------

/-- A free text about the holders of a role, trimmed; placeholders name nobody. -/
inductive GivesText (fields : Dictionary) : Text → Prop
  | field {role : Role} {field : Field} {text : Text} (hfield : field ∈ role.freeTexts)
      (filled : Dictionary.filled? fields field = some text)
      (notPlaceholder : isPlaceholder text = false)
    : GivesText fields text

/-- A single name that a form gives: a filled slot, a name in a free text, or an element of the list
of guarantors.
-/
inductive GivesName (fields : Dictionary) : Text → Prop
  | slot {role : Role} {field : Field} {name : Text} (hfield : field ∈ role.slots)
      (filled : Dictionary.filled? fields field = some name)
    : GivesName fields name
  | freeText {text name : Text} (given : GivesText fields text) (hname : name ∈ Name.split text)
    : GivesName fields name
  | listed {item : Text} (hitem : item ∈ Dictionary.list fields Field.fiadores)
      (filled : Text.trim item ≠ []) (notPlaceholder : isPlaceholder (Text.trim item) = false)
    : GivesName fields (Text.trim item)

variable {fields : Dictionary}

/-- A name that a form gives has no blanks around it. -/
theorem GivesName.trimmed {name : Text} (h : GivesName fields name) : Text.trim name = name := by
  cases h with
  | slot _ filled => exact (Dictionary.trim_of_filled? filled).1
  | freeText _ hname => exact Name.trim_of_mem_split hname
  | listed => exact Text.trim_trim _

/-- A name that a form gives is something. -/
theorem GivesName.ne_nil {name : Text} (h : GivesName fields name) : name ≠ [] := by
  cases h with
  | slot _ filled => exact (Dictionary.trim_of_filled? filled).2
  | freeText _ hname => exact Name.ne_nil_of_mem_split hname
  | listed _ filled => exact filled

/-- A text that a form gives has no blanks around it, and is something. -/
theorem GivesText.trimmed {text : Text} (h : GivesText fields text)
    : Text.trim text = text ∧ text ≠ [] := by
  cases h with
  | field _ filled _ => exact Dictionary.trim_of_filled? filled

/-- The names for prose before the unchanged and the repeated ones are left out. -/
def givenNames (fields : Dictionary) : List KnownName :=
  [Role.tenant, .owner, .guarantor].flatMap (knownForRole fields) ++ knownInList fields

/-- What is filled in among some fields fills one of them. -/
theorem mem_filledAmong {names : List Field} {text : Text}
    : text ∈ filledAmong fields names
      ↔ ∃ field ∈ names, Dictionary.filled? fields field = some text :=
  List.mem_filterMap

/-- The names known for a role come from its free texts and its slots. -/
theorem mem_knownForRole {role : Role} {name : KnownName}
    : name ∈ knownForRole fields role
      ↔ (∃ text ∈ filledAmong fields role.freeTexts, name ∈ knownInFreeText text)
        ∨ ∃ text ∈ filledAmong fields role.slots, known text = name := by
  rw [knownForRole, List.mem_append, List.mem_flatMap, List.mem_map]

/-- A free text is known as a whole, and so is every name in it. -/
theorem mem_knownInFreeText {text : Text} {name : KnownName}
    : name ∈ knownInFreeText text
      ↔ isPlaceholder text = false
        ∧ (name = ⟨text, redactNames text⟩ ∨ ∃ entry ∈ Name.split text, known entry = name) := by
  rw [knownInFreeText]
  split
  · simp_all
  · simp_all

/-- The names of a form are its texts as a whole and the names it gives. -/
theorem mem_givenNames {name : KnownName}
    : name ∈ givenNames fields
      ↔ (∃ text, GivesText fields text ∧ name = ⟨text, redactNames text⟩)
        ∨ ∃ text, GivesName fields text ∧ name = known text := by
  have hroles : ∀ role : Role, role ∈ [Role.tenant, .owner, .guarantor] := by
    intro role
    cases role <;> decide
  rw [givenNames, List.mem_append, List.mem_flatMap]
  constructor
  · rintro (⟨role, -, hrole⟩ | hlist)
    · rcases mem_knownForRole.mp hrole with ⟨text, htext, hname⟩ | ⟨text, htext, rfl⟩
      · obtain ⟨field, hfield, hfilled⟩ := mem_filledAmong.mp htext
        obtain ⟨hplaceholder, hname⟩ := mem_knownInFreeText.mp hname
        have hgiven : GivesText fields text := .field hfield hfilled hplaceholder
        rcases hname with rfl | ⟨entry, hentry, rfl⟩
        · exact Or.inl ⟨text, hgiven, rfl⟩
        · exact Or.inr ⟨entry, .freeText hgiven hentry, rfl⟩
      · obtain ⟨field, hfield, hfilled⟩ := mem_filledAmong.mp htext
        exact Or.inr ⟨text, .slot hfield hfilled, rfl⟩
    · obtain ⟨text, htext, rfl⟩ := List.mem_map.mp hlist
      obtain ⟨hmem, hkept⟩ := List.mem_filter.mp htext
      obtain ⟨item, hitem, rfl⟩ := List.mem_map.mp hmem
      rw [Bool.and_eq_true, decide_eq_true_eq, Bool.not_eq_true'] at hkept
      exact Or.inr ⟨_, .listed hitem hkept.1 hkept.2, rfl⟩
  · rintro (⟨text, hgiven, rfl⟩ | ⟨text, hgiven, rfl⟩)
    · cases hgiven with
      | @field role field _ hfield filled notPlaceholder =>
          refine Or.inl ⟨role, hroles role, mem_knownForRole.mpr (Or.inl ⟨text, ?_, ?_⟩)⟩
          · exact mem_filledAmong.mpr ⟨field, hfield, filled⟩
          · exact mem_knownInFreeText.mpr ⟨notPlaceholder, Or.inl rfl⟩
    · cases hgiven with
      | @slot role field _ hfield filled =>
          refine Or.inl ⟨role, hroles role, mem_knownForRole.mpr (Or.inr ⟨text, ?_, rfl⟩)⟩
          exact mem_filledAmong.mpr ⟨field, hfield, filled⟩
      | @freeText whole _ given hname =>
          cases given with
          | @field role field _ hfield filled notPlaceholder =>
              refine Or.inl ⟨role, hroles role, mem_knownForRole.mpr (Or.inl ⟨whole, ?_, ?_⟩)⟩
              · exact mem_filledAmong.mpr ⟨field, hfield, filled⟩
              · exact mem_knownInFreeText.mpr ⟨notPlaceholder, Or.inr ⟨text, hname, rfl⟩⟩
      | @listed item hitem filled notPlaceholder =>
          refine Or.inr (List.mem_map.mpr ⟨_, List.mem_filter.mpr ⟨?_, ?_⟩, rfl⟩)
          · exact List.mem_map.mpr ⟨item, hitem, rfl⟩
          · rw [Bool.and_eq_true, decide_eq_true_eq, Bool.not_eq_true']
            exact ⟨filled, notPlaceholder⟩

-----------------------------------------------------------------------------------------
-- What prose is searched for
-----------------------------------------------------------------------------------------

/-- Only names that redaction changes are added, by induction on the names given. -/
theorem mem_addAll {given before : List KnownName} {name : KnownName}
    (h : name ∈ given.foldl addKnown before)
    : name ∈ before ∨ name ∈ given ∧ name.spelling ≠ name.redacted := by
  induction given generalizing before with
  | nil => exact Or.inl h
  | cons first rest ih =>
      rcases ih h with hmem | ⟨hmem, hchanged⟩
      · rw [addKnown] at hmem
        split at hmem
        · exact Or.inl hmem
        · rename_i hnew
          rw [not_or] at hnew
          rcases List.mem_append.mp hmem with hmem | hmem
          · exact Or.inl hmem
          · rw [List.mem_singleton.mp hmem]
            exact Or.inr ⟨List.mem_cons_self, hnew.1⟩
      · exact Or.inr ⟨List.mem_cons_of_mem _ hmem, hchanged⟩

/-- Names that are known stay known when others are added, by induction on those that are added. -/
theorem mem_addAll_of_mem {given before : List KnownName} {name : KnownName} (h : name ∈ before)
    : name ∈ given.foldl addKnown before := by
  induction given generalizing before with
  | nil => exact h
  | cons first rest ih =>
      refine ih ?_
      rw [addKnown]
      split
      · exact h
      · exact List.mem_append_left _ h

/-- Every name that redaction changes is added, or one of the same spelling has been, by induction
on the names. -/
theorem exists_mem_addAll {given before : List KnownName} {name : KnownName} (h : name ∈ given)
    (hchanged : name.spelling ≠ name.redacted)
    : ∃ other ∈ given.foldl addKnown before, other.spelling = name.spelling := by
  induction given generalizing before with
  | nil => cases h
  | cons first rest ih =>
      rcases List.mem_cons.mp h with rfl | hmem
      · rw [List.foldl_cons]
        by_cases hknown : before.any (fun other => other.spelling = name.spelling) = true
        · obtain ⟨other, hother, hsame⟩ := List.any_eq_true.mp hknown
          have hkept : other ∈ addKnown before name := by
            rw [addKnown, if_pos (Or.inr hknown)]
            exact hother
          exact ⟨other, mem_addAll_of_mem hkept, of_decide_eq_true hsame⟩
        · have hadded : name ∈ addKnown before name := by
            rw [addKnown, if_neg (not_or.mpr ⟨hchanged, hknown⟩)]
            exact List.mem_append_right _ (List.mem_singleton_self _)
          exact ⟨name, mem_addAll_of_mem hadded, rfl⟩
      · exact ih hmem

/-- Every name that prose is searched for is given by the form, and redaction changes it. -/
theorem mem_knownNames {name : KnownName} (h : name ∈ knownNames fields)
    : name.spelling ≠ name.redacted
      ∧ ((∃ text, GivesText fields text ∧ name = ⟨text, redactNames text⟩)
        ∨ ∃ text, GivesName fields text ∧ name = known text) := by
  rw [knownNames, List.mem_mergeSort] at h
  rcases mem_addAll h with hmem | ⟨hmem, hchanged⟩
  · cases hmem
  · exact ⟨hchanged, mem_givenNames.mp hmem⟩

/-- Prose is searched for every name given that redaction changes. -/
theorem exists_mem_knownNames {text : Text} (h : GivesName fields text)
    (hchanged : text ≠ redactName text)
    : ∃ name ∈ knownNames fields, name.spelling = text := by
  have hgiven : known text ∈ givenNames fields := mem_givenNames.mpr (Or.inr ⟨text, h, rfl⟩)
  obtain ⟨name, hname, hspelling⟩ :=
    @exists_mem_addAll _ [] _ hgiven hchanged
  exact ⟨name, List.mem_mergeSort.mpr hname, hspelling⟩

/-- Longer names come before shorter ones. -/
theorem pairwise_knownNames (fields : Dictionary)
    : (knownNames fields).Pairwise (fun a b => b.spelling.length ≤ a.spelling.length) := by
  refine (List.pairwise_mergeSort ?_ ?_ _).imp (fun h => of_decide_eq_true h)
  · intro a b c hab hbc
    simp only [decide_eq_true_eq] at hab hbc ⊢
    omega
  · intro a b
    simp only [Bool.or_eq_true, decide_eq_true_eq]
    omega

/-- Longer names are searched for before shorter ones. -/
theorem pairwise_searchedNames [Patterns] (fields : Dictionary)
    : (searchedNames fields).Pairwise (fun a b => b.spelling.length ≤ a.spelling.length) :=
  (pairwise_knownNames fields).filter _

/-- Names that are given with the longest first are kept in that order. -/
theorem searchedNames_of_pairwise [Patterns]
    (h : ((givenNames fields).foldl addKnown []).Pairwise
      (fun a b => b.spelling.length ≤ a.spelling.length))
    : searchedNames fields
      = ((givenNames fields).foldl addKnown []).filter
          (fun name => Patterns.builds name.spelling) := by
  have hsorted : knownNames fields = (givenNames fields).foldl addKnown [] :=
    List.mergeSort_of_pairwise (h.imp decide_eq_true)
  rw [searchedNames, hsorted]

/-- No known name is spelled by nothing. -/
theorem spelling_ne_nil {name : KnownName} (h : name ∈ knownNames fields)
    : name.spelling ≠ [] := by
  rcases (mem_knownNames h).2 with ⟨text, hgiven, rfl⟩ | ⟨text, hgiven, rfl⟩
  · exact hgiven.trimmed.2
  · exact hgiven.ne_nil

end LeasePapers.Redaction
