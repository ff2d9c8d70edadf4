import LeasePapers.Party.Basic
import LeasePapers.Proofs.Redaction.Alike

/-! Parties of two forms whose names are alike. Such parties agree in everything but their
surnames: in where their names were found, how many they are, their given names, and all phrases
about them.
-/

namespace LeasePapers

-----------------------------------------------------------------------------------------
-- Related options and lists
-----------------------------------------------------------------------------------------

section

variable {α β : Type} {R : β → β → Prop}

/-- What is found at places that are related one by one is related one by one, by induction on the
places. -/
theorem forall₂_filterMap {places : List α} {found other : α → Option β}
    (h : ∀ place ∈ places, Option.Rel R (found place) (other place))
    : List.Forall₂ R (places.filterMap found) (places.filterMap other) := by
  induction places with
  | nil => exact .nil
  | cons place places ih =>
      obtain ⟨hplace, hplaces⟩ := List.forall_mem_cons.mp h
      rw [List.filterMap_cons, List.filterMap_cons]
      generalize found place = value, other place = second at hplace
      cases hplace with
      | none => exact ih hplaces
      | some hvalue => exact .cons hvalue (ih hplaces)

/-- What is related to itself is so if it is there. -/
theorem rel_self (hself : ∀ value, R value value) (found : Option β)
    : Option.Rel R found found := by
  cases found with
  | none => exact .none
  | some value => exact .some (hself value)

/-- Related lists begin with related values. -/
theorem rel_head? {values others : List β} (h : List.Forall₂ R values others)
    : Option.Rel R values.head? others.head? := by
  cases h with
  | nil => exact .none
  | cons hvalue _ => exact .some hvalue

end

/-- Fields with texts that are both blank, or both not and then related. -/
theorem Dictionary.filled?_rel {R : Text → Text → Prop} {first second : Dictionary}
    {name text other : Text} (hfirst : first.get? name = some (.text text))
    (hsecond : second.get? name = some (.text other))
    (hblank : Text.isAllBlank text = Text.isAllBlank other)
    (h : Text.isAllBlank text = false → R (Text.trim text) (Text.trim other))
    : Option.Rel R (filled? first name) (filled? second name) := by
  rw [filled?_of_text hfirst, filled?_of_text hsecond]
  simp only [Text.trim_eq_nil_iff, ← hblank]
  cases htext : Text.isAllBlank text with
  | true => exact .none
  | false => exact .some (h htext)

namespace Party

-----------------------------------------------------------------------------------------
-- Where names are found
-----------------------------------------------------------------------------------------

/-- The first place with names is the same among related places, by induction on them. -/
theorem firstFilled_rel {R : List Text → List Text → Prop} (hnil : R [] [])
    (hempty : ∀ {names others}, R names others → (names = [] ↔ others = []))
    {found other : List (Source × List Text)}
    (h : List.Forall₂ (fun place place' => place.1 = place'.1 ∧ R place.2 place'.2) found other)
    : (firstFilled found).1 = (firstFilled other).1
      ∧ R (firstFilled found).2 (firstFilled other).2 := by
  induction h with
  | nil => exact ⟨rfl, hnil⟩
  | @cons place place' _ _ hplace _ ih =>
      obtain ⟨source, names⟩ := place
      obtain ⟨source', names'⟩ := place'
      rw [firstFilled, firstFilled]
      by_cases hnames : names = []
      · rw [if_pos hnames, if_pos ((hempty hplace.2).mp hnames)]
        exact ih
      · rw [if_neg hnames, if_neg (fun he => hnames ((hempty hplace.2).mpr he))]
        exact hplace

/-- The places where the names of a role may stand are related one by one. -/
theorem places_rel {R : List Text → List Text → Prop} {role : Role} {first second : Dictionary}
    (hslots : R (slotNames role first) (slotNames role second))
    (hfree : R (freeTextNames role first) (freeTextNames role second))
    (hlisted : R (listedNames first) (listedNames second))
    (hany : hasGuarantors first = hasGuarantors second)
    : List.Forall₂ (fun place place' => place.1 = place'.1 ∧ R place.2 place'.2)
        (places role first) (places role second) := by
  cases role with
  | owner => exact .cons ⟨rfl, hfree⟩ .nil
  | tenant => exact .cons ⟨rfl, hslots⟩ (.cons ⟨rfl, hfree⟩ .nil)
  | guarantor =>
      rw [places, places, hany]
      split
      · exact .cons ⟨rfl, hslots⟩ (.cons ⟨rfl, hfree⟩ (.cons ⟨rfl, hlisted⟩ .nil))
      · exact .nil

end Party

/-- What two forms say of a role differs in nothing but surnames. -/
structure RoleAlike (tag : Text) (role : Role) (first second : Dictionary) : Prop where
  slots : ∀ field ∈ role.slots,
    Option.Rel Name.Alike (Dictionary.filled? first field.name)
      (Dictionary.filled? second field.name)
  freeTexts : ∀ field ∈ role.freeTexts,
    Option.Rel (fun text other => text = other ∨ Name.AlikeText text other)
      (Dictionary.filled? first field.name) (Dictionary.filled? second field.name)
  same : Dictionary.AgreeOn [role.genderField, .temFiador, .fiadores] first second
  joinable : Party.slotNames role first = Party.slotNames role second
    ∨ Redaction.Joinable tag (Party.ofFields role first).names (Party.ofFields role second).names

-----------------------------------------------------------------------------------------
-- Alike parties
-----------------------------------------------------------------------------------------

/-- Two parties differ in nothing but surnames. -/
structure Party.Alike (tag : Text) (party other : Party) : Prop where
  role : party.role = other.role
  source : party.source = other.source
  marker : party.marker = other.marker
  names : List.Forall₂ Name.Alike party.names other.names
  joinable : Redaction.Joinable tag party.names other.names

namespace RoleAlike

variable {tag : Text} {role : Role} {first second : Dictionary}

/-- The free texts of both forms are the same or alike. -/
theorem freeText? (h : RoleAlike tag role first second)
    : Option.Rel (fun text other => text = other ∨ Name.AlikeText text other)
        (Party.freeText? role first) (Party.freeText? role second) := by
  rw [Party.freeText?, Party.freeText?, ← List.head?_filterMap, ← List.head?_filterMap]
  exact rel_head? (forall₂_filterMap h.freeTexts)

/-- The names in the free texts of both forms are alike, and joined in a way that can be split. -/
theorem freeTextNames (h : RoleAlike tag role first second)
    : List.Forall₂ Name.Alike (Party.freeTextNames role first) (Party.freeTextNames role second)
      ∧ Redaction.Joinable tag (Party.freeTextNames role first)
          (Party.freeTextNames role second) := by
  have hself : ∀ names : List Text,
      List.Forall₂ Name.Alike names names ∧ Redaction.Joinable tag names names :=
    fun names => ⟨List.forall₂_same.mpr (fun _ _ => Or.inl rfl), Or.inl rfl⟩
  have htext := h.freeText?
  rw [Party.freeTextNames, Party.freeTextNames]
  generalize Party.freeText? role first = text, Party.freeText? role second = other at htext
  cases htext with
  | none => exact hself []
  | some htext =>
      rcases htext with rfl | halike
      · exact hself _
      · exact ⟨halike.alike,
          Or.inr ⟨Redaction.spelledList?_joinEmphasized tag (Name.full_of_forall₂ halike.names),
            Redaction.spelledList?_joinEmphasized tag (Name.full_of_forall₂ halike.symm.names)⟩⟩

/-- A relation between the names of the slots and of the free texts holds at every place. -/
theorem places {R : List Text → List Text → Prop} (h : RoleAlike tag role first second)
    (hself : ∀ names, R names names)
    (hslots : R (Party.slotNames role first) (Party.slotNames role second))
    (hfree : R (Party.freeTextNames role first) (Party.freeTextNames role second))
    : List.Forall₂ (fun place place' => place.1 = place'.1 ∧ R place.2 place'.2)
        (Party.places role first) (Party.places role second) := by
  have hlisted : Party.listedNames first = Party.listedNames second := by
    rw [Party.listedNames, Party.listedNames, h.same.list (by simp)]
  have hany : Party.hasGuarantors first = Party.hasGuarantors second := by
    rw [Party.hasGuarantors, Party.hasGuarantors, h.same.filled? (by simp)]
  exact Party.places_rel hslots hfree (hlisted ▸ hself _) hany

/-- Forms that differ in surnames name alike parties. -/
theorem party (h : RoleAlike tag role first second)
    : Party.Alike tag (Party.ofFields role first) (Party.ofFields role second) := by
  have hmarker : (Party.ofFields role first).marker = (Party.ofFields role second).marker := by
    rw [Party.ofFields, Party.ofFields, h.same.text? (by simp)]
  have hslots : List.Forall₂ Name.Alike (Party.slotNames role first)
      (Party.slotNames role second) := forall₂_filterMap h.slots
  have hself : ∀ names : List Text, List.Forall₂ Name.Alike names names :=
    fun names => List.forall₂_same.mpr (fun _ _ => Or.inl rfl)
  have hempty : ∀ {names others : List Text}, List.Forall₂ Name.Alike names others
      → (names = [] ↔ others = []) := by
    intro names others hnames
    rw [← List.length_eq_zero_iff, ← List.length_eq_zero_iff, hnames.length_eq]
  rcases h.joinable with hsame | hjoin
  · let R : List Text → List Text → Prop := fun names others =>
      List.Forall₂ Name.Alike names others ∧ Redaction.Joinable tag names others
    have hplaces := @places tag role first second R h (fun names => ⟨hself names, Or.inl rfl⟩)
      ⟨hslots, Or.inl hsame⟩ h.freeTextNames
    obtain ⟨hsource, hnames, hjoin⟩ :=
      @Party.firstFilled_rel R ⟨hself [], Or.inl rfl⟩ (fun hnames => hempty hnames.1) _ _ hplaces
    exact ⟨rfl, hsource, hmarker, hnames, hjoin⟩
  · have hplaces := h.places hself hslots h.freeTextNames.1
    obtain ⟨hsource, hnames⟩ := Party.firstFilled_rel (hself []) hempty hplaces
    exact ⟨rfl, hsource, hmarker, hnames, hjoin⟩

end RoleAlike

namespace Party.Alike

variable {tag : Text} {party other : Party}

/-- Alike parties agree in the same way. -/
theorem agreement (h : Alike tag party other) : party.agreement = other.agreement := by
  rw [Party.agreement, Party.agreement, h.marker, h.names.length_eq]

/-- Alike parties have the same noun. -/
theorem noun (h : Alike tag party other) : party.noun = other.noun := by
  rw [Party.noun, Party.noun, h.role]

/-- Alike parties are plural together. -/
theorem isPlural (h : Alike tag party other) : party.isPlural = other.isPlural := by
  rw [Party.isPlural, Party.isPlural, h.agreement]

/-- Alike parties have the same given names. -/
theorem givenNames (h : Alike tag party other) : party.givenNames = other.givenNames := by
  have hfirst : ∀ {names others : List Text}, List.Forall₂ Name.Alike names others
      → names.filterMap Name.first? = others.filterMap Name.first? := by
    intro names others hnames
    induction hnames with
    | nil => rfl
    | @cons name other _ _ hname _ ih =>
        have hgiven : Name.first? name = Name.first? other := by
          rcases hname with rfl | ⟨hsame, -, -⟩
          · rfl
          · exact hsame.given
        rw [List.filterMap_cons, List.filterMap_cons, hgiven, ih]
  rw [Party.givenNames, Party.givenNames, Name.givenNames, Name.givenNames, hfirst h.names]

/-- Alike parties have the same given names, or the placeholder in their place. -/
theorem givenNamesOr (h : Alike tag party other) (placeholder : Text)
    : party.givenNamesOr placeholder = other.givenNamesOr placeholder := by
  rw [Party.givenNamesOr, Party.givenNamesOr, h.givenNames]

/-- Alike parties are greeted alike. -/
theorem greeting (h : Alike tag party other) (placeholder : Text)
    : party.greeting placeholder = other.greeting placeholder := by
  rw [Party.greeting, Party.greeting, h.agreement, h.givenNamesOr]

/-- Of alike parties, both have names or neither has. -/
theorem names_nil_or (h : Alike tag party other)
    : party.names = [] ∧ other.names = [] ∨ party.names ≠ [] ∧ other.names ≠ [] := by
  have hnil : party.names = [] ↔ other.names = [] := by
    rw [← List.length_eq_zero_iff, ← List.length_eq_zero_iff, h.names.length_eq]
  by_cases hparty : party.names = []
  · exact Or.inl ⟨hparty, hnil.mp hparty⟩
  · exact Or.inr ⟨hparty, fun hother => hparty (hnil.mpr hother)⟩

end Party.Alike

end LeasePapers
