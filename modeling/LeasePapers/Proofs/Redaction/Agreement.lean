import LeasePapers.Proofs.Party.Alike
import LeasePapers.Proofs.Redaction.Entry
import LeasePapers.Proofs.Redaction.Lists
import LeasePapers.Proofs.Redaction.Presence

/-! Parties of a redacted form. Redaction shows less of a name and never drops or divides one, so
the names of a party are found in the same place, as many as before, and all phrases about the party
agree with the same gender and number.
-/

namespace LeasePapers.Redaction

variable {fields : Dictionary}

-----------------------------------------------------------------------------------------
-- Forms whose names stay what they are
-----------------------------------------------------------------------------------------

/-- Nothing in a form is taken for a name but what is one, before and after redaction: braces, which
redaction takes out, stand in no name, and a free text is no list and names somebody. -/
structure NamesPlain (fields : Dictionary) : Prop where
  slots : ∀ role : Role, ∀ field ∈ role.slots, ∀ text ∈ Dictionary.text? fields field,
    Text.BraceFree text
  freeTexts : ∀ role : Role, ∀ field ∈ role.freeTexts, ∀ text ∈ Dictionary.text? fields field,
    Text.BraceFree text ∧ Field.arrayElements? text = none
      ∧ (Text.isAllBlank text = false → Name.split text ≠ [])
  listed : ∀ item ∈ Dictionary.list fields Field.fiadores, Text.BraceFree item

/-- A text for the guarantors that is no list is none either without the blanks around it and the
braces in it. -/
def StaysUnlisted (fields : Dictionary) : Prop :=
  ∀ text ∈ Dictionary.text? fields Field.fiadores, Field.arrayElements? text = none
    → ∀ word, Text.words text = [word] → Field.arrayElements? (Text.withoutBraces word) = none

-----------------------------------------------------------------------------------------
-- Filled fields
-----------------------------------------------------------------------------------------

/-- A name without braces is not erased. -/
theorem not_erasable_name_of_braceFree {text : Text} (hbrace : Text.BraceFree text)
    (names : List KnownName)
    : ¬Erasable names .name text := by
  refine not_erasable_name names (fun word hwords => ?_)
  have hmem : word ∈ Text.words text := by simp [hwords]
  rw [Text.withoutBraces_of_braceFree (fun c hc => hbrace c (Text.mem_of_mem_words hmem hc))]
  exact (Text.word_of_words_eq hwords).1

/-- A list of names without braces is not erased. -/
theorem not_erasable_nameList {text : Text} (hbrace : Text.BraceFree text)
    (names : List KnownName)
    : ¬Erasable names .nameList text := by
  rintro ⟨name, hsplit, hhidden⟩
  have hmem : name ∈ Name.split text := by simp [hsplit]
  obtain ⟨word, rest, hwords⟩ := List.exists_cons_of_ne_nil (Name.isSingle_of_mem_split hmem).named
  have hword : word ∈ Text.words name := by simp [hwords]
  obtain ⟨hne, hblank⟩ := Text.word_of_mem_words hword
  obtain ⟨c, more, rfl⟩ := List.exists_cons_of_ne_nil hne
  have hc : c ∈ name := Text.mem_of_mem_words hword List.mem_cons_self
  have hshown := hblank c List.mem_cons_self
  have hshows : shows c = true := by
    refine shows_eq_true_iff.mpr ⟨hshown, ?_⟩
    rcases Name.mem_of_mem_split hmem hc with rfl | hmem
    · rfl
    · exact hbrace c hmem
  rw [hhidden c hc] at hshows
  cases hshows

/-- A text stays blank or not, whatever list it may spell. -/
theorem isAllBlank_redactValue_text [Patterns] {rule : Rule} {text : Text}
    (h : ¬Erasable (searchedNames fields) rule text)
    : ∃ redacted, redactValue (searchedNames fields) rule (.text text) = .text redacted
      ∧ Text.isAllBlank text = Text.isAllBlank redacted
      ∧ (Field.arrayElements? text = none
        → redacted = redactText (searchedNames fields) rule text) := by
  rw [redactValue]
  cases hspelled : spelledList? text with
  | none =>
      exact ⟨_, rfl, (isAllBlank_redactText (fun _ => h)).symm, fun _ => rfl⟩
  | some items =>
      refine ⟨_, rfl, ?_, fun hnone => ?_⟩
      · rw [isAllBlank_of_spelledList? hspelled,
          isAllBlank_of_spelledList? (spelledList?_arrayText _)]
      · rw [spelledList?_eq, hnone] at hspelled
        cases hspelled

/-- A field that is read as a text, before and after redaction. -/
theorem filled?_redact_rel [Patterns] {R : Text → Text → Prop} {field : Field} {rule : Rule}
    (hrule : ruleFor? field.name = some rule)
    (herasable : ∀ text ∈ Dictionary.text? fields field, ¬Erasable (searchedNames fields) rule text)
    (h : ∀ text redacted, Text.isAllBlank text = false →
      text ∈ Dictionary.text? fields field →
      (Field.arrayElements? text = none → redacted = redactText (searchedNames fields) rule text)
      → R (Text.trim text) (Text.trim redacted))
    : Option.Rel R (Dictionary.filled? fields field)
        (Dictionary.filled? (redact fields) field) := by
  have hredacted := get?_redact fields field.name
  cases hvalue : fields.get? field.name with
  | none =>
      rw [hvalue] at hredacted
      simp only [Dictionary.filled?, Dictionary.text?, hvalue, hredacted]
      exact .none
  | some value =>
      rw [hvalue] at hredacted
      simp only [Option.map_some, redactField, hrule] at hredacted
      cases value with
      | list items =>
          simp only [Dictionary.filled?, Dictionary.text?, hvalue, hredacted]
          exact .none
      | text text =>
          have htext : text ∈ Dictionary.text? fields field.name := by
            rw [Dictionary.text?, hvalue]
            rfl
          obtain ⟨redacted, hsome, hblank, hsame⟩ :=
            isAllBlank_redactValue_text (herasable text htext)
          rw [hsome] at hredacted
          exact Dictionary.filled?_rel hvalue hredacted hblank
            (fun hfilled => h text redacted hfilled htext hsame)

-----------------------------------------------------------------------------------------
-- Names, place by place
-----------------------------------------------------------------------------------------

/-- A text that spells no list spells none once it is redacted as a name: it ends in a dot then,
unless it is a single word. -/
theorem arrayElements?_redactText {text : Text} (names : List KnownName)
    (h : Field.arrayElements? text = none)
    (hword : ∀ word, Text.words text = [word]
      → Field.arrayElements? (Text.withoutBraces word) = none)
    : Field.arrayElements? (redactText names .name text) = none := by
  rw [redactText]
  split
  · exact h
  · rw [redactBy]
    rcases redactName_cases text with ⟨-, hname⟩ | ⟨word, hwords, hname⟩
      | ⟨first, second, rest, last, -, -, -, hname⟩
    · rw [hname]
      decide
    · rw [hname]
      exact hword word hwords
    · rw [hname, ← List.cons_append, ← List.append_assoc]
      exact Field.arrayElements?_concat_dot _

/-- The guarantors are listed one by one in the redacted form. -/
theorem list_redact [Patterns] (h : StaysUnlisted fields)
    : Dictionary.list (redact fields) Field.fiadores
      = (Dictionary.list fields Field.fiadores).map (redactText (searchedNames fields) .name) := by
  have hrule : ruleFor? Field.fiadores.name = some .name := ruleFor?_of_mem (by decide)
  rw [Dictionary.list, Dictionary.list]
  cases hlist : (fields.get? Field.fiadores.name).bind Field.Value.toList? with
  | some items => rw [toList?_redact_fiadores hlist]; rfl
  | none =>
      rw [get?_redact]
      cases hvalue : fields.get? Field.fiadores.name with
      | none => rfl
      | some value =>
          rw [hvalue] at hlist
          cases value with
          | list items => cases hlist
          | text text =>
              have htext : text ∈ Dictionary.text? fields Field.fiadores.name := by
                rw [Dictionary.text?, hvalue]
                rfl
              have hnone : Field.arrayElements? text = none := hlist
              have hspelled : spelledList? text = none := (spelledList?_eq text).trans hnone
              have hredacted := arrayElements?_redactText (searchedNames fields) hnone
                (h text htext hnone)
              simp [redactField, hrule, redactValue, hspelled, Field.Value.toList?, hredacted]

namespace NamesPlain

variable (h : NamesPlain fields) (role : Role)

include h

/-- Slots stay filled. -/
theorem length_slotNames [Patterns]
    : (Party.slotNames role fields).length = (Party.slotNames role (redact fields)).length := by
  have hrules : ∀ field ∈ role.slots, (field, Rule.name) ∈ rules := by
    cases role <;> decide
  refine (forall₂_filterMap (R := fun _ _ => True) (fun field hmem => ?_)).length_eq
  exact filled?_redact_rel (ruleFor?_of_mem (hrules field hmem))
    (fun text htext => not_erasable_name_of_braceFree (h.slots role field hmem text htext) _)
    (fun _ _ _ _ _ => trivial)

/-- A free text names as many as before. -/
theorem length_freeTextNames [Patterns]
    : (Party.freeTextNames role fields).length
      = (Party.freeTextNames role (redact fields)).length := by
  have hrules : ∀ field ∈ role.freeTexts, (field, Rule.nameList) ∈ rules := by
    cases role <;> decide
  have htexts : Option.Rel (fun text redacted =>
      (Name.split text).length = (Name.split redacted).length)
      (Party.freeText? role fields) (Party.freeText? role (redact fields)) := by
    rw [Party.freeText?, Party.freeText?, ← List.head?_filterMap, ← List.head?_filterMap]
    refine rel_head? (forall₂_filterMap (fun field hmem => ?_))
    refine filled?_redact_rel (ruleFor?_of_mem (hrules field hmem))
      (fun text htext => not_erasable_nameList (h.freeTexts role field hmem text htext).1 _)
      (fun text redacted hfilled htext hsame => ?_)
    obtain ⟨hbrace, hlist, hnamed⟩ := h.freeTexts role field hmem text htext
    rw [Name.split_trim, Name.split_trim, hsame hlist, redactText]
    split
    · rfl
    · exact (length_split_redactNames hbrace (hnamed hfilled)).symm
  rw [Party.freeTextNames, Party.freeTextNames]
  generalize Party.freeText? role fields = text, Party.freeText? role (redact fields) = redacted
    at htexts
  cases htexts with
  | none => rfl
  | some hnames => exact hnames

/-- Listed names stay filled. -/
theorem length_listedNames [Patterns] (hunlisted : StaysUnlisted fields)
    : (Party.listedNames fields).length = (Party.listedNames (redact fields)).length := by
  have hblank : ∀ item ∈ Dictionary.list fields Field.fiadores,
      (Text.trim item = [] ↔ Text.trim (redactText (searchedNames fields) .name item) = []) := by
    intro item hmem
    rw [Text.trim_eq_nil_iff, Text.trim_eq_nil_iff,
      isAllBlank_redactText (fun _ => not_erasable_name_of_braceFree (h.listed item hmem) _)]
  rw [Party.listedNames, Party.listedNames, list_redact hunlisted, List.map_map, List.filter_map,
    List.filter_map, List.length_map, List.length_map]
  refine congrArg List.length (List.filter_congr (fun item hmem => ?_))
  simp [hblank item hmem]

end NamesPlain

-----------------------------------------------------------------------------------------
-- Parties
-----------------------------------------------------------------------------------------

/-- Redaction leaves alone where the names of a party are found, how many they are, and what the
phrases about the party agree with. -/
theorem ofFields_redact [Patterns] (h : NamesPlain fields) (hunlisted : StaysUnlisted fields)
    (role : Role)
    : (Party.ofFields role (redact fields)).source = (Party.ofFields role fields).source
      ∧ (Party.ofFields role (redact fields)).marker = (Party.ofFields role fields).marker
      ∧ (Party.ofFields role (redact fields)).names.length
        = (Party.ofFields role fields).names.length
      ∧ (Party.ofFields role (redact fields)).agreement
        = (Party.ofFields role fields).agreement := by
  have hanswer : Dictionary.AgreeOn [.temFiador, role.genderField] fields (redact fields) := by
    have hrules : ∀ field ∈ [Field.temFiador, role.genderField], ruleFor? field.name = none := by
      simp only [ruleFor?_name]
      cases role <;> decide
    exact fun field hmem => (get?_redact_of_noRule (hrules field hmem) fields).symm
  have hany : Party.hasGuarantors fields = Party.hasGuarantors (redact fields) := by
    rw [Party.hasGuarantors, Party.hasGuarantors, hanswer.filled? (by simp)]
  have hmarker : (Party.ofFields role fields).marker
      = (Party.ofFields role (redact fields)).marker := by
    rw [Party.ofFields, Party.ofFields, hanswer.text? (by simp)]
  have hempty : ∀ {names others : List Text}, names.length = others.length
      → (names = [] ↔ others = []) := by
    intro names others hlength
    rw [← List.length_eq_zero_iff, ← List.length_eq_zero_iff, hlength]
  let R : List Text → List Text → Prop := fun names others => names.length = others.length
  have hplaces := @Party.places_rel R role fields (redact fields) (h.length_slotNames role)
    (h.length_freeTextNames role) (h.length_listedNames hunlisted) hany
  obtain ⟨hsource, hnames⟩ := @Party.firstFilled_rel R rfl hempty _ _ hplaces
  have hlength : (Party.ofFields role fields).names.length
      = (Party.ofFields role (redact fields)).names.length := hnames
  refine ⟨hsource.symm, hmarker.symm, hlength.symm, ?_⟩
  rw [Party.agreement, Party.agreement, hmarker, hlength]

/-- A form that names a tenant in a slot, owners in a free text, and guarantors in a list. -/
def threeRoles : Dictionary :=
  TextMap.ofList
    [(Field.primeiroLocatario.name, .text "Ana Souza"),
     (Field.nomeProprietario.name, .text "<b>Caio Lima</b>, [A DEFINIR] e Davi"),
     (Field.fiadores.name, .text "[\"Bia Melo\",\" \"]")]

/-- After redaction three owners are still three, and guarantors still come from the list. -/
theorem ofFields_redact_threeRoles
    : (Party.ofFields .owner (redact threeRoles)).names.length = 3
      ∧ (Party.ofFields .guarantor (redact threeRoles)).source = .list := by
  have hplain : NamesPlain threeRoles := by
    refine ⟨fun role => ?_, fun role => ?_, by decide +kernel⟩
    · cases role <;> decide +kernel
    · cases role <;> decide +kernel
  have hunlisted : StaysUnlisted threeRoles := by
    intro text htext hnone
    have hlist : ∀ text ∈ Dictionary.text? threeRoles Field.fiadores.name,
        Field.arrayElements? text ≠ none := by decide +kernel
    exact absurd hnone (hlist text htext)
  obtain ⟨-, -, howners, -⟩ := ofFields_redact hplain hunlisted .owner
  obtain ⟨hsource, -⟩ := ofFields_redact hplain hunlisted .guarantor
  exact ⟨howners.trans (by decide +kernel), hsource.trans (by decide +kernel)⟩

/-- Guarantors in a text with braces, which spells a list without them. -/
def bracedGuarantors : Dictionary :=
  TextMap.ofList [(Field.fiadores.name, .text "[\x7b\"Ana\"\x7d]")]

/-- Guarantors in a text that begins with a blank unknown to the reader of lists. -/
def paddedGuarantors : Dictionary :=
  TextMap.ofList [(Field.fiadores.name, .text "\u00a0[\"Ana\",\"Bia\"]")]

/-- A text that spells no list may spell one once blanks and braces are taken away. -/
theorem listed_after_redaction
    : NamesPlain bracedGuarantors
      ∧ (Party.ofFields .guarantor bracedGuarantors).source = .missing
      ∧ (Party.ofFields .guarantor (redact bracedGuarantors)).source = .list
      ∧ NamesPlain paddedGuarantors
      ∧ (Party.ofFields .guarantor paddedGuarantors).isPlural = false
      ∧ (Party.ofFields .guarantor (redact paddedGuarantors)).isPlural = true := by
  have hplain : ∀ form ∈ [bracedGuarantors, paddedGuarantors], NamesPlain form := by
    intro form hform
    rcases List.mem_pair.mp hform with rfl | rfl
    all_goals
      refine ⟨fun role => ?_, fun role => ?_, by decide +kernel⟩
      · cases role <;> decide +kernel
      · cases role <;> decide +kernel
  exact ⟨hplain _ (by simp), by decide +kernel, by decide +kernel, hplain _ (by simp),
    by decide +kernel, by decide +kernel⟩

end LeasePapers.Redaction
