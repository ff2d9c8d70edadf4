import LeasePapers.Proofs.Document.Basic
import LeasePapers.Proofs.Resolution.Alike

/-! Surnames in a redacted form. Of a full name the form shows the first word and the initial of
the last one, in every field that names people; only prose, which is searched for the names
themselves, may show more.
-/

namespace LeasePapers

/-- The fields that hold one name each. -/
def slotFields : List Field :=
  Role.tenant.slots ++ Role.guarantor.slots

/-- The fields that hold names in free text. -/
def freeTextFields : List Field :=
  Role.tenant.freeTexts ++ Role.owner.freeTexts ++ Role.guarantor.freeTexts

/-- Slots hold no free text. -/
theorem not_mem_freeTextFields {field : Field} (h : field ∈ slotFields)
    : field ∉ freeTextFields := by
  revert h
  revert field
  decide

/-- Fields of free text are redacted as lists of names. -/
theorem rule_of_freeText {field : Field} (h : field ∈ freeTextFields)
    : Redaction.ruleFor? field.name = some .nameList := by
  have hrules : ∀ field ∈ freeTextFields, (field, Redaction.Rule.nameList) ∈ Redaction.rules := by
    decide
  exact Redaction.ruleFor?_of_mem (hrules field h)

/-- The free texts that resolution hands through as they are. -/
def keptFields : List Field :=
  [.nomesResumidosLocadores, .nomeFiador]

/-- A field of free text that is not changed is one of those that are kept. -/
theorem kept_of_change_eq_keep {tag : Text} {moment : Calendar.Moment} {raw : Dictionary}
    {field : Field} (h : field ∈ freeTextFields)
    (hkeep : Resolution.change tag moment raw field = .keep)
    : field ∈ keptFields := by
  cases field with
  | nomesResumidosLocadores | nomeFiador => decide
  | nomeLocatario | nomeProprietario => cases hkeep
  | _ => exact absurd h (by decide)

namespace Document

/-- Two forms are the same but for slots and free texts that name full names with the same first
words and initials, one by one.
-/
def DifferInSurnames (first second : Dictionary) : Prop :=
  ∀ name, first.get? name = second.get? name
    ∨ ∃ text other, first.get? name = some (.text text) ∧ second.get? name = some (.text other)
      ∧ ((∃ field ∈ slotFields, field.name = name) ∧ Name.SameInitials text other
        ∨ (∃ field ∈ freeTextFields, field.name = name)
          ∧ List.Forall₂ Name.SameInitials (Name.split text) (Name.split other))

/-- The names of the slots of a role, joined as resolution joins them. -/
def joinedNames (tag : Text) (role : Role) (fields : Dictionary) : Text :=
  Name.joinEmphasized (if role = .tenant then [] else tag) (Party.ofFields role fields).names

/-- Where two forms differ, their texts are not mistaken for anything but the names they hold: the
name of a slot does not go over several lines, a free text is not blank unless both are and it is
written over, and the joined names of slots do not spell a list.
-/
structure Unmistakable (tag : Text) (first second : Dictionary) : Prop where
  oneLine : ∀ field ∈ slotFields, ∀ text other, first.get? field.name = some (.text text)
    → second.get? field.name = some (.text other) → text ≠ other
    → '\n' ∉ Text.trim text ∧ '\n' ∉ Text.trim other
  blank : ∀ field ∈ freeTextFields, ∀ text other, first.get? field.name = some (.text text)
    → second.get? field.name = some (.text other) → text ≠ other
    → Text.isAllBlank text = Text.isAllBlank other
      ∧ (field ∈ keptFields → Text.isAllBlank text = false)
  noList : ∀ role, ¬Dictionary.AgreeOn role.slots first second
    → Redaction.spelledList? (joinedNames tag role first) = none
      ∧ Redaction.spelledList? (joinedNames tag role second) = none

namespace DifferInSurnames

/-- Forms differ in surnames if the names in a slot do. -/
theorem of_slot {raw : Dictionary} {slot : Field} (hslot : slot ∈ slotFields) {name other : Text}
    (h : Name.SameInitials name other)
    : DifferInSurnames (raw.insert slot.name (.text name))
        (raw.insert slot.name (.text other)) := by
  intro found
  rw [TextMap.get?_insert, TextMap.get?_insert]
  split
  · rename_i hname
    exact Or.inr ⟨name, other, rfl, rfl, Or.inl ⟨⟨slot, hslot, hname.symm⟩, h⟩⟩
  · exact Or.inl rfl

/-- Forms differ in surnames if the names in a free text do, one by one. -/
theorem of_freeText {raw : Dictionary} {field : Field} (hfield : field ∈ freeTextFields)
    {text other : Text} (h : List.Forall₂ Name.SameInitials (Name.split text) (Name.split other))
    : DifferInSurnames (raw.insert field.name (.text text))
        (raw.insert field.name (.text other)) := by
  intro found
  rw [TextMap.get?_insert, TextMap.get?_insert]
  split
  · rename_i hname
    exact Or.inr ⟨text, other, rfl, rfl, Or.inr ⟨⟨field, hfield, hname.symm⟩, h⟩⟩
  · exact Or.inl rfl

variable {tag : Text} {first second : Dictionary}

/-- Forms that differ in surnames are the same at all other fields. -/
theorem eq_of_not_mem (h : DifferInSurnames first second) {field : Field}
    (hmem : field ∉ slotFields ++ freeTextFields)
    : first.get? field.name = second.get? field.name := by
  rw [List.mem_append, not_or] at hmem
  rcases h field.name with he | ⟨_, _, _, _, hnames⟩
  · exact he
  · rcases hnames with ⟨⟨other, hother, hname⟩, -⟩ | ⟨⟨other, hother, hname⟩, -⟩
    · rw [Field.name_inj hname] at hother
      exact absurd hother hmem.1
    · rw [Field.name_inj hname] at hother
      exact absurd hother hmem.2

/-- Forms that differ in surnames agree on what is read of other fields. -/
theorem agreeOn (h : DifferInSurnames first second) {read : List Field}
    (hread : ∀ field ∈ read, field ∉ slotFields ++ freeTextFields)
    : Dictionary.AgreeOn read first second :=
  fun field hmem => h.eq_of_not_mem (hread field hmem)

/-- A slot is the same in both forms or holds full names that stand on one line. -/
theorem slot (h : DifferInSurnames first second) (hplain : Unmistakable tag first second)
    {field : Field} (hfield : field ∈ slotFields)
    : first.get? field.name = second.get? field.name
      ∨ ∃ text other, first.get? field.name = some (.text text)
        ∧ second.get? field.name = some (.text other) ∧ Name.SameInitials text other
        ∧ '\n' ∉ Text.trim text ∧ '\n' ∉ Text.trim other := by
  rcases h field.name with he | ⟨text, other, hfirst, hsecond, hnames⟩
  · exact Or.inl he
  · by_cases he : text = other
    · exact Or.inl (by rw [hfirst, hsecond, he])
    · obtain ⟨hline, hline'⟩ := hplain.oneLine field hfield text other hfirst hsecond he
      rcases hnames with ⟨-, hsame⟩ | ⟨⟨found, hfound, hname⟩, -⟩
      · exact Or.inr ⟨text, other, hfirst, hsecond, hsame, hline, hline'⟩
      · rw [Field.name_inj hname] at hfound
        exact absurd hfound (not_mem_freeTextFields hfield)

/-- A free text is the same in both forms or names the same people, and is blank in both or in
neither.
-/
theorem freeText (h : DifferInSurnames first second) (hplain : Unmistakable tag first second)
    {field : Field} (hfield : field ∈ freeTextFields)
    : first.get? field.name = second.get? field.name
      ∨ ∃ text other, first.get? field.name = some (.text text)
        ∧ second.get? field.name = some (.text other)
        ∧ List.Forall₂ Name.SameInitials (Name.split text) (Name.split other)
        ∧ Text.isAllBlank text = Text.isAllBlank other
        ∧ (field ∈ keptFields → Text.isAllBlank text = false) := by
  rcases h field.name with he | ⟨text, other, hfirst, hsecond, hnames⟩
  · exact Or.inl he
  · by_cases he : text = other
    · exact Or.inl (by rw [hfirst, hsecond, he])
    · obtain ⟨hblank, hkept⟩ := hplain.blank field hfield text other hfirst hsecond he
      rcases hnames with ⟨⟨found, hfound, hname⟩, -⟩ | ⟨-, hsame⟩
      · rw [Field.name_inj hname] at hfound
        exact absurd hfield (not_mem_freeTextFields hfound)
      · exact Or.inr ⟨text, other, hfirst, hsecond, hsame, hblank, hkept⟩

-----------------------------------------------------------------------------------------
-- What resolution reads
-----------------------------------------------------------------------------------------

/-- Names with the same initials have them without the blanks around them. -/
theorem sameInitials_trim {name other : Text} (h : Name.SameInitials name other)
    : Name.SameInitials (Text.trim name) (Text.trim other) := by
  obtain ⟨hfull, hfull', hgiven, hinitial⟩ := h
  refine ⟨hfull.of_words_eq (Text.words_trim name), hfull'.of_words_eq (Text.words_trim other),
    ?_, ?_⟩
  · rw [Name.first?, Name.first?, Text.words_trim, Text.words_trim]
    exact hgiven
  · rw [Name.initial?, Name.initial?, Text.words_trim, Text.words_trim]
    exact hinitial

/-- The names in a slot are alike, or there is none in both forms. -/
theorem filled?_slot (h : DifferInSurnames first second) (hplain : Unmistakable tag first second)
    {field : Field} (hfield : field ∈ slotFields)
    : Option.Rel Name.Alike (Dictionary.filled? first field.name)
        (Dictionary.filled? second field.name) := by
  rcases h.slot hplain hfield with he | ⟨text, other, hfirst, hsecond, hsame, hline, hline'⟩
  · have hagree : Dictionary.AgreeOn [field] first second := by simpa [Dictionary.AgreeOn] using he
    rw [hagree.filled? (by simp)]
    exact rel_self (R := Name.Alike) (fun _ => Or.inl rfl) _
  · refine Dictionary.filled?_rel hfirst hsecond ?_
      (fun _ => Or.inr ⟨sameInitials_trim hsame, ⟨Text.trim_trim text, hline⟩,
        ⟨Text.trim_trim other, hline'⟩⟩)
    rw [hsame.full.notBlank, hsame.otherFull.notBlank]

/-- The names in a free text are alike, or there are none in both forms. -/
theorem filled?_freeText (h : DifferInSurnames first second)
    (hplain : Unmistakable tag first second) {field : Field} (hfield : field ∈ freeTextFields)
    : Option.Rel (fun text other => text = other ∨ Name.AlikeText text other)
        (Dictionary.filled? first field.name) (Dictionary.filled? second field.name) := by
  rcases h.freeText hplain hfield with he | ⟨text, other, hfirst, hsecond, hnames, hblank, -⟩
  · have hagree : Dictionary.AgreeOn [field] first second := by simpa [Dictionary.AgreeOn] using he
    rw [hagree.filled? (by simp)]
    exact rel_self (R := fun text other => text = other ∨ Name.AlikeText text other)
      (fun _ => Or.inl rfl) _
  · refine Dictionary.filled?_rel hfirst hsecond hblank (fun hfilled => Or.inr ⟨?_, ?_, ?_⟩)
    · rw [Text.isAllBlank_trim]
      exact hfilled
    · rw [Text.isAllBlank_trim, ← hblank]
      exact hfilled
    · rw [Name.split_trim, Name.split_trim]
      exact hnames

/-- What two forms say of a role differs in nothing but surnames. -/
theorem roleAlike (h : DifferInSurnames first second) (hplain : Unmistakable tag first second)
    (role : Role)
    : RoleAlike (if role = .tenant then [] else tag) role first second := by
  have hslots : ∀ field ∈ role.slots, field ∈ slotFields := by
    cases role <;> decide
  have htexts : ∀ field ∈ role.freeTexts, field ∈ freeTextFields := by
    cases role <;> decide
  have hsame : ∀ field ∈ [role.genderField, .temFiador, .fiadores],
      field ∉ slotFields ++ freeTextFields := by
    cases role <;> decide
  refine ⟨fun field hmem => h.filled?_slot hplain (hslots field hmem),
    fun field hmem => h.filled?_freeText hplain (htexts field hmem), h.agreeOn hsame, ?_⟩
  by_cases hagree : Dictionary.AgreeOn role.slots first second
  · exact Or.inl (Party.slotNames_congr hagree)
  · exact Or.inr (Or.inr (hplain.noList role hagree))

/-- Forms that differ in surnames are alike to all that is derived from them. -/
theorem formsAlike (h : DifferInSurnames first second) (hplain : Unmistakable tag first second)
    : Resolution.FormsAlike tag first second where
  tenant := h.roleAlike hplain .tenant
  owner := h.roleAlike hplain .owner
  guarantor := h.roleAlike hplain .guarantor
  contract := h.agreeOn (by decide)
  qualifications := h.agreeOn (by decide)

-----------------------------------------------------------------------------------------
-- What stands in the redacted form
-----------------------------------------------------------------------------------------

/-- What is kept of the forms is redacted alike. -/
theorem raw_alike (h : DifferInSurnames first second) (hplain : Unmistakable tag first second)
    {field : Field} (hkept : field ∈ freeTextFields → field ∈ keptFields)
    : Option.Rel (Redaction.RedactedAlike field.name) (first.get? field.name)
        (second.get? field.name) := by
  by_cases hfree : field ∈ freeTextFields
  · rcases h.freeText hplain hfree with he | ⟨text, other, hfirst, hsecond, hnames, hblank, hfilled⟩
    · rw [he]
      exact rel_self (Redaction.redactedAlike_self field.name) _
    · have hrule : Redaction.ruleFor? field.name = some .nameList := rule_of_freeText hfree
      have hnotBlank := hfilled (hkept hfree)
      rw [hfirst, hsecond]
      exact .some (Redaction.redactedAlike_freeText hrule
        ⟨hnotBlank, hblank ▸ hnotBlank, hnames⟩)
  · by_cases hslot : field ∈ slotFields
    · rcases h.slot hplain hslot with he | ⟨text, other, hfirst, hsecond, hsame, -⟩
      · rw [he]
        exact rel_self (Redaction.redactedAlike_self field.name) _
      · have hrule : Redaction.ruleFor? field.name = some .name := by
          rcases List.mem_append.mp hslot with hslot | hslot
          · exact Resolution.rule_of_slot hslot
          · exact Resolution.rule_of_slot hslot
        rw [hfirst, hsecond]
        exact .some (Redaction.redactedAlike_name hrule hsame)
    · rw [h.eq_of_not_mem (by simp [hslot, hfree])]
      exact rel_self (Redaction.redactedAlike_self field.name) _

/-- After resolving, what every field holds is redacted alike. -/
theorem resolve_alike (h : DifferInSurnames first second) (hplain : Unmistakable tag first second)
    (htag : ∀ c ∈ tag, Text.isAsciiAlphanumeric c = true) (moment : Calendar.Moment) (name : Text)
    : Option.Rel (Redaction.RedactedAlike name) ((Resolution.resolve tag moment first).get? name)
        ((Resolution.resolve tag moment second).get? name) := by
  cases hfield : Field.ofName? name with
  | none =>
      have hraw : first.get? name = second.get? name := by
        rcases h name with he | ⟨_, _, _, _, ⟨⟨field, -, hname⟩, -⟩ | ⟨⟨field, -, hname⟩, -⟩⟩
        · exact he
        · exact absurd hname (Field.name_ne_of_ofName? hfield field)
        · exact absurd hname (Field.name_ne_of_ofName? hfield field)
      rw [Resolution.resolve, Resolution.resolve, Dictionary.get?_update_unknown _ _ hfield,
        Dictionary.get?_update_unknown _ _ hfield, hraw]
      exact rel_self (Redaction.redactedAlike_self name) _
  | some field =>
      obtain rfl := Field.name_of_ofName? hfield
      rw [Resolution.resolve, Resolution.resolve, Dictionary.get?_update, Dictionary.get?_update]
      rcases Resolution.change_alike (h.formsAlike hplain) htag moment field with
        hchange | ⟨value, value', hvalue, hvalue', halike⟩
      · rw [hchange]
        cases hkeep : Resolution.change tag moment second field with
        | write value => exact .some (Redaction.redactedAlike_self field.name value)
        | clear => exact .none
        | keep =>
            exact h.raw_alike hplain (fun hfree => kept_of_change_eq_keep hfree hkeep)
      · rw [hvalue, hvalue']
        exact .some halike

end DifferInSurnames

/-- Of full names in slots and free texts a redacted form shows the first words and the initials:
two forms that differ in nothing else have the same fields, and the same in each that is not prose.
-/
theorem prepare_eq_of_differInSurnames [Redaction.Patterns] {first second : Dictionary}
    {settings : Settings} (hvalid : settings.fault? = none) (hredacts : settings.redacts = true)
    (h : DifferInSurnames first second) (hplain : Unmistakable settings.emphasisTag first second)
    (moment : Calendar.Moment)
    : (prepare settings moment first).keys = (prepare settings moment second).keys
      ∧ ∀ name, Redaction.ruleFor? name ≠ some .prose
          → (prepare settings moment first).get? name
            = (prepare settings moment second).get? name := by
  have htag := (Settings.fault?_eq_none_iff.mp hvalid).2.1
  have halike := h.resolve_alike hplain htag moment
  rw [prepare_of_redacts hredacts, prepare_of_redacts hredacts]
  generalize Resolution.resolve settings.emphasisTag moment first = resolved,
    Resolution.resolve settings.emphasisTag moment second = other at halike
  constructor
  · refine TextMap.keys_eq_of_isSome (fun name => ?_)
    have hfield := halike name
    rw [Redaction.get?_redact, Redaction.get?_redact, Option.isSome_map, Option.isSome_map]
    generalize resolved.get? name = value, other.get? name = value' at hfield
    cases hfield with
    | none => rfl
    | some _ => rfl
  · intro name hname
    have hfield := halike name
    rw [Redaction.get?_redact, Redaction.get?_redact]
    generalize resolved.get? name = value, other.get? name = value' at hfield
    cases hfield with
    | none => rw [Option.map_none, Option.map_none]
    | some hvalue => exact congrArg some (hvalue.resolve_left hname _ _)

-----------------------------------------------------------------------------------------
-- Forms with a text or a few
-----------------------------------------------------------------------------------------

/-- Settings that redact and say nothing else. -/
def redacting : Settings :=
  { Settings.default with redacts := true }

/-- A morning in May. -/
def morning : Calendar.Moment :=
  ⟨⟨2024, 5, 20, by decide⟩, 9⟩

/-- A form with one text. -/
def formOf (field : Field) (text : Text) : Dictionary :=
  TextMap.empty.insert field.name (.text text)

/-- Names of different length with the same initials give the same form but for prose. -/
theorem prepare_primeiroLocatario
    : (prepare redacting morning (formOf .primeiroLocatario "Ana Maria Souza")).keys
        = (prepare redacting morning (formOf .primeiroLocatario "Ana Silva")).keys
      ∧ ∀ name, Redaction.ruleFor? name ≠ some .prose
          → (prepare redacting morning (formOf .primeiroLocatario "Ana Maria Souza")).get? name
            = (prepare redacting morning (formOf .primeiroLocatario "Ana Silva")).get? name := by
  have hsame : Name.SameInitials "Ana Maria Souza" "Ana Silva" :=
    ⟨by decide +kernel, by decide +kernel, by decide +kernel, by decide +kernel⟩
  refine prepare_eq_of_differInSurnames (by decide +kernel) rfl
    (DifferInSurnames.of_slot (by decide) hsame) ⟨?_, ?_, ?_⟩ _
  · intro field _ text other htext hother _
    rw [TextMap.get?_insert] at htext hother
    split at htext
    · rw [if_pos (by assumption)] at hother
      cases htext
      cases hother
      decide +kernel
    · cases htext
  · intro field hfield text other htext
    rw [TextMap.get?_insert] at htext
    split at htext
    · rename_i hname
      rw [Field.name_inj hname] at hfield
      exact absurd hfield (by decide)
    · cases htext
  · intro role _
    cases role <;> decide +kernel

/-- Valid settings that redact, and two forms that differ in surnames and, once they are prepared,
in a field that is not prose.
-/
def TellsSurname [Redaction.Patterns] (settings : Settings) (moment : Calendar.Moment)
    (first second : Dictionary)
    : Prop :=
  settings.fault? = none ∧ settings.redacts = true ∧ DifferInSurnames first second
    ∧ ∃ name, Redaction.ruleFor? name ≠ some .prose
        ∧ (prepare settings moment first).get? name ≠ (prepare settings moment second).get? name

/-- Surnames do tell where they are mistaken for something else: a slot over two lines counts as two
names, a text without names stands for a missing one or is handed through, and joined names that
spell a list are put in the order of that list.
-/
theorem tellsSurname_where_mistaken
    : TellsSurname redacting morning (formOf .primeiroLocatario "Ana\nSouza")
          (formOf .primeiroLocatario "Ana\nSilva")
      ∧ TellsSurname redacting morning (formOf .nomeLocatario "") (formOf .nomeLocatario ",")
      ∧ TellsSurname redacting morning (formOf .nomesResumidosLocadores "")
          (formOf .nomesResumidosLocadores " ")
      ∧ TellsSurname redacting morning
          (((formOf .primeiroLocatario "[\x7b\"x").insert Field.terceiroLocatario.name
              (.text "y\":1,\"x, Ana Sm\":2\x7d]")).insert Field.segundoLocatario.name
                (.text "Ana Souza"))
          (((formOf .primeiroLocatario "[\x7b\"x").insert Field.terceiroLocatario.name
              (.text "y\":1,\"x, Ana Sm\":2\x7d]")).insert Field.segundoLocatario.name
                (.text "Ana Silva"))
      ∧ TellsSurname { redacting with emphasisTag := "" } morning
          (((formOf .primeiroFiador "[\x7b\"x").insert Field.terceiroFiador.name
              (.text "y\":1,\"x, Ana Sm\":2\x7d]")).insert Field.segundoFiador.name
                (.text "Ana Souza"))
          (((formOf .primeiroFiador "[\x7b\"x").insert Field.terceiroFiador.name
              (.text "y\":1,\"x, Ana Sm\":2\x7d]")).insert Field.segundoFiador.name
                (.text "Ana Silva")) := by
  have hrule : ∀ field ∈ [Field.nomeLocatario, .nomeLocatarioFormatado, .nomesResumidosLocadores,
      .nomeFiadoresFormatado], Redaction.ruleFor? field.name ≠ some .prose := by
    simp only [Redaction.ruleFor?_name]
    decide
  have hlines : Name.SameInitials "Ana\nSouza" "Ana\nSilva" :=
    ⟨by decide +kernel, by decide +kernel, by decide +kernel, by decide +kernel⟩
  have hnames : Name.SameInitials "Ana Souza" "Ana Silva" :=
    ⟨by decide +kernel, by decide +kernel, by decide +kernel, by decide +kernel⟩
  have hnone : List.Forall₂ Name.SameInitials (Name.split "") (Name.split ",") := .nil
  have hblank : List.Forall₂ Name.SameInitials (Name.split "") (Name.split " ") := .nil
  refine ⟨?_, ?_, ?_, ?_, ?_⟩
  · refine ⟨by decide +kernel, rfl, .of_slot (by decide) hlines,
      Field.nomeLocatarioFormatado.name, hrule _ (by decide), ?_⟩
    rw [get?_prepare rfl, get?_prepare rfl]
    decide +kernel
  · refine ⟨by decide +kernel, rfl, .of_freeText (by decide) hnone,
      Field.nomeLocatario.name, hrule _ (by decide), ?_⟩
    rw [get?_prepare rfl, get?_prepare rfl]
    decide +kernel
  · refine ⟨by decide +kernel, rfl, .of_freeText (by decide) hblank,
      Field.nomesResumidosLocadores.name, hrule _ (by decide), ?_⟩
    rw [get?_prepare rfl, get?_prepare rfl]
    decide +kernel
  · refine ⟨by decide +kernel, rfl, .of_slot (by decide) hnames,
      Field.nomeLocatarioFormatado.name, hrule _ (by decide), ?_⟩
    rw [get?_prepare rfl, get?_prepare rfl]
    decide +kernel
  · refine ⟨by decide +kernel, rfl, .of_slot (by decide) hnames,
      Field.nomeFiadoresFormatado.name, hrule _ (by decide), ?_⟩
    rw [get?_prepare rfl, get?_prepare rfl]
    decide +kernel

end Document

end LeasePapers
