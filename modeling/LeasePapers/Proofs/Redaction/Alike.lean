import LeasePapers.Proofs.Redaction.Name

/-! Names that are alike once they are redacted, alone or joined to a list, and free texts whose
names are alike one by one.
-/

namespace LeasePapers

namespace Name

/-- A name as it is handed on: on one line, and without blanks around it. -/
structure Tidy (name : Text) : Prop where
  trimmed : Text.trim name = name
  oneLine : '\n' ∉ name

/-- Two names are the same, or tidy full names that differ in what redaction leaves out. -/
def Alike (name other : Text) : Prop :=
  name = other ∨ SameInitials name other ∧ Tidy name ∧ Tidy other

/-- Two free texts are not blank and name people who are redacted alike, one by one. -/
structure AlikeText (text other : Text) : Prop where
  notBlank : Text.isAllBlank text = false
  otherNotBlank : Text.isAllBlank other = false
  names : List.Forall₂ SameInitials (split text) (split other)

/-- Having the same initials is mutual. -/
theorem SameInitials.symm {name other : Text} (h : SameInitials name other)
    : SameInitials other name :=
  ⟨h.otherFull, h.full, h.given.symm, h.initial.symm⟩

/-- Texts are alike to each other. -/
theorem AlikeText.symm {text other : Text} (h : AlikeText text other) : AlikeText other text :=
  ⟨h.otherNotBlank, h.notBlank, h.names.flip.imp (fun _ _ => SameInitials.symm)⟩

/-- A name that a text is split into is tidy. -/
theorem tidy_of_mem_split {text entry : Text} (h : entry ∈ split text) : Tidy entry :=
  ⟨trim_of_mem_split h, newline_of_mem_split h⟩

/-- Names that have the same initials one by one are full, by induction on the names. -/
theorem full_of_forall₂ {names others : List Text} (h : List.Forall₂ SameInitials names others)
    : ∀ name ∈ names, IsFull name := by
  induction h with
  | nil => simp
  | cons hname _ ih =>
      rw [List.forall_mem_cons]
      exact ⟨hname.full, ih⟩

/-- Texts that are alike are split into names that are alike one by one. -/
theorem AlikeText.alike {text other : Text} (h : AlikeText text other)
    : List.Forall₂ Alike (split text) (split other) := by
  have htidy : ∀ {names others : List Text}, List.Forall₂ SameInitials names others
      → (∀ name ∈ names, Tidy name) → (∀ name ∈ others, Tidy name)
      → List.Forall₂ Alike names others := by
    intro names others hnames
    induction hnames with
    | nil => exact fun _ _ => .nil
    | cons hname _ ih =>
        intro htidy hothers
        rw [List.forall_mem_cons] at htidy hothers
        exact .cons (Or.inr ⟨hname, htidy.1, hothers.1⟩) (ih htidy.2 hothers.2)
  exact htidy h.names (fun _ => tidy_of_mem_split) (fun _ => tidy_of_mem_split)

/-- Texts that are alike have no bracket, so they are no lists and no placeholders. -/
theorem AlikeText.noBracket {text other : Text} (h : AlikeText text other) : '[' ∉ text := by
  intro hmem
  obtain ⟨entry, hentry, hbracket⟩ :=
    mem_split hmem (by decide) (by decide) (by decide)
  have hfull := full_of_forall₂ h.names entry hentry
  exact hfull.not_mem (by decide) hbracket

/-- Names that are alike are the same, or there are full ones on both sides, by induction on the
names. -/
theorem eq_or_full_of_forall₂ {names others : List Text} (h : List.Forall₂ Alike names others)
    : names = others ∨ (∃ name ∈ names, IsFull name) ∧ ∃ name ∈ others, IsFull name := by
  induction h with
  | nil => exact Or.inl rfl
  | @cons name other names others hname _ ih =>
      rcases hname with rfl | ⟨hsame, -, -⟩
      · rcases ih with rfl | ⟨⟨found, hmem, hfull⟩, ⟨found', hmem', hfull'⟩⟩
        · exact Or.inl rfl
        · exact Or.inr ⟨⟨found, List.mem_cons_of_mem _ hmem, hfull⟩,
            ⟨found', List.mem_cons_of_mem _ hmem', hfull'⟩⟩
      · exact Or.inr ⟨⟨name, by simp, hsame.full⟩, ⟨other, by simp, hsame.otherFull⟩⟩

/-- A character of joined names is in a separator or in a name. -/
theorem mem_joinAll {names : List Text} {c : Char} (h : c ∈ joinAll names)
    : c ∈ comma ∨ c ∈ conjunction ∨ ∃ name ∈ names, c ∈ name := by
  rcases names_cases names with rfl | ⟨name, rfl⟩ | ⟨front, last, hfront, rfl⟩
  · cases h
  · exact Or.inr (Or.inr ⟨name, by simp, h⟩)
  · rw [joinAll_concat hfront, List.mem_append, List.mem_append] at h
    rcases h with (h | h) | h
    · rcases Text.mem_join h with h | ⟨name, hname, h⟩
      · exact Or.inl h
      · exact Or.inr (Or.inr ⟨name, List.mem_append_left _ hname, h⟩)
    · exact Or.inr (Or.inl h)
    · exact Or.inr (Or.inr ⟨last, by simp, h⟩)

/-- The characters of a name are in the joined names. -/
theorem mem_joinAll_of_mem {names : List Text} {name : Text} {c : Char} (hname : name ∈ names)
    (h : c ∈ name)
    : c ∈ joinAll names := by
  rcases names_cases names with rfl | ⟨only, rfl⟩ | ⟨front, last, hfront, rfl⟩
  · cases hname
  · rw [List.mem_singleton.mp hname] at h
    exact h
  · rw [joinAll_concat hfront, List.mem_append, List.mem_append]
    rcases List.mem_append.mp hname with hname | hname
    · exact Or.inl (Or.inl (Text.mem_join_of_mem comma hname h))
    · rw [List.mem_singleton.mp hname] at h
      exact Or.inr h

/-- Names that are joined with emphasis begin with a tag. -/
theorem head?_joinEmphasized {tag : Text} {names : List Text} (htag : tag ≠ []) (hne : names ≠ [])
    : (joinEmphasized tag names).head? = some '<' := by
  rw [joinEmphasized, if_neg htag]
  obtain ⟨first, rest, rfl⟩ := List.exists_cons_of_ne_nil hne
  have hfirst : ∀ more, (Text.join comma (emphasize tag first :: more)).head? = some '<' :=
    fun more => Text.head?_join more (by simp [emphasize])
  cases rest with
  | nil => rfl
  | cons next rest =>
      rw [List.map_cons, List.map_cons, joinAll, List.append_assoc, List.head?_append, hfirst]
      · rfl
      · simp

end Name

namespace Redaction

-----------------------------------------------------------------------------------------
-- Values that are redacted alike
-----------------------------------------------------------------------------------------

/-- Two values are redacted alike at that name, whatever names prose is searched for; nothing is
said of prose itself.
-/
def RedactedAlike (name : Text) (value other : Field.Value) : Prop :=
  ruleFor? name = some .prose
    ∨ ∀ known more, redactField known name value = redactField more name other

/-- Only the redaction of prose depends on the names to search for. -/
theorem redactedAlike_self (name : Text) (value : Field.Value)
    : RedactedAlike name value value := by
  by_cases hprose : ruleFor? name = some .prose
  · exact Or.inl hprose
  · refine Or.inr (fun known more => ?_)
    rw [redactField, redactField]
    cases hrule : ruleFor? name with
    | none => rfl
    | some rule =>
        have htext : redactText known rule = redactText more rule := by
          cases rule with
          | prose => exact absurd hrule hprose
          | name | nameList | address | cpf | rg | document | phone | email => rfl
        cases value with
        | list items => simp only [redactValue, htext]
        | text content => simp only [redactValue, htext]

/-- Texts are redacted alike if the rule makes the same of them. -/
theorem redactedAlike_text {name text other : Text} {rule : Rule}
    (hrule : ruleFor? name = some rule) (htext : Redactable text) (hother : Redactable other)
    (h : ∀ known more, redactBy known rule text = redactBy more rule other)
    : RedactedAlike name (.text text) (.text other) := by
  refine Or.inr (fun known more => ?_)
  simp only [redactField, hrule]
  rw [htext.redactValue, hother.redactValue, h]

/-- Names with the same initials are redacted alike. -/
theorem redactedAlike_name {field name other : Text} (hrule : ruleFor? field = some .name)
    (h : Name.SameInitials name other)
    : RedactedAlike field (.text name) (.text other) :=
  redactedAlike_text hrule (redactable_of_isFull h.full) (redactable_of_isFull h.otherFull)
    (fun _ _ => redactName_congr h)

/-- Alike names are redacted alike. -/
theorem redactedAlike_of_alike {field name other : Text} (hrule : ruleFor? field = some .name)
    (h : Name.Alike name other)
    : RedactedAlike field (.text name) (.text other) := by
  rcases h with rfl | ⟨hsame, -, -⟩
  · exact redactedAlike_self field _
  · exact redactedAlike_name hrule hsame

/-- Lists of alike names are redacted alike. -/
theorem redactedAlike_list {field : Text} {names others : List Text}
    (hrule : ruleFor? field = some .name) (h : List.Forall₂ Name.Alike names others)
    : RedactedAlike field (.list names) (.list others) := by
  refine Or.inr (fun known more => ?_)
  have hitems : names.map (redactText known .name) = others.map (redactText more .name) := by
    induction h with
    | nil => rfl
    | @cons name other names others hname _ ih =>
        have hitem : redactText known .name name = redactText more .name other := by
          rcases hname with rfl | ⟨hsame, -, -⟩
          · rfl
          · rw [(redactable_of_isFull hsame.full).redactText,
              (redactable_of_isFull hsame.otherFull).redactText]
            exact redactName_congr hsame
        rw [List.map_cons, List.map_cons, hitem, ih]
  simp only [redactField, hrule, redactValue, hitems]

/-- Texts that are alike are redacted alike. -/
theorem redactedAlike_freeText {field text other : Text} (hrule : ruleFor? field = some .nameList)
    (h : Name.AlikeText text other)
    : RedactedAlike field (.text text) (.text other) := by
  have hentries : ∀ {names others : List Text}, List.Forall₂ Name.SameInitials names others
      → names.map redactEntry = others.map redactEntry := by
    intro names others hnames
    induction hnames with
    | nil => rfl
    | cons hname _ ih =>
        rw [List.map_cons, List.map_cons, ih, redactEntry_of_isFull hname.full,
          redactEntry_of_isFull hname.otherFull, redactName_congr hname]
  exact redactedAlike_text hrule (redactable_of_not_mem h.notBlank h.noBracket)
    (redactable_of_not_mem h.otherNotBlank h.symm.noBracket)
    (fun _ _ => redactNames_congr (hentries h.names))

-----------------------------------------------------------------------------------------
-- Joined names
-----------------------------------------------------------------------------------------

/-- A full name is redacted as one entry. -/
theorem redactEntry_split {name : Text} (h : Name.IsFull name) (htidy : Name.Tidy name)
    : (Name.split name).map redactEntry = [redactName name] := by
  rw [h.split_eq htidy.oneLine, List.map_singleton, redactEntry_of_isFull h.join,
    redactName_of_words (Text.words_join (fun _ hmem => Text.word_of_mem_words hmem))]

/-- A full name between emphasis tags is redacted as one entry, inside of the tags. -/
theorem redactEntry_split_emphasize {name tag : Text} (h : Name.IsFull name)
    (htidy : Name.Tidy name) (hne : tag ≠ [])
    (htag : ∀ c ∈ tag, Text.isAsciiAlphanumeric c = true)
    : (Name.split (Name.emphasize tag name)).map redactEntry
      = [Name.emphasize tag (redactName name)] := by
  rw [h.split_emphasize htidy.oneLine htidy.trimmed htag, List.map_singleton,
    redactEntry_emphasize _ hne htag, redactEntry_of_isFull h.join,
    redactName_of_words (Text.words_join (fun _ hmem => Text.word_of_mem_words hmem))]

/-- A full name is redacted as one entry, whether it is emphasized or not. -/
theorem redactEntry_split_mark {name tag : Text} (h : Name.IsFull name) (htidy : Name.Tidy name)
    (htag : ∀ c ∈ tag, Text.isAsciiAlphanumeric c = true)
    : (Name.split (Name.mark tag name)).map redactEntry = [Name.mark tag (redactName name)] := by
  rw [Name.mark, Name.mark]
  split
  · exact redactEntry_split h htidy
  · rename_i hne
    exact redactEntry_split_emphasize h htidy hne htag

/-- Joined lists of alike names are redacted alike, by induction on the names. -/
theorem redactNames_joinEmphasized {tag : Text} {names others : List Text}
    (htag : ∀ c ∈ tag, Text.isAsciiAlphanumeric c = true) (h : List.Forall₂ Name.Alike names others)
    : redactNames (Name.joinEmphasized tag names)
      = redactNames (Name.joinEmphasized tag others) := by
  have hmark : ∀ {name other}, Name.Alike name other →
      (Name.split (Name.mark tag name)).map redactEntry
        = (Name.split (Name.mark tag other)).map redactEntry := by
    rintro name other (rfl | ⟨hsame, htidy, hother⟩)
    · rfl
    · rw [redactEntry_split_mark hsame.full htidy htag,
        redactEntry_split_mark hsame.otherFull hother htag, redactName_congr hsame]
  rw [Name.joinEmphasized_eq, Name.joinEmphasized_eq]
  apply redactNames_congr
  rw [Name.split_joinAll, Name.split_joinAll]
  induction h with
  | nil => rfl
  | cons hname _ ih =>
      simp only [List.map_cons, List.flatMap_cons, List.map_append]
      rw [ih, hmark hname]

/-- Joined names with a full name among them are redacted as a whole unless they spell a list: of
several names the word that joins the last one is no part of a placeholder.
-/
theorem redactable_joinEmphasized {tag name : Text} {names : List Text} (hname : name ∈ names)
    (hfull : Name.IsFull name) (hlist : spelledList? (Name.joinEmphasized tag names) = none)
    : Redactable (Name.joinEmphasized tag names) := by
  by_cases htag : tag = []
  · rw [Name.joinEmphasized, if_pos htag] at hlist ⊢
    have hblank : Text.isAllBlank (Name.joinAll names) = false := by
      obtain ⟨c, hc, hcblank⟩ := List.all_eq_false.mp hfull.notBlank
      exact List.all_eq_false.mpr ⟨c, Name.mem_joinAll_of_mem hname hc, hcblank⟩
    refine ⟨hblank, ?_, hlist⟩
    rcases Name.names_cases names with rfl | ⟨only, rfl⟩ | ⟨front, last, hfront, rfl⟩
    · cases hname
    · rw [← List.mem_singleton.mp hname]
      exact (redactable_of_isFull hfull).notPlaceholder
    · refine not_isPlaceholder_of_mem (c := 'e') ?_ (by decide) (by decide) (by decide)
        (by decide)
      have hword : 'e' ∈ Name.conjunction := by decide
      rw [Name.joinAll_concat hfront]
      exact List.mem_append_left _ (List.mem_append_right _ hword)
  · have hhead := Name.head?_joinEmphasized htag (List.ne_nil_of_mem hname)
    obtain ⟨rest, hrest⟩ := List.head?_eq_some_iff.mp hhead
    rw [hrest]
    refine redactable_of_head rfl ?_
    rw [Text.trimStart_eq_self (by rintro c ⟨⟩; decide)]
    simp

/-- Names that are joined the same, or that spell no list when they are joined. -/
def Joinable (tag : Text) (names others : List Text) : Prop :=
  names = others
    ∨ spelledList? (Name.joinEmphasized tag names) = none
      ∧ spelledList? (Name.joinEmphasized tag others) = none

/-- Alike names that are joined are redacted alike. -/
theorem redactedAlike_joined {field tag : Text} {names others : List Text}
    (hrule : ruleFor? field = some .nameList)
    (htag : ∀ c ∈ tag, Text.isAsciiAlphanumeric c = true)
    (h : List.Forall₂ Name.Alike names others) (hjoin : Joinable tag names others)
    : RedactedAlike field (.text (Name.joinEmphasized tag names))
        (.text (Name.joinEmphasized tag others)) := by
  rcases Name.eq_or_full_of_forall₂ h with rfl | ⟨⟨name, hname, hfull⟩, ⟨other, hother, hfull'⟩⟩
  · exact redactedAlike_self field _
  · rcases hjoin with rfl | ⟨hlist, hlist'⟩
    · exact redactedAlike_self field _
    · exact redactedAlike_text hrule (redactable_joinEmphasized hname hfull hlist)
        (redactable_joinEmphasized hother hfull' hlist')
        (fun _ _ => redactNames_joinEmphasized htag h)

/-- Full names alone never spell a list. -/
theorem spelledList?_joinEmphasized {names : List Text} (tag : Text)
    (h : ∀ name ∈ names, Name.IsFull name)
    : spelledList? (Name.joinEmphasized tag names) = none := by
  by_cases htag : tag = []
  · apply not_spelledList?_of_head
    intro hhead
    have hmem := (Text.trimStart_suffix _).subset (List.mem_of_mem_head? hhead)
    rw [Name.joinEmphasized, if_pos htag] at hmem
    rcases Name.mem_joinAll hmem with hmem | hmem | ⟨name, hname, hmem⟩
    · revert hmem
      decide
    · revert hmem
      decide
    · exact (h name hname).not_mem (by decide) hmem
  · by_cases hne : names = []
    · rw [hne, Name.joinEmphasized, if_neg htag]
      rfl
    · obtain ⟨rest, hrest⟩ := List.head?_eq_some_iff.mp (Name.head?_joinEmphasized htag hne)
      rw [hrest]
      apply not_spelledList?_of_head
      rw [Text.trimStart_eq_self (by rintro c ⟨⟩; decide)]
      simp

end Redaction

end LeasePapers
