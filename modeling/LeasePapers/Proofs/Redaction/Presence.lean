import LeasePapers.Proofs.Redaction.Name
import LeasePapers.Proofs.Redaction.Alike
import LeasePapers.Proofs.Redaction.Replaced
import LeasePapers.Template.Render

/-! What is present stays present. Redaction leaves blank what is blank, and of all else it leaves
something that shows, except where nothing but braces stood: a name that is a single word of braces,
and prose of braces or of names that are spelled without any letter that counts.
-/

namespace LeasePapers.Redaction

-----------------------------------------------------------------------------------------
-- Characters that show
-----------------------------------------------------------------------------------------

/-- Whether a character shows: it is neither blank nor a brace, and redaction never takes it out. -/
def shows (c : Char) : Bool :=
  !Text.isBlank c && !Text.isBrace c

/-- Whether a character shows and always belongs to a name; commas and the letter `e` may stand
between names.
-/
def isSolid (c : Char) : Bool :=
  shows c && c != ',' && c != 'e' && c != 'E'

/-- A solid character shows. -/
theorem shows_of_isSolid {c : Char} (h : isSolid c = true) : shows c = true := by
  simp only [isSolid, Bool.and_eq_true] at h
  exact h.1.1.1

/-- A character shows if it is neither a blank nor a brace. -/
theorem shows_eq_true_iff {c : Char}
    : shows c = true ↔ Text.isBlank c = false ∧ Text.isBrace c = false := by
  simp [shows]

/-- A text with a character that shows is not blank. -/
theorem isAllBlank_eq_false_of_mem {text : Text} {c : Char} (h : c ∈ text) (hshows : shows c = true)
    : Text.isAllBlank text = false :=
  List.all_eq_false.mpr ⟨c, h, by simp [(shows_eq_true_iff.mp hshows).1]⟩

/-- A class of characters that redaction of names leaves at least one of: it shows, it has the dot
after an initial and the marks of emphasis and of placeholders, and it does not tell letter cases
apart.
-/
structure Lasting (p : Char → Bool) : Prop where
  shown : ∀ c, p c = true → shows c = true
  dot : p '.' = true
  angle : p '<' = true
  bracket : p '[' = true
  folds : ∀ {c d : Char}, Text.foldChar c = Text.foldChar d → p c = true → p d = true

/-- Characters that show last through every redaction of names. -/
theorem lasting_shows : Lasting shows where
  shown _ h := h
  dot := by decide
  angle := by decide
  bracket := by decide
  folds hfold h := by
    rwa [shows, ← Text.isBlank_of_foldChar_eq hfold, ← Text.isBrace_of_foldChar_eq hfold]

/-- Solid characters last through every redaction of names. -/
theorem lasting_isSolid : Lasting isSolid where
  shown _ := shows_of_isSolid
  dot := by decide
  angle := by decide
  bracket := by decide
  folds {c d} hfold h := by
    simp only [isSolid, Bool.and_eq_true, bne_iff_ne] at h ⊢
    obtain ⟨⟨⟨hshows, hcomma⟩, hlower⟩, hupper⟩ := h
    -- Commas fold only from themselves, and `e` only from its capital.
    have hletter : Text.foldChar c ≠ 'e' := fun he =>
      (Text.eq_letterE_of_foldChar he).elim hlower hupper
    refine ⟨⟨⟨lasting_shows.folds hfold hshows, ?_⟩, ?_⟩, ?_⟩
    · rintro rfl
      exact hcomma (Text.eq_of_foldChar_eq (by decide) hfold)
    · rintro rfl
      exact hletter (hfold.trans (by decide))
    · rintro rfl
      exact hletter (hfold.trans (by decide))

variable {p : Char → Bool}

/-- A lasting character stays when braces are taken out. -/
theorem Lasting.mem_withoutBraces (hp : Lasting p) {text : Text} {c : Char} (h : c ∈ text)
    (hc : p c = true)
    : c ∈ Text.withoutBraces text :=
  List.mem_filter.mpr ⟨h, by simp [(shows_eq_true_iff.mp (hp.shown c hc)).2]⟩

-----------------------------------------------------------------------------------------
-- Names
-----------------------------------------------------------------------------------------

/-- Something is left of a name of several words, and of a single word that has more than braces. -/
theorem Lasting.exists_mem_redactName_of_words (hp : Lasting p) {text : Text}
    (hwords : Text.words text ≠ [])
    (honly : ∀ word, Text.words text = [word] → ∃ c ∈ word, p c = true)
    : ∃ c ∈ redactName text, p c = true := by
  rw [redactName]
  split
  · rename_i hnil
    exact absurd hnil hwords
  · rename_i word hword
    obtain ⟨c, hmem, hc⟩ := honly word hword
    exact ⟨c, hp.mem_withoutBraces hmem hc, hc⟩
  · exact ⟨'.', hp.mem_withoutBraces (by simp [initialed]) hp.dot, hp.dot⟩

/-- A name with a lasting character has one when it is redacted. -/
theorem Lasting.exists_mem_redactName (hp : Lasting p) {text : Text}
    (h : ∃ c ∈ text, p c = true)
    : ∃ c ∈ redactName text, p c = true := by
  obtain ⟨c, hmem, hc⟩ := h
  obtain ⟨word, hword, hcword⟩ :=
    Text.mem_words_of_not_blank hmem (shows_eq_true_iff.mp (hp.shown c hc)).1
  refine hp.exists_mem_redactName_of_words (List.ne_nil_of_mem hword) (fun only honly => ?_)
  rw [honly, List.mem_singleton] at hword
  exact ⟨c, hword ▸ hcword, hc⟩

/-- A placeholder has a bracket. -/
theorem mem_of_isPlaceholder {text : Text} (h : isPlaceholder text = true) : '[' ∈ text := by
  rw [isPlaceholder, Option.any_eq_true] at h
  obtain ⟨inner, hinner, -⟩ := h
  refine (Text.isInfix_trim text).subset ?_
  rw [eq_of_bracketed? hinner]
  exact List.mem_cons_self

/-- An entry with a lasting character has one when it is redacted. -/
theorem Lasting.exists_mem_redactEntry (hp : Lasting p) {entry : Text}
    (h : ∃ c ∈ entry, p c = true)
    : ∃ c ∈ redactEntry entry, p c = true := by
  rw [redactEntry]
  split
  · exact ⟨'<', by simp [Name.emphasize], hp.angle⟩
  · split
    · rename_i hplaceholder
      exact ⟨'[', mem_of_isPlaceholder hplaceholder, hp.bracket⟩
    · exact hp.exists_mem_redactName h

/-- Something is left of a list if some name of it has more than braces. -/
theorem Lasting.exists_mem_redactNames (hp : Lasting p) {text entry : Text}
    (hentry : entry ∈ Name.split text) (h : ∃ c ∈ entry, p c = true)
    : ∃ c ∈ redactNames text, p c = true := by
  obtain ⟨c, hmem, hc⟩ := hp.exists_mem_redactEntry h
  rw [redactNames]
  split
  · rename_i hnil
    rw [hnil] at hentry
    cases hentry
  · refine ⟨c, hp.mem_withoutBraces ?_ hc, hc⟩
    exact Name.mem_joinAll_of_mem (List.mem_map_of_mem hentry) hmem

/-- Something shows of every list but that of a single name of braces. -/
theorem exists_mem_redactNames {text : Text}
    (h : ∀ name, Name.split text = [name] → ∃ c ∈ name, shows c = true)
    : ∃ c ∈ redactNames text, shows c = true := by
  rcases Name.names_cases (Name.split text)
    with hnil | ⟨name, hname⟩ | ⟨front, last, hfront, hsplit⟩
  · rw [redactNames, hnil]
    exact ⟨'[', by decide, by decide⟩
  · exact lasting_shows.exists_mem_redactNames (hname ▸ List.mem_singleton_self name) (h name hname)
  · refine ⟨'e', ?_, by decide⟩
    rw [redactNames]
    split
    · rename_i hnil
      simp [hnil] at hsplit
    · refine lasting_shows.mem_withoutBraces ?_ (by decide)
      rw [hsplit, List.map_append, List.map_singleton, Name.joinAll_concat (by simpa using hfront)]
      have hword : 'e' ∈ Name.conjunction := by decide
      exact List.mem_append_left _ (List.mem_append_right _ hword)

/-- A solid character stays in each name of a list, and hence in a known name. -/
theorem exists_solid_of_known {fields : Dictionary} {name : KnownName}
    (hname : name ∈ knownNames fields) (h : ∃ c ∈ name.spelling, isSolid c = true)
    : ∃ c ∈ name.redacted, isSolid c = true := by
  rcases (mem_knownNames hname).2 with ⟨text, -, rfl⟩ | ⟨text, -, rfl⟩
  · obtain ⟨c, hmem, hc⟩ := h
    have hparts := hc
    simp only [isSolid, Bool.and_eq_true, bne_iff_ne] at hparts
    obtain ⟨⟨⟨hshows, hcomma⟩, hlower⟩, hupper⟩ := hparts
    have hblank := (shows_eq_true_iff.mp hshows).1
    have hline : c ≠ '\n' := by
      rintro rfl
      cases hblank
    have hends : Name.endsWord c = false := by
      simp [Name.endsWord, Name.Separator.ofChar?, hblank, hcomma, hline]
    obtain ⟨entry, hentry, hcentry⟩ := Name.mem_split hmem hends hlower hupper
    exact lasting_isSolid.exists_mem_redactNames hentry ⟨c, hcentry, hc⟩
  · exact lasting_isSolid.exists_mem_redactName h

-----------------------------------------------------------------------------------------
-- Prose
-----------------------------------------------------------------------------------------

/-- Replacing a name leaves something of a class if its redacted form does, by induction on the
replacements.
-/
theorem Lasting.exists_mem_of_replaced (hp : Lasting p) {name : KnownName} {text out : Text}
    (hname : (∃ c ∈ name.spelling, p c = true) → ∃ c ∈ name.redacted, p c = true)
    (hreplaced : Replaced name text out) (h : ∃ c ∈ text, p c = true)
    : ∃ c ∈ out, p c = true := by
  induction hreplaced with
  | nil => exact h
  | keep _ _ ih =>
      obtain ⟨c, hmem, hc⟩ := h
      rcases List.mem_cons.mp hmem with rfl | hmem
      · exact ⟨c, List.mem_cons_self, hc⟩
      · obtain ⟨d, hd, hpd⟩ := ih ⟨c, hmem, hc⟩
        exact ⟨d, List.mem_cons_of_mem _ hd, hpd⟩
  | @swap found after out spelled _ ih =>
      have hafter : (∃ c ∈ after, p c = true)
          → ∃ c ∈ redactedBefore name after ++ out, p c = true := by
        intro hlater
        obtain ⟨d, hd, hpd⟩ := ih hlater
        exact ⟨d, List.mem_append_right _ hd, hpd⟩
      obtain ⟨c, hmem, hc⟩ := h
      rcases List.mem_append.mp hmem with hmem | hmem
      · -- The character belongs to a spelling of the name, so the name has it in some case.
        have hfolded : Text.foldChar c ∈ Text.folded name.spelling :=
          spelled ▸ List.mem_map_of_mem hmem
        obtain ⟨d, hd, hfold⟩ := List.mem_map.mp hfolded
        rcases redactedBefore_cases name after with hwhole | ⟨-, hdot⟩
        · obtain ⟨found, hfound, hpfound⟩ := hname ⟨d, hd, hp.folds hfold.symm hc⟩
          exact ⟨found, List.mem_append_left _ (hwhole ▸ hfound), hpfound⟩
        · exact hafter ⟨'.', List.mem_of_mem_head? hdot, hp.dot⟩
      · exact hafter ⟨c, hmem, hc⟩

/-- Prose with a lasting character has one when its names are redacted. -/
theorem Lasting.exists_mem_redactProse (hp : Lasting p) {names : List KnownName} {text : Text}
    (hspelled : ∀ name ∈ names, name.spelling ≠ [])
    (hnames : ∀ name ∈ names,
      (∃ c ∈ name.spelling, p c = true) → ∃ c ∈ name.redacted, p c = true)
    (h : ∃ c ∈ text, p c = true)
    : ∃ c ∈ redactProse names text, p c = true := by
  have hall : ∃ c ∈ names.foldl replaceName text, p c = true := by
    induction names generalizing text with
    | nil => exact h
    | cons name rest ih =>
        rw [List.forall_mem_cons] at hspelled hnames
        exact ih hspelled.2 hnames.2
          (hp.exists_mem_of_replaced hnames.1 (replaced_replaceName text hspelled.1) h)
  obtain ⟨c, hmem, hc⟩ := hall
  exact ⟨c, hp.mem_withoutBraces hmem hc, hc⟩

-----------------------------------------------------------------------------------------
-- Rules
-----------------------------------------------------------------------------------------

/-- The texts of which a rule may leave nothing that shows: a name that is a single word of braces,
a list of one such name, and prose of nothing but blanks and braces, or without a solid character
while a name to replace has none either.
-/
def Erasable (names : List KnownName) : Rule → Text → Prop
  | .name, text => ∃ word, Text.words text = [word] ∧ ∀ c ∈ word, shows c = false
  | .nameList, text => ∃ name, Name.split text = [name] ∧ ∀ c ∈ name, shows c = false
  | .prose, text =>
      (∀ c ∈ text, shows c = false)
      ∨ (∀ c ∈ text, isSolid c = false) ∧ ∃ name ∈ names, ∀ c ∈ name.spelling, isSolid c = false
  | _, _ => False

/-- A single word of more than braces is not erased as a name. -/
theorem not_erasable_name {text : Text} (names : List KnownName)
    (h : ∀ word, Text.words text = [word] → Text.withoutBraces word ≠ [])
    : ¬Erasable names .name text := by
  rintro ⟨word, hwords, hhidden⟩
  have hblank := (Text.word_of_words_eq hwords).2
  refine h word hwords (List.filter_eq_nil_iff.mpr (fun c hc => ?_))
  have hbrace := hhidden c hc
  simpa [shows, hblank c hc] using hbrace

/-- If not all characters fail a test, one passes it. -/
theorem exists_of_not_forall {q : Char → Bool} {text : Text} (h : ¬∀ c ∈ text, q c = false)
    : ∃ c ∈ text, q c = true := by
  simpa using h

/-- A redacted number shows something, whatever is written in its place. -/
theorem exists_mem_redactNumber {missing invalid mask : Text} {fits : Nat → Bool} (text : Text)
    (hmissing : missing.any shows = true) (hinvalid : invalid.any shows = true)
    (hmask : mask.any shows = true)
    : ∃ c ∈ redactNumber missing invalid mask fits text, shows c = true := by
  rw [← List.any_eq_true, redactNumber]
  split
  · exact hmissing
  · split
    · rw [List.any_append, hmask, Bool.true_or]
    · exact hinvalid

/-- Letters show. -/
theorem shows_of_isAlphabetic {c : Char} (h : Text.isAlphabetic c = true) : shows c = true := by
  refine shows_eq_true_iff.mpr ⟨?_, ?_⟩
  · exact Text.isBlank_of_class (by decide +kernel) h
  · cases hbrace : Text.isBrace c with
    | false => rfl
    | true =>
        simp only [Text.isBrace, Bool.or_eq_true, beq_iff_eq] at hbrace
        rcases hbrace with rfl | rfl <;> revert h <;> decide

/-- A redacted address shows something. -/
theorem exists_mem_redactAddress (text : Text) : ∃ c ∈ redactAddress text, shows c = true := by
  rw [redactAddress]
  simp only
  split
  · exact ⟨'[', by decide, by decide⟩
  · split
    · exact ⟨'-', lasting_shows.mem_withoutBraces (by simp) (by decide), by decide⟩
    · split
      · rename_i hlast
        obtain ⟨-, hhead, -⟩ := hlast
        rw [Option.any_eq_true] at hhead
        obtain ⟨c, hc, halphabetic⟩ := hhead
        have hshows := shows_of_isAlphabetic halphabetic
        exact ⟨c, lasting_shows.mem_withoutBraces (List.mem_of_mem_head? hc) hshows, hshows⟩
      · exact ⟨'[', by decide, by decide⟩

/-- A redacted address for mail shows something. -/
theorem exists_mem_redactEmail (text : Text) : ∃ c ∈ redactEmail text, shows c = true := by
  rw [redactEmail]
  split
  · exact ⟨'[', by decide, by decide⟩
  · split
    · exact ⟨'[', by decide, by decide⟩
    · exact ⟨'[', by decide, by decide⟩
    · exact ⟨'*', lasting_shows.mem_withoutBraces (by simp) (by decide), by decide⟩

/-- Every rule leaves something that shows of what it cannot erase. -/
theorem exists_mem_redactBy [Patterns] {fields : Dictionary} {rule : Rule} {text : Text}
    (hblank : Text.isAllBlank text = false) (h : ¬Erasable (searchedNames fields) rule text)
    : ∃ c ∈ redactBy (searchedNames fields) rule text, shows c = true := by
  have hcpf : ∃ c ∈ redactCpf text, shows c = true :=
    exists_mem_redactNumber text (by decide) (by decide) (by decide)
  have hrg : ∃ c ∈ redactRg text, shows c = true :=
    exists_mem_redactNumber text (by decide) (by decide) (by decide)
  have hphone : ∃ c ∈ redactPhone text, shows c = true :=
    exists_mem_redactNumber text (by decide) (by decide) (by decide)
  cases rule with
  | name =>
      refine lasting_shows.exists_mem_redactName_of_words ?_ (fun word hword => ?_)
      · obtain ⟨c, hmem, hc⟩ := List.all_eq_false.mp hblank
        obtain ⟨word, hword, -⟩ := Text.mem_words_of_not_blank hmem (by simpa using hc)
        exact List.ne_nil_of_mem hword
      · exact exists_of_not_forall (fun hall => h ⟨word, hword, hall⟩)
  | nameList =>
      exact exists_mem_redactNames
        (fun name hname => exists_of_not_forall (fun hall => h ⟨name, hname, hall⟩))
  | address => exact exists_mem_redactAddress text
  | cpf => exact hcpf
  | rg => exact hrg
  | document =>
      rw [redactBy, redactDocument]
      split
      · exact hcpf
      · exact hrg
  | phone => exact hphone
  | email => exact exists_mem_redactEmail text
  | prose =>
      rw [Erasable, not_or] at h
      have hspelled : ∀ name ∈ searchedNames fields, name.spelling ≠ [] :=
        fun name hname => spelling_ne_nil (mem_knownNames_of_searched hname)
      by_cases hsolid : ∀ c ∈ text, isSolid c = false
      · -- Without a solid character in the text every name to replace has one.
        have hnames : ∀ name ∈ searchedNames fields, ∃ c ∈ name.spelling, isSolid c = true := by
          intro name hname
          exact exists_of_not_forall (fun hall => h.2 ⟨hsolid, name, hname, hall⟩)
        refine lasting_shows.exists_mem_redactProse hspelled (fun name hname _ => ?_)
          (exists_of_not_forall h.1)
        obtain ⟨c, hmem, hc⟩ :=
          exists_solid_of_known (mem_knownNames_of_searched hname) (hnames name hname)
        exact ⟨c, hmem, shows_of_isSolid hc⟩
      · obtain ⟨c, hmem, hc⟩ := lasting_isSolid.exists_mem_redactProse hspelled
          (fun name hname => exists_solid_of_known (mem_knownNames_of_searched hname))
          (exists_of_not_forall hsolid)
        exact ⟨c, hmem, shows_of_isSolid hc⟩

-----------------------------------------------------------------------------------------
-- Values and dictionaries
-----------------------------------------------------------------------------------------

/-- A text that cannot be erased is blank after redaction if and only if it was before. -/
theorem isAllBlank_redactText [Patterns] {fields : Dictionary} {rule : Rule} {text : Text}
    (h : Text.isAllBlank text = false → ¬Erasable (searchedNames fields) rule text)
    : Text.isAllBlank (redactText (searchedNames fields) rule text) = Text.isAllBlank text := by
  rw [redactText]
  split
  · rfl
  · rename_i hkept
    rw [not_or, Bool.not_eq_true] at hkept
    obtain ⟨c, hmem, hc⟩ := exists_mem_redactBy hkept.1 (h hkept.1)
    rw [hkept.1]
    exact isAllBlank_eq_false_of_mem hmem hc

/-- The text of a value that is redacted as a whole and shown alone: a text that spells no list, or
the only element of a list.
-/
def alone? : Field.Value → Option Text
  | .text content => if spelledList? content = none then some content else none
  | .list [item] => some item
  | .list _ => none

/-- Several names joined are never blank. -/
theorem isAllBlank_joinAll (first second : Text) (rest : List Text)
    : Text.isAllBlank (Name.joinAll (first :: second :: rest)) = false := by
  have hword : 'e' ∈ Name.conjunction := by decide
  refine isAllBlank_eq_false_of_mem (c := 'e') ?_ (by decide)
  rw [Name.joinAll]
  · exact List.mem_append_left _ (List.mem_append_right _ hword)
  · simp

/-- A text that spells a list is not blank. -/
theorem isAllBlank_of_spelledList? {text : Text} {items : List Text}
    (h : spelledList? text = some items)
    : Text.isAllBlank text = false := by
  rw [spelledList?] at h
  split at h
  · rename_i hhead
    have hmem := (Text.trimStart_suffix text).subset (List.mem_of_mem_head? hhead)
    exact isAllBlank_eq_false_of_mem hmem (by decide)
  · cases h

/-- What is shown of a value is blank after redaction if it was before. -/
theorem isAllBlank_redactValue [Patterns] {fields : Dictionary} {rule : Rule}
    {value : Field.Value}
    (h : ∀ text, alone? value = some text → Text.isAllBlank text = false
      → ¬Erasable (searchedNames fields) rule text)
    : Text.isAllBlank (redactValue (searchedNames fields) rule value).display
      = Text.isAllBlank value.display := by
  cases value with
  | text content =>
      rw [redactValue]
      split
      · rename_i items hitems
        rw [Field.Value.display, Field.Value.display, isAllBlank_of_spelledList? hitems]
        exact isAllBlank_eq_false_of_mem (c := '[') (by simp [Field.arrayText]) (by decide)
      · rename_i hnone
        exact isAllBlank_redactText (h content (if_pos hnone))
  | list items =>
      rcases items with _ | ⟨first, _ | ⟨second, rest⟩⟩
      · rfl
      · exact isAllBlank_redactText (h first rfl)
      · exact (isAllBlank_joinAll _ _ _).trans (isAllBlank_joinAll _ _ _).symm

/-- Whether what is shown at a name is blank: the field is missing, empty, or all blanks. -/
def shownBlank (fields : Dictionary) (name : Text) : Bool :=
  (fields.get? name).all (fun value => Text.isAllBlank value.display)

/-- A field may be erased: a text that is shown alone at its name is not blank, and its rule may
leave nothing of it that shows.
-/
def MayErase [Patterns] (fields : Dictionary) (name : Text) : Prop :=
  ∃ rule value text,
    ruleFor? name = some rule ∧ fields.get? name = some value ∧ alone? value = some text
    ∧ Text.isAllBlank text = false ∧ Erasable (searchedNames fields) rule text

/-- A field that cannot be erased is blank after redaction if and only if it was before. -/
theorem isAllBlank_redactField [Patterns] {fields : Dictionary} {name : Text}
    {value : Field.Value}
    (h : ¬MayErase fields name) (hvalue : fields.get? name = some value)
    : Text.isAllBlank (redactField (searchedNames fields) name value).display
      = Text.isAllBlank value.display := by
  rw [redactField]
  split
  · rename_i rule hrule
    exact isAllBlank_redactValue (fun text halone hblank herasable =>
      h ⟨rule, value, text, hrule, hvalue, halone, hblank, herasable⟩)
  · rfl

/-- Outside of repetitions nothing stands for the element and its number, and a field is present if
what is shown of it is not blank.
-/
theorem isPresent_outside (fields : Dictionary) (settings : Settings) (name : Text)
    : Template.Context.isPresent ⟨fields, settings, none⟩ name
      = (name ≠ Template.elementName && name ≠ Template.indexName && !shownBlank fields name) := by
  by_cases helement : name = Template.elementName
  · simp [Template.Context.isPresent, Template.Context.value?, Template.Context.lookup?, helement]
  by_cases hindex : name = Template.indexName
  · simp [Template.Context.isPresent, Template.Context.value?, Template.Context.lookup?, hindex]
  rw [Template.Context.isPresent, Template.Context.value?, Template.Context.lookup?,
    if_neg helement, if_neg hindex, shownBlank]
  cases fields.get? name with
  | none => simp
  | some value =>
      by_cases hnil : value.display = []
      · simp [hnil, Text.isAllBlank]
      · simp [helement, hindex, hnil]

/-- Redaction never changes what is present, except where it may erase a field: what is shown at a
name is blank afterwards if and only if it was before, and outside of repetitions every block that
asks for the name takes the same branch.
-/
theorem isPresent_redact [Patterns] {fields : Dictionary} {name : Text} (h : ¬MayErase fields name)
    : shownBlank (redact fields) name = shownBlank fields name
      ∧ ∀ settings, Template.Context.isPresent ⟨redact fields, settings, none⟩ name
        = Template.Context.isPresent ⟨fields, settings, none⟩ name := by
  have hblank : shownBlank (redact fields) name = shownBlank fields name := by
    rw [shownBlank, shownBlank, get?_redact]
    cases hvalue : fields.get? name with
    | none => rfl
    | some value => exact isAllBlank_redactField h hvalue
  refine ⟨hblank, fun settings => ?_⟩
  rw [isPresent_outside, isPresent_outside, hblank]

/-- A form with braces around a name, there and in prose. -/
def bracedForm : Dictionary :=
  (TextMap.empty.insert Field.primeiroLocatario.name (.text "\x7bAna\x7d Souza")).insert
    Field.observacao.name (.text "\x7b\x7bAna\x7d Souza\x7d")

/-- A note with braces around a name is still present when it is redacted. -/
theorem isPresent_redact_observacao
    : ¬MayErase bracedForm Field.observacao.name
      ∧ (redact bracedForm).get? Field.observacao.name = some (.text "Ana S.")
      ∧ shownBlank (redact bracedForm) Field.observacao.name = false := by
  have hkept : ¬MayErase bracedForm Field.observacao.name := by
    rintro ⟨rule, value, text, hrule, hvalue, halone, -, herasable⟩
    have hprose : ruleFor? Field.observacao.name = some .prose := ruleFor?_of_mem (by decide)
    rw [hprose] at hrule
    rw [bracedForm, TextMap.get?_insert, if_pos rfl] at hvalue
    obtain rfl := Option.some.inj hrule
    obtain rfl := Option.some.inj hvalue
    rw [alone?, if_pos (by decide +kernel)] at halone
    obtain rfl := Option.some.inj halone
    rcases herasable with hall | ⟨hall, -⟩
    · exact absurd (hall 'A' (by decide)) (by decide)
    · exact absurd (hall 'A' (by decide)) (by decide)
  refine ⟨hkept, by decide +kernel, ?_⟩
  rw [(isPresent_redact hkept).1]
  decide +kernel

/-- Prose of braces alone is present before redaction and not afterwards. -/
theorem isPresent_erased
    : shownBlank (TextMap.empty.insert Field.observacao.name (.text "\x7b\x7d"))
          Field.observacao.name = false
      ∧ shownBlank (redact (TextMap.empty.insert Field.observacao.name (.text "\x7b\x7d")))
          Field.observacao.name = true
      ∧ Template.render (Template.ofText "\x7b\x7b#if observacao\x7d\x7dsim\x7b\x7b/if\x7d\x7d")
          (TextMap.empty.insert Field.observacao.name (.text "\x7b\x7d")) .default = ("sim" : Text)
      ∧ Template.render (Template.ofText "\x7b\x7b#if observacao\x7d\x7dsim\x7b\x7b/if\x7d\x7d")
          (redact (TextMap.empty.insert Field.observacao.name (.text "\x7b\x7d"))) .default
        = [] := by
  decide +kernel

end LeasePapers.Redaction
