import LeasePapers.Proofs.Document.Surnames
import LeasePapers.Proofs.Redaction.Entry
import LeasePapers.Proofs.Redaction.Presence
import LeasePapers.Proofs.Resolution.Edit

/-! The names of the tenants in a redacted form, in their slots and joined. The joined names are
split again and redacted one by one. They come out as the slots do, if each slot is read as the one
name that it holds.
-/

namespace LeasePapers

/-- A name with single spaces between its words. -/
def Name.spaced (name : Text) : Text :=
  Text.join [' '] (Text.words name)

/-- Names have the same words with single blanks between them. -/
theorem Name.words_spaced (name : Text) : Text.words (spaced name) = Text.words name :=
  Text.words_join (fun _ hword => Text.word_of_mem_words hword)

/-- A name with single blanks between its words has none around it. -/
theorem Name.trim_spaced (name : Text) : Text.trim (spaced name) = spaced name :=
  Text.trim_join (fun _ hword => Text.word_of_mem_words hword)

namespace Redaction

-----------------------------------------------------------------------------------------
-- One name
-----------------------------------------------------------------------------------------

/-- A placeholder without blanks around it begins with its bracket, so it stands between no tags. -/
theorem splitEmphasis?_of_isPlaceholder {text : Text} (htrim : Text.trim text = text)
    (h : isPlaceholder text = true)
    : splitEmphasis? text = none := by
  rw [isPlaceholder, htrim, Option.any_eq_true] at h
  obtain ⟨inner, hinner, -⟩ := h
  rw [eq_of_bracketed? hinner]
  rfl

/-- A name that is read as itself in a list: it holds no separator, it stands between tags only if
it is one word and there is something between them, and it is no list itself. -/
structure StandsAlone (name : Text) : Prop where
  single : Name.IsSingle name
  marked : splitEmphasis? (Name.spaced name) ≠ none
    → ∃ word, Text.words name = [word] ∧ innermost word ≠ []
  noList : spelledList? name = none

namespace StandsAlone

variable {name : Text}

/-- A name that stands alone is not blank. -/
theorem notBlank (h : StandsAlone name) : Text.isAllBlank name = false := by
  cases hblank : Text.isAllBlank name with
  | false => rfl
  | true =>
      have hwords := Text.words_append_blanks [] (List.all_eq_true.mp hblank)
      exact absurd hwords h.single.named

/-- In a list the name is redacted as it is by itself. -/
theorem redactEntry_spaced (h : StandsAlone name) (known : List KnownName)
    (hspaced : isPlaceholder name = true ∨ isPlaceholder (Name.spaced name) = true
      → Name.spaced name = name)
    : Text.withoutBraces (redactEntry (Name.spaced name)) = redactText known .name name := by
  have hname : redactName (Name.spaced name) = redactName name :=
    redactName_of_words (Name.words_spaced name)
  rw [redactText, h.notBlank]
  by_cases hplaceholder : isPlaceholder name = true
  · have hsame := hspaced (Or.inl hplaceholder)
    have hnone : splitEmphasis? name = none := by
      rw [← hsame] at hplaceholder ⊢
      exact splitEmphasis?_of_isPlaceholder (Name.trim_spaced name) hplaceholder
    rw [hsame, redactEntry_of_unmarked hnone, if_pos hplaceholder, if_pos (Or.inr hplaceholder)]
    exact Text.withoutBraces_of_braceFree (braceFree_of_isPlaceholder hplaceholder)
  · have hother : ¬isPlaceholder (Name.spaced name) = true := by
      intro hspelled
      rw [hspaced (Or.inr hspelled)] at hspelled
      exact hplaceholder hspelled
    rw [if_neg (by simp [hplaceholder]), redactBy]
    by_cases hmarked : splitEmphasis? (Name.spaced name) = none
    · rw [redactEntry_of_unmarked hmarked, if_neg hother, hname]
      exact Text.withoutBraces_of_braceFree (braceFree_redactName name)
    · obtain ⟨word, hwords, hinside⟩ := h.marked hmarked
      have hword : Name.spaced name = word := by
        rw [Name.spaced, hwords]
        rfl
      have hblank := (Text.word_of_words_eq hwords).2
      rw [hword, withoutBraces_redactEntry hblank hinside, redactName, hwords]

/-- By itself a name is redacted alike as a list and as a name, unless it would be a placeholder if
its blanks were single spaces. -/
theorem redactText_nameList (h : StandsAlone name) (known : List KnownName)
    (hspaced : isPlaceholder name = true ∨ isPlaceholder (Name.spaced name) = true
      → Name.spaced name = name ∨ isPlaceholder name = true)
    : redactText known .nameList name = redactText known .name name := by
  by_cases hplaceholder : isPlaceholder name = true
  · rw [redactText, redactText, if_pos (Or.inr hplaceholder), if_pos (Or.inr hplaceholder)]
  · have hsplit := h.single.split_eq
    have hentry := h.redactEntry_spaced known (fun hspelled =>
      (hspaced hspelled).resolve_right hplaceholder)
    rw [← hentry, redactText, h.notBlank, if_neg (by simp [hplaceholder]), redactBy,
      redactNames_eq_joinAll (by simp [hsplit]), hsplit]
    rfl

/-- Of a name nothing at all is left, or something that is not blank. -/
theorem redactText_eq_nil (h : StandsAlone name) {known : List KnownName}
    (hblank : Text.isAllBlank (redactText known .name name) = true)
    : redactText known .name name = [] := by
  rw [redactText] at hblank ⊢
  split at hblank
  · rw [h.notBlank] at hblank
    cases hblank
  · rename_i hredacted
    rw [if_neg hredacted]
    rw [redactBy] at hblank ⊢
    rcases redactName_cases name with ⟨hwords, -⟩ | ⟨word, hwords, hname⟩
      | ⟨first, second, rest, last, -, -, -, hname⟩
    · exact absurd hwords h.single.named
    · have hword := (Text.word_of_words_eq hwords).2
      rw [hname] at hblank ⊢
      refine List.eq_nil_iff_forall_not_mem.mpr (fun c hc => ?_)
      have hc' := List.all_eq_true.mp hblank c hc
      rw [hword c (List.mem_of_mem_filter hc)] at hc'
      cases hc'
    · have hdot : '.' ∈ redactName name := by simp [hname]
      rw [isAllBlank_eq_false_of_mem hdot (by decide)] at hblank
      cases hblank

end StandsAlone

-----------------------------------------------------------------------------------------
-- Joined names
-----------------------------------------------------------------------------------------

/-- Names that are read as themselves where they are joined. Of a placeholder in them the blanks are
single spaces, and of a single word more than braces is left, unless it is the only name. -/
structure JoinPlainly (names : List Text) : Prop where
  alone : ∀ name ∈ names, StandsAlone name
  spaced : ∀ name ∈ names,
    isPlaceholder name = true ∨ isPlaceholder (Name.spaced name) = true
    → Name.spaced name = name ∨ isPlaceholder name = true ∧ names = [name]
  shown : ∀ name ∈ names, ∀ word, Text.words name = [word]
    → Text.withoutBraces word ≠ [] ∨ names = [name]
  noList : spelledList? (Name.joinAll names) = none

namespace JoinPlainly

variable {names : List Text}

/-- Several names are joined to a text that is split into them again. -/
theorem split_joinAll (h : JoinPlainly names)
    : Name.split (Name.joinAll names) = names.map Name.spaced := by
  have hsplit : ∀ name ∈ names, Name.split name = [Name.spaced name] :=
    fun name hname => (h.alone name hname).single.split_eq
  rw [Name.split_joinAll, List.flatMap_congr hsplit]
  exact List.map_eq_flatMap.symm

/-- Something is left of each of several names. -/
theorem isAllBlank_redactText [Patterns] (h : JoinPlainly names) {name : Text}
    (hname : name ∈ names) (hseveral : names ≠ [name]) (fields : Dictionary)
    : Text.isAllBlank (redactText (searchedNames fields) .name name) = false := by
  have hkept := not_erasable_name (searchedNames fields) (fun word hwords =>
    (h.shown name hname word hwords).resolve_right hseveral)
  rw [Redaction.isAllBlank_redactText (fun _ => hkept), (h.alone name hname).notBlank]

/-- Several names are redacted one by one where they are joined, and all of them are shown. -/
theorem redactText_joinAll_of_concat [Patterns] {front : List Text} {last : Text}
    (h : JoinPlainly (front ++ [last])) (hfront : front ≠ []) (fields : Dictionary)
    : redactText (searchedNames fields) .nameList (Name.joinAll (front ++ [last]))
        = Name.joinAll ((front ++ [last]).map (redactText (searchedNames fields) .name))
      ∧ ∀ name ∈ front ++ [last],
          Text.isAllBlank (redactText (searchedNames fields) .name name) = false := by
  have hseveral : ∀ name, front ++ [last] ≠ [name] := by
    intro name hsingle
    exact hfront (List.append_eq_singleton_iff.mp hsingle |>.resolve_right (by simp)).1
  have hjoined : 'e' ∈ Name.joinAll (front ++ [last]) := by
    have hword : 'e' ∈ Name.conjunction := by decide
    rw [Name.joinAll_concat hfront]
    exact List.mem_append_left _ (List.mem_append_right _ hword)
  have hsplit : Name.split (Name.joinAll (front ++ [last])) ≠ [] := by
    rw [h.split_joinAll]
    simp
  have hnotBlank : Text.isAllBlank (Name.joinAll (front ++ [last])) = false :=
    isAllBlank_eq_false_of_mem hjoined (by decide)
  have hnotPlaceholder : isPlaceholder (Name.joinAll (front ++ [last])) = false :=
    not_isPlaceholder_of_mem hjoined (by decide) (by decide) (by decide) (by decide)
  refine ⟨?_, fun name hname => h.isAllBlank_redactText hname (hseveral name) fields⟩
  rw [redactText, hnotBlank, hnotPlaceholder, redactBy, redactNames_eq_joinAll hsplit,
    h.split_joinAll, List.map_map, if_neg (by simp)]
  refine congrArg Name.joinAll (List.map_congr_left (fun name hname => ?_))
  exact (h.alone name hname).redactEntry_spaced _
    (fun hplaceholder => (h.spaced name hname hplaceholder).resolve_right
      (fun hsingle => hseveral name hsingle.2))

/-- The joined names are redacted to the redacted names, joined without those that nothing is left
of. -/
theorem redactText_joinAll [Patterns] (h : JoinPlainly names) (hne : names ≠ [])
    (fields : Dictionary)
    : redactText (searchedNames fields) .nameList (Name.joinAll names)
      = Name.joinAll ((names.map (redactText (searchedNames fields) .name)).filter
          (fun text => !Text.isAllBlank text)) := by
  rcases Name.names_cases names with rfl | ⟨name, rfl⟩ | ⟨front, last, hfront, rfl⟩
  · exact absurd rfl hne
  · have hname := h.alone name (by simp)
    have hsame := hname.redactText_nameList (searchedNames fields)
      (fun hplaceholder => (h.spaced name (by simp) hplaceholder).imp_right (·.1))
    rw [Name.joinAll, hsame, List.map_singleton, List.filter_singleton]
    cases hblank : Text.isAllBlank (redactText (searchedNames fields) .name name) with
    | false => rfl
    | true => exact hname.redactText_eq_nil hblank
  · obtain ⟨hredacted, hshown⟩ := h.redactText_joinAll_of_concat hfront fields
    have hkept : ∀ text ∈ (front ++ [last]).map (redactText (searchedNames fields) .name),
        (!Text.isAllBlank text) = true := by
      rw [List.forall_mem_map]
      intro name hname
      rw [hshown name hname]
      rfl
    rw [hredacted, List.filter_eq_self.mpr hkept]

end JoinPlainly

end Redaction

namespace Document

-----------------------------------------------------------------------------------------
-- Slots of a prepared form
-----------------------------------------------------------------------------------------

/-- The texts of the slots of the tenants that are not blank, joined. -/
def joinedSlots (fields : Dictionary) : Text :=
  Name.joinAll ((Role.tenant.slots.filterMap (fun (slot : Field) =>
    Dictionary.text? fields slot)).filter (fun text => !Text.isAllBlank text))

/-- A slot gets its own text, trimmed, or an empty one. -/
theorem change_slot (tag : Text) (moment : Calendar.Moment) (raw : Dictionary) {slot : Field}
    (hslot : slot ∈ Role.tenant.slots)
    : Resolution.change tag moment raw slot = .text (Resolution.filledOr raw slot []) := by
  cases slot with
  | primeiroLocatario | segundoLocatario | terceiroLocatario | quartoLocatario => rfl
  | _ => exact absurd hslot (by decide)

variable {settings : Settings} {raw : Dictionary}

/-- At the end a slot has its redacted name. -/
theorem text?_prepare_slot [Redaction.Patterns] (hredacts : settings.redacts = true)
    (moment : Calendar.Moment) {slot : Field} (hslot : slot ∈ Role.tenant.slots)
    (hnoList : ∀ name ∈ Party.slotNames .tenant raw, Redaction.spelledList? name = none)
    : Dictionary.text? (prepare settings moment raw) slot.name
      = some (Redaction.redactText
          (Redaction.searchedNames (Resolution.resolve settings.emphasisTag moment raw)) .name
          (Resolution.filledOr raw slot [])) := by
  have hplain : Redaction.spelledList? (Resolution.filledOr raw slot []) = none := by
    rw [Resolution.filledOr]
    cases hfilled : Dictionary.filled? raw slot.name with
    | none => rfl
    | some name => exact hnoList name (List.mem_filterMap.mpr ⟨slot, hslot, hfilled⟩)
  have hrule := Resolution.rule_of_slot hslot
  rw [Dictionary.text?, get?_prepare hredacts, change_slot _ _ _ hslot]
  simp only [Change.text, Change.on, Option.map_some, Redaction.redactField, hrule,
    Redaction.redactValue, hplain]
  rfl

/-- What is made of the slots one by one, and what is made of those that are filled; by induction on
the slots. -/
theorem filter_filledOr {redacted : Text → Text} (hnil : Text.isAllBlank (redacted []) = true)
    (raw : Dictionary) (slots : List Field)
    : (slots.map (fun slot => redacted (Resolution.filledOr raw slot []))).filter
          (fun text => !Text.isAllBlank text)
      = ((slots.filterMap (fun (slot : Field) => Dictionary.filled? raw slot)).map redacted).filter
          (fun text => !Text.isAllBlank text) := by
  induction slots with
  | nil => rfl
  | cons slot slots ih =>
      rw [List.map_cons, List.filterMap_cons, Resolution.filledOr]
      cases Dictionary.filled? raw slot.name with
      | none =>
          rw [Option.getD_none, List.filter_cons_of_neg (by simp [hnil])]
          exact ih
      | some name =>
          rw [Option.getD_some, List.map_cons, List.filter_cons, List.filter_cons, ih]

/-- The slots of a prepared form are the redacted names of those that the form fills. -/
theorem joinedSlots_prepare [Redaction.Patterns] (hredacts : settings.redacts = true)
    (moment : Calendar.Moment)
    (hnoList : ∀ name ∈ Party.slotNames .tenant raw, Redaction.spelledList? name = none)
    : joinedSlots (prepare settings moment raw)
      = Name.joinAll (((Party.slotNames .tenant raw).map (Redaction.redactText
          (Redaction.searchedNames (Resolution.resolve settings.emphasisTag moment raw))
          .name)).filter (fun text => !Text.isAllBlank text)) := by
  have htexts : Role.tenant.slots.filterMap (fun (slot : Field) =>
        Dictionary.text? (prepare settings moment raw) slot)
      = Role.tenant.slots.map (fun slot => Redaction.redactText
          (Redaction.searchedNames (Resolution.resolve settings.emphasisTag moment raw)) .name
          (Resolution.filledOr raw slot [])) := by
    rw [← List.filterMap_eq_map]
    exact List.filterMap_congr (fun slot hslot => text?_prepare_slot hredacts moment hslot hnoList)
  rw [joinedSlots, htexts, filter_filledOr rfl]
  rfl

/-- The joined names are those of the slots, unless a name was filled in. -/
theorem change_joined (tag : Text) (moment : Calendar.Moment)
    (hname : Dictionary.filled? raw Field.nomeLocatario = none)
    (hslots : Party.slotNames .tenant raw ≠ []) {field : Field}
    (hfield : field ∈ [Field.nomeLocatario, .nomeLocatarioFormatado])
    : Resolution.change tag moment raw field
      = .text (Name.joinAll (Party.slotNames .tenant raw)) := by
  rcases List.mem_pair.mp hfield with rfl | rfl
  · exact congrArg Change.text (Resolution.tenantFullName_of_slots hname hslots)
  · refine congrArg Change.text ?_
    rw [Resolution.namesOr, Party.names_of_slots hslots, if_neg hslots]

/-- The joined names of the tenants show what the slots show: in a redacted form they are its own
slots, joined. -/
theorem prepare_joinedSlots [Redaction.Patterns] (hredacts : settings.redacts = true)
    (moment : Calendar.Moment)
    (hname : Dictionary.filled? raw Field.nomeLocatario = none)
    (hslots : Party.slotNames .tenant raw ≠ [])
    (hjoin : Redaction.JoinPlainly (Party.slotNames .tenant raw))
    : ∀ field ∈ [Field.nomeLocatario, .nomeLocatarioFormatado],
        (prepare settings moment raw).get? field
          = some (.text (joinedSlots (prepare settings moment raw))) := by
  intro field hfield
  have hrules : ∀ field ∈ [Field.nomeLocatario, .nomeLocatarioFormatado],
      (field, Redaction.Rule.nameList) ∈ Redaction.rules := by
    decide
  have hrule := Redaction.ruleFor?_of_mem (hrules field hfield)
  rw [joinedSlots_prepare hredacts moment (fun name hmem => (hjoin.alone name hmem).noList),
    ← hjoin.redactText_joinAll hslots, get?_prepare hredacts,
    change_joined _ _ hname hslots hfield]
  simp only [Change.text, Change.on, Option.map_some, Redaction.redactField, hrule,
    Redaction.redactValue, hjoin.noList]

/-- A form with the first two slots. -/
def twoSlots (first second : Text) : Dictionary :=
  (formOf .primeiroLocatario first).insert Field.segundoLocatario.name (.text second)

/-- A name with blanks around it, and one that is not known yet. -/
def oneToBeNamed : Dictionary :=
  twoSlots " Ana  Maria Souza " "[A DEFINIR]"

/-- A slot with a placeholder is joined to a redacted name. -/
theorem prepare_joinedSlots_oneToBeNamed
    : joinedSlots (prepare redacting morning oneToBeNamed) = "Ana S. e [A DEFINIR]"
      ∧ (prepare redacting morning oneToBeNamed).get? Field.nomeLocatario
        = some (.text (joinedSlots (prepare redacting morning oneToBeNamed)))
      ∧ (prepare redacting morning oneToBeNamed).get? Field.nomeLocatarioFormatado
        = some (.text (joinedSlots (prepare redacting morning oneToBeNamed))) := by
  have hnames : Party.slotNames .tenant oneToBeNamed
      = [("Ana  Maria Souza" : Text), "[A DEFINIR]"] := by
    decide +kernel
  have hjoin : Redaction.JoinPlainly (Party.slotNames .tenant oneToBeNamed) := by
    rw [hnames]
    refine ⟨?_, ?_, ?_, by decide +kernel⟩
    · intro name hname
      rcases List.mem_pair.mp hname with rfl | rfl
      · exact ⟨by decide +kernel, absurd (by decide +kernel), by decide +kernel⟩
      · exact ⟨by decide +kernel, absurd (by decide +kernel), by decide +kernel⟩
    · intro name hname hplaceholder
      rcases List.mem_pair.mp hname with rfl | rfl
      · exact absurd hplaceholder (by decide +kernel)
      · exact Or.inl (by decide +kernel)
    · intro name hname word hword
      have hlength : (Text.words name).length = 1 := congrArg List.length hword
      rcases List.mem_pair.mp hname with rfl | rfl
      · exact absurd hlength (by decide +kernel)
      · exact absurd hlength (by decide +kernel)
  have hjoined := @prepare_joinedSlots redacting oneToBeNamed _ rfl morning (by decide +kernel)
    (by decide +kernel) hjoin
  refine ⟨?_, hjoined _ (by decide), hjoined _ (by decide)⟩
  simp only [joinedSlots, Dictionary.text?, @get?_prepare _ redacting rfl]
  decide +kernel

/-- A form with slots and without joined names, whose prepared joined names are not its slots. -/
def JoinsOtherwise [Redaction.Patterns] (raw : Dictionary) : Prop :=
  Dictionary.filled? raw Field.nomeLocatario = none ∧ Party.slotNames .tenant raw ≠ []
    ∧ ∀ field ∈ [Field.nomeLocatario, .nomeLocatarioFormatado],
        (prepare redacting morning raw).get? field
          ≠ some (.text (joinedSlots (prepare redacting morning raw)))

/-- Slots that are not read as the one name that they hold tell otherwise than the joined names. -/
theorem joinsOtherwise_where_misread
    : JoinsOtherwise (twoSlots "Ana Souza e Silva" "")
      ∧ JoinsOtherwise (twoSlots "Ana Souza, Silva" "")
      ∧ JoinsOtherwise (twoSlots "Ana\nSouza" "")
      ∧ JoinsOtherwise (twoSlots "<b>Ana Souza</b>" "")
      ∧ JoinsOtherwise (twoSlots "<b></b>" "")
      ∧ JoinsOtherwise (twoSlots "[\"Ana Souza\"]" "Bia Lima")
      ∧ JoinsOtherwise (twoSlots "[\"Ana" "Souza Lima\"]")
      ∧ JoinsOtherwise (twoSlots "[NOME  A]" "Bia Lima")
      ∧ JoinsOtherwise (twoSlots "[NOME\tA]" "Bia Lima")
      ∧ JoinsOtherwise (twoSlots "\x7b\x7d" "Bia Lima") := by
  -- A field at a time is looked at, as the kernel takes long to build the whole form.
  simp only [JoinsOtherwise, joinedSlots, Dictionary.text?, @get?_prepare _ redacting rfl]
  decide +kernel

end Document

end LeasePapers
