import LeasePapers.Proofs.Yaml.Members
import LeasePapers.Settings.Yaml

/-! Settings survive their YAML form. Whatever the texts look like to a reader of YAML (numbers,
truth values, comments, mappings, quotes, nothing at all), they come back as they are. Only a line
feed is excluded, which makes a block of a text; other line breaks and control characters are
quoted.
-/

namespace LeasePapers.Settings

/-- The texts that settings hold. -/
def texts (settings : Settings) : List Text :=
  settings.dateKeywords ++ settings.blankWhenMissing
    ++ [settings.currencySymbol, settings.emphasisTag]

/-- No text of the settings has a line feed. -/
def HasNoLineFeeds (settings : Settings) : Prop :=
  ∀ text ∈ settings.texts, '\n' ∉ text

/-- Whether there are line feeds is seen from the texts. -/
instance (settings : Settings) : Decidable settings.HasNoLineFeeds :=
  inferInstanceAs (Decidable (∀ text ∈ settings.texts, '\n' ∉ text))

-----------------------------------------------------------------------------------------
-- Members as they are written
-----------------------------------------------------------------------------------------

/-- A truth value as it is written. -/
def truthText (truth : Bool) : Text :=
  if truth then "true" else "false"

/-- A member of settings as it is written, with what it is read as and stands for. -/
def entry (settings : Settings) (member : Member) : Yaml.Entry :=
  match member with
  | .dateKeywords => Yaml.listEntry member.key settings.dateKeywords
  | .blankWhenMissing => Yaml.listEntry member.key settings.blankWhenMissing
  | .currencySymbol => Yaml.scalarEntry member.key settings.currencySymbol
  | .emphasisTag => Yaml.scalarEntry member.key settings.emphasisTag
  | .redacts =>
      ⟨member.key, ' ' :: (truthText settings.redacts ++ ['\n']),
        .scalar (truthText settings.redacts) .plain,
        .scalar (truthText settings.redacts) .plain none⟩

/-- A member has its own key. -/
theorem entry_key (settings : Settings) (member : Member)
    : (settings.entry member).key = member.key := by
  cases member <;> rfl

/-- The names of the members are keys. -/
theorem Member.isKey_key (member : Member) : Yaml.IsKey member.key := by
  cases member <;> exact ⟨by decide, List.all_eq_true.mp rfl, by decide⟩

/-- A truth value is read back as a plain scalar. -/
theorem spellsTree_truthText (truth : Bool)
    : Yaml.SpellsTree (truthText truth) (.scalar (truthText truth) .plain) := by
  cases truth <;> exact Yaml.spellsTree_plain (by decide) (by decide)

/-- A truth value is printable. -/
theorem printable_truthText (truth : Bool) : Yaml.Printable (truthText truth) := by
  cases truth <;> exact List.all_eq_true.mp rfl

section

variable {settings : Settings} (h : settings.HasNoLineFeeds)

include h

/-- The keywords of dates have no line feeds. -/
theorem HasNoLineFeeds.dateKeywords : ∀ keyword ∈ settings.dateKeywords, '\n' ∉ keyword :=
  fun keyword hkeyword => h keyword (by simp [texts, hkeyword])

/-- The fields that are left blank have no line feeds. -/
theorem HasNoLineFeeds.blankWhenMissing : ∀ field ∈ settings.blankWhenMissing, '\n' ∉ field :=
  fun field hfield => h field (by simp [texts, hfield])

/-- The symbol of the currency has no line feed. -/
theorem HasNoLineFeeds.currencySymbol : '\n' ∉ settings.currencySymbol :=
  h _ (by simp [texts])

/-- The tag of emphasis has no line feed. -/
theorem HasNoLineFeeds.emphasisTag : '\n' ∉ settings.emphasisTag :=
  h _ (by simp [texts])

/-- Every member is written as the printer has it. -/
theorem entry_text (member : Member) : (settings.entry member).text = settings.memberText member := by
  cases member with
  | dateKeywords => exact Yaml.listEntry_text h.dateKeywords _
  | blankWhenMissing => exact Yaml.listEntry_text h.blankWhenMissing _
  | currencySymbol => exact Yaml.scalarEntry_text h.currencySymbol _
  | emphasisTag => exact Yaml.scalarEntry_text h.emphasisTag _
  | redacts =>
      rw [entry, memberText, Yaml.Entry.text, truthText]
      cases settings.redacts <;> rfl

/-- Every member is read as it is written. -/
theorem entry_sound (member : Member) : (settings.entry member).Sound := by
  cases member with
  | dateKeywords => exact Yaml.listEntry_sound h.dateKeywords (Member.isKey_key _)
  | blankWhenMissing => exact Yaml.listEntry_sound h.blankWhenMissing (Member.isKey_key _)
  | currencySymbol => exact Yaml.scalarEntry_sound h.currencySymbol (Member.isKey_key _)
  | emphasisTag => exact Yaml.scalarEntry_sound h.emphasisTag (Member.isKey_key _)
  | redacts =>
      exact ⟨Member.isKey_key .redacts, Yaml.spellsValue_line (spellsTree_truthText _),
        Yaml.standsFor_scalar _ .plain⟩

/-- Every member is printable. -/
theorem printable_entry (member : Member) : Yaml.Printable (settings.entry member).text := by
  cases member with
  | dateKeywords => exact Yaml.printable_listEntry h.dateKeywords (Member.isKey_key _)
  | blankWhenMissing => exact Yaml.printable_listEntry h.blankWhenMissing (Member.isKey_key _)
  | currencySymbol => exact Yaml.printable_scalarEntry h.currencySymbol (Member.isKey_key _)
  | emphasisTag => exact Yaml.printable_scalarEntry h.emphasisTag (Member.isKey_key _)
  | redacts =>
      exact (Member.isKey_key _).printable_text (Yaml.printable_line (printable_truthText _)) _ _

/-- The document that is written is read as the mapping of all members. -/
theorem ofText?_toYaml
    : Yaml.ofText? settings.toYaml
      = some (.mapping (Member.all.map (fun member => (settings.entry member).pair))) := by
  have htext : settings.toYaml = (Member.all.map settings.entry).flatMap Yaml.Entry.text := by
    rw [List.flatMap_map, toYaml]
    exact List.flatMap_congr (fun member _ => (entry_text h member).symm)
  have hsound : ∀ entry ∈ Member.all.map settings.entry, entry.Sound :=
    List.forall_mem_map.mpr (fun member _ => entry_sound h member)
  have hprint : Yaml.Printable ((Member.all.map settings.entry).flatMap Yaml.Entry.text) := by
    intro c hc
    obtain ⟨entry, hentry, hc⟩ := List.mem_flatMap.mp hc
    obtain ⟨member, -, rfl⟩ := List.mem_map.mp hentry
    exact printable_entry h member c hc
  rw [htext, Yaml.ofText?_entries (by simp [Member.all]) hsound hprint, List.map_map]
  rfl

end

-----------------------------------------------------------------------------------------
-- Members as they are read
-----------------------------------------------------------------------------------------

/-- Settings with one member of others. -/
def withMember (settings source : Settings) : Member → Settings
  | .dateKeywords => { settings with dateKeywords := source.dateKeywords }
  | .blankWhenMissing => { settings with blankWhenMissing := source.blankWhenMissing }
  | .currencySymbol => { settings with currencySymbol := source.currencySymbol }
  | .emphasisTag => { settings with emphasisTag := source.emphasisTag }
  | .redacts => { settings with redacts := source.redacts }

/-- A member is found by its key. -/
theorem Member.ofKey?_key (member : Member) : Member.ofKey? member.key = some member := by
  cases member <;> decide

/-- A sequence of scalars is the list of their texts, by induction on it. An empty one is the empty
list, and no value that is left out. -/
theorem textList?_asScalar (items : List Text)
    : textList? (.sequence (items.map Yaml.asScalar)) = some items := by
  rw [textList?]
  induction items with
  | nil => rfl
  | cons item items ih =>
      rw [List.map_cons, List.mapM_cons, ih]
      rfl

/-- A truth value is read as it is written. -/
theorem truth?_truthText (truth : Bool)
    : truth? (.scalar (truthText truth) .plain none) = some truth := by
  cases truth <;> decide

/-- Each member is read from what it is written as. -/
theorem setMember?_entry (settings source : Settings) (member : Member)
    : settings.setMember? (source.entry member).node member
      = some (settings.withMember source member) := by
  cases member with
  | dateKeywords => simp [setMember?, entry, Yaml.listEntry, textList?_asScalar, withMember]
  | blankWhenMissing => simp [setMember?, entry, Yaml.listEntry, textList?_asScalar, withMember]
  | currencySymbol => rfl
  | emphasisTag => rfl
  | redacts => simp [setMember?, entry, truth?_truthText, withMember]

/-- Members that are all different, and not among those that have been read, are read one after the
other, by induction on them. -/
theorem setMembers?_entries (source : Settings) {members : List Member} (hnodup : members.Nodup)
    (settings : Settings) {read : List Member} (hread : ∀ member ∈ members, member ∉ read)
    : setMembers? settings read (members.map (fun member => (source.entry member).pair))
      = some (members.foldl (fun settings member => settings.withMember source member) settings) := by
  induction members generalizing settings read with
  | nil => rfl
  | cons member members ih =>
      obtain ⟨hmember, hnodup⟩ := List.nodup_cons.mp hnodup
      obtain ⟨hnew, hread⟩ := List.forall_mem_cons.mp hread
      have hmore : ∀ next ∈ members, next ∉ member :: read := by
        intro next hnext hmem
        rcases List.mem_cons.mp hmem with rfl | hmem
        · exact hmember hnext
        · exact hread next hnext hmem
      have hcontains : read.contains member = false := by simpa using hnew
      rw [List.map_cons, List.foldl_cons, ← ih hnodup (settings.withMember source member) hmore]
      simp only [Yaml.Entry.pair, entry_key, setMembers?, scalarText?, Option.bind_some,
        Member.ofKey?_key, hcontains, Bool.false_eq_true, if_false, setMember?_entry]

/-- The mapping of all members is read as the settings that it was made from. -/
theorem ofNode?_entries (settings : Settings)
    : ofNode? (.mapping (Member.all.map (fun member => (settings.entry member).pair)))
      = some settings := by
  rw [ofNode?, setMembers?_entries settings (by decide) default (by simp)]
  rfl

/-- What is written is read back, and checked. -/
theorem ofYaml_toYaml_eq_checked {settings : Settings} (h : settings.HasNoLineFeeds)
    : ofYaml settings.toYaml = settings.checked := by
  rw [ofYaml, ofText?_toYaml h, Option.bind_some, ofNode?_entries]

/-- Settings that nothing is wrong with, and whose texts have no line feeds, come back unchanged
from their YAML form. -/
theorem ofYaml_toYaml (settings : Settings) (hsound : settings.fault? = none)
    (hlines : settings.HasNoLineFeeds)
    : ofYaml settings.toYaml = .ok settings := by
  rw [ofYaml_toYaml_eq_checked hlines, checked, hsound]

/-- Settings whose texts look like a number, a truth value, a comment, an item, a mapping, a quote
and nothing, with an empty list in place of the default one. -/
def lookalikes : Settings :=
  { dateKeywords := ["1e3", "true", "# data", "- data", "data: 1", "it's \"dia\"", "~"]
    blankWhenMissing := []
    currencySymbol := ""
    emphasisTag := "null"
    redacts := false }

/-- Texts that look like other kinds of values come back as texts. -/
theorem ofYaml_toYaml_lookalikes
    : lookalikes.fault? = none ∧ lookalikes.HasNoLineFeeds
      ∧ ofYaml lookalikes.toYaml = .ok lookalikes :=
  have hsound : lookalikes.fault? = none := by decide
  have hlines : lookalikes.HasNoLineFeeds := by decide
  ⟨hsound, hlines, ofYaml_toYaml lookalikes hsound hlines⟩

end LeasePapers.Settings
