import LeasePapers.Proofs.Name.Canonical
import LeasePapers.Proofs.Redaction.Entry
import LeasePapers.Settings.Basic

/-! Joined names, redacted. The tags around a name are found again and the commas and `e` between
names part them again, so that a list is redacted to the list of its redacted names.
-/

namespace LeasePapers

namespace Name

variable {tag : Text}

/-- A canonical name stays one with a tag that ends no word, the empty one included. -/
theorem IsCanonical.mark {name : Text} (h : IsCanonical name)
    (htag : ∀ c ∈ tag, endsWord c = false)
    : IsCanonical (mark tag name) := by
  rw [Name.mark]
  split
  · exact h
  · exact h.emphasize htag

/-- Joined names are split into the names with their tags. -/
theorem split_joinEmphasized {names : List Text} (htag : ∀ c ∈ tag, endsWord c = false)
    (h : ∀ name ∈ names, IsCanonical name)
    : split (joinEmphasized tag names) = names.map (mark tag) := by
  rw [joinEmphasized_eq]
  refine split_joinAll_of_isCanonical (fun marked hmarked => ?_)
  obtain ⟨name, hname, rfl⟩ := List.mem_map.mp hmarked
  exact (h name hname).mark htag

end Name

namespace Redaction

/-- A name of a list that is no placeholder and does not begin like a tag. -/
structure IsPlainName (name : Text) : Prop where
  canonical : Name.IsCanonical name
  notPlaceholder : isPlaceholder name = false
  notMarked : name.head? ≠ some '<'

/-- Whether a name is plain is found out by reading it. -/
instance (name : Text) : Decidable (IsPlainName name) :=
  decidable_of_iff
    (Name.IsCanonical name ∧ isPlaceholder name = false ∧ name.head? ≠ some '<')
    ⟨fun ⟨hcanonical, hplaceholder, hmarked⟩ => ⟨hcanonical, hplaceholder, hmarked⟩,
      fun h => ⟨h.canonical, h.notPlaceholder, h.notMarked⟩⟩

/-- A plain name is redacted as a name, and not as an emphasized entry or a placeholder. -/
theorem IsPlainName.redactEntry_eq {name : Text} (h : IsPlainName name)
    : redactEntry name = redactName name := by
  rw [redactEntry_of_unmarked (splitEmphasis?_of_head h.notMarked), h.notPlaceholder]
  rfl

section

variable {tag name : Text} (htag : ∀ c ∈ tag, Text.isAsciiAlphanumeric c = true)

include htag

/-- A name is redacted between its tags. -/
theorem redactEntry_mark (h : IsPlainName name)
    : redactEntry (Name.mark tag name) = Name.mark tag (redactName name) := by
  rw [Name.mark, Name.mark]
  split
  · exact h.redactEntry_eq
  · rename_i hne
    rw [redactEntry_emphasize name hne htag, h.redactEntry_eq]

/-- A redacted name has no brace, and its tag brings none. -/
theorem braceFree_mark_redactName : Text.BraceFree (Name.mark tag (redactName name)) := by
  rw [Name.mark]
  split
  · exact braceFree_redactName name
  · exact (braceFree_emphasize htag).mpr (braceFree_redactName name)

end

/-- A list of names, joined with any tag that settings may have, is redacted to its redacted names,
joined with the same tag. -/
theorem redactNames_joined {settings : Settings} (hvalid : settings.fault? = none)
    {names : List Text} (hne : names ≠ []) (h : ∀ name ∈ names, IsPlainName name)
    : redactNames (Name.joinEmphasized settings.emphasisTag names)
      = Name.joinEmphasized settings.emphasisTag (names.map redactName) := by
  have htag := (Settings.fault?_eq_none_iff.mp hvalid).2.1
  have hsplit : Name.split (Name.joinEmphasized settings.emphasisTag names)
      = names.map (Name.mark settings.emphasisTag) :=
    Name.split_joinEmphasized (Name.whole_of_alphanumeric htag)
      (fun name hname => (h name hname).canonical)
  have hentry : ∀ name ∈ names,
      Text.withoutBraces (redactEntry (Name.mark settings.emphasisTag name))
        = Name.mark settings.emphasisTag (redactName name) := by
    intro name hname
    rw [redactEntry_mark htag (h name hname)]
    exact Text.withoutBraces_of_braceFree (braceFree_mark_redactName htag)
  have hnamed : Name.split (Name.joinEmphasized settings.emphasisTag names) ≠ [] := by
    rw [hsplit]
    simpa using hne
  rw [redactNames_eq_joinAll hnamed, hsplit, List.map_map, Name.joinEmphasized_eq, List.map_map]
  exact congrArg Name.joinAll (List.map_congr_left hentry)

/-- Three names: a full one, a single word, and an initial with a surname. -/
def threeNames : List Text :=
  ["Ana de Souza", "\x7bRafael\x7d", "E. Lima"]

/-- The three names as they are joined with emphasis. -/
def writtenNames : Text :=
  "<strong>Ana de Souza</strong>, <strong>\x7bRafael\x7d</strong> e <strong>E. Lima</strong>"

/-- Three emphasized names are redacted one by one. -/
theorem redactNames_joined_threeNames
    : Settings.default.fault? = none ∧ threeNames ≠ [] ∧ (∀ name ∈ threeNames, IsPlainName name)
      ∧ redactNames writtenNames
        = "<strong>Ana S.</strong>, <strong>Rafael</strong> e <strong>E. L.</strong>" := by
  have hvalid : Settings.default.fault? = none := by decide
  have hne : threeNames ≠ [] := by decide
  have hnames : ∀ name ∈ threeNames, IsPlainName name := by decide +kernel
  have hjoined : Name.joinEmphasized Settings.default.emphasisTag threeNames = writtenNames := by
    decide +kernel
  have hredacted : Name.joinEmphasized Settings.default.emphasisTag (threeNames.map redactName)
      = "<strong>Ana S.</strong>, <strong>Rafael</strong> e <strong>E. L.</strong>" := by
    decide +kernel
  rw [← hjoined, ← hredacted]
  exact ⟨hvalid, hne, hnames, redactNames_joined hvalid hne hnames⟩

end Redaction

end LeasePapers
