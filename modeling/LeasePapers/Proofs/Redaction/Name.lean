import LeasePapers.Proofs.Name.Full
import LeasePapers.Proofs.Redaction.Lookup

/-! Redacted names: a full name shows its first word and the initial of its last one, alone, in a
list of names, and between emphasis tags. Texts without an opening bracket are neither placeholders
nor lists.
-/

namespace LeasePapers.Redaction

-----------------------------------------------------------------------------------------
-- Placeholders and lists
-----------------------------------------------------------------------------------------

/-- A text that a tail is dropped from ends with it. -/
theorem eq_append_of_dropTail? {tail text rest : Text} (h : Text.dropTail? tail text = some rest)
    : text = rest ++ tail := by
  rw [Text.dropTail?, Option.map_eq_some_iff] at h
  obtain ⟨back, hback, rfl⟩ := h
  have hreverse := congrArg List.reverse (Text.eq_append_of_dropLead? hback)
  simpa using hreverse

/-- What is bracketed stands in brackets. -/
theorem eq_of_bracketed? {text inner : Text} (h : bracketed? text = some inner)
    : text = '[' :: (inner ++ [']']) := by
  rw [bracketed?, Option.bind_eq_some_iff] at h
  obtain ⟨rest, hlead, htail⟩ := h
  rw [Text.eq_append_of_dropLead? hlead, eq_append_of_dropTail? htail]
  rfl

/-- Placeholders have no characters but capitals, digits and a few others between their brackets. -/
theorem not_isPlaceholder_of_mem {text : Text} {c : Char} (h : c ∈ text)
    (hblank : Text.isBlank c = false) (hopening : c ≠ '[') (hclosing : c ≠ ']')
    (hforeign : mayStandInPlaceholder c = false)
    : isPlaceholder text = false := by
  rw [isPlaceholder, Option.any_eq_false]
  intro inner hinner
  have htext := Text.mem_trim h hblank
  rw [eq_of_bracketed? hinner] at htext
  have hmem : c ∈ inner := by simpa [hopening, hclosing] using htext
  have hall : inner.all mayStandInPlaceholder = false :=
    List.all_eq_false.mpr ⟨c, hmem, by simp [hforeign]⟩
  rw [hall, Bool.and_false]

/-- A text that does not begin with a bracket is no placeholder. -/
theorem not_isPlaceholder_of_head {text : Text} (h : (Text.trimStart text).head? ≠ some '[')
    : isPlaceholder text = false := by
  rw [isPlaceholder, Option.any_eq_false]
  intro inner hinner
  obtain ⟨after, hafter⟩ := Text.prefix_trimEnd (Text.trimStart text)
  refine absurd ?_ h
  rw [← hafter, ← Text.trim, eq_of_bracketed? hinner]
  rfl

/-- A text that does not begin with a bracket is no list. -/
theorem not_spelledList?_of_head {text : Text} (h : (Text.trimStart text).head? ≠ some '[')
    : spelledList? text = none := by
  rw [spelledList?, if_neg h]

/-- A text that is not blank and does not begin with a bracket is redacted by its rule. -/
theorem redactable_of_head {text : Text} (hblank : Text.isAllBlank text = false)
    (h : (Text.trimStart text).head? ≠ some '[')
    : Redactable text :=
  ⟨hblank, not_isPlaceholder_of_head h, not_spelledList?_of_head h⟩

/-- A text that is not blank and has no bracket is redacted by its rule. -/
theorem redactable_of_not_mem {text : Text} (hblank : Text.isAllBlank text = false)
    (h : '[' ∉ text)
    : Redactable text := by
  refine redactable_of_head hblank (fun hhead => h ?_)
  exact (Text.trimStart_suffix text).subset (List.mem_of_mem_head? hhead)

/-- A full name is redacted by its rule. -/
theorem redactable_of_isFull {name : Text} (h : Name.IsFull name) : Redactable name :=
  redactable_of_not_mem h.notBlank (h.not_mem (by decide))

-----------------------------------------------------------------------------------------
-- Single names
-----------------------------------------------------------------------------------------

/-- Names are redacted by their words alone. -/
theorem redactName_of_words {name other : Text} (h : Text.words name = Text.words other)
    : redactName name = redactName other := by
  rw [redactName, redactName, h]

/-- A full name is redacted to its first word and an initial. -/
theorem redactName_of_isFull {name : Text} (h : Name.IsFull name)
    : redactName name
      = Text.withoutBraces
          ((Name.first? name).getD [] ++ [' '] ++ (Name.initial? name).getD [] ++ ['.']) := by
  have hseveral := h.several
  rw [redactName, Name.first?, Name.initial?]
  split
  · rename_i hwords
    simp [hwords] at hseveral
  · rename_i hwords
    simp [hwords] at hseveral
  · rename_i given second rest hwords
    rw [hwords, initialed, List.getLastD_eq_getLast?, List.getLast?_cons_cons]
    rw [List.getLast?_eq_some_getLast (List.cons_ne_nil second rest)]
    rfl

/-- Full names with the same first word and the same initial are redacted alike. -/
theorem redactName_congr {name other : Text} (h : Name.SameInitials name other)
    : redactName name = redactName other := by
  rw [redactName_of_isFull h.full, redactName_of_isFull h.otherFull, h.given, h.initial]

-----------------------------------------------------------------------------------------
-- Names in lists
-----------------------------------------------------------------------------------------

/-- A text is cut at the first mark in it, by induction on what stands before it. -/
theorem cutOnce_append {mark : Char} {before : Text} (after : Text) (h : mark ∉ before)
    : Text.cutOnce mark (before ++ mark :: after) = some (before, after) := by
  induction before with
  | nil => simp [Text.cutOnce]
  | cons c before ih =>
      rw [List.mem_cons, not_or] at h
      simp [Text.cutOnce, Ne.symm h.1, ih h.2]

/-- A tail is dropped from behind whatever stands before it. -/
theorem dropTail?_append (before tail : Text)
    : Text.dropTail? tail (before ++ tail) = some before := by
  rw [Text.dropTail?, List.reverse_append, Text.dropLead?_append]
  simp

/-- An emphasized text is split into its tag and what stands inside. -/
theorem splitEmphasis?_emphasize {tag : Text} (inner : Text) (hne : tag ≠ [])
    (htag : ∀ c ∈ tag, Text.isAsciiAlphanumeric c = true)
    : splitEmphasis? (Name.emphasize tag inner) = some (tag, inner) := by
  have hmark : '>' ∉ tag := by
    intro hmem
    cases htag _ hmem
  have hshape : Name.emphasize tag inner
      = '<' :: (tag ++ '>' :: (inner ++ (['<', '/'] ++ tag ++ ['>']))) := by
    simp [Name.emphasize]
  have hall : tag.all Text.isAsciiAlphanumeric = true := List.all_eq_true.mpr htag
  rw [hshape, splitEmphasis?]
  simp only [Text.dropLead?, if_pos, Option.bind_eq_bind, Option.bind_some,
    cutOnce_append _ hmark, dropTail?_append]
  rw [if_pos ⟨hne, hall⟩]

/-- A text is what stands before the mark, the mark, and what follows it, by induction on the text.
-/
theorem eq_append_of_cutOnce {mark : Char} {text before after : Text}
    (h : Text.cutOnce mark text = some (before, after))
    : text = before ++ mark :: after := by
  induction text generalizing before with
  | nil => cases h
  | cons c rest ih =>
      rw [Text.cutOnce] at h
      split at h
      · rename_i hmark
        obtain ⟨rfl, rfl⟩ := Prod.mk.inj (Option.some.inj h)
        rw [hmark]
        rfl
      · obtain ⟨⟨front, back⟩, hrest, hpair⟩ := Option.map_eq_some_iff.mp h
        obtain ⟨rfl, rfl⟩ := Prod.mk.inj hpair
        rw [ih hrest]
        rfl

/-- What is found between tags is marked with them. -/
theorem eq_emphasize_of_splitEmphasis? {entry tag inner : Text}
    (h : splitEmphasis? entry = some (tag, inner))
    : entry = Name.emphasize tag inner ∧ tag ≠ []
      ∧ ∀ c ∈ tag, Text.isAsciiAlphanumeric c = true := by
  simp only [splitEmphasis?, Option.bind_eq_bind, Option.bind_eq_some_iff, Prod.exists] at h
  obtain ⟨opened, hopened, found, rest, hcut, h⟩ := h
  split at h
  · rename_i htag
    simp only [Option.bind_eq_some_iff, Option.some.injEq, Prod.mk.injEq] at h
    obtain ⟨inside, hinside, rfl, rfl⟩ := h
    refine ⟨?_, htag.1, List.all_eq_true.mp htag.2⟩
    rw [Text.eq_append_of_dropLead? hopened, eq_append_of_cutOnce hcut,
      eq_append_of_dropTail? hinside]
    simp [Name.emphasize]
  · cases h

/-- An emphasized entry is redacted inside of its tags. -/
theorem redactEntry_emphasize {tag : Text} (inner : Text) (hne : tag ≠ [])
    (htag : ∀ c ∈ tag, Text.isAsciiAlphanumeric c = true)
    : redactEntry (Name.emphasize tag inner) = Name.emphasize tag (redactEntry inner) := by
  have hsplit := splitEmphasis?_emphasize inner hne htag
  rw [redactEntry]
  split
  · rename_i found within hfound
    obtain ⟨rfl, rfl⟩ : found = tag ∧ within = inner := by
      rw [hsplit] at hfound
      simpa [eq_comm] using hfound
    rfl
  · rename_i hnone
    rw [hsplit] at hnone
    cases hnone

/-- An entry that is not emphasized is redacted as a name, unless it is a placeholder. -/
theorem redactEntry_of_unmarked {entry : Text} (h : splitEmphasis? entry = none)
    : redactEntry entry = if isPlaceholder entry then entry else redactName entry := by
  rw [redactEntry]
  split
  · rename_i hfound
    rw [h] at hfound
    cases hfound
  · rfl

/-- An entry that does not begin with a tag is not emphasized. -/
theorem splitEmphasis?_of_head {entry : Text} (h : entry.head? ≠ some '<')
    : splitEmphasis? entry = none := by
  cases entry with
  | nil => rfl
  | cons c rest =>
      have hc : '<' ≠ c := fun he => h (congrArg some he.symm)
      simp [splitEmphasis?, Text.dropLead?, hc]

/-- A full name is redacted as a name when it is an entry. -/
theorem redactEntry_of_isFull {name : Text} (h : Name.IsFull name)
    : redactEntry name = redactName name := by
  have hangle : '<' ∉ name := h.not_mem (by decide)
  have hnone := splitEmphasis?_of_head (fun hhead => hangle (List.mem_of_mem_head? hhead))
  rw [redactEntry_of_unmarked hnone, (redactable_of_isFull h).notPlaceholder]
  rfl

/-- Names are redacted alike if their entries are, one by one. -/
theorem redactNames_congr {text other : Text}
    (h : (Name.split text).map redactEntry = (Name.split other).map redactEntry)
    : redactNames text = redactNames other := by
  have hshape : ∀ text, redactNames text
      = if (Name.split text).map redactEntry = [] then namesMissing
        else Text.withoutBraces (Name.joinAll ((Name.split text).map redactEntry)) := by
    intro text
    rw [redactNames]
    split
    · rename_i hnil
      simp [hnil]
    · rename_i hne
      rw [if_neg (by simpa using hne)]
  rw [hshape, hshape, h]

end LeasePapers.Redaction
