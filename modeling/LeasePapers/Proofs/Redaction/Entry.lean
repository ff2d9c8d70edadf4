import LeasePapers.Proofs.Name.Single
import LeasePapers.Proofs.Redaction.Alike
import LeasePapers.Proofs.Redaction.Braces
import LeasePapers.Proofs.Text.Upper

/-! The redacted names of a list, read again. The dot behind an initial, the tags around a name and
the brackets of a placeholder keep a redacted name one name: it is read as no separator, it is not
lost, and it does not fall into two.
-/

namespace LeasePapers.Redaction

-----------------------------------------------------------------------------------------
-- One name
-----------------------------------------------------------------------------------------

/-- A name is missing, or one word, or shown by its first word and an initial. -/
theorem redactName_cases (full : Text)
    : Text.words full = [] ∧ redactName full = nameMissing
      ∨ (∃ word, Text.words full = [word] ∧ redactName full = Text.withoutBraces word)
      ∨ ∃ first second rest, ∃ last ∈ full, Text.isBlank last = false
        ∧ Text.words full = first :: second :: rest
        ∧ redactName full = Text.withoutBraces first
            ++ ' ' :: (Text.withoutBraces (Text.upperChar last) ++ ['.']) := by
  match hwords : Text.words full with
  | [] => exact Or.inl ⟨rfl, by rw [redactName, hwords]⟩
  | [word] => exact Or.inr (Or.inl ⟨word, rfl, by rw [redactName, hwords]⟩)
  | first :: second :: rest =>
      have hlast : (second :: rest).getLastD [] ∈ Text.words full := by
        rw [hwords, List.getLastD_cons]
        exact List.mem_cons_of_mem first List.getLastD_mem_cons
      obtain ⟨hne, hblank⟩ := Text.word_of_mem_words hlast
      obtain ⟨c, more, hc⟩ := List.exists_cons_of_ne_nil hne
      have hmem : c ∈ (second :: rest).getLastD [] := hc ▸ List.mem_cons_self
      refine Or.inr (Or.inr ⟨first, second, rest, c, Text.mem_of_mem_words hlast hmem,
        hblank c hmem, rfl, ?_⟩)
      have hinitialed : initialed first ((second :: rest).getLastD [])
          = first ++ ' ' :: (Text.upperChar c ++ ['.']) := by
        rw [initialed, hc]
        simp
      rw [redactName, hwords]
      simp only [hinitialed]
      simp [Text.withoutBraces, Text.isBrace]

/-- Taking out braces leaves characters that end no word. -/
theorem whole_withoutBraces {text : Text} (h : ∀ c ∈ text, Name.endsWord c = false)
    : ∀ c ∈ Text.withoutBraces text, Name.endsWord c = false :=
  fun c hc => h c (List.mem_of_mem_filter hc)

/-- The initial of a word is read as part of a word. -/
theorem whole_initial {c : Char} (hblank : Text.isBlank c = false)
    (hmark : Name.Separator.ofChar? c = none)
    : ∀ d ∈ Text.withoutBraces (Text.upperChar c) ++ ['.'], Name.endsWord d = false := by
  have hcomma : Text.isOwnCapital ',' = true := by decide
  have hupper : ∀ d ∈ Text.upperChar c, Name.endsWord d = false := by
    intro d hd
    rw [Name.endsWord, Text.isBlank_of_mem_upperChar hblank hd, Bool.false_or,
      Option.isSome_eq_false_iff, Option.isNone_iff_eq_none, Name.Separator.ofChar?, if_neg, if_neg]
    · rintro rfl
      cases Text.isBlank_of_mem_upperChar hblank hd
    · rintro rfl
      rw [← Text.eq_of_mem_upperChar hcomma hd] at hmark
      cases hmark
  rw [List.forall_mem_append, List.forall_mem_singleton]
  exact ⟨whole_withoutBraces hupper, by decide⟩

/-- Between tags a redacted name parts no names: it has no words between its first and its last one,
or it is the placeholder for a missing name. -/
theorem isUnparted_redactName {full : Text} (h : ∀ c ∈ full, Name.Separator.ofChar? c = none)
    : Name.IsUnparted (redactName full) := by
  have hwhole : ∀ word ∈ Text.words full, ∀ c ∈ word, Name.endsWord c = false := by
    intro word hword c hc
    rw [Name.endsWord, (Text.word_of_mem_words hword).2 c hc, h c (Text.mem_of_mem_words hword hc)]
    rfl
  rcases redactName_cases full with ⟨-, hname⟩ | ⟨word, hwords, hname⟩
    | ⟨first, second, rest, last, hlast, hblank, hwords, hname⟩
  · rw [hname]
    decide
  · rw [hname]
    exact Name.isUnparted_of_whole (whole_withoutBraces (hwhole word (by simp [hwords])))
  · rw [hname]
    exact Name.isUnparted_pair (whole_withoutBraces (hwhole first (by simp [hwords])))
      (whole_initial hblank (h last hlast))

/-- A single name without braces is redacted to a single name. -/
theorem isSingle_redactName {full : Text} (h : Name.IsSingle full) (hbrace : Text.BraceFree full)
    : Name.IsSingle (redactName full) := by
  have hsame : ∀ word ∈ Text.words full, Text.withoutBraces word = word := by
    intro word hword
    exact Text.withoutBraces_of_braceFree (fun c hc => hbrace c (Text.mem_of_mem_words hword hc))
  rcases redactName_cases full with ⟨hwords, -⟩ | ⟨word, hwords, hname⟩
    | ⟨first, second, rest, last, hlast, hblank, hwords, hname⟩
  · exact absurd hwords h.named
  · have hword : word ∈ Text.words full := by simp [hwords]
    rw [hname, hsame word hword]
    exact (h.isWord hword).isSingle
  · have hfirst : first ∈ Text.words full := by simp [hwords]
    rw [hname, hsame first hfirst]
    refine Name.isSingle_pair (h.isWord hfirst)
      ⟨by simp, whole_initial hblank (h.unmarked last hlast), ?_⟩
    simp [List.append_eq_cons_iff]

-----------------------------------------------------------------------------------------
-- Names in a list
-----------------------------------------------------------------------------------------

/-- A name in a list is redacted between its tags, left alone as a placeholder, or redacted as a
name; by induction on its length. -/
theorem redactEntry_induction {motive : Text → Text → Prop}
    (marked : ∀ tag inner, (∀ c ∈ tag, Text.isAsciiAlphanumeric c = true)
      → motive inner (redactEntry inner)
      → motive (Name.emphasize tag inner) (Name.emphasize tag (redactEntry inner)))
    (placeholder : ∀ entry, isPlaceholder entry = true → motive entry entry)
    (name : ∀ entry, motive entry (redactName entry)) (entry : Text)
    : motive entry (redactEntry entry) := by
  induction entry using redactEntry.induct with
  | case1 entry tag inner hsplit ih =>
      obtain ⟨rfl, hne, htag⟩ := eq_emphasize_of_splitEmphasis? hsplit
      rw [redactEntry_emphasize inner hne htag]
      exact marked tag inner htag ih
  | case2 entry hsplit hplaceholder =>
      rw [redactEntry_of_unmarked hsplit, if_pos hplaceholder]
      exact placeholder entry hplaceholder
  | case3 entry hsplit hplaceholder =>
      rw [redactEntry_of_unmarked hsplit, if_neg hplaceholder]
      exact name entry

/-- An unparted entry is unparted when it is redacted. -/
theorem isUnparted_redactEntry {entry : Text} (h : Name.IsUnparted entry)
    : Name.IsUnparted (redactEntry entry) := by
  refine redactEntry_induction (motive := fun entry redacted =>
    Name.IsUnparted entry → Name.IsUnparted redacted) ?_ ?_ ?_ entry h
  · intro tag inner htag ih hentry
    have hwhole := Name.whole_of_alphanumeric htag
    exact (Name.isUnparted_emphasize hwhole).mpr (ih ((Name.isUnparted_emphasize hwhole).mp hentry))
  · exact fun entry _ hentry => hentry
  · exact fun entry hentry => isUnparted_redactName hentry.unmarked

/-- Emphasis neither adds braces nor takes them away. -/
theorem braceFree_emphasize {tag inner : Text}
    (htag : ∀ c ∈ tag, Text.isAsciiAlphanumeric c = true)
    : Text.BraceFree (Name.emphasize tag inner) ↔ Text.BraceFree inner := by
  have hbare : Text.BraceFree tag := by
    intro c hc
    cases hbrace : Text.isBrace c with
    | false => rfl
    | true =>
        have hletter := htag c hc
        simp only [Text.isBrace, Bool.or_eq_true, beq_iff_eq] at hbrace
        rcases hbrace with rfl | rfl <;> cases hletter
  simp [Name.emphasize, hbare, Text.isBrace]

/-- An entry without braces is redacted to one without. -/
theorem braceFree_redactEntry {entry : Text} (h : Text.BraceFree entry)
    : Text.BraceFree (redactEntry entry) := by
  refine redactEntry_induction (motive := fun entry redacted =>
    Text.BraceFree entry → Text.BraceFree redacted) ?_ ?_ ?_ entry h
  · intro tag inner htag ih hentry
    exact (braceFree_emphasize htag).mpr (ih ((braceFree_emphasize htag).mp hentry))
  · exact fun entry _ hentry => hentry
  · exact fun entry _ => braceFree_redactName entry

/-- A single name of a list is a single name once it is redacted. -/
theorem isSingle_redactEntry {entry : Text} (h : Name.IsSingle entry)
    (hbrace : Text.BraceFree entry)
    : Name.IsSingle (redactEntry entry) := by
  refine redactEntry_induction (motive := fun entry redacted =>
    Name.IsSingle entry → Text.BraceFree entry → Name.IsSingle redacted) ?_ ?_ ?_ entry h hbrace
  · intro tag inner htag _ hentry _
    have hwhole := Name.whole_of_alphanumeric htag
    have hinner := (Name.isUnparted_emphasize hwhole).mp hentry.isUnparted
    exact (isUnparted_redactEntry hinner).isSingle_emphasize hwhole
  · exact fun entry _ hentry _ => hentry
  · exact fun entry hentry hbrace => isSingle_redactName hentry hbrace

/-- What stands inside all tags of a name. -/
def innermost (entry : Text) : Text :=
  match _h : splitEmphasis? entry with
  | some (_, inner) => innermost inner
  | none => entry
termination_by entry.length
decreasing_by exact length_of_splitEmphasis? _h

/-- Inside of an emphasized entry stands what is inside of its text. -/
theorem innermost_of_marked {entry tag inner : Text}
    (h : splitEmphasis? entry = some (tag, inner))
    : innermost entry = innermost inner := by
  rw [innermost]
  split
  · rename_i hfound
    obtain ⟨-, rfl⟩ := Prod.mk.inj (Option.some.inj (hfound.symm.trans h))
    rfl
  · rename_i hnone
    rw [h] at hnone
    cases hnone

/-- An entry that is not emphasized is its own inside. -/
theorem innermost_of_unmarked {entry : Text} (h : splitEmphasis? entry = none)
    : innermost entry = entry := by
  rw [innermost]
  split
  · rename_i hfound
    rw [h] at hfound
    cases hfound
  · rfl

/-- Of a name of one word nothing but braces is lost, also between tags, unless there is nothing
between them; by induction on its length. -/
theorem withoutBraces_redactEntry {entry : Text} (hblank : ∀ c ∈ entry, Text.isBlank c = false)
    (hinside : innermost entry ≠ [])
    : Text.withoutBraces (redactEntry entry) = Text.withoutBraces entry := by
  induction entry using redactEntry.induct with
  | case1 entry tag inner hsplit ih =>
      rw [innermost_of_marked hsplit] at hinside
      obtain ⟨rfl, hne, htag⟩ := eq_emphasize_of_splitEmphasis? hsplit
      have hinner : ∀ c ∈ inner, Text.isBlank c = false :=
        fun c hc => hblank c (by simp [Name.emphasize, hc])
      rw [redactEntry_emphasize inner hne htag]
      simp only [Name.emphasize, Text.withoutBraces_append, ih hinner hinside]
  | case2 entry hsplit hplaceholder =>
      rw [redactEntry_of_unmarked hsplit, if_pos hplaceholder]
  | case3 entry hsplit hplaceholder =>
      rw [innermost_of_unmarked hsplit] at hinside
      rw [redactEntry_of_unmarked hsplit, if_neg hplaceholder, redactName,
        Text.words_of_not_blank hinside hblank]
      exact Text.withoutBraces_of_braceFree (Text.braceFree_withoutBraces entry)

-----------------------------------------------------------------------------------------
-- Lists
-----------------------------------------------------------------------------------------

/-- Braces are taken out of joined parts one by one. -/
theorem withoutBraces_join {separator : Text} (h : Text.BraceFree separator) (parts : List Text)
    : Text.withoutBraces (Text.join separator parts)
      = Text.join separator (parts.map Text.withoutBraces) := by
  match parts with
  | [] => rfl
  | [part] => rfl
  | part :: next :: rest =>
      have ih := withoutBraces_join h (next :: rest)
      simp only [Text.join, List.map_cons, Text.withoutBraces_append,
        Text.withoutBraces_of_braceFree h] at ih ⊢
      rw [ih]

/-- Braces are taken out of joined names one by one. -/
theorem withoutBraces_joinAll (names : List Text)
    : Text.withoutBraces (Name.joinAll names) = Name.joinAll (names.map Text.withoutBraces) := by
  have hcomma : Text.BraceFree Name.comma := by decide
  have hconjunction : Text.BraceFree Name.conjunction := by decide
  rcases Name.names_cases names with rfl | ⟨name, rfl⟩ | ⟨front, last, hfront, rfl⟩
  · rfl
  · rfl
  · have hmapped : front.map Text.withoutBraces ≠ [] := by simpa using hfront
    simp only [List.map_append, List.map_singleton]
    rw [Name.joinAll_concat hfront, Name.joinAll_concat hmapped, Text.withoutBraces_append,
      Text.withoutBraces_append, withoutBraces_join hcomma,
      Text.withoutBraces_of_braceFree hconjunction]

/-- A list that names somebody is redacted name by name. -/
theorem redactNames_eq_joinAll {text : Text} (h : Name.split text ≠ [])
    : redactNames text
      = Name.joinAll ((Name.split text).map (fun entry =>
          Text.withoutBraces (redactEntry entry))) := by
  rw [redactNames]
  split
  · rename_i hnil
    exact absurd hnil h
  · rw [withoutBraces_joinAll, List.map_map]
    rfl

/-- As many names are read in a redacted list as in the list itself. -/
theorem length_split_redactNames {text : Text} (hbrace : Text.BraceFree text)
    (hne : Name.split text ≠ [])
    : (Name.split (redactNames text)).length = (Name.split text).length := by
  have hsingle : ∀ entry ∈ Name.split text,
      (Name.split (Text.withoutBraces (redactEntry entry))).length = 1 := by
    intro entry hentry
    have hfree : Text.BraceFree entry := by
      intro c hc
      rcases Name.mem_of_mem_split hentry hc with rfl | hmem
      · rfl
      · exact hbrace c hmem
    have hredacted := isSingle_redactEntry (Name.isSingle_of_mem_split hentry) hfree
    rw [Text.withoutBraces_of_braceFree (braceFree_redactEntry hfree), hredacted.split_eq]
    rfl
  rw [redactNames_eq_joinAll hne, Name.split_joinAll, List.flatMap_map, List.length_flatMap,
    List.map_congr_left hsingle]
  simp

end LeasePapers.Redaction
