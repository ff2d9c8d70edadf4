import LeasePapers.Proofs.Name.Entry

/-! Texts that are read as a single name. Such a text has no comma and no line break, and none of
its words is the conjunction. Between two tags its first and its last word go together with the
tags, so that there only the words between them count.
-/

namespace LeasePapers.Name

-----------------------------------------------------------------------------------------
-- Single names
-----------------------------------------------------------------------------------------

/-- Whether no character of a text stands between names. -/
def isUnmarked (text : Text) : Bool :=
  text.all (fun c => (Separator.ofChar? c).isNone)

/-- A text is unmarked if no character of it is a separator. -/
theorem isUnmarked_eq_true_iff {text : Text}
    : isUnmarked text = true ↔ ∀ c ∈ text, Separator.ofChar? c = none := by
  simp [isUnmarked]

/-- A text that is read as one name. -/
structure IsSingle (text : Text) : Prop where
  unmarked : ∀ c ∈ text, Separator.ofChar? c = none
  named : Text.words text ≠ []
  noConjunction : ∀ word ∈ Text.words text, word ≠ ['e'] ∧ word ≠ ['E']

/-- Whether a text is a single name is seen from its characters and words. -/
instance (text : Text) : Decidable (IsSingle text) :=
  decidable_of_iff
    (isUnmarked text = true ∧ Text.words text ≠ []
      ∧ ∀ word ∈ Text.words text, word ≠ ['e'] ∧ word ≠ ['E'])
    ⟨fun ⟨hmarks, hnamed, hwords⟩ => ⟨isUnmarked_eq_true_iff.mp hmarks, hnamed, hwords⟩,
      fun h => ⟨isUnmarked_eq_true_iff.mpr h.unmarked, h.named, h.noConjunction⟩⟩

/-- A single name is split into itself, with single blanks between its words. -/
theorem IsSingle.split_eq {text : Text} (h : IsSingle text)
    : split text = [Text.join [' '] (Text.words text)] :=
  split_eq_singleton h.unmarked h.named h.noConjunction

/-- Words with spaces between them are one name. -/
theorem isSingle_join {parts : List Text} (hne : parts ≠ []) (h : ∀ word ∈ parts, IsWord word)
    : IsSingle (Text.join [' '] parts) := by
  have hwords := Text.words_join (fun word hword => (h word hword).notBlank)
  refine ⟨fun c hc => ?_, hwords.symm ▸ hne, ?_⟩
  · rcases Text.mem_join hc with hc | ⟨word, hword, hc⟩
    · rw [List.mem_singleton.mp hc]
      rfl
    · exact unmarked_of_whole (h word hword).whole c hc
  · rw [hwords]
    exact fun word hword => (h word hword).noConjunction

/-- The names in a free text are read as what they are. -/
theorem isSingle_of_mem_split {text entry : Text} (h : entry ∈ split text) : IsSingle entry := by
  obtain ⟨parts, hne, rfl, hparts⟩ := words_of_mem_split h
  exact isSingle_join hne hparts

/-- The words of a single name are words. -/
theorem IsSingle.isWord {text word : Text} (h : IsSingle text) (hword : word ∈ Text.words text)
    : IsWord word := by
  obtain ⟨hne, hblank⟩ := Text.word_of_mem_words hword
  refine ⟨hne, fun c hc => ?_, h.noConjunction word hword⟩
  rw [endsWord, hblank c hc, h.unmarked c (Text.mem_of_mem_words hword hc)]
  rfl

/-- A word is a single name. -/
theorem IsWord.isSingle {word : Text} (h : IsWord word) : IsSingle word := by
  have hwords := Text.words_of_not_blank h.ne_nil (not_blank_of_whole h.whole)
  refine ⟨unmarked_of_whole h.whole, hwords ▸ List.cons_ne_nil _ _, ?_⟩
  rw [hwords, List.forall_mem_singleton]
  exact h.noConjunction

/-- A blank between two words parts them. -/
theorem pieces_pair {first last : Text} (hfirst : ∀ c ∈ first, endsWord c = false)
    (hlast : ∀ c ∈ last, endsWord c = false)
    : Text.pieces Text.isBlank (first ++ ' ' :: last) = [first, last] := by
  rw [Text.pieces_append_cut first last (by decide),
    Text.pieces_of_not_cut (not_blank_of_whole hfirst),
    Text.pieces_of_not_cut (not_blank_of_whole hlast)]
  rfl

/-- A blank between two words is no separator. -/
theorem unmarked_pair {first last : Text} (hfirst : ∀ c ∈ first, endsWord c = false)
    (hlast : ∀ c ∈ last, endsWord c = false)
    : ∀ c ∈ first ++ ' ' :: last, Separator.ofChar? c = none := by
  rw [List.forall_mem_append, List.forall_mem_cons]
  exact ⟨unmarked_of_whole hfirst, by decide, unmarked_of_whole hlast⟩

/-- Two words are one name. -/
theorem isSingle_pair {first last : Text} (hfirst : IsWord first) (hlast : IsWord last)
    : IsSingle (first ++ ' ' :: last) := by
  have hwords : Text.words (first ++ ' ' :: last) = [first, last] := by
    simp [Text.words, pieces_pair hfirst.whole hlast.whole, hfirst.ne_nil, hlast.ne_nil]
  refine ⟨unmarked_pair hfirst.whole hlast.whole, hwords ▸ List.cons_ne_nil _ _, ?_⟩
  rw [hwords, List.forall_mem_cons, List.forall_mem_singleton]
  exact ⟨hfirst.noConjunction, hlast.noConjunction⟩

-----------------------------------------------------------------------------------------
-- Between tags
-----------------------------------------------------------------------------------------

/-- What stands between the blanks of a text. -/
def innerPieces (text : Text) : List Text :=
  (Text.pieces Text.isBlank text).tail.dropLast

/-- A text that parts no names between two tags. -/
structure IsUnparted (text : Text) : Prop where
  unmarked : ∀ c ∈ text, Separator.ofChar? c = none
  noConjunction : ∀ piece ∈ innerPieces text, piece ≠ ['e'] ∧ piece ≠ ['E']

/-- Whether a text is unparted is seen from its characters and pieces. -/
instance (text : Text) : Decidable (IsUnparted text) :=
  decidable_of_iff
    (isUnmarked text = true ∧ ∀ piece ∈ innerPieces text, piece ≠ ['e'] ∧ piece ≠ ['E'])
    ⟨fun ⟨hmarks, hpieces⟩ => ⟨isUnmarked_eq_true_iff.mp hmarks, hpieces⟩,
      fun h => ⟨isUnmarked_eq_true_iff.mpr h.unmarked, h.noConjunction⟩⟩

/-- A single name is unparted. -/
theorem IsSingle.isUnparted {text : Text} (h : IsSingle text) : IsUnparted text := by
  refine ⟨h.unmarked, fun piece hpiece => ?_⟩
  have hmem : piece ∈ Text.pieces Text.isBlank text :=
    List.mem_of_mem_tail (List.dropLast_subset _ hpiece)
  by_cases hnil : piece = []
  · simp [hnil]
  · exact h.noConjunction piece (List.mem_filter.mpr ⟨hmem, by simpa using hnil⟩)

/-- Characters that end no word are unparted. -/
theorem isUnparted_of_whole {text : Text} (h : ∀ c ∈ text, endsWord c = false)
    : IsUnparted text := by
  refine ⟨unmarked_of_whole h, ?_⟩
  rw [innerPieces, Text.pieces_of_not_cut (not_blank_of_whole h)]
  simp

/-- Two words with a blank between them are unparted. -/
theorem isUnparted_pair {first last : Text} (hfirst : ∀ c ∈ first, endsWord c = false)
    (hlast : ∀ c ∈ last, endsWord c = false)
    : IsUnparted (first ++ ' ' :: last) := by
  refine ⟨unmarked_pair hfirst hlast, ?_⟩
  rw [innerPieces, pieces_pair hfirst hlast]
  simp

section

variable {before text after : Text}

/-- What comes before the first blank and after the last one does not count. -/
theorem innerPieces_between (hbefore : ∀ c ∈ before, Text.isBlank c = false)
    (hafter : ∀ c ∈ after, Text.isBlank c = false)
    : innerPieces (before ++ (text ++ after)) = innerPieces text := by
  obtain ⟨more, last, hpieces⟩ :=
    (List.eq_nil_or_concat _).resolve_left (Text.pieces_ne_nil Text.isBlank text)
  rw [List.concat_eq_append] at hpieces
  have hlonger := Text.pieces_append_last hpieces hafter
  cases more with
  | nil => simp [innerPieces, hpieces, Text.pieces_append hbefore hlonger]
  | cons first more =>
      simp only [List.cons_append] at hpieces hlonger
      simp [innerPieces, hpieces, Text.pieces_append hbefore hlonger]

/-- A piece of a text between two others is one of its own, or it begins or ends with the others. -/
theorem mem_pieces_between (hbefore : ∀ c ∈ before, Text.isBlank c = false)
    (hafter : ∀ c ∈ after, Text.isBlank c = false) {piece : Text}
    (h : piece ∈ Text.pieces Text.isBlank (before ++ (text ++ after)))
    : piece ∈ innerPieces text ∨ (∃ rest, piece = before ++ rest)
      ∨ ∃ front, piece = front ++ after := by
  obtain ⟨more, last, hpieces⟩ :=
    (List.eq_nil_or_concat _).resolve_left (Text.pieces_ne_nil Text.isBlank text)
  rw [List.concat_eq_append] at hpieces
  have hlonger := Text.pieces_append_last hpieces hafter
  cases more with
  | nil =>
      rw [Text.pieces_append hbefore hlonger] at h
      exact Or.inr (Or.inl ⟨_, List.mem_singleton.mp h⟩)
  | cons first more =>
      simp only [List.cons_append] at hpieces hlonger
      rw [Text.pieces_append hbefore hlonger, List.mem_cons, List.mem_append,
        List.mem_singleton] at h
      rcases h with h | h | h
      · exact Or.inr (Or.inl ⟨_, h⟩)
      · exact Or.inl (by simpa [innerPieces, hpieces] using h)
      · exact Or.inr (Or.inr ⟨_, h⟩)

end

variable {tag inner : Text}

/-- The tag in front of an emphasized text. -/
def openingTag (tag : Text) : Text :=
  ['<'] ++ tag ++ ['>']

/-- The tag behind an emphasized text. -/
def closingTag (tag : Text) : Text :=
  ['<', '/'] ++ tag ++ ['>']

/-- An emphasized text stands between its tags. -/
theorem emphasize_eq (tag inner : Text)
    : emphasize tag inner = openingTag tag ++ (inner ++ closingTag tag) := by
  simp [emphasize, openingTag, closingTag]

/-- No character of an opening tag ends a word. -/
theorem whole_openingTag (htag : ∀ c ∈ tag, endsWord c = false)
    : ∀ c ∈ openingTag tag, endsWord c = false := by
  simp only [openingTag, List.forall_mem_append, List.forall_mem_singleton]
  exact ⟨⟨by decide, htag⟩, by decide⟩

/-- No character of a closing tag ends a word. -/
theorem whole_closingTag (htag : ∀ c ∈ tag, endsWord c = false)
    : ∀ c ∈ closingTag tag, endsWord c = false := by
  simp only [closingTag, List.forall_mem_append, List.forall_mem_cons]
  exact ⟨⟨⟨by decide, by decide, by simp⟩, htag⟩, by decide, by simp⟩

/-- Emphasis neither adds separators nor takes them away. -/
theorem unmarked_emphasize (htag : ∀ c ∈ tag, endsWord c = false)
    : (∀ c ∈ emphasize tag inner, Separator.ofChar? c = none)
      ↔ ∀ c ∈ inner, Separator.ofChar? c = none := by
  have hopening := unmarked_of_whole (whole_openingTag htag)
  have hclosing := unmarked_of_whole (whole_closingTag htag)
  rw [emphasize_eq, List.forall_mem_append, List.forall_mem_append]
  exact ⟨fun h => h.2.1, fun h => ⟨hopening, h, hclosing⟩⟩

/-- Tags change nothing about whether names are parted between them. -/
theorem isUnparted_emphasize (htag : ∀ c ∈ tag, endsWord c = false)
    : IsUnparted (emphasize tag inner) ↔ IsUnparted inner := by
  have hpieces : innerPieces (emphasize tag inner) = innerPieces inner := by
    rw [emphasize_eq]
    exact innerPieces_between (not_blank_of_whole (whole_openingTag htag))
      (not_blank_of_whole (whole_closingTag htag))
  constructor
  · rintro ⟨hunmarked, hwords⟩
    exact ⟨(unmarked_emphasize htag).mp hunmarked, hpieces ▸ hwords⟩
  · rintro ⟨hunmarked, hwords⟩
    exact ⟨(unmarked_emphasize htag).mpr hunmarked, hpieces.symm ▸ hwords⟩

/-- Between tags a text is a single name, whatever its first and its last word are. -/
theorem IsUnparted.isSingle_emphasize (h : IsUnparted inner) (htag : ∀ c ∈ tag, endsWord c = false)
    : IsSingle (emphasize tag inner) := by
  have hmem : '<' ∈ emphasize tag inner := by simp [emphasize]
  refine ⟨(unmarked_emphasize htag).mpr h.unmarked, fun hnil => ?_, fun word hword => ?_⟩
  · obtain ⟨word, hword, -⟩ := Text.mem_words_of_not_blank hmem (by decide)
    rw [hnil] at hword
    cases hword
  · obtain ⟨hpiece, -⟩ := List.mem_filter.mp hword
    rw [emphasize_eq] at hpiece
    rcases mem_pieces_between (not_blank_of_whole (whole_openingTag htag))
      (not_blank_of_whole (whole_closingTag htag)) hpiece with hinner | ⟨rest, rfl⟩ | ⟨front, rfl⟩
    · exact h.noConjunction word hinner
    · simp [openingTag]
    · -- A closing tag alone is longer than the conjunction.
      have hlong : 1 < (front ++ closingTag tag).length := by
        simp only [closingTag, List.length_append, List.length_cons]
        omega
      exact ⟨fun he => by simp [he] at hlong, fun he => by simp [he] at hlong⟩

end LeasePapers.Name
