import LeasePapers.Proofs.Name.Ends
import LeasePapers.Proofs.Name.Full
import LeasePapers.Proofs.Name.Single

/-! Names as they stand in a list: words with one space between them. Such names come out of every
free text, joined they are split into the same names again, and tags around a name glue to its first
and its last word and leave it such a name.
-/

namespace LeasePapers.Name

/-- One or more words with single spaces between them. -/
def IsCanonical (name : Text) : Prop :=
  ∃ parts : List Text, parts ≠ [] ∧ name = Text.join [' '] parts ∧ ∀ word ∈ parts, IsWord word

/-- A canonical name is a single name that has no blanks but one space between any two words. -/
theorem isCanonical_iff {name : Text}
    : IsCanonical name ↔ IsSingle name ∧ Text.join [' '] (Text.words name) = name := by
  constructor
  · rintro ⟨parts, hne, rfl, hparts⟩
    have hwords := Text.words_join (fun word hword => (hparts word hword).notBlank)
    exact ⟨isSingle_join hne hparts, by rw [hwords]⟩
  · rintro ⟨hsingle, hspaced⟩
    exact ⟨Text.words name, hsingle.named, hspaced.symm, fun _ => hsingle.isWord⟩

/-- Whether a name is canonical is found out by splitting it. -/
instance (name : Text) : Decidable (IsCanonical name) :=
  decidable_of_iff _ isCanonical_iff.symm

-----------------------------------------------------------------------------------------
-- Splitting and joining
-----------------------------------------------------------------------------------------

/-- The names that a text is split into are canonical. -/
theorem isCanonical_of_mem_split {text name : Text} (h : name ∈ split text) : IsCanonical name :=
  words_of_mem_split h

/-- A canonical name is split into itself. -/
theorem IsCanonical.split_eq {name : Text} (h : IsCanonical name) : split name = [name] := by
  obtain ⟨hsingle, hspaced⟩ := isCanonical_iff.mp h
  rw [hsingle.split_eq, hspaced]

/-- Canonical names are joined and split into the same names, by induction on them. -/
theorem split_joinAll_of_isCanonical {names : List Text} (h : ∀ name ∈ names, IsCanonical name)
    : split (joinAll names) = names := by
  rw [split_joinAll]
  induction names with
  | nil => rfl
  | cons name names ih =>
      rw [List.forall_mem_cons] at h
      rw [List.flatMap_cons, h.1.split_eq, ih h.2, List.singleton_append]

/-- The groups hold the words before the tokens and those among them, by induction on the tokens. -/
theorem flatten_groupsAfter (group : List Text) (tokens : List Token)
    : (groupsAfter group tokens).flatten = group ++ wordsOf tokens := by
  induction tokens generalizing group with
  | nil => simp [groupsAfter, wordsOf]
  | cons token tokens ih =>
      cases token with
      | word text =>
          rw [groupsAfter, ih, List.append_assoc]
          rfl
      | separator kind =>
          rw [groupsAfter, List.flatten_cons, ih]
          rfl

/-- The words of the names in a free text are all of its words, in order. -/
theorem flatMap_words_split (text : Text)
    : (split text).flatMap Text.words = wordsOf (tokenize text) := by
  have hwords : ∀ parts ∈ (groupsAfter [] (tokenize text)).filter (· ≠ []),
      Text.words (Text.join [' '] parts) = parts := by
    intro parts hparts
    have hgroup := (List.mem_filter.mp hparts).1
    exact Text.words_join (fun _ hword => (isWord_of_mem_groups hgroup hword).notBlank)
  calc (split text).flatMap Text.words
      = ((groupsAfter [] (tokenize text)).filter (· ≠ [])).flatMap
          (fun parts => Text.words (Text.join [' '] parts)) := by rw [split, List.flatMap_map]
    _ = ((groupsAfter [] (tokenize text)).filter (· ≠ [])).flatten := by
        rw [List.flatMap_congr hwords, List.flatMap_id']
    _ = wordsOf (tokenize text) := by
        rw [List.flatten_filter_ne_nil, flatten_groupsAfter, List.nil_append]

/-- Splitting and joining are inverse: canonical names are joined and split into the same names, and
a free text is split into canonical names that have all its words, in order, so that its names are
joined and split into the same names as well.
-/
theorem split_joinAll_inverse
    : (∀ names, (∀ name ∈ names, IsCanonical name) → split (joinAll names) = names)
      ∧ ∀ text, (∀ name ∈ split text, IsCanonical name)
          ∧ (split text).flatMap Text.words = wordsOf (tokenize text)
          ∧ split (joinAll (split text)) = split text := by
  refine ⟨fun _ => split_joinAll_of_isCanonical, fun text => ⟨?_, flatMap_words_split text, ?_⟩⟩
  · exact fun _ => isCanonical_of_mem_split
  · exact split_joinAll_of_isCanonical (fun _ => isCanonical_of_mem_split)

/-- Three names with a preposition and an initial are joined and split again. -/
theorem split_joinAll_inverse_threeNames
    : (∀ name ∈ (["Ana de Souza", "Rafael", "E. Lima"] : List Text), IsCanonical name)
      ∧ split "Ana de Souza, Rafael e E. Lima" = ["Ana de Souza", "Rafael", "E. Lima"] := by
  have hnames : ∀ name ∈ (["Ana de Souza", "Rafael", "E. Lima"] : List Text), IsCanonical name := by
    decide
  exact ⟨hnames, split_joinAll_inverse.1 _ hnames⟩

-----------------------------------------------------------------------------------------
-- Between tags
-----------------------------------------------------------------------------------------

section

variable {name more : Text}

/-- Two pieces of a word are longer than the conjunction. -/
theorem isWord_append {front back : Text} (hfront : ∀ c ∈ front, endsWord c = false)
    (hback : ∀ c ∈ back, endsWord c = false) (hne : front ≠ []) (hne' : back ≠ [])
    : IsWord (front ++ back) := by
  have hlong : ∀ c : Char, front ++ back ≠ [c] := by
    intro c
    simp [List.append_eq_singleton_iff, hne, hne']
  exact ⟨by simp [hne], List.forall_mem_append.mpr ⟨hfront, hback⟩, hlong 'e', hlong 'E'⟩

/-- A canonical name stays one behind characters that end no word. -/
theorem IsCanonical.append_left (h : IsCanonical name) (hmore : ∀ c ∈ more, endsWord c = false)
    (hne : more ≠ [])
    : IsCanonical (more ++ name) := by
  obtain ⟨parts, hparts, rfl, hwords⟩ := h
  obtain ⟨first, rest, rfl⟩ := List.exists_cons_of_ne_nil hparts
  rw [List.forall_mem_cons] at hwords
  refine ⟨(more ++ first) :: rest, by simp, (Text.join_append_left ..).symm, ?_⟩
  rw [List.forall_mem_cons]
  exact ⟨isWord_append hmore hwords.1.whole hne hwords.1.ne_nil, hwords.2⟩

/-- A canonical name stays one in front of characters that end no word. -/
theorem IsCanonical.append_right (h : IsCanonical name) (hmore : ∀ c ∈ more, endsWord c = false)
    (hne : more ≠ [])
    : IsCanonical (name ++ more) := by
  obtain ⟨parts, hparts, rfl, hwords⟩ := h
  obtain ⟨front, last, rfl⟩ : ∃ front last, parts = front ++ [last] :=
    ⟨_, _, (List.dropLast_concat_getLast hparts).symm⟩
  rw [List.forall_mem_append, List.forall_mem_singleton] at hwords
  refine ⟨front ++ [last ++ more], by simp, (Text.join_append_right ..).symm, ?_⟩
  rw [List.forall_mem_append, List.forall_mem_singleton]
  exact ⟨hwords.1, isWord_append hwords.2.whole hmore hwords.2.ne_nil hne⟩

/-- A canonical name stays one between emphasis tags. -/
theorem IsCanonical.emphasize {tag : Text} (h : IsCanonical name)
    (htag : ∀ c ∈ tag, endsWord c = false)
    : IsCanonical (emphasize tag name) := by
  rw [emphasize_eq]
  exact (h.append_right (whole_closingTag htag) (by simp [closingTag])).append_left
    (whole_openingTag htag) (by simp [openingTag])

end

end LeasePapers.Name
