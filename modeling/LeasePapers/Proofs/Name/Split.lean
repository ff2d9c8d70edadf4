import LeasePapers.Name.List
import LeasePapers.Proofs.Text.Words

/-! The names in a free text. Whatever is joined with commas and `e` is split into the names of its
parts again, blanks around a text make no difference, and a text of plain words is one name.
-/

namespace LeasePapers.Name

-----------------------------------------------------------------------------------------
-- Tokens
-----------------------------------------------------------------------------------------

/-- Whether a character ends a word. -/
def endsWord (c : Char) : Bool :=
  Text.isBlank c || (Separator.ofChar? c).isSome

/-- Characters that end no word are no blanks. -/
theorem not_blank_of_whole {text : Text} (h : ∀ c ∈ text, endsWord c = false)
    : ∀ c ∈ text, Text.isBlank c = false := by
  intro c hc
  have hwhole := h c hc
  rw [endsWord, Bool.or_eq_false_iff] at hwhole
  exact hwhole.1

/-- Characters that end no word are no separators. -/
theorem unmarked_of_whole {text : Text} (h : ∀ c ∈ text, endsWord c = false)
    : ∀ c ∈ text, Separator.ofChar? c = none := by
  intro c hc
  have hwhole := h c hc
  rw [endsWord, Bool.or_eq_false_iff, Option.isSome_eq_false_iff, Option.isNone_iff_eq_none]
    at hwhole
  exact hwhole.2

/-- Letters and digits end no word. -/
theorem whole_of_alphanumeric {text : Text} (h : ∀ c ∈ text, Text.isAsciiAlphanumeric c = true)
    : ∀ c ∈ text, endsWord c = false := by
  intro c hc
  have hblank : Text.isBlank c = false := Text.isBlank_of_class (by decide) (h c hc)
  have hcomma : c ≠ ',' := by
    rintro rfl
    cases h _ hc
  have hbreak : c ≠ '\n' := by
    rintro rfl
    cases h _ hc
  simp [endsWord, hblank, Separator.ofChar?, hcomma, hbreak]

/-- The separator that a character is, if it is one. -/
def separators (c : Char) : List Token :=
  (Separator.ofChar? c).toList.map Token.separator

/-- Where a word ends the tokens before it are complete, by induction on what comes before. -/
theorem tokensAfter_append (run before : Text) {c : Char} (after : Text) (h : endsWord c = true)
    : tokensAfter run (before ++ c :: after)
      = tokensAfter run before ++ (separators c ++ tokenize after) := by
  induction before generalizing run with
  | nil =>
      rw [List.nil_append, tokensAfter, tokensAfter, separators]
      cases hkind : Separator.ofChar? c with
      | none =>
          have hblank : Text.isBlank c = true := by simpa [endsWord, hkind] using h
          simp [hblank, tokenize]
      | some kind => simp [tokenize]
  | cons d before ih =>
      rw [List.cons_append, tokensAfter, tokensAfter]
      cases Separator.ofChar? d with
      | none =>
          simp only
          split
          · rw [ih, List.append_assoc]
          · rw [ih]
      | some kind => simp [ih]

/-- A character that ends words parts the tokens of a text. -/
theorem tokenize_append (before : Text) {c : Char} (after : Text) (h : endsWord c = true)
    : tokenize (before ++ c :: after) = tokenize before ++ (separators c ++ tokenize after) :=
  tokensAfter_append [] before after h

/-- A character ends a word, as a separator or as a blank, or belongs to it. -/
theorem tokensAfter_cons (run : Text) (c : Char) (rest : Text)
    : (∃ kind, tokensAfter run (c :: rest)
        = Token.ofRun run ++ .separator kind :: tokensAfter [] rest)
      ∨ (Text.isBlank c = true
        ∧ tokensAfter run (c :: rest) = Token.ofRun run ++ tokensAfter [] rest)
      ∨ (endsWord c = false ∧ tokensAfter run (c :: rest) = tokensAfter (run ++ [c]) rest) := by
  rw [tokensAfter, endsWord]
  cases Separator.ofChar? c with
  | some kind => exact Or.inl ⟨kind, rfl⟩
  | none =>
      by_cases hblank : Text.isBlank c = true
      · exact Or.inr (Or.inl ⟨hblank, by simp [hblank]⟩)
      · exact Or.inr (Or.inr (by simp [hblank]))

/-- Without separators, the tokens of a text are those of its pieces, by induction on the text. -/
theorem tokensAfter_of_pieces {text piece : Text} {more : List Text}
    (h : ∀ c ∈ text, Separator.ofChar? c = none)
    (hpieces : Text.pieces Text.isBlank text = piece :: more)
    (run : Text)
    : tokensAfter run text = Token.ofRun (run ++ piece) ++ more.flatMap Token.ofRun := by
  induction text generalizing run piece more with
  | nil =>
      rw [Text.pieces] at hpieces
      obtain ⟨rfl, rfl⟩ := List.cons.inj hpieces
      simp [tokensAfter]
  | cons c rest ih =>
      rw [List.forall_mem_cons] at h
      rw [Text.pieces] at hpieces
      obtain ⟨first, others, hrest⟩ :=
        List.exists_cons_of_ne_nil (Text.pieces_ne_nil Text.isBlank rest)
      rw [tokensAfter, h.1]
      by_cases hblank : Text.isBlank c = true
      · rw [if_pos hblank] at hpieces
        obtain ⟨rfl, rfl⟩ := List.cons.inj hpieces
        rw [hrest]
        simp [hblank, ih h.2 hrest]
      · rw [if_neg hblank, hrest] at hpieces
        obtain ⟨rfl, rfl⟩ := List.cons.inj hpieces
        simp [hblank, ih h.2 hrest]

/-- Without separators, the tokens of a text are its words. -/
theorem tokenize_eq_words {text : Text} (h : ∀ c ∈ text, Separator.ofChar? c = none)
    : tokenize text = (Text.words text).flatMap Token.ofRun := by
  obtain ⟨piece, more, hpieces⟩ :=
    List.exists_cons_of_ne_nil (Text.pieces_ne_nil Text.isBlank text)
  have hempty : ∀ parts : List Text,
      (parts.filter (· ≠ [])).flatMap Token.ofRun = parts.flatMap Token.ofRun := by
    intro parts
    induction parts with
    | nil => rfl
    | cons part parts ih =>
        by_cases hpart : part = [] <;> simp_all [Token.ofRun]
  rw [tokenize, tokensAfter_of_pieces h hpieces, Text.words, hempty, hpieces]
  rfl

-----------------------------------------------------------------------------------------
-- Groups
-----------------------------------------------------------------------------------------

/-- A separator parts the groups before it from the groups after it, by induction on the tokens. -/
theorem groupsAfter_append (group : List Text) (before after : List Token) (kind : Separator)
    : groupsAfter group (before ++ .separator kind :: after)
      = groupsAfter group before ++ groupsAfter [] after := by
  induction before generalizing group with
  | nil => rfl
  | cons token before ih =>
      cases token with
      | word text => exact ih (group ++ [text])
      | separator other =>
          simp only [List.cons_append, groupsAfter, ih]

/-- The names that tokens make up. -/
def namesOf (tokens : List Token) : List Text :=
  ((groupsAfter [] tokens).filter (· ≠ [])).map (Text.join [' '])

/-- A text is split into the names of its tokens. -/
theorem split_eq_namesOf (text : Text) : split text = namesOf (tokenize text) :=
  rfl

/-- Names do not reach across a separator. -/
theorem namesOf_append (before after : List Token) (kind : Separator)
    : namesOf (before ++ .separator kind :: after) = namesOf before ++ namesOf after := by
  rw [namesOf, groupsAfter_append, List.filter_append, List.map_append]
  rfl

/-- Words without a separator are one name. -/
theorem namesOf_words {parts : List Text} (hne : parts ≠ [])
    : namesOf (parts.map Token.word) = [Text.join [' '] parts] := by
  have hgroups : ∀ group, groupsAfter group (parts.map Token.word) = [group ++ parts] := by
    clear hne
    induction parts with
    | nil => simp [groupsAfter]
    | cons part parts ih =>
        intro group
        rw [List.map_cons, groupsAfter, ih, List.append_assoc, List.singleton_append]
  rw [namesOf, hgroups]
  simp [hne]

-----------------------------------------------------------------------------------------
-- Splitting
-----------------------------------------------------------------------------------------

/-- An empty text has no names. -/
theorem split_nil : split [] = [] :=
  rfl

/-- A separator parts the names of a text. -/
theorem split_append_separator (before : Text) {c : Char} (after : Text)
    (h : (Separator.ofChar? c).isSome = true)
    : split (before ++ c :: after) = split before ++ split after := by
  obtain ⟨kind, hkind⟩ := Option.isSome_iff_exists.mp h
  rw [split_eq_namesOf, tokenize_append before after (by simp [endsWord, h]), separators, hkind]
  exact namesOf_append (tokenize before) (tokenize after) kind

/-- A blank in front makes no difference. -/
theorem split_cons_blank {c : Char} (after : Text) (h : Text.isBlank c = true)
    : split (c :: after) = split after := by
  cases hkind : Separator.ofChar? c with
  | none =>
      have htokens := tokenize_append [] after (show endsWord c = true by simp [endsWord, h])
      rw [split_eq_namesOf, ← List.nil_append (c :: after), htokens, separators, hkind]
      rfl
  | some kind => exact split_append_separator [] after (by simp [hkind])

/-- A blank at the end makes no difference. -/
theorem split_concat_blank (before : Text) {c : Char} (h : Text.isBlank c = true)
    : split (before ++ [c]) = split before := by
  cases hkind : Separator.ofChar? c with
  | none =>
      rw [split_eq_namesOf, tokenize_append before [] (by simp [endsWord, h]), separators, hkind]
      simp [tokenize, tokensAfter, Token.ofRun, split_eq_namesOf]
  | some kind =>
      rw [split_append_separator before [] (by simp [hkind]), split_nil, List.append_nil]

/-- A conjunction parts the names of a text. -/
theorem split_append_conjunction (before after : Text)
    : split (before ++ conjunction ++ after) = split before ++ split after := by
  have hword : tokenize ('e' :: ' ' :: after) = .separator .conjunction :: tokenize after :=
    tokenize_append ['e'] after (by decide)
  have htokens : tokenize (before ++ conjunction ++ after)
      = tokenize before ++ .separator .conjunction :: tokenize after := by
    rw [← hword, List.append_assoc]
    exact tokenize_append before ('e' :: ' ' :: after) (by decide)
  rw [split_eq_namesOf, htokens, namesOf_append]
  rfl

/-- Blanks around a text make no difference. -/
theorem split_trim (text : Text) : split (Text.trim text) = split text := by
  have hstart : split (Text.trimStart text) = split text := by
    induction text with
    | nil => rfl
    | cons c rest ih =>
        by_cases h : Text.isBlank c = true
        · rw [Text.trimStart, List.dropWhile_cons_of_pos h, split_cons_blank rest h]
          exact ih
        · rw [Text.trimStart, List.dropWhile_cons_of_neg h]
  have hend : ∀ after before : Text, (∀ c ∈ after, Text.isBlank c = true)
      → split (before ++ after) = split before := by
    intro after
    induction after with
    | nil => simp
    | cons c after ih =>
        intro before h
        rw [List.forall_mem_cons] at h
        rw [List.append_cons, ih (before ++ [c]) h.2, split_concat_blank before h.1]
  obtain ⟨after, htext, hblank⟩ := Text.trimEnd_append_blanks (Text.trimStart text)
  rw [← hstart, Text.trim]
  exact (hend after (Text.trimEnd (Text.trimStart text)) hblank).symm.trans (by rw [htext])

/-- Names joined with commas are split into the names of each, by induction on them. -/
theorem split_join_comma (names : List Text)
    : split (Text.join comma names) = names.flatMap split := by
  match names with
  | [] => rfl
  | [name] => simp [Text.join]
  | name :: next :: rest =>
      have hcomma : Text.join comma (name :: next :: rest)
          = name ++ ',' :: (' ' :: Text.join comma (next :: rest)) := by
        rw [Text.join, List.append_assoc]
        rfl
      rw [hcomma, split_append_separator _ _ (by decide), split_cons_blank _ (by decide),
        split_join_comma (next :: rest)]
      rfl

/-- Several names are joined with commas up to the last one, and that comes after `e`. -/
theorem joinAll_concat {front : List Text} (hfront : front ≠ []) (last : Text)
    : joinAll (front ++ [last]) = Text.join comma front ++ conjunction ++ last := by
  obtain ⟨first, rest, rfl⟩ := List.exists_cons_of_ne_nil hfront
  rw [List.cons_append, joinAll, List.dropLast_concat, List.getLastD_concat]
  simp

/-- A list of names is empty, or a single name, or has a last name after others. -/
theorem names_cases (names : List Text)
    : names = [] ∨ (∃ name, names = [name])
      ∨ ∃ front last, front ≠ [] ∧ names = front ++ [last] := by
  rcases List.eq_nil_or_concat names with hnil | ⟨front, last, hconcat⟩
  · exact Or.inl hnil
  · rw [List.concat_eq_append] at hconcat
    by_cases hfront : front = []
    · exact Or.inr (Or.inl ⟨last, by rw [hconcat, hfront, List.nil_append]⟩)
    · exact Or.inr (Or.inr ⟨front, last, hfront, hconcat⟩)

/-- Joined names are split into the names of each of them. -/
theorem split_joinAll (names : List Text) : split (joinAll names) = names.flatMap split := by
  rcases names_cases names with rfl | ⟨name, rfl⟩ | ⟨front, last, hfront, rfl⟩
  · rfl
  · simp [joinAll]
  · rw [joinAll_concat hfront, split_append_conjunction, split_join_comma, List.flatMap_append,
      List.flatMap_singleton]

/-- A name as a list shows it: between tags, unless the tag is empty. -/
def mark (tag name : Text) : Text :=
  if tag = [] then name else emphasize tag name

/-- Emphasized names are joined like any others. -/
theorem joinEmphasized_eq (tag : Text) (names : List Text)
    : joinEmphasized tag names = joinAll (names.map (mark tag)) := by
  rw [joinEmphasized]
  split
  · rename_i hnil
    have hplain : mark tag = id := by
      funext name
      exact if_pos hnil
    rw [hplain, List.map_id]
  · rename_i hne
    have hmarked : mark tag = emphasize tag := by
      funext name
      exact if_neg hne
    rw [hmarked]

/-- Words that are no conjunctions, without separators, are one name. -/
theorem split_eq_singleton {text : Text} (h : ∀ c ∈ text, Separator.ofChar? c = none)
    (hne : Text.words text ≠ [])
    (hwords : ∀ word ∈ Text.words text, word ≠ ['e'] ∧ word ≠ ['E'])
    : split text = [Text.join [' '] (Text.words text)] := by
  have htokens : ∀ parts : List Text,
      (∀ part ∈ parts, part ≠ [] ∧ part ≠ ['e'] ∧ part ≠ ['E'])
      → parts.flatMap Token.ofRun = parts.map Token.word := by
    intro parts hparts
    induction parts with
    | nil => rfl
    | cons part parts ih =>
        rw [List.forall_mem_cons] at hparts
        rw [List.flatMap_cons, ih hparts.2, Token.ofRun]
        simp [hparts.1]
  rw [split_eq_namesOf, tokenize_eq_words h, htokens, namesOf_words hne]
  exact fun word hmem => ⟨(Text.word_of_mem_words hmem).1, hwords word hmem⟩

end LeasePapers.Name
