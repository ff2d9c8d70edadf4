import Mathlib.Data.List.Basic
import LeasePapers.Proofs.Name.Split

/-! The single names that a free text is split into. A name is made of words with single spaces
between them, and every character of the text that is part of a word stands in one of the names.
-/

namespace LeasePapers

-----------------------------------------------------------------------------------------
-- Joined words
-----------------------------------------------------------------------------------------

namespace Text

/-- A character of joined parts is in the separator or in a part. -/
theorem mem_join {separator : Text} {parts : List Text} {c : Char} (h : c ∈ join separator parts)
    : c ∈ separator ∨ ∃ part ∈ parts, c ∈ part := by
  match parts with
  | [] => cases h
  | [part] => exact Or.inr ⟨part, by simp, h⟩
  | part :: next :: rest =>
      rw [join, List.mem_append, List.mem_append] at h
      rcases h with (h | h) | h
      · exact Or.inr ⟨part, by simp, h⟩
      · exact Or.inl h
      · rcases mem_join h with h | ⟨other, hmem, h⟩
        · exact Or.inl h
        · exact Or.inr ⟨other, List.mem_cons_of_mem _ hmem, h⟩

/-- The characters of a part are in the joined parts. -/
theorem mem_join_of_mem (separator : Text) {parts : List Text} {part : Text} {c : Char}
    (hpart : part ∈ parts) (h : c ∈ part)
    : c ∈ join separator parts := by
  match parts with
  | [] => cases hpart
  | [only] =>
      rw [List.mem_singleton.mp hpart] at h
      exact h
  | first :: next :: rest =>
      rw [join, List.mem_append, List.mem_append]
      rcases List.mem_cons.mp hpart with rfl | hpart
      · exact Or.inl (Or.inl h)
      · exact Or.inr (mem_join_of_mem separator hpart h)

/-- Joined parts begin with the first one. -/
theorem head?_join {separator word : Text} (parts : List Text) (h : word ≠ [])
    : (join separator (word :: parts)).head? = word.head? := by
  cases parts with
  | nil => rfl
  | cons next rest => rw [join, List.append_assoc, List.head?_append_of_ne_nil _ h]

/-- Joined parts end with the last one. -/
theorem getLast?_join (separator : Text) {parts : List Text} {last : Text} (h : last ≠ [])
    : (join separator (parts ++ [last])).getLast? = last.getLast? := by
  match parts with
  | [] => rfl
  | [part] =>
      rw [List.singleton_append, join, join, List.getLast?_append_of_ne_nil _ h]
  | part :: next :: rest =>
      have ih := @getLast?_join separator (next :: rest) last h
      have hne : join separator (next :: rest ++ [last]) ≠ [] := by
        intro hnil
        rw [hnil] at ih
        exact h (List.getLast?_eq_none_iff.mp ih.symm)
      rw [List.cons_append, List.cons_append, join, ← List.cons_append,
        List.getLast?_append_of_ne_nil _ hne, ih]

/-- Words that are joined by blanks have none around them. -/
theorem trim_join {parts : List Text}
    (h : ∀ word ∈ parts, word ≠ [] ∧ ∀ c ∈ word, isBlank c = false)
    : trim (join [' '] parts) = join [' '] parts := by
  refine trim_eq_self ?_ ?_
  · intro c hc
    cases parts with
    | nil => cases hc
    | cons word rest =>
        rw [List.forall_mem_cons] at h
        rw [head?_join rest h.1.1] at hc
        exact h.1.2 c (List.mem_of_mem_head? hc)
  · intro c hc
    rcases List.eq_nil_or_concat parts with rfl | ⟨rest, last, rfl⟩
    · cases hc
    · have hlast := h last (by simp)
      rw [List.concat_eq_append, getLast?_join [' '] hlast.1] at hc
      exact hlast.2 c (List.mem_of_getLast? hc)

end Text

-----------------------------------------------------------------------------------------
-- Names
-----------------------------------------------------------------------------------------

namespace Name

/-- A word of a name: nothing in it ends a word, and it is not the conjunction. -/
structure IsWord (word : Text) : Prop where
  ne_nil : word ≠ []
  whole : ∀ c ∈ word, endsWord c = false
  noConjunction : word ≠ ['e'] ∧ word ≠ ['E']

/-- A word is not empty, and has no blank. -/
theorem IsWord.notBlank {word : Text} (h : IsWord word)
    : word ≠ [] ∧ ∀ c ∈ word, Text.isBlank c = false :=
  ⟨h.ne_nil, not_blank_of_whole h.whole⟩

/-- The word of a run is all of it, and no conjunction. -/
theorem word_of_ofRun {run word : Text} (h : Token.word word ∈ Token.ofRun run)
    : word = run ∧ run ≠ [] ∧ run ≠ ['e'] ∧ run ≠ ['E'] := by
  unfold Token.ofRun at h
  split at h
  · cases h
  · rename_i hne
    split at h
    · simp at h
    · rename_i hconjunction
      exact ⟨by simpa using h, hne, not_or.mp hconjunction⟩

/-- The word of a run is a word. -/
theorem isWord_of_ofRun {run word : Text} (hrun : ∀ c ∈ run, endsWord c = false)
    (h : Token.word word ∈ Token.ofRun run)
    : IsWord word := by
  obtain ⟨rfl, hne, hconjunction⟩ := word_of_ofRun h
  exact ⟨hne, hrun, hconjunction⟩

/-- The words among the tokens of a text, by induction on it. -/
theorem isWord_of_tokensAfter {run text word : Text} (hrun : ∀ c ∈ run, endsWord c = false)
    (h : Token.word word ∈ tokensAfter run text)
    : IsWord word := by
  induction text generalizing run with
  | nil => exact isWord_of_ofRun hrun h
  | cons c rest ih =>
      rcases tokensAfter_cons run c rest with ⟨kind, hc⟩ | ⟨-, hc⟩ | ⟨hends, hc⟩
      · rw [hc, List.mem_append, List.mem_cons] at h
        rcases h with h | h | h
        · exact isWord_of_ofRun hrun h
        · cases h
        · exact ih (by simp) h
      · rw [hc, List.mem_append] at h
        rcases h with h | h
        · exact isWord_of_ofRun hrun h
        · exact ih (by simp) h
      · rw [hc] at h
        refine ih (fun d hd => ?_) h
        rcases List.mem_append.mp hd with hd | hd
        · exact hrun d hd
        · rw [List.mem_singleton.mp hd]
          exact hends

/-- The words among the tokens hold nothing but what is in the text, by induction on it. -/
theorem mem_of_tokensAfter {run text word : Text} {c : Char}
    (h : Token.word word ∈ tokensAfter run text) (hc : c ∈ word)
    : c ∈ run ∨ c ∈ text := by
  induction text generalizing run with
  | nil => exact Or.inl ((word_of_ofRun h).1 ▸ hc)
  | cons d rest ih =>
      have hlater : Token.word word ∈ tokensAfter [] rest → c ∈ run ∨ c ∈ d :: rest :=
        fun hword => (ih hword).elim (fun hnil => by cases hnil)
          (fun hmem => Or.inr (List.mem_cons_of_mem d hmem))
      rcases tokensAfter_cons run d rest with ⟨kind, hd⟩ | ⟨-, hd⟩ | ⟨-, hd⟩
      · rw [hd, List.mem_append, List.mem_cons] at h
        rcases h with h | h | h
        · exact Or.inl ((word_of_ofRun h).1 ▸ hc)
        · cases h
        · exact hlater h
      · rw [hd, List.mem_append] at h
        rcases h with h | h
        · exact Or.inl ((word_of_ofRun h).1 ▸ hc)
        · exact hlater h
      · rw [hd] at h
        simpa [or_assoc] using ih h

/-- The words of a group come from the tokens, by induction on them. -/
theorem mem_of_groupsAfter {group : List Text} {tokens : List Token} {found : List Text}
    {word : Text}
    (h : found ∈ groupsAfter group tokens) (hword : word ∈ found)
    : word ∈ group ∨ Token.word word ∈ tokens := by
  induction tokens generalizing group with
  | nil =>
      rw [List.mem_singleton.mp h] at hword
      exact Or.inl hword
  | cons token tokens ih =>
      cases token with
      | word text =>
          rcases ih h with hmem | hmem
          · rcases List.mem_append.mp hmem with hmem | hmem
            · exact Or.inl hmem
            · rw [List.mem_singleton.mp hmem]
              exact Or.inr (by simp)
          · exact Or.inr (List.mem_cons_of_mem _ hmem)
      | separator kind =>
          rcases List.mem_cons.mp h with rfl | h
          · exact Or.inl hword
          · rcases ih h with hmem | hmem
            · cases hmem
            · exact Or.inr (List.mem_cons_of_mem _ hmem)

/-- The groups of a text hold words. -/
theorem isWord_of_mem_groups {text word : Text} {parts : List Text}
    (h : parts ∈ groupsAfter [] (tokenize text)) (hword : word ∈ parts)
    : IsWord word := by
  rcases mem_of_groupsAfter h hword with hmem | hmem
  · cases hmem
  · exact isWord_of_tokensAfter (fun c hc => by cases hc) hmem

/-- A name that a text is split into is joined from words. -/
theorem words_of_mem_split {text entry : Text} (h : entry ∈ split text)
    : ∃ parts : List Text, parts ≠ [] ∧ entry = Text.join [' '] parts
        ∧ ∀ word ∈ parts, IsWord word := by
  obtain ⟨parts, hparts, rfl⟩ := List.mem_map.mp h
  obtain ⟨hgroup, hne⟩ := List.mem_filter.mp hparts
  exact ⟨parts, by simpa using hne, rfl, fun _ hword => isWord_of_mem_groups hgroup hword⟩

/-- The characters of a name are blanks or come from the text. -/
theorem mem_of_mem_split {text entry : Text} {c : Char} (h : entry ∈ split text) (hc : c ∈ entry)
    : c = ' ' ∨ c ∈ text := by
  obtain ⟨parts, hparts, rfl⟩ := List.mem_map.mp h
  rcases Text.mem_join hc with hc | ⟨word, hword, hc⟩
  · exact Or.inl (List.mem_singleton.mp hc)
  · rcases mem_of_groupsAfter (List.mem_filter.mp hparts).1 hword with hmem | hmem
    · cases hmem
    · exact Or.inr ((mem_of_tokensAfter hmem hc).resolve_left List.not_mem_nil)

/-- A name that a text is split into has no blanks around it. -/
theorem trim_of_mem_split {text entry : Text} (h : entry ∈ split text)
    : Text.trim entry = entry := by
  obtain ⟨parts, -, rfl, hparts⟩ := words_of_mem_split h
  exact Text.trim_join (fun word hword => (hparts word hword).notBlank)

/-- A name that a text is split into is not empty. -/
theorem ne_nil_of_mem_split {text entry : Text} (h : entry ∈ split text) : entry ≠ [] := by
  obtain ⟨parts, hne, rfl, hparts⟩ := words_of_mem_split h
  obtain ⟨word, rest, rfl⟩ := List.exists_cons_of_ne_nil hne
  have hword : word ≠ [] := (hparts word List.mem_cons_self).ne_nil
  intro hnil
  have hhead : (Text.join [' '] (word :: rest)).head? = word.head? := Text.head?_join rest hword
  rw [hnil] at hhead
  exact hword (List.head?_eq_none_iff.mp hhead.symm)

/-- A name that a text is split into stands on one line. -/
theorem newline_of_mem_split {text entry : Text} (h : entry ∈ split text) : '\n' ∉ entry := by
  obtain ⟨parts, -, rfl, hparts⟩ := words_of_mem_split h
  intro hmem
  rcases Text.mem_join hmem with hmem | ⟨word, hword, hmem⟩
  · revert hmem
    decide
  · have hends := (hparts word hword).whole '\n' hmem
    revert hends
    decide

/-- A character that is part of a word stands in one of the tokens, by induction on the text. -/
theorem mem_tokensAfter {run text : Text} {c : Char} (hends : endsWord c = false)
    (hlower : c ≠ 'e') (hupper : c ≠ 'E') (h : c ∈ run ∨ c ∈ text)
    : ∃ word, c ∈ word ∧ Token.word word ∈ tokensAfter run text := by
  have hfinished : ∀ {run : Text}, c ∈ run → Token.word run ∈ Token.ofRun run := by
    intro run hmem
    have hne : run ≠ [] := List.ne_nil_of_mem hmem
    have hword : ¬(run = ['e'] ∨ run = ['E']) := by
      rintro (rfl | rfl)
      · exact hlower (List.mem_singleton.mp hmem)
      · exact hupper (List.mem_singleton.mp hmem)
    simp [Token.ofRun, hne, hword]
  induction text generalizing run with
  | nil =>
      have hmem : c ∈ run := h.resolve_right (by simp)
      exact ⟨run, hmem, hfinished hmem⟩
  | cons d rest ih =>
      by_cases hd : endsWord d = true
      · have hrest : c ∈ run ∨ c ∈ rest := by
          refine h.imp_right (fun hmem => List.mem_of_ne_of_mem ?_ hmem)
          rintro rfl
          rw [hd] at hends
          cases hends
        have htokens := tokensAfter_append run [] rest hd
        rw [List.nil_append] at htokens
        rw [htokens]
        rcases hrest with hmem | hmem
        · exact ⟨run, hmem, List.mem_append_left _ (hfinished hmem)⟩
        · obtain ⟨word, hc, hword⟩ := @ih [] (Or.inr hmem)
          exact ⟨word, hc, List.mem_append_right _ (List.mem_append_right _ hword)⟩
      · have hparts : Separator.ofChar? d = none ∧ Text.isBlank d = false := by
          simpa [endsWord, and_comm] using hd
        have htokens : tokensAfter run (d :: rest) = tokensAfter (run ++ [d]) rest := by
          rw [tokensAfter, hparts.1]
          simp [hparts.2]
        rw [htokens]
        refine ih ?_
        rcases h with hmem | hmem
        · exact Or.inl (List.mem_append_left _ hmem)
        · rcases List.mem_cons.mp hmem with rfl | hmem
          · exact Or.inl (by simp)
          · exact Or.inr hmem

/-- Every word comes to stand in a group, by induction on the tokens. -/
theorem mem_groupsAfter {group : List Text} {tokens : List Token} {word : Text}
    (h : word ∈ group ∨ Token.word word ∈ tokens)
    : ∃ found ∈ groupsAfter group tokens, word ∈ found := by
  induction tokens generalizing group with
  | nil => exact ⟨group, by simp [groupsAfter], h.resolve_right (by simp)⟩
  | cons token tokens ih =>
      cases token with
      | word text =>
          refine ih ?_
          rcases h with hmem | hmem
          · exact Or.inl (List.mem_append_left _ hmem)
          · rcases List.mem_cons.mp hmem with he | hmem
            · exact Or.inl (by simp [Token.word.inj he])
            · exact Or.inr hmem
      | separator kind =>
          rcases h with hmem | hmem
          · exact ⟨group, by simp [groupsAfter], hmem⟩
          · obtain ⟨found, hfound, hword⟩ := @ih [] (Or.inr (by simpa using hmem))
            exact ⟨found, List.mem_cons_of_mem _ hfound, hword⟩

/-- A character that is part of a word stands in one of the names. -/
theorem mem_split {text : Text} {c : Char} (h : c ∈ text) (hends : endsWord c = false)
    (hlower : c ≠ 'e') (hupper : c ≠ 'E')
    : ∃ entry ∈ split text, c ∈ entry := by
  have hrun : c ∈ ([] : Text) ∨ c ∈ text := Or.inr h
  obtain ⟨word, hc, hword⟩ := mem_tokensAfter hends hlower hupper hrun
  have hgroup : word ∈ ([] : List Text) ∨ Token.word word ∈ tokenize text := Or.inr hword
  obtain ⟨parts, hparts, hmem⟩ := mem_groupsAfter hgroup
  refine ⟨Text.join [' '] parts, List.mem_map.mpr ⟨parts, ?_, rfl⟩, Text.mem_join_of_mem _ hmem hc⟩
  exact List.mem_filter.mpr ⟨hparts, by simpa using List.ne_nil_of_mem hmem⟩

end Name

end LeasePapers
