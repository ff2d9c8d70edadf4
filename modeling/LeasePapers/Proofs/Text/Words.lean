import Mathlib.Data.List.TakeWhile
import LeasePapers.Proofs.Text.Blank

/-! The words of a text: where a text is cut into them, what joins them again, and that blanks
around a text add none.
-/

namespace LeasePapers.Text

-----------------------------------------------------------------------------------------
-- Pieces
-----------------------------------------------------------------------------------------

/-- Every text has a piece, an empty one at least. -/
theorem pieces_ne_nil (cut : Char → Bool) (text : Text) : pieces cut text ≠ [] := by
  cases text with
  | nil => simp [pieces]
  | cons c rest =>
      rw [pieces]
      split
      · simp
      · split <;> simp

/-- A text is cut by itself on both sides of a cut, by induction on what comes before. -/
theorem pieces_append_cut {cut : Char → Bool} (before : Text) {c : Char} (after : Text)
    (h : cut c = true)
    : pieces cut (before ++ c :: after) = pieces cut before ++ pieces cut after := by
  induction before with
  | nil => simp [pieces, h]
  | cons d before ih =>
      rw [List.cons_append, pieces, pieces, ih]
      by_cases hd : cut d = true
      · simp [hd]
      · simp only [if_neg hd]
        cases hbefore : pieces cut before with
        | nil => exact absurd hbefore (pieces_ne_nil cut before)
        | cons piece more => rfl

/-- What has no cuts is put before the first piece of what follows, by induction on it. -/
theorem pieces_append {cut : Char → Bool} {before after piece : Text} {more : List Text}
    (hbefore : ∀ c ∈ before, cut c = false) (hafter : pieces cut after = piece :: more)
    : pieces cut (before ++ after) = (before ++ piece) :: more := by
  induction before with
  | nil => exact hafter
  | cons c before ih =>
      rw [List.forall_mem_cons] at hbefore
      rw [List.cons_append, pieces, ih hbefore.2]
      simp [hbefore.1]

/-- What has no cuts is put behind the last piece of what comes before, by induction on it. -/
theorem pieces_append_last {cut : Char → Bool} {before after last : Text} {more : List Text}
    (hbefore : pieces cut before = more ++ [last]) (hafter : ∀ c ∈ after, cut c = false)
    : pieces cut (before ++ after) = more ++ [last ++ after] := by
  induction before generalizing more last with
  | nil =>
      have hsingle : ([] : List Text) ++ [[]] = more ++ [last] := hbefore
      obtain ⟨rfl, he⟩ := List.append_inj' hsingle rfl
      obtain ⟨rfl, -⟩ := List.cons.inj he
      have hnil : pieces cut [] = [[]] := rfl
      have hpieces := pieces_append hafter hnil
      rw [List.append_nil] at hpieces
      exact hpieces
  | cons c before ih =>
      obtain ⟨first, others, hpieces⟩ := List.exists_cons_of_ne_nil (pieces_ne_nil cut before)
      rw [pieces] at hbefore
      rw [List.cons_append, pieces]
      by_cases hc : cut c = true
      · rw [if_pos hc] at hbefore ⊢
        cases more with
        | nil =>
            obtain ⟨-, hnil⟩ := List.cons.inj hbefore
            exact absurd hnil (pieces_ne_nil cut before)
        | cons piece more =>
            obtain ⟨rfl, hrest⟩ := List.cons.inj hbefore
            rw [ih hrest]
            rfl
      · rw [if_neg hc, hpieces] at hbefore
        rw [if_neg hc]
        cases more with
        | nil =>
            obtain ⟨rfl, rfl⟩ := List.cons.inj hbefore
            rw [@ih first [] hpieces]
            rfl
        | cons piece more =>
            obtain ⟨rfl, rfl⟩ := List.cons.inj hbefore
            rw [@ih last (first :: more) hpieces]
            rfl

/-- A text without cuts is one piece. -/
theorem pieces_of_not_cut {cut : Char → Bool} {text : Text} (h : ∀ c ∈ text, cut c = false)
    : pieces cut text = [text] := by
  have hpieces := @pieces_append cut text [] [] [] h rfl
  rwa [List.append_nil] at hpieces

/-- What stands in front of the first part stands in front of all. -/
theorem join_append_left (separator before word : Text) (parts : List Text)
    : join separator ((before ++ word) :: parts) = before ++ join separator (word :: parts) := by
  cases parts with
  | nil => rfl
  | cons next rest => simp only [join, List.append_assoc]

/-- What stands behind the last part stands behind all. -/
theorem join_append_right (separator : Text) (parts : List Text) (last after : Text)
    : join separator (parts ++ [last ++ after]) = join separator (parts ++ [last]) ++ after := by
  match parts with
  | [] => rfl
  | [part] => simp [join]
  | part :: next :: rest =>
      have ih := join_append_right separator (next :: rest) last after
      simp only [List.cons_append, join, List.append_assoc] at ih ⊢
      rw [ih]

/-- The pieces between marks are joined by the mark to the text, by induction on it. -/
theorem join_pieces (mark : Char) (text : Text) : join [mark] (pieces (· == mark) text) = text := by
  induction text with
  | nil => rfl
  | cons c rest ih =>
      obtain ⟨first, more, hpieces⟩ := List.exists_cons_of_ne_nil (pieces_ne_nil (· == mark) rest)
      rw [hpieces] at ih
      rw [pieces, hpieces]
      split
      · rename_i hmark
        rw [join, ih, beq_iff_eq.mp hmark]
        rfl
      · have hjoin := join_append_left [mark] [c] first more
        rw [List.singleton_append, ih] at hjoin
        exact hjoin

-----------------------------------------------------------------------------------------
-- Words
-----------------------------------------------------------------------------------------

/-- A blank parts the words of a text. -/
theorem words_append_blank (before : Text) {c : Char} (after : Text) (h : isBlank c = true)
    : words (before ++ c :: after) = words before ++ words after := by
  rw [words, pieces_append_cut before after h, List.filter_append]
  rfl

/-- A blank in front makes no difference to the words. -/
theorem words_cons_blank {c : Char} (after : Text) (h : isBlank c = true)
    : words (c :: after) = words after :=
  words_append_blank [] after h

/-- A text without blanks is one word. -/
theorem words_of_not_blank {text : Text} (hne : text ≠ []) (h : ∀ c ∈ text, isBlank c = false)
    : words text = [text] := by
  rw [words, pieces_of_not_cut h]
  simp [hne]

/-- Leading blanks add no words, by induction on the text. -/
theorem words_trimStart (text : Text) : words (trimStart text) = words text := by
  induction text with
  | nil => rfl
  | cons c rest ih =>
      by_cases h : isBlank c = true
      · rw [trimStart, List.dropWhile_cons_of_pos h, words_cons_blank rest h]
        exact ih
      · rw [trimStart, List.dropWhile_cons_of_neg h]

/-- Trailing blanks add no words, by induction on the blanks. -/
theorem words_append_blanks (text : Text) {after : Text} (h : ∀ c ∈ after, isBlank c = true)
    : words (text ++ after) = words text := by
  induction after generalizing text with
  | nil => rw [List.append_nil]
  | cons c after ih =>
      rw [List.forall_mem_cons] at h
      have hafter := ih [] h.2
      rw [List.nil_append] at hafter
      rw [words_append_blank text after h.1, hafter]
      simp [words, pieces]

/-- What trimming takes off the end is blank. -/
theorem trimEnd_append_blanks (text : Text)
    : ∃ after, trimEnd text ++ after = text ∧ ∀ c ∈ after, isBlank c = true := by
  refine ⟨(text.reverse.takeWhile isBlank).reverse, ?_, ?_⟩
  · rw [trimEnd, ← List.reverse_append, List.takeWhile_append_dropWhile, List.reverse_reverse]
  · intro c hmem
    exact List.mem_takeWhile_imp (List.mem_reverse.mp hmem)

/-- Blanks at the end make no difference to the words. -/
theorem words_trimEnd (text : Text) : words (trimEnd text) = words text := by
  obtain ⟨after, htext, hblank⟩ := trimEnd_append_blanks text
  have hwords := words_append_blanks (trimEnd text) hblank
  rw [htext] at hwords
  exact hwords.symm

/-- Blanks around a text make no difference to its words. -/
theorem words_trim (text : Text) : words (trim text) = words text := by
  rw [trim, words_trimEnd, words_trimStart]

/-- Only blanks are trimmed away. -/
theorem mem_trim {text : Text} {c : Char} (h : c ∈ text) (hblank : isBlank c = false)
    : c ∈ trim text := by
  have hstart : c ∈ trimStart text := by
    have hsplit : text.takeWhile isBlank ++ trimStart text = text :=
      List.takeWhile_append_dropWhile
    rw [← hsplit] at h
    rcases List.mem_append.mp h with htake | hdrop
    · rw [List.mem_takeWhile_imp htake] at hblank
      cases hblank
    · exact hdrop
  obtain ⟨after, htext, hafter⟩ := trimEnd_append_blanks (trimStart text)
  rw [← htext] at hstart
  rcases List.mem_append.mp hstart with hmem | hmem
  · exact hmem
  · rw [hafter c hmem] at hblank
    cases hblank

/-- Nothing is left of a text by trimming if and only if it is blank. -/
theorem trim_eq_nil_iff {text : Text} : trim text = [] ↔ isAllBlank text = true := by
  constructor
  · intro hnil
    refine List.all_eq_true.mpr (fun c hc => ?_)
    cases hblank : isBlank c with
    | true => rfl
    | false =>
        have hmem := mem_trim hc hblank
        rw [hnil] at hmem
        cases hmem
  · intro hblank
    refine List.eq_nil_iff_forall_not_mem.mpr (fun c hc => ?_)
    obtain ⟨d, rest, hhead⟩ := List.exists_cons_of_ne_nil (List.ne_nil_of_mem hc)
    have hfirst : d ∈ (trim text).head? := by
      rw [hhead]
      rfl
    have hd := isBlank_head?_trim hfirst
    have hmem := (isInfix_trim text).subset (hhead ▸ List.mem_cons_self : d ∈ trim text)
    rw [List.all_eq_true.mp hblank d hmem] at hd
    cases hd

/-- A text is blank when it is trimmed if and only if it was before. -/
theorem isAllBlank_trim (text : Text) : isAllBlank (trim text) = isAllBlank text := by
  rw [Bool.eq_iff_iff, ← trim_eq_nil_iff, ← trim_eq_nil_iff, trim_trim]

/-- A piece has no cuts in it, by induction on the text. -/
theorem not_cut_of_mem_pieces {cut : Char → Bool} {text piece : Text} (h : piece ∈ pieces cut text)
    : ∀ c ∈ piece, cut c = false := by
  induction text generalizing piece with
  | nil => simp_all [pieces]
  | cons d rest ih =>
      rw [pieces] at h
      by_cases hd : cut d = true
      · rw [if_pos hd] at h
        rcases List.mem_cons.mp h with rfl | h
        · simp
        · exact ih h
      · rw [if_neg hd] at h
        cases hrest : pieces cut rest with
        | nil => exact absurd hrest (pieces_ne_nil cut rest)
        | cons first more =>
            rw [hrest] at h
            rcases List.mem_cons.mp h with rfl | h
            · rw [List.forall_mem_cons]
              exact ⟨by simpa using hd, ih (by simp [hrest])⟩
            · exact ih (by simp [hrest, h])

/-- The pieces of a text hold nothing but what is in it, by induction on the text. -/
theorem mem_of_mem_pieces {cut : Char → Bool} {text piece : Text} {c : Char}
    (h : piece ∈ pieces cut text) (hc : c ∈ piece)
    : c ∈ text := by
  induction text generalizing piece with
  | nil =>
      rw [List.mem_singleton.mp h] at hc
      exact hc
  | cons d rest ih =>
      obtain ⟨first, more, hpieces⟩ := List.exists_cons_of_ne_nil (pieces_ne_nil cut rest)
      rw [pieces, hpieces] at h
      split at h
      · rcases List.mem_cons.mp h with rfl | h
        · cases hc
        · exact List.mem_cons_of_mem d (ih (hpieces ▸ h) hc)
      · rcases List.mem_cons.mp h with rfl | h
        · rcases List.mem_cons.mp hc with rfl | hc
          · exact List.mem_cons_self
          · exact List.mem_cons_of_mem d (ih (hpieces ▸ List.mem_cons_self) hc)
        · exact List.mem_cons_of_mem d (ih (hpieces ▸ List.mem_cons_of_mem first h) hc)

/-- The characters of a word come from the text. -/
theorem mem_of_mem_words {text word : Text} {c : Char} (h : word ∈ words text) (hc : c ∈ word)
    : c ∈ text :=
  mem_of_mem_pieces (List.mem_filter.mp h).1 hc

/-- A word is something, and has no blank. -/
theorem word_of_mem_words {text word : Text} (h : word ∈ words text)
    : word ≠ [] ∧ ∀ c ∈ word, isBlank c = false := by
  obtain ⟨hmem, hne⟩ := List.mem_filter.mp h
  exact ⟨by simpa using hne, not_cut_of_mem_pieces hmem⟩

/-- The only word of a text is something, and has no blank. -/
theorem word_of_words_eq {text word : Text} (h : words text = [word])
    : word ≠ [] ∧ ∀ c ∈ word, isBlank c = false :=
  word_of_mem_words (h ▸ List.mem_singleton_self word)

/-- Words are joined by spaces and found again, by induction on them. -/
theorem words_join {parts : List Text}
    (h : ∀ word ∈ parts, word ≠ [] ∧ ∀ c ∈ word, isBlank c = false)
    : words (join [' '] parts) = parts := by
  match parts with
  | [] => rfl
  | [word] =>
      rw [List.forall_mem_singleton] at h
      exact words_of_not_blank h.1 h.2
  | word :: next :: rest =>
      rw [List.forall_mem_cons] at h
      rw [join, List.append_assoc, List.singleton_append, words_append_blank _ _ (by decide),
        words_of_not_blank h.1.1 h.1.2, words_join h.2, List.singleton_append]

/-- What has no blanks is put before the first word of what follows at once. -/
theorem words_append_left {before text first : Text} {more : List Text}
    (hbefore : ∀ c ∈ before, isBlank c = false) (hhead : ∀ c ∈ text.head?, isBlank c = false)
    (hwords : words text = first :: more)
    : words (before ++ text) = (before ++ first) :: more := by
  cases text with
  | nil => simp [words, pieces] at hwords
  | cons c rest =>
      obtain ⟨piece, others, hpieces⟩ :=
        List.exists_cons_of_ne_nil (pieces_ne_nil isBlank (c :: rest))
      have hpiece : piece ≠ [] := by
        rintro rfl
        rw [pieces, if_neg (by simp [hhead c (by simp)])] at hpieces
        split at hpieces <;> simp at hpieces
      rw [words, hpieces] at hwords
      rw [words, pieces_append hbefore hpieces]
      simp_all

/-- What stands behind the last word, without a blank between, belongs to it. -/
theorem words_append_right {text after last : Text} {more : List Text}
    (hafter : ∀ c ∈ after, isBlank c = false) (hlast : ∀ c ∈ text.getLast?, isBlank c = false)
    (hwords : words text = more ++ [last])
    : words (text ++ after) = more ++ [last ++ after] := by
  rcases List.eq_nil_or_concat text with rfl | ⟨rest, c, rfl⟩
  · simp [words, pieces] at hwords
  · rw [List.concat_eq_append] at hlast hwords ⊢
    have hc : ∀ d ∈ [c], isBlank d = false := by
      rw [List.forall_mem_singleton]
      exact hlast c (by simp)
    obtain ⟨others, piece, hpieces⟩ : ∃ others piece, pieces isBlank rest = others ++ [piece] := by
      rcases List.eq_nil_or_concat (pieces isBlank rest) with hnil | ⟨others, piece, hconcat⟩
      · exact absurd hnil (pieces_ne_nil isBlank rest)
      · exact ⟨others, piece, by rw [hconcat, List.concat_eq_append]⟩
    have hwhole := pieces_append_last hpieces hc
    have hlonger := pieces_append_last hwhole hafter
    rw [words, hwhole, List.filter_append] at hwords
    rw [words, hlonger, List.filter_append]
    have hparts := List.append_inj' hwords (by simp)
    obtain ⟨hothers, hpiece⟩ := hparts
    have hsingle : piece ++ [c] = last := by simpa using hpiece
    rw [hothers, hsingle]
    simp [← hsingle]

/-- What has no blanks goes together with the first and the last of several words in between. -/
theorem words_between {before text after first last : Text} {middle : List Text}
    (hbefore : ∀ c ∈ before, isBlank c = false) (hafter : ∀ c ∈ after, isBlank c = false)
    (htrim : trim text = text) (hwords : words text = first :: (middle ++ [last]))
    : words (before ++ (text ++ after)) = (before ++ first) :: (middle ++ [last ++ after]) := by
  have hlast : ∀ c ∈ text.getLast?, isBlank c = false := by
    rw [← htrim]
    exact fun c hc => isBlank_getLast?_trimEnd hc
  have hhead : ∀ c ∈ (text ++ after).head?, isBlank c = false := by
    cases text with
    | nil => simp [words, pieces] at hwords
    | cons d rest =>
        rintro c ⟨⟩
        have hfirst : d ∈ (trim (d :: rest)).head? := by
          rw [htrim]
          rfl
        exact isBlank_head?_trim hfirst
  have htext : words (text ++ after) = first :: middle ++ [last ++ after] :=
    words_append_right hafter hlast hwords
  exact words_append_left hbefore hhead htext

/-- What is no cut stands in a piece, by induction on the text. -/
theorem mem_pieces {cut : Char → Bool} {text : Text} {c : Char} (h : c ∈ text)
    (hcut : cut c = false)
    : ∃ piece ∈ pieces cut text, c ∈ piece := by
  induction text with
  | nil => cases h
  | cons d rest ih =>
      rw [pieces]
      by_cases hd : cut d = true
      · have hrest : c ∈ rest := by
          refine List.mem_of_ne_of_mem ?_ h
          rintro rfl
          rw [hd] at hcut
          cases hcut
        obtain ⟨piece, hpiece, hmem⟩ := ih hrest
        rw [if_pos hd]
        exact ⟨piece, List.mem_cons_of_mem _ hpiece, hmem⟩
      · rw [if_neg hd]
        cases hpieces : pieces cut rest with
        | nil => exact absurd hpieces (pieces_ne_nil cut rest)
        | cons first more =>
            rcases List.mem_cons.mp h with rfl | hrest
            · exact ⟨c :: first, by simp, by simp⟩
            · obtain ⟨piece, hpiece, hmem⟩ := ih hrest
              rw [hpieces] at hpiece
              rcases List.mem_cons.mp hpiece with rfl | hpiece
              · exact ⟨d :: piece, by simp, List.mem_cons_of_mem _ hmem⟩
              · exact ⟨piece, List.mem_cons_of_mem _ hpiece, hmem⟩

/-- Every character that is no blank is in a word. -/
theorem mem_words_of_not_blank {text : Text} {c : Char} (h : c ∈ text) (hblank : isBlank c = false)
    : ∃ word ∈ words text, c ∈ word := by
  obtain ⟨piece, hpiece, hmem⟩ := mem_pieces h hblank
  refine ⟨piece, List.mem_filter.mpr ⟨hpiece, ?_⟩, hmem⟩
  simpa using List.ne_nil_of_mem hmem

/-- A trimmed text that is something has words. -/
theorem words_ne_nil {text : Text} (htrim : trim text = text) (hne : text ≠ [])
    : words text ≠ [] := by
  obtain ⟨c, rest, rfl⟩ := List.exists_cons_of_ne_nil hne
  have hhead : c ∈ (trim (c :: rest)).head? := by
    rw [htrim]
    rfl
  obtain ⟨word, hword, -⟩ := mem_words_of_not_blank List.mem_cons_self (isBlank_head?_trim hhead)
  exact List.ne_nil_of_mem hword

/-- A trimmed text begins with its first word, and is no more than that if it is the only one. -/
theorem begins_of_words {text word : Text} {more : List Text} (htrim : trim text = text)
    (h : words text = word :: more)
    : word <+: text ∧ (more = [] → text = word) := by
  have hsplit : text.takeWhile (fun c => !isBlank c) ++ text.dropWhile (fun c => !isBlank c)
      = text := List.takeWhile_append_dropWhile
  have hfront : ∀ c ∈ text.takeWhile (fun c => !isBlank c), isBlank c = false := by
    intro c hc
    simpa using List.mem_takeWhile_imp hc
  generalize text.takeWhile (fun c => !isBlank c) = front at hsplit hfront
  cases hafter : text.dropWhile (fun c => !isBlank c) with
  | nil =>
      rw [hafter, List.append_nil] at hsplit
      subst hsplit
      have hne : front ≠ [] := by
        rintro rfl
        cases h
      rw [words_of_not_blank hne hfront] at h
      obtain ⟨rfl, -⟩ := List.cons.inj h
      exact ⟨List.prefix_rfl, fun _ => rfl⟩
  | cons c rest =>
      have hc : isBlank c = true := by
        have hnot := List.head?_dropWhile_not (fun c => !isBlank c) text
        rw [hafter] at hnot
        simpa using hnot
      rw [hafter] at hsplit
      have hne : front ≠ [] := by
        rintro rfl
        have hhead : c ∈ (trim text).head? := by
          rw [htrim, ← hsplit]
          rfl
        rw [isBlank_head?_trim hhead] at hc
        cases hc
      rw [← hsplit, words_append_blank front rest hc, words_of_not_blank hne hfront,
        List.singleton_append] at h
      obtain ⟨rfl, hmore⟩ := List.cons.inj h
      refine ⟨hsplit ▸ List.prefix_append _ _, fun hnil => ?_⟩
      -- Then nothing but blanks is left, and the text ends in one of them.
      have hlast := List.getLast?_eq_some_getLast (List.cons_ne_nil c rest)
      have hnot : isBlank ((c :: rest).getLast (List.cons_ne_nil c rest)) = false := by
        refine isBlank_getLast?_trimEnd (?_ : _ ∈ (trim text).getLast?)
        rw [htrim, ← hsplit, List.getLast?_append, hlast]
        rfl
      rcases List.mem_cons.mp (List.mem_of_getLast? hlast) with hsame | hmem
      · rw [hsame, hc] at hnot
        cases hnot
      · obtain ⟨word, hword, -⟩ := mem_words_of_not_blank hmem hnot
        rw [hmore, hnil] at hword
        cases hword

end LeasePapers.Text
