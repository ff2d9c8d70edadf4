import LeasePapers.Name.Given
import LeasePapers.Proofs.Name.Entry
import LeasePapers.Text.Upper

/-! Full names, written in letters only. A full name on one line is a single name of the free text
that it makes up, also between emphasis tags.
-/

namespace LeasePapers

namespace Name

/-- The marks that stand between names, around one, or before a list. -/
def marks : List Char :=
  [',', '<', '[']

/-- A full name: at least two words, all of letters, and none of them the conjunction. -/
structure IsFull (name : Text) : Prop where
  several : 2 ≤ (Text.words name).length
  letters : ∀ word ∈ Text.words name, ∀ c ∈ word, Text.isAlphabetic c = true
  noConjunction : ∀ word ∈ Text.words name, word ≠ ['e'] ∧ word ≠ ['E']

/-- Whether a name is full is seen from its words. -/
instance (name : Text) : Decidable (IsFull name) :=
  decidable_of_iff
    (2 ≤ (Text.words name).length
      ∧ (Text.words name).all (fun word => word.all Text.isAlphabetic) = true
      ∧ ∀ word ∈ Text.words name, word ≠ ['e'] ∧ word ≠ ['E'])
    ⟨fun ⟨hseveral, hletters, hfree⟩ =>
        ⟨hseveral, by simpa only [List.all_eq_true] using hletters, hfree⟩,
      fun h => ⟨h.several, by simpa only [List.all_eq_true] using h.letters, h.noConjunction⟩⟩

/-- The capital of the first letter of the last word. -/
def initial? (name : Text) : Option Text :=
  ((Text.words name).getLast?.bind List.head?).map Text.upperChar

/-- Two full names that differ in nothing but what their redacted forms leave out. -/
structure SameInitials (name other : Text) : Prop where
  full : IsFull name
  otherFull : IsFull other
  given : first? name = first? other
  initial : initial? name = initial? other

namespace IsFull

variable {name : Text}

/-- A full name has no marks. -/
theorem not_mem (h : IsFull name) {c : Char} (hc : c ∈ marks) : c ∉ name := by
  have hmarks : marks.any (fun c => Text.isBlank c || Text.isAlphabetic c) = false := by
    decide
  have hmark := List.any_eq_false.mp hmarks c hc
  rw [Bool.or_eq_true, not_or, Bool.not_eq_true] at hmark
  intro hmem
  obtain ⟨word, hword, hmem⟩ := Text.mem_words_of_not_blank hmem hmark.1
  exact hmark.2 (h.letters word hword c hmem)

/-- Names with the same words are full together. -/
theorem of_words_eq {other : Text} (h : IsFull name) (hwords : Text.words other = Text.words name)
    : IsFull other := by
  obtain ⟨hseveral, hletters, hconjunction⟩ := h
  rw [← hwords] at hseveral hletters hconjunction
  exact ⟨hseveral, hletters, hconjunction⟩

/-- A full name has words. -/
theorem words_ne_nil (h : IsFull name) : Text.words name ≠ [] := by
  intro hnil
  have hseveral := h.several
  rw [hnil] at hseveral
  simp at hseveral

/-- A full name is not blank. -/
theorem notBlank (h : IsFull name) : Text.isAllBlank name = false := by
  cases hall : Text.isAllBlank name with
  | false => rfl
  | true =>
      have hwords := Text.words_append_blanks [] (List.all_eq_true.mp hall)
      exact absurd hwords h.words_ne_nil

/-- A full name stays one with single blanks between its words. -/
theorem join (h : IsFull name) : IsFull (Text.join [' '] (Text.words name)) :=
  h.of_words_eq (Text.words_join (fun _ hmem => Text.word_of_mem_words hmem))

/-- A full name on one line has no separator. -/
theorem ofChar?_eq_none (h : IsFull name) (hline : '\n' ∉ name)
    : ∀ c ∈ name, Separator.ofChar? c = none := by
  intro c hc
  have hcomma : ',' ∉ name := h.not_mem (by decide)
  rw [Separator.ofChar?, if_neg, if_neg]
  · rintro rfl
    exact hline hc
  · rintro rfl
    exact hcomma hc

/-- A full name on one line is split into its words with single blanks between them. -/
theorem split_eq (h : IsFull name) (hline : '\n' ∉ name)
    : split name = [Text.join [' '] (Text.words name)] :=
  split_eq_singleton (h.ofChar?_eq_none hline) h.words_ne_nil h.noConjunction

/-- A full name between texts without blanks and separators is one name with both of them: they go
together with its first and its last word, which are different words.
-/
theorem split_between (h : IsFull name) (hline : '\n' ∉ name) (htrim : Text.trim name = name)
    {before after : Text} (hbefore : before ≠ []) (hafter : after ≠ [])
    (hopening : ∀ c ∈ before, endsWord c = false) (hclosing : ∀ c ∈ after, endsWord c = false)
    : split (before ++ (name ++ after))
      = [before ++ Text.join [' '] (Text.words name) ++ after] := by
  obtain ⟨given, others, hwords⟩ := List.exists_cons_of_ne_nil h.words_ne_nil
  have hothers : others ≠ [] := by
    rintro rfl
    have hseveral := h.several
    rw [hwords] at hseveral
    simp at hseveral
  obtain ⟨middle, last, rfl⟩ : ∃ middle last, others = middle ++ [last] :=
    ⟨_, _, (List.dropLast_concat_getLast hothers).symm⟩
  have hends : ∀ {c}, endsWord c = false → Text.isBlank c = false ∧ Separator.ofChar? c = none := by
    intro c hc
    simpa [endsWord] using hc
  have hbetween := Text.words_between (fun c hc => (hends (hopening c hc)).1)
    (fun c hc => (hends (hclosing c hc)).1) htrim hwords
  have hseparators : ∀ c ∈ before ++ (name ++ after), Separator.ofChar? c = none := by
    simp only [List.forall_mem_append]
    exact ⟨fun c hc => (hends (hopening c hc)).2, h.ofChar?_eq_none hline,
      fun c hc => (hends (hclosing c hc)).2⟩
  have hnonempty : ∀ word ∈ Text.words name, word ≠ [] :=
    fun word hword => (Text.word_of_mem_words hword).1
  have hconjunction := h.noConjunction
  rw [hwords] at hnonempty hconjunction
  simp only [List.forall_mem_cons, List.forall_mem_append] at hnonempty hconjunction
  have hlong : ∀ {x y : Text} (c : Char), x ≠ [] → y ≠ [] → x ++ y ≠ [c] := by
    intro x y c hx hy
    simp [List.append_eq_singleton_iff, hx, hy]
  rw [split_eq_singleton hseparators, hbetween, Text.join_append_left, ← List.cons_append,
    Text.join_append_right, hwords, List.append_assoc, List.cons_append]
  · rw [hbetween]
    simp
  · rw [hbetween]
    simp only [List.forall_mem_cons, List.forall_mem_append]
    have hfirst := hnonempty.1
    have hlast := hnonempty.2.2.1
    exact ⟨⟨hlong _ hbefore hfirst, hlong _ hbefore hfirst⟩, hconjunction.2.1,
      ⟨hlong _ hlast hafter, hlong _ hlast hafter⟩, by simp⟩

/-- A full name between emphasis tags is split into one name. -/
theorem split_emphasize (h : IsFull name) (hline : '\n' ∉ name) (htrim : Text.trim name = name)
    {tag : Text} (htag : ∀ c ∈ tag, Text.isAsciiAlphanumeric c = true)
    : split (emphasize tag name) = [emphasize tag (Text.join [' '] (Text.words name))] := by
  have hfree := whole_of_alphanumeric htag
  have hopening : ∀ c ∈ ['<'] ++ tag ++ ['>'], endsWord c = false := by
    simp only [List.forall_mem_append, List.forall_mem_singleton]
    exact ⟨⟨by decide, hfree⟩, by decide⟩
  have hclosing : ∀ c ∈ ['<', '/'] ++ tag ++ ['>'], endsWord c = false := by
    simp only [List.forall_mem_append, List.forall_mem_cons]
    exact ⟨⟨⟨by decide, by decide, by simp⟩, hfree⟩, by decide, by simp⟩
  have hsplit := h.split_between hline htrim (by simp) (by simp) hopening hclosing
  simpa [emphasize] using hsplit

end IsFull

end Name

end LeasePapers
