import LeasePapers.Proofs.Text.Blank
import LeasePapers.Template.Tag

/-! The arguments of a tag. What is read is a list of names and of quoted texts, and names and
quoted texts that are written with blanks between them are read again.
-/

namespace LeasePapers.Template

-----------------------------------------------------------------------------------------
-- Characters of names
-----------------------------------------------------------------------------------------

attribute [local simp] argumentsFrom?

/-- Whether a character may stand anywhere in a name. -/
def mayStandInPath (c : Char) : Bool :=
  continuesPath c || c == '@'

/-- What may begin a name may continue one. -/
theorem beginsPath_continues {c : Char} (h : beginsPath c = true) : continuesPath c = true := by
  simp only [beginsPath, Bool.or_eq_true] at h
  rcases h with h | h <;> simp [continuesPath, Text.isAlphanumeric, h]

/-- A name is something, and has only characters that may stand in one. -/
theorem isPath_chars {word : Text} (h : isPath word = true)
    : word ≠ [] ∧ ∀ c ∈ word, mayStandInPath c = true := by
  simp only [isPath, Bool.or_eq_true, beq_iff_eq] at h
  rcases h with rfl | h
  · have hchars : indexName.all mayStandInPath = true := by decide
    exact ⟨by decide, List.all_eq_true.mp hchars⟩
  · cases word with
    | nil => cases h
    | cons c rest =>
        simp only [Bool.and_eq_true, List.all_eq_true] at h
        refine ⟨by simp, fun d hd => ?_⟩
        rcases List.mem_cons.mp hd with rfl | hd
        · simp [mayStandInPath, beginsPath_continues h.1]
        · simp [mayStandInPath, h.2 d hd]

/-- No blank may stand in a name. -/
theorem isBlank_of_mayStandInPath {c : Char} (h : mayStandInPath c = true)
    : Text.isBlank c = false :=
  Text.isBlank_of_class (by decide +kernel) h

/-- The marks of tags and of quoted texts. -/
def marks : List Char :=
  ['\x7b', '\x7d', '#', '/', '"', '\'']

/-- No mark of a tag stands in a name. -/
theorem not_mem_isPath {word : Text} (h : isPath word = true) {c : Char} (hc : c ∈ marks)
    : c ∉ word := by
  have hmarks : marks.any mayStandInPath = false := by
    decide
  intro hmem
  exact List.any_eq_false.mp hmarks c hc ((isPath_chars h).2 c hmem)

/-- No blank stands in a name. -/
theorem isBlank_of_mem_isPath {word : Text} (h : isPath word = true) {c : Char} (hc : c ∈ word)
    : Text.isBlank c = false :=
  isBlank_of_mayStandInPath ((isPath_chars h).2 c hc)

-----------------------------------------------------------------------------------------
-- What is read
-----------------------------------------------------------------------------------------

/-- The two quotes. -/
def IsQuote (c : Char) : Prop :=
  c = '"' ∨ c = '\''

/-- What is known of an argument that was read from a text: a name is one, and a quoted text is a
part of the text and leaves one of the quotes out.
-/
def Argument.ReadFrom (text : Text) : Argument → Prop
  | .path name => isPath name = true
  | .literal content => content <:+: text ∧ ∃ quote, IsQuote quote ∧ quote ∉ content

/-- What is read from a part of a text is read from the text. -/
theorem Argument.ReadFrom.mono {part text : Text} {argument : Argument}
    (h : argument.ReadFrom part) (hpart : part <:+: text)
    : argument.ReadFrom text := by
  cases argument with
  | path name => exact h
  | literal content => exact ⟨h.1.trans hpart, h.2⟩

/-- What has been read of the argument that the reader is in the middle of. -/
def ArgumentReading.pending : ArgumentReading → Text
  | .between => []
  | .quoted _ read => read
  | .word read => read

/-- A quoted argument begins with a quote, and goes on as long as that quote is not read. -/
def ArgumentReading.Sound : ArgumentReading → Prop
  | .quoted mark read => IsQuote mark ∧ mark ∉ read
  | _ => True

/-- Every argument is read from the text, by induction along the reader; what is pending of an
argument counts as text still to be read.
-/
theorem readFrom_argumentsFrom {reading : ArgumentReading} {text : Text}
    {arguments : List Argument} (h : argumentsFrom? reading text = some arguments)
    (hreading : reading.Sound)
    : ∀ argument ∈ arguments, argument.ReadFrom (reading.pending ++ text) := by
  induction reading, text using argumentsFrom?.induct generalizing arguments with
  | case1 =>
      obtain rfl := Option.some.inj h
      simp
  | case2 c rest hblank ih =>
      rw [argumentsFrom?, if_pos hblank] at h
      intro argument hmem
      exact (ih h trivial argument hmem).mono (List.suffix_cons c rest).isInfix
  | case3 c rest hblank hquote ih =>
      rw [argumentsFrom?, if_neg hblank, if_pos hquote] at h
      intro argument hmem
      exact (ih h ⟨hquote, by simp⟩ argument hmem).mono (List.suffix_cons c rest).isInfix
  | case4 c rest hblank hquote ih =>
      rw [argumentsFrom?, if_neg hblank, if_neg hquote] at h
      intro argument hmem
      exact ih h trivial argument hmem
  | case5 mark read => cases h
  | case6 read c rest ih =>
      rw [argumentsFrom?, if_pos rfl] at h
      obtain ⟨more, hmore, rfl⟩ := Option.map_eq_some_iff.mp h
      intro argument hmem
      rcases List.mem_cons.mp hmem with rfl | hmem
      · exact ⟨(List.prefix_append read _).isInfix, c, hreading⟩
      · refine (ih hmore trivial argument hmem).mono ?_
        exact ((List.suffix_cons c rest).trans (List.suffix_append read _)).isInfix
  | case7 mark read c rest hc ih =>
      rw [argumentsFrom?, if_neg hc] at h
      have hsound : mark ∉ read ++ [c] := by
        simp [hreading.2, Ne.symm hc]
      have hrest := ih h ⟨hreading.1, hsound⟩
      simpa only [ArgumentReading.pending, List.append_assoc, List.singleton_append] using hrest
  | case8 read hpath =>
      rw [argumentsFrom?, if_pos hpath] at h
      obtain rfl := Option.some.inj h
      intro argument hmem
      rw [List.mem_singleton.mp hmem]
      exact hpath
  | case9 read hpath => simp [hpath] at h
  | case10 read c rest hblank hpath ih =>
      rw [argumentsFrom?, if_pos hblank, if_pos hpath] at h
      obtain ⟨more, hmore, rfl⟩ := Option.map_eq_some_iff.mp h
      intro argument hmem
      rcases List.mem_cons.mp hmem with rfl | hmem
      · exact hpath
      · refine (ih hmore trivial argument hmem).mono ?_
        exact ((List.suffix_cons c rest).trans (List.suffix_append read _)).isInfix
  | case11 read c rest hblank hpath => simp [hblank, hpath] at h
  | case12 read c rest hblank ih =>
      rw [argumentsFrom?, if_neg hblank] at h
      have hrest := ih h trivial
      simpa only [ArgumentReading.pending, List.append_assoc, List.singleton_append] using hrest

/-- Inside of an argument there is one to come, by induction on the steps of the reader. -/
theorem argumentsFrom_ne_nil {reading : ArgumentReading} {text : Text}
    (hreading : reading ≠ .between)
    : argumentsFrom? reading text ≠ some [] := by
  intro h
  induction reading, text using argumentsFrom?.induct with
  | case1 => exact hreading rfl
  | case2 c rest hblank ih => exact hreading rfl
  | case3 c rest hblank hquote ih => exact hreading rfl
  | case4 c rest hblank hquote ih => exact hreading rfl
  | case5 mark read => cases h
  | case6 read c rest ih => simp at h
  | case7 mark read c rest hc ih =>
      rw [argumentsFrom?, if_neg hc] at h
      exact ih (by simp) h
  | case8 read hpath => simp [hpath] at h
  | case9 read hpath => simp [hpath] at h
  | case10 read c rest hblank hpath ih => simp [hblank, hpath] at h
  | case11 read c rest hblank hpath => simp [hblank, hpath] at h
  | case12 read c rest hblank ih =>
      rw [argumentsFrom?, if_neg hblank] at h
      exact ih (by simp) h

/-- All arguments are read from the text. -/
theorem readFrom_arguments {text : Text} {arguments : List Argument}
    (h : arguments? text = some arguments)
    : ∀ argument ∈ arguments, argument.ReadFrom text :=
  readFrom_argumentsFrom h trivial

/-- A text without arguments is blank, by induction on the text. -/
theorem isBlank_of_argumentsFrom_nil {text : Text}
    (h : argumentsFrom? .between text = some [])
    : ∀ c ∈ text, Text.isBlank c = true := by
  induction text with
  | nil => simp
  | cons c rest ih =>
      rw [argumentsFrom?] at h
      split at h
      · rename_i hblank
        simpa [hblank] using ih h
      · -- A quote or a word that begins here leaves an argument.
        exfalso
        split at h
        · exact argumentsFrom_ne_nil (by simp) h
        · exact argumentsFrom_ne_nil (by simp) h

/-- What begins with a quote is no name, by induction on the text. -/
theorem argumentsFrom_quoted_ne_path {mark : Char} {read text name : Text}
    {more : List Argument}
    : argumentsFrom? (.quoted mark read) text ≠ some (.path name :: more) := by
  intro h
  induction text generalizing read with
  | nil => cases h
  | cons c rest ih =>
      rw [argumentsFrom?] at h
      split at h
      · simp [Option.map_eq_some_iff] at h
      · exact ih h

/-- A word that is read as the only argument is all that is left of the text, but for blanks, by
induction on the text. -/
theorem eq_append_of_argumentsFrom_word {read text name : Text}
    (h : argumentsFrom? (.word read) text = some [.path name])
    : ∃ blanks, read ++ text = name ++ blanks ∧ ∀ c ∈ blanks, Text.isBlank c = true := by
  induction text generalizing read with
  | nil =>
      simp only [argumentsFrom?, Option.ite_none_right_eq_some, Option.some.injEq,
        List.cons.injEq, Argument.path.injEq, and_true] at h
      exact ⟨[], by simp [h.2], by simp⟩
  | cons c rest ih =>
      rw [argumentsFrom?] at h
      split at h
      · rename_i hblank
        simp only [Option.ite_none_right_eq_some, Option.map_eq_some_iff, List.cons.injEq,
          Argument.path.injEq] at h
        obtain ⟨-, more, hmore, rfl, rfl⟩ := h
        refine ⟨c :: rest, rfl, ?_⟩
        simpa [hblank] using isBlank_of_argumentsFrom_nil hmore
      · obtain ⟨blanks, hread, hblanks⟩ := ih h
        exact ⟨blanks, by simpa using hread, hblanks⟩

/-- A text without blanks around it whose only argument is a name is that name. -/
theorem eq_of_arguments_path {text name : Text}
    (hhead : ∀ c ∈ text.head?, Text.isBlank c = false)
    (hlast : ∀ c ∈ text.getLast?, Text.isBlank c = false)
    (h : arguments? text = some [.path name])
    : text = name := by
  cases text with
  | nil => simp [arguments?, argumentsFrom?] at h
  | cons c rest =>
      have hblank : ¬Text.isBlank c = true := by simp [hhead c (by simp)]
      rw [arguments?, argumentsFrom?, if_neg hblank] at h
      split at h
      · exact absurd h argumentsFrom_quoted_ne_path
      · obtain ⟨blanks, hread, hblanks⟩ := eq_append_of_argumentsFrom_word h
        rw [List.singleton_append] at hread
        cases hback : blanks.getLast? with
        | none => rw [hread, List.getLast?_eq_none_iff.mp hback, List.append_nil]
        | some last =>
            have hend : last ∈ (c :: rest).getLast? := by
              rw [hread, List.getLast?_append, hback]
              simp
            have hno := hlast last hend
            rw [hblanks last (List.mem_of_getLast? hback)] at hno
            cases hno

-----------------------------------------------------------------------------------------
-- What is written is read again
-----------------------------------------------------------------------------------------

/-- The reader goes through a word up to what follows it, by induction on the word. -/
theorem argumentsFrom_word {word : Text} (hword : ∀ c ∈ word, Text.isBlank c = false)
    (read rest : Text)
    : argumentsFrom? (.word read) (word ++ rest) = argumentsFrom? (.word (read ++ word)) rest := by
  induction word generalizing read with
  | nil => simp
  | cons c word ih =>
      rw [List.forall_mem_cons] at hword
      rw [List.cons_append, argumentsFrom?, if_neg (by simp [hword.1]), ih hword.2]
      simp

/-- The reader takes a name for the word that it is in. -/
theorem argumentsFrom_path {name : Text} (h : isPath name = true) (rest : Text)
    : argumentsFrom? .between (name ++ rest) = argumentsFrom? (.word name) rest := by
  have hblank : ∀ c ∈ name, Text.isBlank c = false := fun c hc => isBlank_of_mem_isPath h hc
  cases name with
  | nil => exact absurd rfl (isPath_chars h).1
  | cons c name =>
      have hquote : ¬(c = '"' ∨ c = '\'') := by
        rintro (rfl | rfl)
        · exact not_mem_isPath h (by decide) List.mem_cons_self
        · exact not_mem_isPath h (by decide) List.mem_cons_self
      rw [List.forall_mem_cons] at hblank
      rw [List.cons_append, argumentsFrom?, if_neg (by simp [hblank.1]), if_neg hquote,
        argumentsFrom_word hblank.2, List.singleton_append]

/-- A name is its own only argument. -/
theorem arguments_path {name : Text} (h : isPath name = true)
    : arguments? name = some [.path name] := by
  have hread := argumentsFrom_path h []
  rw [List.append_nil] at hread
  rw [arguments?, hread, argumentsFrom?, if_pos h]

/-- A name in front of a blank is the first argument. -/
theorem arguments_path_space {name : Text} (h : isPath name = true) (rest : Text)
    : arguments? (name ++ ' ' :: rest) = (arguments? rest).map (.path name :: ·) := by
  rw [arguments?, argumentsFrom_path h, argumentsFrom?, if_pos (by decide), if_pos h]
  rfl

/-- A blank in front makes no difference to the arguments. -/
theorem arguments_space (rest : Text) : arguments? (' ' :: rest) = arguments? rest := by
  rw [arguments?, argumentsFrom?, if_pos (by decide)]
  rfl

/-- The reader goes through a quoted text up to its closing quote, by induction on the text. -/
theorem argumentsFrom_quoted {mark : Char} {content : Text} (h : mark ∉ content)
    (read rest : Text)
    : argumentsFrom? (.quoted mark read) (content ++ mark :: rest)
      = (argumentsFrom? .between rest).map (.literal (read ++ content) :: ·) := by
  induction content generalizing read with
  | nil => simp
  | cons c content ih =>
      rw [List.mem_cons, not_or] at h
      rw [List.cons_append, argumentsFrom?, if_neg (Ne.symm h.1), ih h.2]
      simp

/-- A text in quotes that it does not contain is the only argument. -/
theorem arguments_quoted {mark : Char} {content : Text} (hmark : IsQuote mark)
    (h : mark ∉ content)
    : arguments? (mark :: (content ++ [mark])) = some [.literal content] := by
  have hblank : Text.isBlank mark = false := by
    rcases hmark with rfl | rfl <;> decide
  have hquote : mark = '"' ∨ mark = '\'' := hmark
  rw [arguments?, argumentsFrom?, if_neg (by simp [hblank]), if_pos hquote,
    argumentsFrom_quoted h]
  rfl

end LeasePapers.Template
