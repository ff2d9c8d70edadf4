import LeasePapers.Yaml.Printer
import LeasePapers.Yaml.Reader
import Mathlib.Tactic.ByContra

/-! Plain and single-quoted scalars, read back as they are written. What is blank in front of a
character is kept apart as a gap until the character comes, so everything here holds from any gap
that has been read.
-/

namespace LeasePapers.Yaml

/-- A text has no line break. -/
def OneLine (text : Text) : Prop :=
  ∀ c ∈ text, isBreak c = false

/-- A text is on one line if its first character breaks none and the rest is on one. -/
theorem oneLine_cons {c : Char} {text : Text}
    : OneLine (c :: text) ↔ isBreak c = false ∧ OneLine text :=
  List.forall_mem_cons

/-- What is put in front of a text that was read. -/
theorem prepend_some (first second : Text) (cursor : Cursor)
    : prepend first (some (second, cursor)) = some (first ++ second, cursor) :=
  rfl

/-- What is put in front twice is put in front together. -/
theorem prepend_prepend (first second : Text) (read : Option (Text × Cursor))
    : prepend first (prepend second read) = prepend (first ++ second) read := by
  cases read <;> simp [prepend]

/-- No document ends inside a line. -/
theorem isAnyMark_of_ne_zero {column : Nat} (h : column ≠ 0) (rest : Text)
    : Cursor.isAnyMark column rest = false := by
  have hmark : ∀ c, Cursor.isMark c column rest = false := by
    intro c
    rw [Cursor.isMark]
    split
    · simp [h]
    · rfl
  rw [Cursor.isAnyMark, hmark, hmark]
  rfl

/-- No document ends at another character than a hyphen or a point. -/
theorem isAnyMark_of_ne {c : Char} (hhyphen : c ≠ '-') (hpoint : c ≠ '.') (column : Nat)
    (rest : Text)
    : Cursor.isAnyMark column (c :: rest) = false := by
  simp [Cursor.isAnyMark, Cursor.isMark, Text.dropLead?, hhyphen.symm, hpoint.symm]

/-- What follows a cut does not matter. -/
theorem isCut_append {text : Text} (h : isCut text = false) (rest : Text)
    : isCut (text ++ rest) = false := by
  cases text with
  | nil => cases h
  | cons c text => exact h

-----------------------------------------------------------------------------------------
-- Plain scalars
-----------------------------------------------------------------------------------------

/-- Without a mark inside, a colon is not cut off and no hash follows a gap. -/
theorem hasMarkInside_cons {c : Char} {text : Text} (h : hasMarkInside (c :: text) = false)
    : (c = ':' → isCut text = false) ∧ (isGap c = true → text.head? ≠ some '#')
      ∧ hasMarkInside text = false := by
  simp only [hasMarkInside, Bool.or_eq_false_iff, Bool.and_eq_false_imp, beq_iff_eq,
    Bool.or_eq_true, beq_eq_false_iff_ne, ne_eq] at h
  exact ⟨h.1.1, fun hgap => h.1.2 (.inl hgap), h.2⟩

/-- A plain scalar goes on with a character that is no mark. -/
theorem plainEnds_eq_false {c : Char} {column : Nat} {read rest : Text}
    (hmark : Cursor.isAnyMark column (c :: rest) = false) (hhash : read ≠ [] → c ≠ '#')
    (hcolon : c = ':' → isCut rest = false) (indent : Nat)
    : plainEnds false indent column (.blanks read) c rest = false := by
  simp only [plainEnds, hmark, Gap.isSome, Gap.isBroken, Bool.false_or, Bool.or_eq_false_iff,
    Bool.and_eq_false_imp, beq_iff_eq, Bool.not_eq_eq_eq_not, Bool.not_false, List.isEmpty_iff]
  refine ⟨⟨fun hc => ?_, hcolon⟩, by simp⟩
  by_contra hne
  exact hhash hne hc

/-- Gaps inside of a plain scalar are kept until something follows. -/
theorem plainFrom_gap {c : Char} (h : isGap c = true) (hbreak : isBreak c = false)
    (indent : Nat) (read : Text) (line column : Nat) (rest : Text)
    : plainFrom false indent (.blanks read) line column (c :: rest)
      = plainFrom false indent (.blanks (read ++ [c])) line (column + 1) rest := by
  simp [plainFrom, h, hbreak, Gap.isBroken, Gap.add, afterGap]

/-- Any other character of a plain scalar stands for itself, behind the gap before it. -/
theorem plainFrom_char {c : Char} {indent column : Nat} {read rest : Text}
    (hgap : isGap c = false) (hbreak : isBreak c = false)
    (hends : plainEnds false indent column (.blanks read) c rest = false) (line : Nat)
    : plainFrom false indent (.blanks read) line column (c :: rest)
      = prepend (read ++ [c]) (plainFrom false indent .empty line (column + 1) rest) := by
  simp [plainFrom, hgap, hbreak, hends, isStrayColon, Gap.text]

/-- A text without marks inside, and with no blank at its end, is read plain up to its end, whatever
follows, by induction on it. `read` are the blanks in front of it. -/
theorem plainFrom_append {text : Text} (hne : text ≠ []) (hline : OneLine text)
    (hinside : hasMarkInside text = false) (hlast : text.getLast?.any isGap = false)
    {column : Nat} {rest : Text} (hmark : Cursor.isAnyMark column (text ++ rest) = false)
    (read : Text) (hhash : read ≠ [] → text.head? ≠ some '#') (indent line : Nat)
    : plainFrom false indent (.blanks read) line column (text ++ rest)
      = prepend (read ++ text)
          (plainFrom false indent .empty line (column + text.length) rest) := by
  induction text generalizing read column with
  | nil => exact absurd rfl hne
  | cons c text ih =>
      obtain ⟨hbreak, hline⟩ := oneLine_cons.mp hline
      obtain ⟨hcolon, hgapHash, hinside⟩ := hasMarkInside_cons hinside
      have hnext : Cursor.isAnyMark (column + 1) (text ++ rest) = false :=
        isAnyMark_of_ne_zero (by omega) _
      have hlength : column + (c :: text).length = column + 1 + text.length := by
        rw [List.length_cons]
        omega
      have hlast' : text.getLast?.any isGap = false := by
        cases text with
        | nil => rfl
        | cons d text => simpa using hlast
      rw [List.cons_append, hlength]
      cases hgap : isGap c with
      | true =>
          have hne' : text ≠ [] := by
            rintro rfl
            simp [hgap] at hlast
          rw [plainFrom_gap hgap hbreak,
            ih hne' hline hinside hlast' hnext _ (fun _ => hgapHash hgap), List.append_assoc]
          rfl
      | false =>
          have hends : plainEnds false indent column (.blanks read) c (text ++ rest) = false :=
            plainEnds_eq_false hmark (fun h hc => hhash h (congrArg some hc))
              (fun hc => isCut_append (hcolon hc) rest) indent
          rw [plainFrom_char hgap hbreak hends]
          by_cases hnil : text = []
          · rw [hnil]
            rfl
          · rw [Gap.empty, ih hnil hline hinside hlast' hnext [] (fun h => absurd rfl h),
              prepend_prepend, List.append_assoc]
            rfl

-----------------------------------------------------------------------------------------
-- Ends of lines
-----------------------------------------------------------------------------------------

/-- A line begins here with a token other than a colon, or the text is at its end. -/
def Opens (rest : Text) : Prop :=
  ∀ c, rest.head? = some c → isGap c = false ∧ isBreak c = false ∧ c ≠ '#' ∧ c ≠ ':'

/-- What opens a line is the next token there. -/
theorem toToken_opens {rest : Text} (h : Opens rest) (line : Nat)
    : Cursor.toToken false ⟨rest, line, 0, true⟩ = ⟨rest, line, 0, true⟩ := by
  cases rest with
  | nil => rfl
  | cons c rest =>
      obtain ⟨hgap, hbreak, hhash, -⟩ := h c rfl
      rw [isGap, Bool.or_eq_false_iff] at hgap
      simp [Cursor.toToken, Cursor.tokenFrom, hgap.1, hgap.2, hbreak, hhash]

/-- Behind a line break, what opens the next line is the next token. -/
theorem toToken_lineEnd {rest : Text} (h : Opens rest) (line column : Nat) (fresh : Bool)
    : Cursor.toToken false ⟨'\n' :: rest, line, column, fresh⟩ = ⟨rest, line + 1, 0, true⟩ := by
  have hopens := toToken_opens h (line + 1)
  rw [Cursor.toToken] at hopens ⊢
  simpa [Cursor.tokenFrom, isBreak] using hopens

/-- A plain scalar ends with its line if the next one begins further left. -/
theorem plainFrom_lineEnd {rest : Text} (h : Opens rest) {indent : Nat} (hindent : 0 < indent)
    (line column : Nat)
    : plainFrom false indent .empty line column ('\n' :: rest)
      = some ([], ⟨rest, line + 1, 0, true⟩) := by
  have hbreak : plainFrom false indent .empty line column ('\n' :: rest)
      = plainFrom false indent (.breaks (some '\n') []) (line + 1) 0 rest := by
    simp [plainFrom, isBreak, Gap.empty, Gap.isBroken, Gap.add, afterGap]
  rw [hbreak]
  cases rest with
  | nil => rfl
  | cons c rest =>
      obtain ⟨hgap, hbreak, -, -⟩ := h c rfl
      simp [plainFrom, hgap, hbreak, plainEnds, Gap.isBroken, hindent]

-----------------------------------------------------------------------------------------
-- Single-quoted scalars
-----------------------------------------------------------------------------------------

/-- Where a text may stand between single quotes, no blank stands beside a line break. -/
theorem allowsSingle_cons {c : Char} {text : Text} (h : allowsSingle (c :: text) = true)
    : (isGap c = true → text.head?.any isBreak = false)
      ∧ (isBreak c = true → text.head?.any isGap = false) ∧ allowsSingle text = true := by
  simp only [allowsSingle, Bool.and_eq_true, List.all_cons, Bool.not_eq_true'] at h ⊢
  obtain ⟨⟨hc, htext⟩, hneighbours⟩ := h
  have htab : ∀ d, isPrintable d = true → isGap d = true → d = ' ' := by
    intro d hd hgap
    rw [isGap, Bool.or_eq_true, beq_iff_eq, beq_iff_eq] at hgap
    rcases hgap with hgap | rfl
    · exact hgap
    · cases hd
  cases text with
  | nil => exact ⟨fun _ => rfl, fun _ => rfl, rfl, rfl⟩
  | cons d text =>
      simp only [anyNeighbours, Bool.or_eq_false_iff, Bool.and_eq_false_imp, beq_iff_eq,
        beq_eq_false_iff_ne, ne_eq] at hneighbours
      obtain ⟨⟨hspace, hbreak⟩, hneighbours⟩ := hneighbours
      have hd : isPrintable d = true := by
        rw [List.all_cons, Bool.and_eq_true] at htext
        exact htext.1
      refine ⟨fun hgap => hspace (htab c hc hgap), fun hc => ?_, htext, hneighbours⟩
      by_contra hgap
      exact hbreak hc (htab d hd (by simpa using hgap))

/-- A gap is kept in full when the text goes on: blanks on a line have no line break after them, and
line breaks, other than the one that folds into a space, have no blank after them. -/
def Gap.Keeps (column : Nat) (text : Text) : Gap → Prop
  | .blanks read => column ≠ 0 ∧ (read ≠ [] → text.head?.any isBreak = false)
  | .breaks first _ => (∃ c, first = some c ∧ c ≠ '\n') ∧ text.head?.any isGap = false

/-- The empty gap is kept behind the beginning of a line, whatever follows it. -/
theorem Gap.keeps_empty {column : Nat} (h : column ≠ 0) (text : Text)
    : Gap.Keeps column text .empty :=
  ⟨h, fun hne => absurd rfl hne⟩

/-- A gap with a break that is kept begins with it. -/
theorem Gap.text_breaks {c : Char} (h : c ≠ '\n') (more : Text)
    : (Gap.breaks (some c) more).text = c :: more := by
  cases more <;> simp [Gap.text, h]

section

variable {c : Char} {text : Text} {gap : Gap} {column : Nat}

/-- Line breaks are kept in front of further ones. -/
theorem Gap.Keeps.add_break (h : gap.Keeps column (c :: text)) (hbreak : isBreak c = true)
    (hc : c ≠ '\n') (htext : text.head?.any isGap = false)
    : (gap.add c).Keeps 0 text ∧ (gap.add c).isBroken = true
      ∧ (gap.add c).text = gap.text ++ [c] := by
  cases gap with
  | blanks read =>
      have hread : read = [] := by
        by_contra hne
        simpa [hbreak] using h.2 hne
      simp only [Gap.add, if_pos hbreak, hread, Gap.text_breaks hc]
      exact ⟨⟨⟨c, rfl, hc⟩, htext⟩, rfl, rfl⟩
  | breaks first more =>
      obtain ⟨⟨d, rfl, hd⟩, -⟩ := h
      simp only [Gap.add, if_pos hbreak, Gap.text_breaks hd]
      exact ⟨⟨⟨d, rfl, hd⟩, htext⟩, rfl, rfl⟩

/-- Where a gap is kept in front of a blank, it is one of blanks. -/
theorem Gap.Keeps.add_gap (h : gap.Keeps column (c :: text)) (hgap : isGap c = true)
    (hbreak : isBreak c = false) (htext : text.head?.any isBreak = false)
    : column ≠ 0 ∧ gap.isBroken = false ∧ (gap.add c).Keeps (column + 1) text
      ∧ (gap.add c).isBroken = false ∧ (gap.add c).text = gap.text ++ [c] := by
  cases gap with
  | blanks read =>
      simp only [Gap.add, hbreak, Bool.false_eq_true, if_false]
      exact ⟨h.1, rfl, ⟨by omega, fun _ => htext⟩, rfl, rfl⟩
  | breaks first more => simp [Gap.Keeps, hgap] at h

/-- Between single quotes, a character on a line is written behind the indentation it may need. -/
theorem singleBody_cons (h : isBreak c = false) (broken : Bool) (text : Text)
    : singleBody broken (c :: text)
      = (if broken then indentation else []) ++ (if c = '\'' then ['\'', '\''] else [c])
        ++ singleBody false text := by
  simp [singleBody, h]

/-- Gaps and breaks between single quotes are kept until something follows. -/
theorem singleFrom_add {rest : Text} (hmark : Cursor.isAnyMark column (c :: rest) = false)
    (h : isGap c = true ∨ isBreak c = true) (line : Nat)
    : singleFrom gap line column (c :: rest)
      = singleFrom (gap.add c) (afterGap c line column).1 (afterGap c line column).2 rest := by
  rw [singleFrom.eq_def]
  simp [hmark, h]

/-- Any other character between single quotes stands for itself, behind the gap before it. -/
theorem singleFrom_char (gap : Gap) (hcolumn : column ≠ 0) (hgap : isGap c = false)
    (hbreak : isBreak c = false) (line : Nat) (rest : Text)
    : ∃ place, place ≠ 0
        ∧ singleFrom gap line column ((if c = '\'' then ['\'', '\''] else [c]) ++ rest)
          = prepend (gap.text ++ [c]) (singleFrom .empty line place rest) := by
  by_cases hquote : c = '\''
  · refine ⟨column + 2, by omega, ?_⟩
    simp [hquote, singleFrom, isAnyMark_of_ne_zero hcolumn, isGap, isBreak]
  · refine ⟨column + 1, by omega, ?_⟩
    rw [if_neg hquote, List.singleton_append, singleFrom.eq_def]
    simp [isAnyMark_of_ne_zero hcolumn, hgap, hbreak, hquote]

/-- A single quote ends the text, with the gap before it. -/
theorem singleFrom_end (hcolumn : column ≠ 0) {rest : Text} (hrest : rest.head? ≠ some '\'')
    (line : Nat)
    : singleFrom gap line column ('\'' :: rest)
      = some (gap.text, ⟨rest, line, column + 1, false⟩) := by
  have hmark := isAnyMark_of_ne_zero hcolumn ('\'' :: rest)
  cases rest with
  | nil => simp [singleFrom, hmark, isGap, isBreak]
  | cons d rest =>
      have hd : d ≠ '\'' := fun hd => hrest (congrArg some hd)
      simp [singleFrom, hmark, isGap, isBreak, hd]

/-- The spaces at the beginning of a line are passed over, and no document ends behind them. -/
theorem singleFrom_indentation (h : gap.Keeps column text) (line : Nat)
    : ∃ place, place ≠ 0 ∧ ∀ rest,
        singleFrom gap line column ((if gap.isBroken then indentation else []) ++ rest)
          = singleFrom gap line place rest := by
  cases gap with
  | blanks read => exact ⟨column, h.1, fun rest => rfl⟩
  | breaks first more =>
      refine ⟨column + 2, by omega, fun rest => ?_⟩
      have hbreak : isBreak ' ' = false := rfl
      simp only [Gap.isBroken, if_true, indentation, List.cons_append, List.nil_append]
      rw [singleFrom_add (isAnyMark_of_ne (by decide) (by decide) _ _) (.inl rfl),
        singleFrom_add (isAnyMark_of_ne (by decide) (by decide) _ _) (.inl rfl)]
      simp [Gap.add, afterGap, hbreak]

/-- A blank or a line break between single quotes is added to the gap in front of it. -/
theorem singleFrom_singleBody_blank (h : allowsSingle (c :: text) = true) (hc : c ≠ '\n')
    (hblank : isGap c = true ∨ isBreak c = true) (hgap : gap.Keeps column (c :: text)) (line : Nat)
    (rest : Text)
    : ∃ bottom place, (gap.add c).Keeps place text ∧ (gap.add c).text = gap.text ++ [c]
        ∧ singleFrom gap line column (singleBody gap.isBroken (c :: text) ++ rest)
          = singleFrom (gap.add c) bottom place (singleBody (gap.add c).isBroken text ++ rest) := by
  obtain ⟨hspace, hbreaks, -⟩ := allowsSingle_cons h
  cases hbreak : isBreak c with
  | true =>
      obtain ⟨hkeeps, hbroken, htext⟩ := hgap.add_break hbreak hc (hbreaks hbreak)
      have hmark : Cursor.isAnyMark column (c :: (singleBody true text ++ rest)) = false :=
        isAnyMark_of_ne (by rintro rfl; cases hbreak) (by rintro rfl; cases hbreak) _ _
      refine ⟨line + 1, 0, hkeeps, htext, ?_⟩
      rw [singleBody, if_pos hbreak, List.cons_append, singleFrom_add hmark hblank, hbroken]
      simp only [afterGap, if_pos hbreak]
  | false =>
      have hblank : isGap c = true := hblank.resolve_right (by simp [hbreak])
      obtain ⟨hcolumn, hwhole, hkeeps, hbroken, htext⟩ :=
        hgap.add_gap hblank hbreak (hspace hblank)
      have hquote : c ≠ '\'' := by
        rintro rfl
        cases hblank
      refine ⟨line, column + 1, hkeeps, htext, ?_⟩
      rw [singleBody_cons hbreak, hwhole, if_neg hquote, hbroken]
      simp only [Bool.false_eq_true, if_false, List.nil_append, List.cons_append]
      rw [singleFrom_add (isAnyMark_of_ne_zero hcolumn _) (.inl hblank)]
      simp only [afterGap, hbreak, Bool.false_eq_true, if_false]

/-- A text between single quotes is read back from any gap in front of it, by induction on it. -/
theorem singleFrom_singleBody (h : allowsSingle text = true) (hline : '\n' ∉ text) {rest : Text}
    (hrest : rest.head? ≠ some '\'') (hgap : gap.Keeps column text) (line : Nat)
    : ∃ bottom last, singleFrom gap line column (singleBody gap.isBroken text ++ '\'' :: rest)
        = some (gap.text ++ text, ⟨rest, bottom, last, false⟩) := by
  induction text generalizing gap column line with
  | nil =>
      obtain ⟨place, hplace, hread⟩ := singleFrom_indentation hgap line
      refine ⟨line, place + 1, ?_⟩
      rw [singleBody, hread, singleFrom_end hplace hrest, List.append_nil]
  | cons c text ih =>
      obtain ⟨-, -, hallows⟩ := allowsSingle_cons h
      obtain ⟨hc, hline⟩ := not_or.mp (List.mem_cons.not.mp hline)
      by_cases hblank : isGap c = true ∨ isBreak c = true
      · obtain ⟨bottom, place, hkeeps, htext, hread⟩ :=
          singleFrom_singleBody_blank h (Ne.symm hc) hblank hgap line ('\'' :: rest)
        obtain ⟨bottom, last, hlast⟩ := ih hallows hline hkeeps bottom
        refine ⟨bottom, last, ?_⟩
        rw [hread, hlast, htext, List.append_assoc]
        rfl
      · simp only [not_or, Bool.not_eq_true] at hblank
        obtain ⟨place, hplace, hread⟩ := singleFrom_indentation hgap line
        obtain ⟨next, hnext, hchar⟩ := singleFrom_char gap hplace hblank.1 hblank.2 line
          (singleBody false text ++ '\'' :: rest)
        obtain ⟨bottom, last, hlast⟩ := ih hallows hline (Gap.keeps_empty hnext text) line
        have hempty : Gap.empty.isBroken = false := rfl
        rw [hempty] at hlast
        refine ⟨bottom, last, ?_⟩
        rw [singleBody_cons hblank.2, List.append_assoc, List.append_assoc, hread, hchar, hlast,
          prepend_some, List.append_assoc]
        rfl

end

end LeasePapers.Yaml
