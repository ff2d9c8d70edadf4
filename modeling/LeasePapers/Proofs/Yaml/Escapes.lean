import LeasePapers.Proofs.Yaml.Scalar
import Mathlib.Tactic.SplitIfs

/-! Scalars between double quotes, read back. An escape is a letter that the reader knows for the
same character, or the number of the character in hexadecimal digits, as many as its mark promises.
-/

namespace LeasePapers.Yaml

-----------------------------------------------------------------------------------------
-- Hexadecimal numbers
-----------------------------------------------------------------------------------------

/-- A further digit multiplies a number by sixteen and adds to it. -/
theorem hexNumber?_append (digits : Text) (c : Char)
    : hexNumber? (digits ++ [c])
      = (hexNumber? digits).bind (fun n => (hexDigit? c).map (16 * n + ·)) := by
  simp [hexNumber?]

/-- A digit is read as it is written. -/
theorem hexDigit?_digitChar : ∀ d < 16, hexDigit? d.digitChar.toUpper = some d := by
  decide

/-- The digits of a number are read back as the number, by induction on its digits. -/
theorem hexNumber?_toDigits (n : Nat)
    : hexNumber? ((Nat.toDigits 16 n).map Char.toUpper) = some n := by
  induction n using Nat.base_induction 16 (by decide) with
  | single d hd =>
      rw [Nat.toDigits_of_lt_base hd]
      simp [hexNumber?, hexDigit?_digitChar d hd]
  | digit n d hd hn ih =>
      rw [← Nat.toDigits_append_toDigits (by decide) hn hd, Nat.toDigits_of_lt_base hd,
        List.map_append, List.map_singleton, hexNumber?_append, ih, hexDigit?_digitChar d hd]
      rfl

/-- Zeros in front do not matter, by induction on them. -/
theorem hexNumber?_zeros (count : Nat) (digits : Text)
    : hexNumber? (List.replicate count '0' ++ digits) = hexNumber? digits := by
  induction count with
  | zero => rfl
  | succ count ih => exact ih

/-- A number is read from its digits as it is written. -/
theorem hexNumber?_hexDigits (width n : Nat) : hexNumber? (hexDigits width n) = some n := by
  rw [hexDigits, hexNumber?_zeros, hexNumber?_toDigits]

/-- A number that fits a width is written in it. -/
theorem length_hexDigits {width n : Nat} (h : (Nat.toDigits 16 n).length ≤ width)
    : (hexDigits width n).length = width := by
  rw [hexDigits, List.length_append, List.length_replicate, List.length_map]
  omega

/-- A character is found by its number. -/
theorem charAt?_toNat (c : Char) : charAt? c.toNat = some c := by
  have hvalid : c.toNat.isValidChar := c.valid
  rw [charAt?, if_pos hvalid, Char.ofNat_toNat]

-----------------------------------------------------------------------------------------
-- Escapes
-----------------------------------------------------------------------------------------

/-- A digit of an escape is kept while others are missing. -/
theorem doubleFrom_digit {missing : Nat} (h : missing ≠ 0) (gap : Gap) (digits : Text)
    (line column : Nat) (c : Char) (rest : Text)
    : doubleFrom gap (some (digits, missing + 1)) line column (c :: rest)
      = doubleFrom .empty (some (digits ++ [c], missing)) line (column + 1) rest := by
  rw [doubleFrom.eq_def]
  simp [h]

/-- With its last digit an escape stands for a character. -/
theorem doubleFrom_lastDigit (gap : Gap) (digits : Text) (line column : Nat) (c : Char)
    (rest : Text)
    : doubleFrom gap (some (digits, 1)) line column (c :: rest)
      = ((hexNumber? (digits ++ [c])).bind charAt?).bind (fun spelled =>
          prepend [spelled] (doubleFrom .empty none line (column + 1) rest)) := by
  rw [doubleFrom.eq_def]
  simp

/-- The digits of an escape are read as the character with their number, by induction on them. -/
theorem doubleFrom_digits {more : Text} (hne : more ≠ []) (gap : Gap) (digits : Text)
    (line column : Nat) (rest : Text)
    : doubleFrom gap (some (digits, more.length)) line column (more ++ rest)
      = ((hexNumber? (digits ++ more)).bind charAt?).bind (fun spelled =>
          prepend [spelled] (doubleFrom .empty none line (column + more.length) rest)) := by
  induction more generalizing gap digits column with
  | nil => exact absurd rfl hne
  | cons c more ih =>
      by_cases hnil : more = []
      · subst hnil
        exact doubleFrom_lastDigit gap digits line column c rest
      · have hlength : more.length ≠ 0 := fun h => hnil (List.length_eq_zero_iff.mp h)
        have hcolumn : column + (c :: more).length = column + 1 + more.length := by
          rw [List.length_cons]
          omega
        rw [hcolumn, List.length_cons, List.cons_append, doubleFrom_digit hlength, ih hnil,
          List.append_assoc, List.singleton_append]

/-- The letters of the escapes that are written are read as the characters that they stand for. -/
theorem known_of_writtenEscapes : ∀ entry ∈ writtenEscapes,
    isBreak entry.2 = false ∧ escapeWidth? entry.2 = none
      ∧ (escapes.find? (fun known => known.1 == entry.2)).map (·.2) = some entry.1 := by
  decide

/-- An escape with a letter stands for the character that it was written for. -/
theorem doubleFrom_letter {c letter : Char} (h : (c, letter) ∈ writtenEscapes) {column : Nat}
    (hcolumn : column ≠ 0) (read : Text) (line : Nat) (rest : Text)
    : doubleFrom (.blanks read) none line column ('\\' :: letter :: rest)
      = prepend (read ++ [c]) (doubleFrom .empty none line (column + 2) rest) := by
  obtain ⟨hbreak, hwidth, hknown⟩ := known_of_writtenEscapes _ h
  rw [doubleFrom.eq_def]
  simp only [isAnyMark_of_ne_zero hcolumn, hbreak, hwidth, hknown]
  simp [isGap, isBreak, Gap.text]

/-- A character by its number, behind a mark that says how many digits it has. -/
theorem doubleFrom_number {c mark : Char} {width : Nat} (hbreak : isBreak mark = false)
    (hwidth : escapeWidth? mark = some width) (hpos : 0 < width)
    (hfits : (Nat.toDigits 16 c.toNat).length ≤ width) {column : Nat} (hcolumn : column ≠ 0)
    (read : Text) (line : Nat) (rest : Text)
    : doubleFrom (.blanks read) none line column
        ('\\' :: mark :: (hexDigits width c.toNat ++ rest))
      = prepend (read ++ [c]) (doubleFrom .empty none line (column + 2 + width) rest) := by
  have hlength := length_hexDigits hfits
  have hne : hexDigits width c.toNat ≠ [] := by
    rw [← List.length_pos_iff]
    omega
  have hdigits := doubleFrom_digits hne .empty [] line (column + 2) rest
  rw [List.nil_append, hexNumber?_hexDigits, hlength, Option.bind_some, charAt?_toNat,
    Option.bind_some] at hdigits
  rw [doubleFrom.eq_def]
  simp only [isAnyMark_of_ne_zero hcolumn, hbreak, hwidth]
  simp [isGap, isBreak, Gap.text, hdigits, prepend_prepend]

/-- The escape of a character is read as that character. -/
theorem doubleFrom_escape (c : Char) {column : Nat} (hcolumn : column ≠ 0) (read : Text)
    (line : Nat) (rest : Text)
    : ∃ next, next ≠ 0
      ∧ doubleFrom (.blanks read) none line column (escape c ++ rest)
        = prepend (read ++ [c]) (doubleFrom .empty none line next rest) := by
  cases hfind : writtenEscapes.find? (fun entry => entry.1 == c) with
  | some entry =>
      obtain ⟨known, letter⟩ := entry
      have hknown : known = c := by simpa using List.find?_some hfind
      have hmem : (c, letter) ∈ writtenEscapes := hknown ▸ List.mem_of_find?_eq_some hfind
      refine ⟨column + 2, by omega, ?_⟩
      rw [escape, hfind]
      exact doubleFrom_letter hmem hcolumn read line rest
  | none =>
      have hnumber : escape c
          = if c.toNat ≤ 0xFF then ['\\', 'x'] ++ hexDigits 2 c.toNat
            else if c.toNat ≤ 0xFFFF then ['\\', 'u'] ++ hexDigits 4 c.toNat
            else ['\\', 'U'] ++ hexDigits 8 c.toNat := by
        rw [escape, hfind]
        rfl
      have hlength : ∀ width, 0 < width → c.toNat < 16 ^ width →
          (Nat.toDigits 16 c.toNat).length ≤ width :=
        fun width hpos h => (Nat.length_toDigits_le_iff (by decide) hpos).mpr h
      have hlast : c.toNat < 0x110000 := by
        have hvalid : c.toNat.isValidChar := c.valid
        rcases hvalid with h | ⟨-, h⟩ <;> omega
      rw [hnumber]
      split_ifs with hbyte hword
      · have hfits := hlength 2 (by decide) (by omega)
        exact ⟨_, by omega, doubleFrom_number rfl rfl (by decide) hfits hcolumn read line rest⟩
      · have hfits := hlength 4 (by decide) (by omega)
        exact ⟨_, by omega, doubleFrom_number rfl rfl (by decide) hfits hcolumn read line rest⟩
      · have hfits := hlength 8 (by decide) (by omega)
        exact ⟨_, by omega, doubleFrom_number rfl rfl (by decide) hfits hcolumn read line rest⟩

-----------------------------------------------------------------------------------------
-- Whole scalars
-----------------------------------------------------------------------------------------

section

variable {c : Char} {column : Nat}

/-- Blanks between double quotes are kept until something follows. -/
theorem doubleFrom_gap (hcolumn : column ≠ 0) (h : isGap c = true) (hbreak : isBreak c = false)
    (read : Text) (line : Nat) (rest : Text)
    : doubleFrom (.blanks read) none line column (c :: rest)
      = doubleFrom (.blanks (read ++ [c])) none line (column + 1) rest := by
  rw [doubleFrom.eq_def]
  simp [isAnyMark_of_ne_zero hcolumn, h, hbreak, Gap.add, afterGap]

/-- Any other character between double quotes stands for itself, behind the blanks before it. -/
theorem doubleFrom_char (hcolumn : column ≠ 0) (hgap : isGap c = false)
    (hbreak : isBreak c = false) (hquote : c ≠ '"') (hslash : c ≠ '\\') (read : Text)
    (line : Nat) (rest : Text)
    : doubleFrom (.blanks read) none line column (c :: rest)
      = prepend (read ++ [c]) (doubleFrom .empty none line (column + 1) rest) := by
  rw [doubleFrom.eq_def]
  simp [isAnyMark_of_ne_zero hcolumn, hgap, hbreak, hquote, hslash, Gap.text]

/-- A double quote ends the text, with the blanks before it. -/
theorem doubleFrom_end (hcolumn : column ≠ 0) (read : Text) (line : Nat) (rest : Text)
    : doubleFrom (.blanks read) none line column ('"' :: rest)
      = some (read, ⟨rest, line, column + 1, false⟩) := by
  rw [doubleFrom.eq_def]
  simp [isAnyMark_of_ne_zero hcolumn, isGap, isBreak, Gap.text]

end

/-- A text between double quotes is read back, by induction on it. `read` are the blanks in front of
it. -/
theorem doubleFrom_doubleBody (text : Text) (read : Text) (line : Nat) {column : Nat}
    (hcolumn : column ≠ 0) (rest : Text)
    : ∃ last, doubleFrom (.blanks read) none line column (doubleBody text ++ '"' :: rest)
        = some (read ++ text, ⟨rest, line, last, false⟩) := by
  induction text generalizing read column with
  | nil =>
      rw [List.append_nil]
      exact ⟨column + 1, doubleFrom_end hcolumn read line rest⟩
  | cons c text ih =>
      rw [doubleBody, List.flatMap_cons, List.append_assoc]
      split_ifs with hescape
      · obtain ⟨next, hnext, hread⟩ := doubleFrom_escape c hcolumn read line
          (doubleBody text ++ '"' :: rest)
        obtain ⟨last, hlast⟩ := ih [] hnext
        refine ⟨last, ?_⟩
        rw [← doubleBody, hread, Gap.empty, hlast, prepend_some, List.append_assoc]
        rfl
      · simp only [Bool.or_eq_true, beq_iff_eq, not_or, Bool.not_eq_true] at hescape
        obtain ⟨⟨⟨-, hbreak⟩, hquote⟩, hslash⟩ := hescape
        have hnext : column + 1 ≠ 0 := by omega
        rw [← doubleBody, List.singleton_append]
        cases hgap : isGap c with
        | true =>
            obtain ⟨last, hlast⟩ := ih (read ++ [c]) hnext
            refine ⟨last, ?_⟩
            rw [doubleFrom_gap hcolumn hgap hbreak, hlast, List.append_assoc]
            rfl
        | false =>
            obtain ⟨last, hlast⟩ := ih [] hnext
            refine ⟨last, ?_⟩
            rw [doubleFrom_char hcolumn hgap hbreak hquote hslash, Gap.empty, hlast, prepend_some,
              List.append_assoc]
            rfl

end LeasePapers.Yaml
