import LeasePapers.Text.WordChar
import LeasePapers.Text.Blank

/-! Blank characters are few and no part of words, and trimming takes away nothing else.
-/

namespace LeasePapers.Text

/-- All blanks. -/
def blanks : List Char :=
  ['\t', '\n', '\x0b', '\x0c', '\r', ' ', '\x85', '\xa0', '\u1680', '\u2000', '\u2001', '\u2002',
   '\u2003', '\u2004', '\u2005', '\u2006', '\u2007', '\u2008', '\u2009', '\u200a', '\u2028',
   '\u2029', '\u202f', '\u205f', '\u3000']

/-- The characters from one up to another. -/
def charsBetween (low high : Char) : List Char :=
  (List.range' low.toNat (high.toNat + 1 - low.toNat)).map Char.ofNat

/-- A character between two others is one of those from one up to the other. -/
theorem mem_charsBetween {low high c : Char} (hlow : low ≤ c) (hhigh : c ≤ high)
    : c ∈ charsBetween low high := by
  have hl : low.toNat ≤ c.toNat := hlow
  have hh : c.toNat ≤ high.toNat := hhigh
  refine List.mem_map.mpr ⟨c.toNat, ?_, Char.ofNat_toNat c⟩
  rw [List.mem_range'_1]
  omega

/-- Every blank character is in the list, by the ranges that blanks come in. -/
theorem mem_blanks {c : Char} (h : isBlank c = true) : c ∈ blanks := by
  have controls : (charsBetween '\t' '\r').all blanks.contains = true := by decide
  have spaces : (charsBetween '\u2000' '\u200a').all blanks.contains = true := by decide
  simp only [isBlank, Bool.or_eq_true, Bool.and_eq_true, decide_eq_true_eq, beq_iff_eq] at h
  rcases h with (((((((((⟨hl, hh⟩ | h) | h) | h) | h) | ⟨hl, hh⟩) | h) | h) | h) | h) | h
  · exact List.contains_iff_mem.mp (List.all_eq_true.mp controls c (mem_charsBetween hl hh))
  rotate_left 4
  · exact List.contains_iff_mem.mp (List.all_eq_true.mp spaces c (mem_charsBetween hl hh))
  all_goals
    subst h
    decide

/-- A character of a class without any of the blanks is not blank. -/
theorem isBlank_of_class {p : Char → Bool} (hp : blanks.any p = false) {c : Char}
    (h : p c = true)
    : isBlank c = false := by
  cases hblank : isBlank c with
  | false => rfl
  | true => exact absurd h (List.any_eq_false.mp hp c (mem_blanks hblank))

-----------------------------------------------------------------------------------------
-- Trimming
-----------------------------------------------------------------------------------------

/-- A text that does not begin with a blank is not trimmed in front. -/
theorem trimStart_eq_self {text : Text} (h : ∀ c ∈ text.head?, isBlank c = false)
    : trimStart text = text := by
  cases text with
  | nil => rfl
  | cons c rest => simp [trimStart, h c (by simp)]

/-- A text that does not end with a blank is not trimmed at its end. -/
theorem trimEnd_eq_self {text : Text} (h : ∀ c ∈ text.getLast?, isBlank c = false)
    : trimEnd text = text := by
  have hback : trimStart text.reverse = text.reverse := trimStart_eq_self (by simpa using h)
  rw [trimEnd, ← trimStart, hback, List.reverse_reverse]

/-- A text without blanks around it is not trimmed. -/
theorem trim_eq_self {text : Text} (hhead : ∀ c ∈ text.head?, isBlank c = false)
    (hlast : ∀ c ∈ text.getLast?, isBlank c = false)
    : trim text = text := by
  rw [trim, trimStart_eq_self hhead, trimEnd_eq_self hlast]

/-- A text without blanks is not trimmed. -/
theorem trim_of_not_blank {text : Text} (h : ∀ c ∈ text, isBlank c = false) : trim text = text :=
  trim_eq_self (fun c hc => h c (List.mem_of_mem_head? hc))
    (fun c hc => h c (List.mem_of_getLast? hc))

/-- Trimming in front leaves the end of a text. -/
theorem trimStart_suffix (text : Text) : trimStart text <:+ text :=
  List.dropWhile_suffix _

/-- Trimming at the end leaves the beginning of a text. -/
theorem prefix_trimEnd (text : Text) : trimEnd text <+: text := by
  rw [trimEnd, ← List.reverse_suffix, List.reverse_reverse]
  exact List.dropWhile_suffix _

/-- Trimming leaves a part of a text. -/
theorem isInfix_trim (text : Text) : trim text <:+: text :=
  (prefix_trimEnd _).isInfix.trans (trimStart_suffix text).isInfix

/-- A text that was trimmed at its end does not end with a blank. -/
theorem isBlank_getLast?_trimEnd {text : Text} {c : Char} (h : c ∈ (trimEnd text).getLast?)
    : isBlank c = false := by
  rw [trimEnd, List.getLast?_reverse] at h
  have hnot := List.head?_dropWhile_not isBlank text.reverse
  rw [h] at hnot
  simpa using hnot

/-- A text that was trimmed in front does not begin with a blank. -/
theorem isBlank_head?_trimStart {text : Text} {c : Char} (h : c ∈ (trimStart text).head?)
    : isBlank c = false := by
  have hnot := List.head?_dropWhile_not isBlank text
  rw [trimStart] at h
  rw [h] at hnot
  simpa using hnot

/-- A trimmed text does not begin with a blank. -/
theorem isBlank_head?_trim {text : Text} {c : Char} (h : c ∈ (trim text).head?)
    : isBlank c = false := by
  obtain ⟨after, hafter⟩ := prefix_trimEnd (trimStart text)
  have hstart : c ∈ (trimStart text).head? := by
    rw [← hafter, List.head?_append, ← trim, Option.mem_def.mp h]
    rfl
  exact isBlank_head?_trimStart hstart

/-- Trimming twice is trimming once. -/
theorem trim_trim (text : Text) : trim (trim text) = trim text :=
  trim_eq_self (fun _ => isBlank_head?_trim) (fun _ => isBlank_getLast?_trimEnd)

/-- Further blanks at the end are trimmed away. -/
theorem trimEnd_append_blank (text : Text) {after : Text} (h : ∀ c ∈ after, isBlank c = true)
    : trimEnd (text ++ after) = trimEnd text := by
  rw [trimEnd, List.reverse_append, List.dropWhile_append_of_pos (by simpa using h)]
  rfl

/-- Blanks around a text make no difference to what is left of it. -/
theorem trim_between {before after : Text} (text : Text) (hbefore : ∀ c ∈ before, isBlank c = true)
    (hafter : ∀ c ∈ after, isBlank c = true)
    : trim (before ++ text ++ after) = trim text := by
  rw [trim, trim, trimStart, List.append_assoc, List.dropWhile_append_of_pos hbefore,
    List.dropWhile_append]
  split
  · rename_i hblank
    rw [trimStart, List.isEmpty_iff.mp hblank, ← List.nil_append (after.dropWhile isBlank)]
    exact trimEnd_append_blank [] (fun c hc => hafter c ((List.dropWhile_suffix _).subset hc))
  · exact trimEnd_append_blank _ hafter

/-- A text that does not end in a blank is kept as it is in front of another one. -/
theorem trimEnd_append {text : Text} (more : Text) (h : ∀ c ∈ text.getLast?, isBlank c = false)
    : trimEnd (text ++ more) = text ++ trimEnd more := by
  have hback : text.reverse.dropWhile isBlank = text.reverse := trimStart_eq_self (by simpa using h)
  rw [trimEnd, trimEnd, List.reverse_append, List.dropWhile_append, hback]
  split
  · rename_i hblank
    rw [List.isEmpty_iff.mp hblank, List.reverse_reverse, List.reverse_nil, List.append_nil]
  · rw [List.reverse_append, List.reverse_reverse]

end LeasePapers.Text
