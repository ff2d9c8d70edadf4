import Mathlib.Tactic.SplitIfs
import LeasePapers.Text.Order

/-! The order of texts and the order of their UTF-8 forms. The first byte in which the forms of two
characters differ says which of them is the smaller, so both orders are the same.
-/

namespace LeasePapers.Text

/-- The UTF-8 form of a text. -/
def bytes (text : Text) : List UInt8 :=
  text.flatMap String.utf8EncodeChar

/-- The bytes of a text, character by character. -/
theorem bytes_cons (c : Char) (rest : Text)
    : bytes (c :: rest) = String.utf8EncodeChar c ++ bytes rest :=
  rfl

/-- The smaller of two characters has the smaller form, whatever follows the two: by the lengths of
the forms, and for equal lengths by the digits that the bytes carry.
-/
theorem utf8EncodeChar_append_lt {c d : Char} (h : c.toNat < d.toNat) (s t : List UInt8)
    : String.utf8EncodeChar c ++ s < String.utf8EncodeChar d ++ t := by
  have hbound : d.toNat < 0x110000 := by
    have hvalid : d.toNat.isValidChar := d.valid
    unfold Nat.isValidChar at hvalid
    omega
  change c.val.toNat < d.val.toNat at h
  change d.val.toNat < 0x110000 at hbound
  simp only [String.utf8EncodeChar]
  split_ifs
  all_goals
    simp only [List.cons_append, List.nil_append, List.cons_lt_cons_iff, UInt8.lt_iff_toNat_lt,
      ← UInt8.toNat_inj, UInt8.toNat_ofNat']
    -- No byte overflows, so only the digits to base 64 are left to compare.
    simp (disch := omega) only [Nat.mod_eq_of_lt]
    omega

/-- A text with characters has bytes. -/
theorem bytes_ne_nil (c : Char) (rest : Text) : bytes (c :: rest) ≠ [] := by
  rw [bytes_cons, String.utf8EncodeChar.eq_def]
  simp only
  split_ifs
  all_goals exact List.cons_ne_nil _ _

/-- A text that precedes another one has the smaller UTF-8 form, by induction on the first text. -/
theorem bytes_lt_of_precedes {first second : Text} (h : precedes first second = true)
    : bytes first < bytes second := by
  induction first generalizing second with
  | nil =>
      cases second with
      | nil => cases h
      | cons d rest =>
          obtain ⟨byte, more, hbytes⟩ := List.exists_cons_of_ne_nil (bytes_ne_nil d rest)
          rw [hbytes]
          exact List.nil_lt_cons _ _
  | cons c start ih =>
      cases second with
      | nil => cases h
      | cons d rest =>
          simp only [precedes, Bool.or_eq_true, decide_eq_true_eq, Bool.and_eq_true,
            beq_iff_eq] at h
          rw [bytes_cons, bytes_cons]
          rcases h with h | ⟨rfl, h⟩
          · exact utf8EncodeChar_append_lt h _ _
          · exact List.append_left_lt (ih h)

/-- Texts precede each other as their UTF-8 forms do. -/
theorem precedes_iff_bytes_lt {first second : Text}
    : precedes first second = true ↔ bytes first < bytes second := by
  refine ⟨bytes_lt_of_precedes, fun hlt => ?_⟩
  cases hprecedes : precedes first second with
  | true => rfl
  | false =>
      by_cases heq : first = second
      · exact absurd (heq ▸ hlt) (List.lt_irrefl _)
      · exact absurd hlt (List.lt_asymm (bytes_lt_of_precedes
          (precedes_of_not_precedes hprecedes heq)))

end LeasePapers.Text
