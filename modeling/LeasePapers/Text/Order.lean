import LeasePapers.Text.Basic

/-! The order of texts by the code points of their characters, which is also the byte order of their
UTF-8 forms. It is a strict order, and of two different texts one comes before the other.
-/

namespace LeasePapers.Text

/-- Whether a text comes before another: at the first difference it has the smaller character, or it
ends there. -/
def precedes : Text → Text → Bool
  | _, [] => false
  | [], _ :: _ => true
  | a :: s, b :: t => a.toNat < b.toNat || (a == b && precedes s t)

/-- How one text stands to another in the order. -/
def order (first second : Text) : Ordering :=
  if precedes first second then .lt else if first = second then .eq else .gt

/-- No text comes before itself, by induction on the text. -/
theorem precedes_self (text : Text) : precedes text text = false := by
  induction text with
  | nil => rfl
  | cons c rest ih => simp [precedes, ih]

/-- The order is transitive, by induction on the text in the middle. -/
theorem precedes_trans {first second third : Text} (h : precedes first second = true)
    (h' : precedes second third = true)
    : precedes first third = true := by
  induction second generalizing first third with
  | nil => cases first <;> simp [precedes] at h
  | cons b middle ih =>
      cases third with
      | nil => simp [precedes] at h'
      | cons c last =>
          cases first with
          | nil => rfl
          | cons a start =>
              simp only [precedes, Bool.or_eq_true, decide_eq_true_eq, Bool.and_eq_true,
                beq_iff_eq] at h h' ⊢
              rcases h with h | ⟨rfl, h⟩
              · rcases h' with h' | ⟨rfl, h'⟩
                · exact Or.inl (Nat.lt_trans h h')
                · exact Or.inl h
              · rcases h' with h' | ⟨rfl, h'⟩
                · exact Or.inl h'
                · exact Or.inr ⟨rfl, ih h h'⟩

/-- A text that comes before another differs from it. -/
theorem ne_of_precedes {first second : Text} (h : precedes first second = true)
    : first ≠ second := by
  rintro rfl
  rw [precedes_self] at h
  cases h

/-- Of two texts, at most one comes before the other. -/
theorem not_precedes_of_precedes {first second : Text} (h : precedes first second = true)
    : ¬precedes second first = true :=
  fun h' => ne_of_precedes (precedes_trans h h') rfl

/-- Of two different texts one comes before the other, by the trichotomy of code points. -/
theorem precedes_of_not_precedes {first second : Text} (h : precedes first second = false)
    (hne : first ≠ second)
    : precedes second first = true := by
  induction first generalizing second with
  | nil =>
      cases second with
      | nil => exact absurd rfl hne
      | cons b rest => simp [precedes] at h
  | cons a start ih =>
      cases second with
      | nil => rfl
      | cons b rest =>
          simp only [precedes, Bool.or_eq_false_iff, decide_eq_false_iff_not,
            Bool.and_eq_false_iff] at h
          simp only [precedes, Bool.or_eq_true, decide_eq_true_eq, Bool.and_eq_true, beq_iff_eq]
          by_cases hab : a = b
          · subst hab
            refine Or.inr ⟨rfl, ih ?_ (fun he => hne (by rw [he]))⟩
            simpa using h.2
          · have hn : a.toNat ≠ b.toNat := fun he => hab (Char.toNat_inj.mp he)
            have hle := Nat.le_of_not_lt h.1
            exact Or.inl (Nat.lt_of_le_of_ne hle (Ne.symm hn))

/-- The three ways in which two texts stand to each other. -/
theorem order_cases (first second : Text)
    : order first second = .lt ∧ precedes first second = true
      ∨ order first second = .eq ∧ first = second
      ∨ order first second = .gt ∧ precedes second first = true := by
  rw [order]
  split
  · rename_i hlt
    exact Or.inl ⟨rfl, hlt⟩
  · rename_i hnot
    split
    · rename_i heq
      exact Or.inr (Or.inl ⟨rfl, heq⟩)
    · rename_i hne
      exact Or.inr (Or.inr ⟨rfl, precedes_of_not_precedes (by simpa using hnot) hne⟩)

end LeasePapers.Text
