import LeasePapers.Proofs.Text.Blank

/-! Texts without braces, which cannot open or close a directive. No blank character is a brace, so
a text that is all blank has none.
-/

namespace LeasePapers.Text

/-- There is no brace in a text. -/
def BraceFree (text : Text) : Prop :=
  ∀ c ∈ text, isBrace c = false

/-- Whether a text has braces is seen from its characters. -/
instance (text : Text) : Decidable (BraceFree text) :=
  List.decidableBAll _ text

/-- The empty text has no brace. -/
@[simp] theorem braceFree_nil : BraceFree [] :=
  fun _ hmem => absurd hmem List.not_mem_nil

/-- A text has no brace if its first character is none and the rest has none. -/
@[simp] theorem braceFree_cons {c : Char} {rest : Text}
    : BraceFree (c :: rest) ↔ isBrace c = false ∧ BraceFree rest :=
  List.forall_mem_cons

/-- Two texts have no brace together if neither has one. -/
@[simp] theorem braceFree_append {first second : Text}
    : BraceFree (first ++ second) ↔ BraceFree first ∧ BraceFree second :=
  List.forall_mem_append

/-- Taking out braces leaves none. -/
theorem braceFree_withoutBraces (text : Text) : BraceFree (withoutBraces text) := by
  intro c hmem
  simpa using (List.mem_filter.mp hmem).2

/-- From a text without braces nothing is taken out. -/
theorem withoutBraces_of_braceFree {text : Text} (h : BraceFree text) : withoutBraces text = text :=
  List.filter_eq_self.mpr (fun c hmem => by simp [h c hmem])

/-- Braces are taken out of texts one by one. -/
theorem withoutBraces_append (first second : Text)
    : withoutBraces (first ++ second) = withoutBraces first ++ withoutBraces second :=
  List.filter_append ..

/-- No blank is a brace. -/
theorem isBrace_of_isBlank {c : Char} (h : isBlank c = true) : isBrace c = false := by
  cases hbrace : isBrace c with
  | false => rfl
  | true =>
      have hblank := isBlank_of_class (p := isBrace) (by decide) hbrace
      rw [h] at hblank
      cases hblank

/-- A blank text has no brace. -/
theorem braceFree_of_isAllBlank {text : Text} (h : isAllBlank text = true) : BraceFree text :=
  fun c hmem => isBrace_of_isBlank (List.all_eq_true.mp h c hmem)

end LeasePapers.Text
