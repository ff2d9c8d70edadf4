import LeasePapers.Proofs.Redaction.Known
import LeasePapers.Proofs.Text.Braces
import LeasePapers.Proofs.Text.Fold

/-! What replacing a name makes of a text, from left to right: each character is kept where the name
is not spelled, and otherwise the spelling gives way to the redacted form.
-/

namespace LeasePapers.Redaction

/-- A text and what is left of it when a name is replaced wherever it is spelled, in any case. -/
inductive Replaced (name : KnownName) : Text → Text → Prop
  | nil : Replaced name [] []
  | keep {c : Char} {rest out : Text}
      (unspelled : ¬Text.folded name.spelling <+: Text.folded (c :: rest))
      (tail : Replaced name rest out)
    : Replaced name (c :: rest) (c :: out)
  | swap {found after out : Text} (spelled : Text.folded found = Text.folded name.spelling)
      (tail : Replaced name after out)
    : Replaced name (found ++ after) (redactedBefore name after ++ out)

/-- The characters of a spelling that was found are passed over, by induction on the characters. -/
theorem replaceAfter_covered (name : KnownName) (found after : Text)
    : replaceAfter name found.length (found ++ after) = replaceAfter name 0 after := by
  induction found with
  | nil => rfl
  | cons c found ih => exact ih

/-- Replacing is done from left to right, by induction on the length of what is left. -/
theorem replaced_replaceName (text : Text) {name : KnownName} (h : name.spelling ≠ [])
    : Replaced name text (replaceName text name) := by
  rw [replaceName]
  induction hlength : text.length using Nat.strong_induction_on generalizing text with
  | _ length ih =>
      subst hlength
      cases text with
      | nil => exact .nil
      | cons c rest =>
          rw [replaceAfter]
          split
          · rename_i after hafter
            obtain ⟨found, htext, hfound⟩ := Text.dropFolded?_eq_some_iff.mp hafter
            have hne : found ≠ [] := by
              rintro rfl
              exact h (Text.folded_eq_nil.mp hfound.symm)
            obtain ⟨first, more, rfl⟩ := List.exists_cons_of_ne_nil hne
            obtain ⟨rfl, hrest⟩ : c = first ∧ rest = more ++ after := List.cons.inj htext
            have hmore : name.spelling.length - 1 = more.length := by
              have hsame := congrArg List.length hfound
              simp only [Text.length_folded, List.length_cons] at hsame
              omega
            rw [hmore, htext, hrest, replaceAfter_covered]
            have hshorter : after.length < (c :: rest).length := by
              simp only [hrest, List.length_cons, List.length_append]
              omega
            exact .swap hfound (ih after.length hshorter after rfl)
          · rename_i hnone
            refine .keep ?_ (ih rest.length (by simp) rest rfl)
            rw [← Text.isSome_dropFolded?, hnone]
            exact Bool.false_ne_true

/-- Before another dot the final dot of a redacted form is dropped, and nothing else ever is. -/
theorem redactedBefore_cases (name : KnownName) (after : Text)
    : redactedBefore name after = name.redacted
      ∨ redactedBefore name after ++ ['.'] = name.redacted ∧ after.head? = some '.' := by
  rw [redactedBefore]
  split
  · rename_i hdot
    cases htail : Text.dropTail? ['.'] name.redacted with
    | none => exact Or.inl rfl
    | some shorter =>
        rw [Text.dropTail?, Option.map_eq_some_iff] at htail
        obtain ⟨back, hback, rfl⟩ := htail
        have hreverse := congrArg List.reverse (Text.eq_append_of_dropLead? hback)
        rw [List.reverse_reverse, List.reverse_append, List.reverse_reverse] at hreverse
        exact Or.inr ⟨hreverse.symm, hdot⟩
  · exact Or.inl rfl

end LeasePapers.Redaction
