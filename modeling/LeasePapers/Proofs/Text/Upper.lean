import LeasePapers.Proofs.Text.Fold
import LeasePapers.Text.Upper

/-! Capitals of characters. A character that stands in no other capital form than its own, such as a
blank or a comma, is in the capital form of nothing else.
-/

namespace LeasePapers.Text

/-- What is found in a table is an entry of it, by induction on the table. -/
theorem mem_of_found {table : List (Nat × List Nat)} {code : Nat} {codes : List Nat}
    (h : entry? table code = some codes)
    : (code, codes) ∈ table := by
  induction table with
  | nil => cases h
  | cons entry rest ih =>
      rw [ entry?] at h
      split at h
      · cases h
      · split at h
        · rename_i hkey
          obtain rfl := Option.some.inj h
          rw [hkey]
          exact List.mem_cons_self
        · exact List.mem_cons_of_mem _ (ih h)

/-- Whether no other character has this one in its capital form. -/
def isOwnCapital (c : Char) : Bool :=
  c.toNat != 0 && (preimages upperRuns c.toNat).isEmpty
    && upperSpecials.all (fun entry => entry.2.all (fun code => Char.ofNat code != c))

/-- A character that is its own capital is no part of another one's. -/
theorem eq_of_mem_upperChar {c d : Char} (hown : isOwnCapital d = true) (h : d ∈ upperChar c)
    : d = c := by
  simp only [isOwnCapital, Bool.and_eq_true, bne_iff_ne, List.isEmpty_iff] at hown
  obtain ⟨⟨hzero, hruns⟩, hspecials⟩ := hown
  rw [upperChar] at h
  split at h
  · rename_i codes hcodes
    obtain ⟨code, hcode, rfl⟩ := List.mem_map.mp h
    have hall := List.all_eq_true.mp hspecials _ (mem_of_found hcodes)
    have hne := List.all_eq_true.mp hall code hcode
    simp at hne
  · rcases toNat_of_mapChar (List.mem_singleton.mp h).symm hzero with hsame | hmem
    · exact hsame.symm
    · rw [hruns] at hmem
      cases hmem

/-- Blanks are their own capitals. -/
theorem isOwnCapital_of_isBlank {c : Char} (h : isBlank c = true) : isOwnCapital c = true := by
  have hall : blanks.all isOwnCapital = true := by decide +kernel
  exact List.all_eq_true.mp hall c (mem_blanks h)

/-- The capital of a character that is not blank has no blanks in it. -/
theorem isBlank_of_mem_upperChar {c d : Char} (hc : isBlank c = false) (hd : d ∈ upperChar c)
    : isBlank d = false := by
  cases hblank : isBlank d with
  | false => rfl
  | true =>
      rw [← eq_of_mem_upperChar (isOwnCapital_of_isBlank hblank) hd, hblank] at hc
      cases hc

/-- The capital of a character is written with at most three. -/
theorem length_upperChar_le (c : Char) : (upperChar c).length ≤ 3 := by
  have hspecials : upperSpecials.all (fun entry => entry.2.length ≤ 3) = true := by
    decide
  rw [upperChar]
  split
  · rename_i codes hcodes
    rw [List.length_map]
    simpa using List.all_eq_true.mp hspecials _ (mem_of_found hcodes)
  · simp

end LeasePapers.Text
