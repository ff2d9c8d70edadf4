import LeasePapers.Text.Basic

/-! Character classes and character maps given by tables. A class is a list of ranges of code
points; a map is a list of runs, each of which carries an evenly spaced stretch of code points to
another one of the same spacing. Both kinds of list ascend by first code point, so a look-up ends
at the first entry that begins later.
-/

namespace LeasePapers.Text

/-- Whether a code point lies in one of the ranges, ends included. -/
def inRanges : List (Nat × Nat) → Nat → Bool
  | [], _ => false
  | (first, last) :: rest, code =>
      if code < first then false else if code ≤ last then true else inRanges rest code

/-- The code points `first`, `first + stride`, …, `last`, carried to `image`,
`image + stride`, …. -/
structure Run where
  first : Nat
  last : Nat
  stride : Nat
  image : Nat

/-- Whether a run has an image for a code point. -/
def Run.covers (run : Run) (code : Nat) : Bool :=
  run.first ≤ code && code ≤ run.last && (code - run.first) % run.stride == 0

/-- The image of a code point under the first run that covers it. -/
def image? : List Run → Nat → Option Nat
  | [], _ => none
  | run :: rest, code =>
      if code < run.first then none
      else if run.covers code then some (run.image + (code - run.first))
      else image? rest code

/-- The image of a character under a table of runs; a character without one is kept. -/
def mapChar (table : List Run) (c : Char) : Char :=
  match image? table c.toNat with
  | some code => Char.ofNat code
  | none => c

/-- The entry of a code point in an ascending table. -/
def entry? : List (Nat × List Nat) → Nat → Option (List Nat)
  | [], _ => none
  | (key, codes) :: rest, code =>
      if code < key then none else if code = key then some codes else entry? rest code

/-- A code with an image lies in a run of the table, and its image in the run that belongs to it, by
induction on the table. -/
theorem exists_run_of_image? {table : List Run} {code target : Nat}
    (h : image? table code = some target)
    : ∃ run ∈ table, run.covers code = true ∧ target = run.image + (code - run.first) := by
  induction table with
  | nil => simp [image?] at h
  | cons run rest ih =>
      simp only [image?] at h
      split at h
      · simp at h
      · split at h
        · exact ⟨run, by simp, by assumption, by simpa using h.symm⟩
        · obtain ⟨run, hm, hr⟩ := ih h
          exact ⟨run, List.mem_cons_of_mem _ hm, hr⟩

end LeasePapers.Text
