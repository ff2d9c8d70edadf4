import LeasePapers.Text.Basic

/-! The segments of a template: literal text, complete tags, and tags that are opened and never
closed. Segments are pieces of the template in order, so nothing of it is lost, and the position of
a segment is the byte size of what stands before it.
-/

namespace LeasePapers.Template

/-- The mark that opens a tag is this character twice. -/
def openMark : Char := '\x7b'

/-- The mark that closes a tag is this character twice. -/
def closeMark : Char := '\x7d'

/-- A character twice. -/
def twice (mark : Char) : Text := [mark, mark]

/-- A segment of a template. A tag is given by what stands between its marks, an unterminated tag
with its opening mark. -/
inductive Segment where
  | text (content : Text)
  | tag (inner : Text)
  | unterminated (raw : Text)
  deriving DecidableEq, Repr

/-- A tag with its marks. -/
def tagText (inner : Text) : Text :=
  twice openMark ++ inner ++ twice closeMark

namespace Segment

/-- The piece of the template that a segment is. -/
def raw : Segment → Text
  | .text content => content
  | .tag inner => tagText inner
  | .unterminated raw => raw

/-- A piece of literal text, if there is any. -/
def ofText (content : Text) : List Segment :=
  if content = [] then [] else [.text content]

end Segment

/-- What stands before and after the first place where a character stands twice. -/
def cutAtPair (mark : Char) : Text → Option (Text × Text)
  | [] => none
  | c :: rest =>
      if c = mark ∧ rest.head? = some mark then some ([], rest.tail)
      else (cutAtPair mark rest).map (fun (before, after) => (c :: before, after))

/-- What stands before and after the last place where a character stands twice. -/
def cutAtLastPair (mark : Char) : Text → Option (Text × Text)
  | [] => none
  | c :: rest =>
      match cutAtLastPair mark rest with
      | some (before, after) => some (c :: before, after)
      | none =>
          if c = mark ∧ rest.head? = some mark then some ([], rest.tail) else none

/-- A text is what stands before the pair of marks, the pair, and what follows it, by induction on
the text. -/
theorem eq_append_of_cutAtPair {mark : Char} {text before after : Text}
    (h : cutAtPair mark text = some (before, after))
    : text = before ++ twice mark ++ after := by
  induction text generalizing before with
  | nil => simp [cutAtPair] at h
  | cons c rest ih =>
      simp only [cutAtPair] at h
      split at h
      · rename_i hc
        cases rest with
        | nil => simp at hc
        | cons d rest =>
            simp only [List.head?_cons, Option.some.injEq] at hc
            simp only [List.tail_cons, Option.some.injEq, Prod.mk.injEq] at h
            simp [twice, hc.1, hc.2, ← h.1, ← h.2]
      · simp only [Option.map_eq_some_iff, Prod.mk.injEq, Prod.exists] at h
        obtain ⟨b, a, hcut, rfl, rfl⟩ := h
        simp [ih hcut]

/-- What follows a pair of marks is shorter than the text. -/
theorem length_of_cutAtPair {mark : Char} {text before after : Text}
    (h : cutAtPair mark text = some (before, after))
    : after.length < text.length := by
  rw [eq_append_of_cutAtPair h]
  simp [twice]
  omega

/-- The tag between an opening mark and the first closing mark after it. If marks are opened in
between, the last of them opens the tag and what stands before it is unterminated. -/
def tagSegments (inner : Text) : List Segment :=
  match cutAtLastPair openMark inner with
  | none => [.tag inner]
  | some (stale, inner) => [.unterminated (twice openMark ++ stale), .tag inner]

/-- The segments of a template. -/
def segments (text : Text) : List Segment :=
  match _hopen : cutAtPair openMark text with
  | none => Segment.ofText text
  | some (before, after) =>
      Segment.ofText before ++
        match _hclose : cutAtPair closeMark after with
        | none => [.unterminated (twice openMark ++ after)]
        | some (inner, rest) => tagSegments inner ++ segments rest
termination_by text.length
decreasing_by
  have h1 := length_of_cutAtPair _hopen
  have h2 := length_of_cutAtPair _hclose
  omega

end LeasePapers.Template
