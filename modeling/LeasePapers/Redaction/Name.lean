import LeasePapers.Name.List
import LeasePapers.Redaction.Placeholder
import LeasePapers.Text.Upper

/-! Redacted names: the first word, and the initial of the last one. In a list every name is
redacted by itself, inside its emphasis tags if it has some.
-/

namespace LeasePapers.Redaction

/-- The first word of several, and the initial of the last one with a dot. -/
def initialed (first last : Text) : Text :=
  first ++ [' '] ++ (last.head?.map Text.upperChar).getD [] ++ ['.']

/-- A name, redacted. A name of one word is kept. -/
def redactName (full : Text) : Text :=
  match Text.words full with
  | [] => nameMissing
  | [only] => Text.withoutBraces only
  | first :: second :: rest =>
      Text.withoutBraces (initialed first ((second :: rest).getLastD []))

/-- The tag and the contents of a text that is marked with an emphasis tag. -/
def splitEmphasis? (entry : Text) : Option (Text × Text) := do
  let opened ← Text.dropLead? ['<'] entry
  let (tag, rest) ← Text.cutOnce '>' opened
  if tag ≠ [] ∧ tag.all Text.isAsciiAlphanumeric then
    let inner ← Text.dropTail? (['<', '/'] ++ tag ++ ['>']) rest
    some (tag, inner)
  else none

/-- What is left without a tail is no longer than the text. -/
theorem length_of_dropTail? {tail text rest : Text} (h : Text.dropTail? tail text = some rest)
    : rest.length ≤ text.length := by
  simp only [Text.dropTail?, Option.map_eq_some_iff] at h
  obtain ⟨back, hback, rfl⟩ := h
  have hlen := congrArg List.length (Text.eq_append_of_dropLead? hback)
  simp only [List.length_reverse, List.length_append] at hlen
  simp only [List.length_reverse]
  omega

/-- What stands behind a mark is shorter than the text, by induction on the text. -/
theorem length_of_cutOnce {mark : Char} {text before after : Text}
    (h : Text.cutOnce mark text = some (before, after))
    : after.length < text.length := by
  induction text generalizing before with
  | nil => simp [Text.cutOnce] at h
  | cons c rest ih =>
      simp only [Text.cutOnce] at h
      split at h
      · simp only [Option.some.injEq, Prod.mk.injEq] at h
        simp [h.2]
      · simp only [Option.map_eq_some_iff, Prod.mk.injEq, Prod.exists] at h
        obtain ⟨b, a, hcut, -, rfl⟩ := h
        exact Nat.lt_succ_of_lt (ih hcut)

/-- What stands between emphasis tags is shorter than the entry. -/
theorem length_of_splitEmphasis? {entry tag inner : Text}
    (h : splitEmphasis? entry = some (tag, inner))
    : inner.length < entry.length := by
  simp only [splitEmphasis?, Option.bind_eq_bind, Option.bind_eq_some_iff, Prod.exists] at h
  obtain ⟨opened, hopened, found, rest, hcut, h⟩ := h
  split at h
  · simp only [Option.bind_eq_some_iff, Option.some.injEq, Prod.mk.injEq] at h
    obtain ⟨inside, hinside, -, rfl⟩ := h
    have h1 := congrArg List.length (Text.eq_append_of_dropLead? hopened)
    have h2 := length_of_cutOnce hcut
    have h3 := length_of_dropTail? hinside
    simp only [List.length_append, List.length_cons, List.length_nil] at h1
    omega
  · exact absurd h (by simp)

/-- An entry of a list of names, redacted inside its emphasis tags. -/
def redactEntry (entry : Text) : Text :=
  match _h : splitEmphasis? entry with
  | some (tag, inner) => Name.emphasize tag (redactEntry inner)
  | none => if isPlaceholder entry then entry else redactName entry
termination_by entry.length
decreasing_by exact length_of_splitEmphasis? _h

/-- A list of names, redacted. -/
def redactNames (text : Text) : Text :=
  match Name.split text with
  | [] => namesMissing
  | names => Text.withoutBraces (Name.joinAll (names.map redactEntry))

end LeasePapers.Redaction
