import LeasePapers.Proofs.Json.Strings

/-! JSON objects, and arrays and objects that are laid out over several lines, read back from their
texts. Line breaks and blanks between tokens leave no trace, and each member is taken in as its
name, a colon and the tokens of its value.
-/

namespace LeasePapers.Json

-----------------------------------------------------------------------------------------
-- Line breaks and blanks
-----------------------------------------------------------------------------------------

/-- A space spells nothing. -/
theorem spells_space {c : Char} (h : isSpace c = true) : Spells [c] [] := by
  intro rest
  rw [List.singleton_append, tokensFrom?_silent (show readChar c .between = some ([], .between) by
    rw [readChar, readBetween, if_pos h])]
  exact Option.map_id'.symm

/-- Spaces spell nothing, by induction on their number. -/
theorem spells_spaces (count : Nat) : Spells (List.replicate count ' ') [] := by
  induction count with
  | zero => exact spells_nil
  | succ count ih => exact (spells_space (by decide)).append ih

/-- A new line with its indentation spells nothing. -/
theorem spells_newLine (depth : Nat) : Spells (newLine depth) [] :=
  (spells_space (by decide)).append (spells_spaces _)

/-- Texts that are laid out between brackets are read as their tokens between brackets, with a comma
between neighbours.
-/
theorem spells_laidOut {α : Type} {opening closing : Char} {opens closes : Token}
    (hopening : Spells [opening] [opens]) (hclosing : Spells [closing] [closes]) (depth : Nat)
    {text : α → Text} {tokens : α → List Token} (items : List α)
    (hitems : ∀ item ∈ items, Spells (text item) (tokens item))
    : Spells (laidOut opening closing depth (items.map text))
        (opens :: [Token.comma].intercalate (items.map tokens) ++ [closes]) := by
  rw [laidOut]
  split
  · rename_i hnone
    rw [List.map_eq_nil_iff.mp hnone]
    exact hopening.append hclosing
  · have hseparator := spells_comma.append (spells_newLine (depth + 1))
    have hinside := (hopening.append (spells_newLine (depth + 1))).append
      (.join hseparator items hitems)
    have hall := (hinside.append (spells_newLine depth)).append hclosing
    rw [List.append_nil] at hall
    exact hall

-----------------------------------------------------------------------------------------
-- Members of an object
-----------------------------------------------------------------------------------------

/-- The tokens of a member. -/
def memberTokens (name : Text) (tokens : List Token) : List Token :=
  .string name :: .colon :: tokens

/-- A member is spelled by its name, a colon and its value. -/
theorem spells_memberText {name text : Text} {tokens : List Token} (h : Spells text tokens)
    : Spells (memberText name text) (memberTokens name tokens) := by
  have hcolon : Spells [':'] [.colon] :=
    spells_mark (by decide) (by decide) (by decide) (by decide) rfl
  exact ((spells_quote name).append (hcolon.append (spells_space (by decide)))).append h

/-- A member is taken in where its name may stand. -/
theorem foldlM_take_member {tokens : List Token} {value : Value} {depth : Nat}
    (h : Makes tokens value depth) {frames : List Frame}
    (hframes : frames.length + (depth + 1) ≤ deepestNesting) (name : Text)
    (before : List (Text × Value))
    : (memberTokens name tokens).foldlM Progress.take ⟨.object before :: frames, .name, none⟩
      = some ⟨.object (before ++ [(name, value)]) :: frames, .next, none⟩ :=
  h (.member before name :: frames) (by rw [List.length_cons]; omega)

section

variable {α : Type} {name : α → Text} {tokens : α → List Token} {value : α → Value} {depth : Nat}
  {frames : List Frame}

/-- Members between commas are taken in as the last members of an object that is closed behind them,
by induction on them.
-/
theorem foldlM_take_members (hframes : frames.length + (depth + 1) ≤ deepestNesting) (first : α)
    (items : List α) (hitems : ∀ item ∈ first :: items, Makes (tokens item) (value item) depth)
    (before : List (Text × Value))
    : ([Token.comma].intercalate
            ((first :: items).map (fun item => memberTokens (name item) (tokens item)))
          ++ [Token.closeObject]).foldlM Progress.take ⟨.object before :: frames, .name, none⟩
      = Progress.deliver
          (.object (before ++ (first :: items).map (fun item => (name item, value item)))) frames := by
  induction items generalizing first before with
  | nil =>
      have hfirst := foldlM_take_member (hitems first (by simp)) hframes (name first) before
      rw [List.map_singleton, List.map_singleton, List.intercalate_singleton, List.foldlM_append,
        hfirst]
      exact Option.bind_fun_some _
  | cons next items ih =>
      rw [List.forall_mem_cons] at hitems
      have hfirst := foldlM_take_member hitems.1 hframes (name first) before
      have htail := ih next hitems.2 (before ++ [(name first, value first)])
      rw [List.append_assoc] at htail
      rw [List.map_cons, List.map_cons, List.intercalate_cons_cons, List.append_assoc,
        List.append_assoc, List.foldlM_append, hfirst]
      exact htail

/-- The tokens of members between braces make an object. -/
theorem makes_object (items : List α)
    (hitems : ∀ item ∈ items, Makes (tokens item) (value item) depth)
    : Makes
        (.openObject :: [Token.comma].intercalate
            (items.map (fun item => memberTokens (name item) (tokens item)))
          ++ [.closeObject])
        (.object (items.map (fun item => (name item, value item)))) (depth + 1) := by
  intro frames hframes
  have hroom : frames.length < deepestNesting := by omega
  have hopen : Progress.take ⟨frames, .value, none⟩ .openObject
      = some ⟨.object [] :: frames, .firstName, none⟩ :=
    if_pos hroom
  rw [List.cons_append, List.foldlM_cons, hopen]
  cases items with
  | nil => exact Option.bind_fun_some _
  | cons item items =>
      -- A name may stand first in an object just as it may stand behind a comma.
      have hmembers := @foldlM_take_members α name _ _ _ _ hframes item items hitems []
      cases items with
      | nil => exact hmembers
      | cons next items => exact hmembers

end

/-- A brace opens an object. -/
theorem spells_openObject : Spells ['\x7b'] [.openObject] :=
  spells_mark (by decide) (by decide) (by decide) (by decide) rfl

/-- A brace closes an object. -/
theorem spells_closeObject : Spells ['\x7d'] [.closeObject] :=
  spells_mark (by decide) (by decide) (by decide) (by decide) rfl

end LeasePapers.Json
