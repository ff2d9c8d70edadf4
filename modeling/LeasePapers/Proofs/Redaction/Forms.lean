import Mathlib.Data.List.Infix
import LeasePapers.Proofs.Name.Ends
import LeasePapers.Proofs.Redaction.Braces
import LeasePapers.Proofs.Redaction.Passes
import LeasePapers.Proofs.Text.Upper

/-! What the redacted forms of names have in them. The dot behind an initial, the comma and the `e`
between names, and the brackets of tags and placeholders are walls for a name that has none of them,
so such a name is spelled in no redacted form but that of a longer name.
-/

namespace LeasePapers

namespace Redaction

open Text (folded bare)

-----------------------------------------------------------------------------------------
-- Names that can be traced
-----------------------------------------------------------------------------------------

/-- The marks that stand in redacted texts around names and between them, and the line break, which
parts names as a comma does.
-/
def marks : List Char :=
  ['.', ',', '<', '>', '[', ']', '\n']

/-- A name that no other text can run into once it is redacted: it has several words and no mark,
none of its words is `e`, its last one is no initial, and it is no part of what stands instead of
missing names.
-/
structure Traceable (name : Text) : Prop where
  several : 2 ≤ (Text.words name).length
  unmarked : ∀ c ∈ marks, c ∉ name
  noConjunction : ['e'] ∉ Text.words (folded name)
  noInitial : ∀ last ∈ (Text.words (folded name)).getLast?, ∀ c, ¬last <+: bare (Text.upperChar c)
  notMissing : ∀ missing ∈ [nameMissing, namesMissing], ¬folded name <:+: folded missing

namespace Traceable

variable {name : Text}

/-- Capitals have three characters at most, so a longer last word is no initial. -/
theorem noInitial_of_length {last : Text} (h : 3 < last.length) (c : Char)
    : ¬last <+: bare (Text.upperChar c) := by
  intro hinitial
  have hbare := Text.length_bare_le (Text.upperChar c)
  have hcapital := Text.length_upperChar_le c
  have hlength := hinitial.length_le
  omega

/-- A traceable name has no mark. -/
theorem not_mem_mark (h : Traceable name) {c : Char} (hc : c ∈ marks) : c ∉ folded name := by
  have hcaseless : marks.all Text.isCaseless = true := by decide
  rw [Text.mem_folded (List.all_eq_true.mp hcaseless c hc)]
  exact h.unmarked c hc

/-- The end of a trimmed name is no blank. -/
theorem not_blank_of_last (htrim : Text.trim name = name) {part : Text} {c : Char}
    (h : part ++ [c] <:+ folded name)
    : Text.isBlank c = false := by
  obtain ⟨front, hfront⟩ := h
  have hlast : (folded name).getLast? = some c := by simp [← hfront]
  rw [folded, List.getLast?_map, Option.map_eq_some_iff] at hlast
  obtain ⟨d, hd, rfl⟩ := hlast
  rw [← htrim] at hd
  rw [Text.isBlank_foldChar]
  exact Text.isBlank_getLast?_trimEnd hd

/-- The beginning of a trimmed name is no blank. -/
theorem not_blank_of_first (htrim : Text.trim name = name) {part : Text} {c : Char}
    (h : c :: part <+: folded name)
    : Text.isBlank c = false := by
  obtain ⟨after, hafter⟩ := h
  have hhead : (folded name).head? = some c := by simp [← hafter]
  rw [folded, List.head?_map, Option.map_eq_some_iff] at hhead
  obtain ⟨d, hd, rfl⟩ := hhead
  rw [← htrim] at hd
  rw [Text.isBlank_foldChar]
  exact Text.isBlank_head?_trim hd

/-- A traceable name has a blank, between its words. -/
theorem exists_blank (h : Traceable name) : ∃ c ∈ folded name, Text.isBlank c = true := by
  by_contra hnone
  have hblank : ∀ c ∈ name, Text.isBlank c = false := by
    intro c hc
    rw [← Text.isBlank_foldChar, ← Bool.not_eq_true]
    exact fun hblank => hnone ⟨_, List.mem_map_of_mem hc, hblank⟩
  have hseveral := h.several
  by_cases hnil : name = []
  · rw [hnil] at hseveral
    exact absurd hseveral (by decide)
  · rw [Text.words_of_not_blank hnil hblank] at hseveral
    exact absurd hseveral (by decide : ¬2 ≤ 1)

/-- A traceable name is something. -/
theorem ne_nil (h : Traceable name) : folded name ≠ [] := by
  obtain ⟨c, hc, -⟩ := h.exists_blank
  exact List.ne_nil_of_mem hc

/-- A traceable name has two words at least. -/
theorem exists_words (h : Traceable name)
    : ∃ first second rest, Text.words name = first :: second :: rest := by
  have hseveral := h.several
  match hwords : Text.words name with
  | [] => simp [hwords] at hseveral
  | [only] => simp [hwords] at hseveral
  | first :: second :: rest => exact ⟨first, second, rest, rfl⟩

/-- As a free text, the name is a single name. -/
theorem split_eq (h : Traceable name)
    : Name.split name = [Text.join [' '] (Text.words name)] := by
  refine Name.split_eq_singleton (fun c hc => ?_) ?_ (fun word hword => ?_)
  · have hcomma : c ≠ ',' := fun he => h.unmarked ',' (by decide) (he ▸ hc)
    have hline : c ≠ '\n' := fun he => h.unmarked '\n' (by decide) (he ▸ hc)
    rw [Name.Separator.ofChar?, if_neg hcomma, if_neg hline]
  · obtain ⟨first, second, rest, hwords⟩ := h.exists_words
    simp [hwords]
  · have hfold : folded ['e'] = ['e'] ∧ folded ['E'] = ['e'] := by decide
    have hmem : folded word ∈ Text.words (folded name) :=
      Text.words_folded name ▸ List.mem_map_of_mem hword
    constructor
    · rintro rfl
      exact h.noConjunction (hfold.1 ▸ hmem)
    · rintro rfl
      exact h.noConjunction (hfold.2 ▸ hmem)

/-- A text without blanks does not hold a traceable name. -/
theorem not_infix_of_not_blank (h : Traceable name) {text : Text}
    (hblank : ∀ c ∈ text, Text.isBlank c = false)
    : ¬folded name <:+: text := by
  intro hread
  obtain ⟨c, hc, hcblank⟩ := h.exists_blank
  rw [hblank c (hread.subset hc)] at hcblank
  cases hcblank

/-- A traceable name has three characters at least. -/
theorem three_le_length (h : Traceable name) (htrim : Text.trim name = name)
    : 3 ≤ (folded name).length := by
  obtain ⟨c, hc, hblank⟩ := h.exists_blank
  obtain ⟨before, after, hsplit⟩ := List.append_of_mem hc
  have hbefore : before ≠ [] := by
    rintro rfl
    have hhead : c :: after <+: folded name := ⟨[], by rw [List.append_nil, hsplit]; rfl⟩
    rw [not_blank_of_first htrim hhead] at hblank
    cases hblank
  have hafter : after ≠ [] := by
    rintro rfl
    have hlast : before ++ [c] <:+ folded name := ⟨[], hsplit.symm⟩
    rw [not_blank_of_last htrim hlast] at hblank
    cases hblank
  have hfront := List.length_pos_iff.mpr hbefore
  have hback := List.length_pos_iff.mpr hafter
  rw [hsplit, List.length_append, List.length_cons]
  omega

end Traceable

-----------------------------------------------------------------------------------------
-- The walls
-----------------------------------------------------------------------------------------

variable {name : Text}

/-- A separator that a name is not read in and not read across. -/
structure Parts (name separator : Text) : Prop where
  noWayIn : NoWayIn name separator
  noWayOut : NoWayOut name separator
  unread : ¬name <:+: separator

/-- What a separator parts stands on one side of it. -/
theorem Parts.infix_cases {separator before after : Text} (h : Parts name separator)
    (hread : name <:+: before ++ (separator ++ after))
    : name <:+: before ∨ name <:+: after := by
  rcases (h.noWayIn.append after).infix_cases hread with hbefore | hrest
  · exact Or.inl hbefore
  · exact Or.inr ((h.noWayOut.infix_cases hrest).resolve_left h.unread)

namespace Traceable

/-- A traceable name does not go on into a mark. -/
theorem noWayIn_mark (h : Traceable name) {c : Char} (hc : c ∈ marks) (more : Text)
    : NoWayIn (folded name) (c :: more) := by
  intro part hpart hne
  have hmark : c ∉ part := fun hmem => h.not_mem_mark hc (hpart.subset hmem)
  refine ⟨fun hread => ?_, fun hread => hmark (hread.subset List.mem_cons_self)⟩
  obtain ⟨rest, rfl, -⟩ := (List.prefix_cons_iff.mp hread).resolve_left hne
  exact hmark List.mem_cons_self

/-- A traceable name does not come out of a mark. -/
theorem noWayOut_mark (h : Traceable name) {c : Char} (hc : c ∈ marks) (more : Text)
    : NoWayOut (folded name) (more ++ [c]) := by
  intro part hpart hne
  have hmark : c ∉ part := fun hmem => h.not_mem_mark hc (hpart.subset hmem)
  refine ⟨fun hread => ?_, fun hread => hmark (hread.subset (by simp))⟩
  obtain ⟨rest, rfl, -⟩ := (List.suffix_concat_iff.mp hread).resolve_left hne
  exact hmark (by simp)

/-- A mark parts a traceable name from what is around it. -/
theorem parts_mark (h : Traceable name) {c : Char} (hc : c ∈ marks)
    : Parts (folded name) [c] := by
  refine ⟨h.noWayIn_mark hc [], h.noWayOut_mark hc [], fun hread => ?_⟩
  obtain ⟨d, hd, -⟩ := h.exists_blank
  exact h.not_mem_mark hc (List.mem_singleton.mp (hread.subset hd) ▸ hd)

/-- A comma with its blank parts traceable names. -/
theorem parts_comma (h : Traceable name) (htrim : Text.trim name = name)
    : Parts (folded name) [',', ' '] := by
  have hcomma : ',' ∉ folded name := h.not_mem_mark (by decide)
  refine ⟨h.noWayIn_mark (by decide) [' '], fun part hpart hne => ⟨fun hread => ?_, ?_⟩, ?_⟩
  · obtain ⟨c, rest, rfl⟩ := List.exists_cons_of_ne_nil hne
    have hblank := not_blank_of_first htrim hpart
    rcases List.mem_pair.mp (hread.subset List.mem_cons_self) with rfl | rfl
    · exact hcomma (hpart.subset List.mem_cons_self)
    · cases hblank
  · exact fun hread => hcomma (hpart.subset (hread.subset List.mem_cons_self))
  · intro hread
    have hlength := hread.length_le
    have hthree := h.three_le_length htrim
    simp only [List.length_cons, List.length_nil] at hlength
    omega

/-- No word of the name is the conjunction, also not at its ends. -/
theorem not_conjunction (h : Traceable name)
    : ¬[' ', 'e', ' '] <:+: ' ' :: (folded name ++ [' ']) := by
  rintro ⟨before, after, hsplit⟩
  have hspace : Text.isBlank ' ' = true := by decide
  have hleft : Text.words (before ++ [' ', 'e', ' '] ++ after)
      = Text.words before ++ ['e'] :: Text.words after := by
    have hword : Text.words (['e'] ++ ' ' :: after) = ['e'] :: Text.words after := by
      rw [Text.words_append_blank _ _ hspace]
      rfl
    rw [← hword, ← Text.words_append_blank before _ hspace]
    simp
  have hright : Text.words (' ' :: (folded name ++ [' '])) = Text.words (folded name) := by
    rw [Text.words_cons_blank _ hspace, Text.words_append_blank _ _ hspace]
    exact List.append_nil _
  apply h.noConjunction
  rw [← hright, ← hsplit, hleft]
  simp

/-- A conjunction between blanks parts traceable names. -/
theorem parts_conjunction (h : Traceable name) (htrim : Text.trim name = name)
    : Parts (folded name) [' ', 'e', ' '] := by
  have hwhole : ¬[' ', 'e', ' '] <:+: folded name := by
    intro hread
    exact h.not_conjunction (hread.trans ⟨[' '], [' '], rfl⟩)
  refine ⟨fun part hpart hne => ⟨fun hread => ?_, fun hread => ?_⟩,
    fun part hpart hne => ⟨fun hread => ?_, fun hread => ?_⟩, fun hread => ?_⟩
  · have hinits : part = [' '] ∨ part = [' ', 'e'] ∨ part = [' ', 'e', ' '] := by
      simpa [List.inits, hne] using (List.mem_inits _ _).mpr hread
    rcases hinits with rfl | rfl | rfl
    · have hlast : [] ++ [' '] <:+ folded name := hpart
      cases not_blank_of_last htrim hlast
    · obtain ⟨before, hbefore⟩ := hpart
      exact h.not_conjunction ⟨' ' :: before, [], by simp [← hbefore]⟩
    · exact hwhole hpart.isInfix
  · exact hwhole (hread.isInfix.trans hpart.isInfix)
  · have htails : part = [' ', 'e', ' '] ∨ part = ['e', ' '] ∨ part = [' '] := by
      simpa [List.tails, hne] using (List.mem_tails _ _).mpr hread
    rcases htails with rfl | rfl | rfl
    · exact hwhole hpart.isInfix
    · obtain ⟨after, hafter⟩ := hpart
      exact h.not_conjunction ⟨[], after ++ [' '], by simp [← hafter]⟩
    · cases not_blank_of_first htrim hpart
  · exact hwhole (hread.isInfix.trans hpart.isInfix)
  · have hthree := h.three_le_length htrim
    have hlength := hread.length_le
    simp only [List.length_cons, List.length_nil] at hlength
    have hsame := hread.eq_of_length (by simp only [List.length_cons, List.length_nil]; omega)
    exact hwhole (hsame ▸ List.infix_rfl)

end Traceable

-----------------------------------------------------------------------------------------
-- Single names
-----------------------------------------------------------------------------------------

/-- How the redacted form of several words ends: in the capital of a character and a dot. -/
def dotted (c : Char) : Text :=
  ' ' :: (bare (Text.upperChar c) ++ ['.'])

/-- A redacted name is a first word and an initial with its dot. -/
theorem bare_redactName {full first second : Text} {rest : List Text}
    (h : Text.words full = first :: second :: rest)
    : ∃ c, Text.isBlank c = false ∧ bare (redactName full) = bare first ++ dotted c := by
  have hwords : (second :: rest).getLastD [] ∈ Text.words full := by
    rw [h, List.getLastD_eq_getLast?, List.getLast?_eq_some_getLast (List.cons_ne_nil second rest)]
    exact List.mem_cons_of_mem _ (List.getLast_mem _)
  obtain ⟨hne, hblank⟩ := Text.word_of_mem_words hwords
  obtain ⟨c, more, hlast⟩ := List.exists_cons_of_ne_nil hne
  refine ⟨c, hblank c (hlast ▸ List.mem_cons_self), ?_⟩
  have hfixed : bare [' '] = [' '] ∧ bare ['.'] = ['.'] := by decide
  rw [Text.bare_of_braceFree (braceFree_redactName full), redactName, h]
  change bare (initialed first _) = _
  rw [initialed, hlast]
  simp only [List.head?_cons, Option.map_some, Option.getD_some, Text.bare_append, hfixed, dotted]
  simp

/-- A single word is redacted to itself. -/
theorem bare_redactName_single {full only : Text} (h : Text.words full = [only])
    : bare (redactName full) = bare only := by
  rw [Text.bare_of_braceFree (braceFree_redactName full), redactName, h]
  rfl

namespace Traceable

/-- A traceable name does not go on into an initial with its dot. -/
theorem noWayIn_dotted (h : Traceable name) (htrim : Text.trim name = name) {c : Char}
    (hc : Text.isBlank c = false)
    : NoWayIn (folded name) (dotted c) := by
  intro part hpart hne
  have hdot : '.' ∉ part := fun hmem => h.not_mem_mark (by decide) (hpart.subset hmem)
  refine ⟨fun hread => ?_, fun hread => hdot (hread.subset (by simp [dotted]))⟩
  obtain ⟨last, rfl, hlast⟩ := (List.prefix_cons_iff.mp hread).resolve_left hne
  have hinitial : last <+: bare (Text.upperChar c) := by
    rcases prefix_append_cases hlast with hin | ⟨more, rfl, hmore⟩
    · exact hin
    · rcases List.prefix_cons_iff.mp hmore with rfl | ⟨more, rfl, -⟩
      · simp
      · exact absurd (by simp) hdot
  have hblank : ∀ d ∈ last, Text.isBlank d = false := fun d hd =>
    Text.not_blank_bare (fun _ => Text.isBlank_of_mem_upperChar hc) d (hinitial.subset hd)
  obtain ⟨before, hbefore⟩ := hpart
  have hne : last ≠ [] := by
    rintro rfl
    have hlast : [] ++ [' '] <:+ folded name := ⟨before, hbefore⟩
    cases not_blank_of_last htrim hlast
  have hwords := Text.words_append_blank before last (by decide : Text.isBlank ' ' = true)
  rw [hbefore, Text.words_of_not_blank hne hblank] at hwords
  exact h.noInitial last (by simp [hwords]) c hinitial

/-- A traceable name does not come out of an initial with its dot. -/
theorem noWayOut_dotted (h : Traceable name) (c : Char) : NoWayOut (folded name) (dotted c) := by
  exact h.noWayOut_mark (c := '.') (by decide) (' ' :: bare (Text.upperChar c))

/-- The name is read in no redacted form of a single name. -/
theorem not_infix_redactName (h : Traceable name) (htrim : Text.trim name = name) (full : Text)
    : ¬folded name <:+: bare (redactName full) := by
  rcases hwords : Text.words full with - | ⟨first, - | ⟨second, rest⟩⟩
  · have hmissing : bare nameMissing = folded nameMissing := by decide
    rw [redactName, hwords]
    exact hmissing ▸ h.notMissing nameMissing (by simp)
  · rw [bare_redactName_single hwords]
    have hword := Text.word_of_mem_words (hwords ▸ List.mem_cons_self)
    exact h.not_infix_of_not_blank (Text.not_blank_bare hword.2)
  · obtain ⟨c, hc, hform⟩ := bare_redactName hwords
    have hword := Text.word_of_mem_words (hwords ▸ List.mem_cons_self)
    have hfirst := h.not_infix_of_not_blank (Text.not_blank_bare hword.2)
    have hwall := h.noWayIn_dotted htrim hc
    rw [hform]
    intro hread
    have hdotted := (hwall.infix_cases hread).resolve_left hfirst
    rcases List.infix_cons_iff.mp hdotted with hwhole | hlater
    · exact (hwall _ List.suffix_rfl h.ne_nil).1 hwhole
    · refine h.not_infix_of_not_blank (fun d hd => ?_) hlater
      rcases List.mem_append.mp hd with hd | hd
      · exact Text.not_blank_bare (fun _ => Text.isBlank_of_mem_upperChar hc) d hd
      · rw [List.mem_singleton.mp hd]
        decide

end Traceable

-----------------------------------------------------------------------------------------
-- Names in lists
-----------------------------------------------------------------------------------------

/-- An emphasized text stands between marks. -/
theorem bare_emphasize (tag inner : Text)
    : bare (Name.emphasize tag inner)
      = ['<'] ++ (bare tag ++ (['>'] ++ (bare inner
        ++ (['<'] ++ (bare ('/' :: tag) ++ ['>']))))) := by
  have hfixed : bare ['<'] = ['<'] ∧ bare ['>'] = ['>'] := by decide
  have hshape : Name.emphasize tag inner
      = ['<'] ++ (tag ++ (['>'] ++ (inner ++ (['<'] ++ ('/' :: tag ++ ['>']))))) := by
    simp [Name.emphasize]
  rw [hshape]
  simp only [Text.bare_append, hfixed]

/-- A tag has no blank. -/
theorem not_blank_tag {entry tag inner : Text} (h : splitEmphasis? entry = some (tag, inner))
    : ∀ c ∈ tag, Text.isBlank c = false :=
  Name.not_blank_of_whole (Name.whole_of_alphanumeric (eq_emphasize_of_splitEmphasis? h).2.2)

/-- A placeholder stands in brackets. -/
theorem bracketed_of_isPlaceholder {text : Text} (h : isPlaceholder text = true)
    : ∃ inner, Text.trim text = '[' :: (inner ++ [']']) := by
  rw [isPlaceholder, Option.any_eq_true] at h
  obtain ⟨inner, hinner, -⟩ := h
  exact ⟨inner, eq_of_bracketed? hinner⟩

/-- The redacted form of a name in a list stands between marks, or it is that of a single name. -/
theorem redactEntry_cases {entry : Text} (htrim : Text.trim entry = entry)
    : (∃ opening ∈ marks, ∃ closing ∈ marks, ∃ inner,
        bare (redactEntry entry) = opening :: (inner ++ [closing]))
      ∨ redactEntry entry = redactName entry := by
  rw [redactEntry]
  split
  · rename_i tag inner _
    refine Or.inl ⟨'<', by decide, '>', by decide,
      bare tag ++ (['>'] ++ (bare (redactEntry inner) ++ (['<'] ++ bare ('/' :: tag)))), ?_⟩
    rw [bare_emphasize]
    simp
  · split
    · rename_i hplaceholder
      obtain ⟨inner, hinner⟩ := bracketed_of_isPlaceholder hplaceholder
      rw [htrim] at hinner
      have hfixed : bare ['['] = ['['] ∧ bare [']'] = [']'] := by decide
      refine Or.inl ⟨'[', by decide, ']', by decide, bare inner, ?_⟩
      rw [hinner, ← List.singleton_append, Text.bare_append, Text.bare_append, hfixed.1, hfixed.2]
      rfl
    · exact Or.inr rfl

namespace Traceable

/-- The name is read only in the redacted forms of longer names in lists, by induction on the tags
around them.
-/
theorem length_lt_of_redactEntry (h : Traceable name) (htrim : Text.trim name = name) {entry : Text}
    (hread : folded name <:+: bare (redactEntry entry))
    : name.length < entry.length := by
  induction hlength : entry.length using Nat.strong_induction_on generalizing entry with
  | _ length ih =>
      subst hlength
      have hopening := h.parts_mark (c := '<') (by decide)
      have hclosing := h.parts_mark (c := '>') (by decide)
      have hnil : ¬folded name <:+: [] := h.not_infix_of_not_blank (by simp)
      rw [redactEntry] at hread
      split at hread
      · rename_i tag inner hsplit
        have htag := Text.not_blank_bare (not_blank_tag hsplit)
        have hslash : ∀ c ∈ bare ('/' :: tag), Text.isBlank c = false :=
          Text.not_blank_bare (List.forall_mem_cons.mpr ⟨by decide, not_blank_tag hsplit⟩)
        have hinner := length_of_splitEmphasis? hsplit
        rw [bare_emphasize, ← List.nil_append (['<'] ++ _)] at hread
        have hread := (hopening.infix_cases hread).resolve_left hnil
        have hread := (hclosing.infix_cases hread).resolve_left (h.not_infix_of_not_blank htag)
        rcases hopening.infix_cases hread with hread | hread
        · exact (ih inner.length hinner hread rfl).trans hinner
        · rw [← List.append_nil ['>']] at hread
          rcases hclosing.infix_cases hread with hread | hread
          · exact absurd hread (h.not_infix_of_not_blank hslash)
          · exact absurd hread hnil
      · split at hread
        · rename_i hplaceholder
          obtain ⟨inner, hinner⟩ := bracketed_of_isPlaceholder hplaceholder
          have hmem : '[' ∈ entry := (Text.isInfix_trim entry).subset (hinner ▸ List.mem_cons_self)
          obtain ⟨before, after, rfl⟩ := List.append_of_mem hmem
          have hfixed : bare ['['] = ['['] := by decide
          rw [← List.singleton_append, Text.bare_append, Text.bare_append, hfixed] at hread
          have hbefore := Text.length_bare_le before
          have hafter := Text.length_bare_le after
          rw [List.length_append, List.length_cons]
          rcases (h.parts_mark (c := '[') (by decide)).infix_cases hread with hread | hread
          · have hlength := hread.length_le
            rw [Text.length_folded] at hlength
            omega
          · have hlength := hread.length_le
            rw [Text.length_folded] at hlength
            omega
        · exact absurd hread (h.not_infix_redactName htrim entry)

end Traceable

/-- What is read in joined texts is read in one of them, by induction on them. -/
theorem Parts.infix_join {separator : Text} {parts : List Text}
    (h : Parts name (bare separator)) (hne : name ≠ [])
    (hread : name <:+: bare (Text.join separator parts))
    : ∃ part ∈ parts, name <:+: bare part := by
  match parts with
  | [] => exact absurd (List.infix_nil.mp hread) hne
  | [part] => exact ⟨part, by simp, hread⟩
  | part :: next :: rest =>
      rw [Text.join, List.append_assoc, Text.bare_append, Text.bare_append] at hread
      rcases h.infix_cases hread with hread | hread
      · exact ⟨part, by simp, hread⟩
      · obtain ⟨found, hfound, hread⟩ := infix_join h hne hread
        exact ⟨found, List.mem_cons_of_mem _ hfound, hread⟩

/-- The separators of names as they are compared. -/
theorem bare_separators
    : bare Name.comma = [',', ' '] ∧ bare Name.conjunction = [' ', 'e', ' '] := by
  decide

namespace Traceable

/-- A traceable name that is read in joined parts is read in one of them. -/
theorem infix_joinAll (h : Traceable name) (htrim : Text.trim name = name) {parts : List Text}
    (hread : folded name <:+: bare (Name.joinAll parts))
    : ∃ part ∈ parts, folded name <:+: bare part := by
  have hcomma : Parts (folded name) (bare Name.comma) := bare_separators.1 ▸ h.parts_comma htrim
  have hconjunction : Parts (folded name) (bare Name.conjunction) :=
    bare_separators.2 ▸ h.parts_conjunction htrim
  rcases Name.names_cases parts with rfl | ⟨part, rfl⟩ | ⟨front, last, hfront, rfl⟩
  · exact absurd (List.infix_nil.mp hread) h.ne_nil
  · exact ⟨part, by simp, hread⟩
  · rw [Name.joinAll_concat hfront, List.append_assoc, Text.bare_append, Text.bare_append] at hread
    rcases hconjunction.infix_cases hread with hread | hread
    · obtain ⟨part, hpart, hread⟩ := hcomma.infix_join h.ne_nil hread
      exact ⟨part, List.mem_append_left _ hpart, hread⟩
    · exact ⟨last, by simp, hread⟩

/-- The first and the last of joined texts stand on both sides of a wall. -/
theorem exists_wall (h : Traceable name) (htrim : Text.trim name = name) (first : Text)
    (middle : List Text) (last : Text)
    : ∃ wall, bare (Name.joinAll (first :: (middle ++ [last]))) = bare first ++ (wall ++ bare last)
        ∧ NoWayIn (folded name) wall ∧ NoWayOut (folded name) wall := by
  have hcomma := h.parts_comma htrim
  have hconjunction := h.parts_conjunction htrim
  have hjoin := Name.joinAll_concat (List.cons_ne_nil first middle) last
  cases middle with
  | nil =>
      refine ⟨[' ', 'e', ' '], ?_, hconjunction.noWayIn, hconjunction.noWayOut⟩
      rw [← List.cons_append, hjoin, Text.bare_append, Text.bare_append, bare_separators.2,
        List.append_assoc]
      rfl
  | cons next rest =>
      refine ⟨[',', ' '] ++ (bare (Text.join Name.comma (next :: rest)) ++ [' ', 'e', ' ']), ?_,
        hcomma.noWayIn.append _, ?_⟩
      · rw [← List.cons_append, hjoin, Text.join]
        simp only [Text.bare_append, bare_separators, List.append_assoc]
      · rw [← List.append_assoc]
        exact hconjunction.noWayOut.append _

end Traceable

end Redaction

end LeasePapers
