import LeasePapers.Proofs.Yaml.Escapes

/-! Scalars and empty sequences as they are written behind a key or a hyphen, read back up to the
beginning of the next line. Every character that is written is printable, so a document holds no
character that is refused, and no line break that is read as another one.
-/

namespace LeasePapers.Yaml

-----------------------------------------------------------------------------------------
-- Trees on a line
-----------------------------------------------------------------------------------------

/-- No item, no key that is marked as one, no mark and no block scalar begins here. -/
def BeginsLine (text : Text) : Prop :=
  ∀ c rest, text = c :: rest →
    ['&', '!', '|', '>'].contains c = false ∧ (c = '-' ∨ c = '?' → isCut rest = false)

namespace BeginsLine

/-- A line begins with a character that is no mark, or a sign that is not cut off. -/
theorem cons {c : Char} {rest : Text} (hmark : c ∉ ['&', '!', '|', '>'])
    (hcut : c = '-' ∨ c = '?' → isCut rest = false)
    : BeginsLine (c :: rest) := by
  rintro _ _ ⟨⟩
  exact ⟨Bool.eq_false_iff.mpr (fun h => hmark (List.contains_iff_mem.mp h)), hcut⟩

section

variable {cursor : Cursor} (h : BeginsLine cursor.rest)

include h

/-- Behind a sign that needs a blank there is none. -/
theorem isCut_tail {sign : Char} (hsign : sign = '-' ∨ sign = '?')
    (hhead : cursor.rest.head? = some sign)
    : isCut cursor.rest.tail = false := by
  obtain ⟨rest, hrest⟩ := List.head?_eq_some_iff.mp hhead
  rw [hrest]
  exact (h sign rest hrest).2 hsign

/-- No item begins here. -/
theorem notItem : cursor.isItem = false := by
  rw [Cursor.isItem, Bool.and_eq_false_imp, beq_iff_eq]
  exact h.isCut_tail (.inl rfl)

/-- No key begins here that is marked as one. -/
theorem notQuery : cursor.isQuery = false := by
  rw [Cursor.isQuery, Bool.and_eq_false_imp, beq_iff_eq]
  exact h.isCut_tail (.inr rfl)

/-- No sign of a mark or of a block scalar stands here. -/
theorem head?_ne {sign : Char} (hsign : sign ∈ ['&', '!', '|', '>'])
    : (cursor.rest.head? == some sign) = false := by
  rw [beq_eq_false_iff_ne]
  intro hhead
  obtain ⟨rest, hrest⟩ := List.head?_eq_some_iff.mp hhead
  have hnone := (h sign rest hrest).1
  rw [List.contains_iff_mem.mpr hsign] at hnone
  cases hnone

/-- No block scalar begins here. -/
theorem notBlock : beginsBlock cursor = false := by
  rw [beginsBlock, h.head?_ne (by decide), h.head?_ne (by decide)]
  rfl

/-- There are no marks to be read. -/
theorem marks?_eq : marks? false cursor = some (.none, cursor) := by
  have hmark : beginsMark cursor = false := by
    rw [beginsMark, h.head?_ne (by decide), h.head?_ne (by decide)]
    rfl
  rw [marks?, marksFrom?, hmark]
  rfl

end

end BeginsLine

section

variable {cursor : Cursor} {fuel indent : Nat} {tree : Tree} {after : Cursor}

/-- Without marks, what may be a key is any tree on the line. -/
theorem lineTree?_none (h : flowTree? fuel false indent cursor = some (tree, after))
    : lineTree? (fuel + 1) indent .none cursor = some (tree, after.toToken false) := by
  rw [lineTree?.eq_def]
  simp only [h]
  rfl

/-- What stands on a line and is no key is read as a tree of a block. -/
theorem blockTree?_of_line (hbegins : BeginsLine cursor.rest)
    (hread : flowTree? fuel false indent cursor = some (tree, after))
    (hcolon : (after.toToken false).isColon = false) (flush : Bool)
    : blockTree? (fuel + 2) indent flush .none cursor = some (tree, after.toToken false) := by
  rw [blockTree?.eq_def]
  simp only [hbegins.notItem, hbegins.notQuery, hbegins.marks?_eq, hbegins.notBlock,
    lineTree?_none hread, hcolon, Option.bind_eq_bind, Option.bind_some]
  rfl

/-- What stands on a line in front of a colon is a key, and the first one of a mapping where a block
may begin. -/
theorem blockTree?_of_key (hbegins : BeginsLine cursor.rest) (hfresh : cursor.fresh = true)
    (hread : flowTree? fuel false indent cursor = some (tree, after))
    (htoken : after.toToken false = after) (hcolon : after.isColon = true)
    (hkey : cursor.canBeKey after = true) {value : Tree} {next last : Cursor}
    (hvalue : blockPlace? (fuel + 1) (cursor.column + 1) true .none (after.past 1 false)
      = some (value, next))
    {members : List (Tree × Tree)}
    (hmembers : blockMembers? (fuel + 1) cursor.column next = some (members, last)) (flush : Bool)
    : blockTree? (fuel + 2) indent flush .none cursor
      = some (.mapping ((tree, value) :: members), last) := by
  rw [blockTree?.eq_def]
  simp only [hbegins.notItem, hbegins.notQuery, hbegins.marks?_eq, hbegins.notBlock,
    lineTree?_none hread, htoken, hcolon, hfresh, hkey, hvalue, hmembers, Option.bind_eq_bind,
    Option.bind_some]
  rfl

/-- A member of a mapping that has been begun. -/
theorem blockMember?_of_key (hbegins : BeginsLine cursor.rest) {column : Nat}
    (hread : flowTree? fuel false (column + 1) cursor = some (tree, after))
    (htoken : after.toToken false = after) (hcolon : after.isColon = true)
    (hkey : cursor.canBeKey after = true) {value : Tree} {next : Cursor}
    (hvalue : blockPlace? (fuel + 1) (column + 1) true .none (after.past 1 false)
      = some (value, next))
    : blockMember? (fuel + 2) column cursor = some ((tree, value), next) := by
  rw [blockMember?.eq_def]
  simp only [hbegins.notQuery, hbegins.marks?_eq, lineTree?_none hread, htoken, hcolon, hkey,
    hvalue, Option.bind_eq_bind, Option.bind_some]
  rfl

/-- A tree that stands far enough to the right is read in its place. -/
theorem blockPlace?_of_le {place : Cursor} (htoken : place.toToken false = cursor)
    (hdone : cursor.isDone = false) (hcolumn : indent ≤ cursor.column) (flush : Bool)
    (far : Marks)
    : blockPlace? (fuel + 1) indent flush far place = blockTree? fuel indent flush far cursor := by
  rw [blockPlace?.eq_def]
  simp only [htoken, hdone, Bool.false_eq_true, if_false, if_pos hcolumn]

end

/-- Written behind the beginning of a line and with a line break behind it, a text is read as a
tree, up to the beginning of the next line. -/
structure SpellsTree (text : Text) (tree : Tree) : Prop where
  token : ∀ rest line column fresh,
    Cursor.toToken false ⟨' ' :: (text ++ '\n' :: rest), line, column, fresh⟩
      = ⟨text ++ '\n' :: rest, line, column + 1, fresh⟩
  begins : ∀ rest, BeginsLine (text ++ '\n' :: rest)
  flow : ∀ fuel indent line column fresh rest, 3 ≤ fuel → 0 < indent → column ≠ 0 → Opens rest →
    ∃ after bottom, flowTree? fuel false indent ⟨text ++ '\n' :: rest, line, column, fresh⟩
        = some (tree, after)
      ∧ after.toToken false = ⟨rest, bottom, 0, true⟩

/-- What opens a line is no colon. -/
theorem not_isColon_of_opens {rest : Text} (h : Opens rest) (line column : Nat) (fresh : Bool)
    : Cursor.isColon ⟨rest, line, column, fresh⟩ = false := by
  cases rest with
  | nil => rfl
  | cons c rest => simp [Cursor.isColon, (h c rfl).2.2.2]

/-- A tree that is read behind the beginning of a line is read as a tree of a block. -/
theorem SpellsTree.blockTree? {text : Text} {tree : Tree} (h : SpellsTree text tree) {fuel : Nat}
    (hfuel : 5 ≤ fuel) {indent column : Nat} (hindent : 0 < indent) (hcolumn : column ≠ 0)
    (flush : Bool) (line : Nat) (fresh : Bool) {rest : Text} (hopens : Opens rest)
    : ∃ bottom,
        Yaml.blockTree? fuel indent flush .none ⟨text ++ '\n' :: rest, line, column, fresh⟩
          = some (tree, ⟨rest, bottom, 0, true⟩) := by
  obtain ⟨fuel, rfl⟩ : ∃ less, fuel = less + 2 := ⟨fuel - 2, by omega⟩
  obtain ⟨after, bottom, hread, htoken⟩ := h.flow fuel indent line column fresh rest (by omega)
    hindent hcolumn hopens
  have hcolon : (after.toToken false).isColon = false := by
    rw [htoken]
    exact not_isColon_of_opens hopens bottom 0 true
  refine ⟨bottom, ?_⟩
  rw [blockTree?_of_line (h.begins rest) hread hcolon, htoken]

/-- A space is passed over on the way to the next token. -/
theorem toToken_space {c : Char} (hgap : isGap c = false) (hbreak : isBreak c = false)
    (hhash : c ≠ '#') (text : Text) (line column : Nat) (fresh : Bool)
    : Cursor.toToken false ⟨' ' :: c :: text, line, column, fresh⟩
      = ⟨c :: text, line, column + 1, fresh⟩ := by
  rw [isGap, Bool.or_eq_false_iff] at hgap
  have hspace : isBreak ' ' = false := rfl
  simp [Cursor.toToken, Cursor.tokenFrom, hspace, hgap.1, hgap.2, hbreak, hhash]

/-- A tree that is neither a flow collection nor an alias is a scalar. -/
theorem flowTree?_scalar {cursor : Cursor}
    (h : ∀ c, cursor.rest.head? = some c → c ≠ '[' ∧ c ≠ '\x7b' ∧ c ≠ '*') {fuel : Nat}
    (hfuel : 0 < fuel) (indent : Nat)
    : flowTree? fuel false indent cursor = scalar? false indent cursor := by
  obtain ⟨fuel, rfl⟩ : ∃ less, fuel = less + 1 := ⟨fuel - 1, by omega⟩
  rw [flowTree?.eq_def]
  simp only
  split
  · rename_i heq
    exact absurd rfl (h '[' (by rw [heq]; rfl)).1
  · rename_i heq
    exact absurd rfl (h '\x7b' (by rw [heq]; rfl)).2.1
  · rename_i heq
    exact absurd rfl (h '*' (by rw [heq]; rfl)).2.2
  · rw [Bool.false_and, if_neg Bool.false_ne_true]

/-- A text that does not begin with a quote is not quoted. -/
theorem quoted?_eq_none {cursor : Cursor}
    (h : ∀ c, cursor.rest.head? = some c → c ≠ '\'' ∧ c ≠ '"')
    : quoted? cursor = none := by
  rw [quoted?]
  split
  · rename_i heq
    exact absurd rfl (h '\'' (by rw [heq]; rfl)).1
  · rename_i heq
    exact absurd rfl (h '"' (by rw [heq]; rfl)).2
  · rfl

-----------------------------------------------------------------------------------------
-- Plain scalars
-----------------------------------------------------------------------------------------

/-- The characters that a plain scalar does not begin with. -/
def marks : List Char :=
  ['#', ',', '[', ']', '\x7b', '\x7d', '&', '*', '!', '|', '>', '\'', '"', '%', '@', '\x60']

/-- The first character of a text without a mark in front is no mark, and a sign is not cut off. -/
theorem first_of_beginsWithMark {c : Char} {text : Text}
    (h : beginsWithMark (c :: text) = false)
    : c ∉ marks ∧ (c = '?' ∨ c = '-' → isCut text = false) := by
  simp only [beginsWithMark, Bool.or_eq_false_iff, Bool.and_eq_false_imp, Bool.or_eq_true,
    beq_iff_eq] at h
  refine ⟨fun hmem => ?_, h.2.2⟩
  have hcontains : marks.contains c = true := List.contains_iff_mem.mpr hmem
  rw [marks, h.2.1] at hcontains
  cases hcontains

/-- A character that is no mark differs from every mark. -/
theorem ne_of_mem_marks {c mark : Char} (h : c ∉ marks) (hmark : mark ∈ marks) : c ≠ mark := by
  rintro rfl
  exact h hmark

/-- The space is the only printable gap. -/
theorem isGap_of_isPrintable {c : Char} (h : isPrintable c = true) (hspace : c ≠ ' ')
    : isGap c = false := by
  have htab : c ≠ '\t' := by
    rintro rfl
    cases h
  simp [isGap, hspace, htab]

/-- A printable text without spaces around it has no gaps there. -/
theorem outer_of_hasOuterSpace {text : Text} (h : hasOuterSpace text = false)
    (hprint : ∀ c ∈ text, isPrintable c = true)
    : text.head?.any isGap = false ∧ text.getLast?.any isGap = false := by
  have hnone : ∀ place : Option Char, (∀ c, place = some c → c ∈ text) →
      place.any isSpaceOrBreak = false → place.any isGap = false := by
    intro place hmem hspace
    cases place with
    | none => rfl
    | some c =>
        simp only [Option.any_some, isSpaceOrBreak, Bool.or_eq_false_iff,
          beq_eq_false_iff_ne] at hspace ⊢
        exact isGap_of_isPrintable (hprint c (hmem c rfl)) hspace.1
  rw [hasOuterSpace, Bool.or_eq_false_iff] at h
  exact ⟨hnone _ (fun c hc => List.mem_of_head? hc) h.1,
    hnone _ (fun c hc => List.mem_of_getLast? hc) h.2⟩

/-- A text without marks begins a plain scalar, whatever follows it. -/
theorem beginsPlain_append {c : Char} {text : Text} (hmark : beginsWithMark (c :: text) = false)
    (hinside : hasMarkInside (c :: text) = false) (hgap : isGap c = false)
    (hbreak : isBreak c = false) (rest : Text)
    : beginsPlain false (c :: text ++ rest) = true := by
  obtain ⟨hnot, hcut⟩ := first_of_beginsWithMark hmark
  obtain ⟨hcolon, -⟩ := hasMarkInside_cons hinside
  rw [List.cons_append, beginsPlain]
  split_ifs with hhyphen hquestion
  · rw [isCut_append (hcut (.inr (by simpa using hhyphen)))]
    rfl
  · have hcutRest : isCut (text ++ rest) = false := by
      rw [Bool.or_eq_true, beq_iff_eq, beq_iff_eq] at hquestion
      rcases hquestion with hc | hc
      · exact isCut_append (hcut (.inl hc)) rest
      · exact isCut_append (hcolon hc) rest
    rw [hcutRest]
    rfl
  · simp only [marks, List.mem_cons, List.not_mem_nil, or_false, not_or] at hnot
    simp [hgap, hbreak, isFlowMark, hnot]

/-- What begins a plain scalar begins no flow collection, alias or quote. -/
theorem ne_of_beginsPlain {c : Char} {text : Text} (h : beginsPlain false (c :: text) = true)
    : (c ≠ '[' ∧ c ≠ '\x7b' ∧ c ≠ '*') ∧ c ≠ '\'' ∧ c ≠ '"' := by
  refine ⟨⟨?_, ?_, ?_⟩, ?_, ?_⟩ <;> (rintro rfl; cases h)

/-- A tree that begins like a plain scalar is one. -/
theorem flowTree?_plain {text : Text} (hbegins : beginsPlain false text = true) {fuel : Nat}
    (hfuel : 0 < fuel) (indent line column : Nat) (fresh : Bool)
    : flowTree? fuel false indent ⟨text, line, column, fresh⟩
      = (plainFrom false indent .empty line column text).map (fun (read, after) =>
          (.scalar read .plain, after)) := by
  have hhead : ∀ c, text.head? = some c →
      (c ≠ '[' ∧ c ≠ '\x7b' ∧ c ≠ '*') ∧ c ≠ '\'' ∧ c ≠ '"' := by
    intro c hc
    obtain ⟨rest, rfl⟩ := List.head?_eq_some_iff.mp hc
    exact ne_of_beginsPlain hbegins
  rw [flowTree?_scalar (fun c hc => (hhead c hc).1) hfuel, scalar?,
    quoted?_eq_none (fun c hc => (hhead c hc).2), Option.none_or, plainTree?]
  simp only [if_pos hbegins, plain?]

/-- A text that may stand plain is read back as a plain scalar. -/
theorem spellsTree_plain {text : Text} (h : allowsPlain text = true) (hne : text ≠ [])
    : SpellsTree text (.scalar text .plain) := by
  simp only [allowsPlain, Bool.and_eq_true, List.all_eq_true, Bool.not_eq_true',
    List.any_eq_false, Bool.not_eq_true] at h
  obtain ⟨⟨⟨⟨hprint, hline⟩, houter⟩, hmark⟩, hinside⟩ := h
  obtain ⟨hfirst, hlast⟩ := outer_of_hasOuterSpace houter hprint
  obtain ⟨c, text, rfl⟩ := List.exists_cons_of_ne_nil hne
  obtain ⟨hnot, hcut⟩ := first_of_beginsWithMark hmark
  have hgap : isGap c = false := by simpa using hfirst
  have hbreak : isBreak c = false := hline c List.mem_cons_self
  constructor
  · intro rest
    exact toToken_space hgap hbreak (ne_of_mem_marks hnot (by decide)) _
  · intro rest
    have hsub : ['&', '!', '|', '>'] ⊆ marks := by decide
    exact .cons (fun hc => hnot (hsub hc)) (fun hc => isCut_append (hcut hc.symm) _)
  · intro fuel indent line column fresh rest hfuel hindent hcolumn hopens
    refine ⟨⟨rest, line + 1, 0, true⟩, line + 1, ?_, toToken_opens hopens (line + 1)⟩
    have hbegins := beginsPlain_append hmark hinside hgap hbreak ('\n' :: rest)
    have hread := plainFrom_append hne hline hinside hlast
      (isAnyMark_of_ne_zero hcolumn (c :: text ++ '\n' :: rest)) [] (fun h => absurd rfl h) indent
      line
    rw [flowTree?_plain hbegins (by omega), Gap.empty, hread, plainFrom_lineEnd hopens hindent,
      prepend_some, List.append_nil]
    rfl

-----------------------------------------------------------------------------------------
-- Quoted scalars, and the empty list
-----------------------------------------------------------------------------------------

/-- What is read between quotes is read as a scalar. -/
theorem spellsTree_quoted {mark : Char} {body text : Text}
    (hmark : mark = '\'' ∨ mark = '"')
    (hread : ∀ line column fresh rest,
      ∃ bottom last, quoted? ⟨mark :: (body ++ '\n' :: rest), line, column, fresh⟩
        = some (.scalar text .other, ⟨'\n' :: rest, bottom, last, false⟩))
    : SpellsTree (mark :: body) (.scalar text .other) := by
  constructor
  · intro rest
    refine toToken_space ?_ ?_ ?_ _ <;> rcases hmark with rfl | rfl <;> decide
  · intro rest
    refine .cons ?_ ?_ <;> rcases hmark with rfl | rfl <;> simp
  · intro fuel indent line column fresh rest hfuel _ _ hopens
    obtain ⟨bottom, last, hlast⟩ := hread line column fresh rest
    refine ⟨_, bottom + 1, ?_, toToken_lineEnd hopens bottom last false⟩
    have hhead : ∀ d, (mark :: (body ++ '\n' :: rest)).head? = some d →
        d ≠ '[' ∧ d ≠ '\x7b' ∧ d ≠ '*' := by
      rintro d ⟨⟩
      rcases hmark with rfl | rfl <;> decide
    rw [List.cons_append, flowTree?_scalar hhead (by omega), scalar?, hlast]
    rfl

/-- A text between single quotes is read back. -/
theorem spellsTree_single {text : Text} (h : allowsSingle text = true) (hline : '\n' ∉ text)
    : SpellsTree ('\'' :: (singleBody false text ++ ['\''])) (.scalar text .other) := by
  refine spellsTree_quoted (.inl rfl) (fun line column fresh rest => ?_)
  have hrest : ('\n' :: rest).head? ≠ some '\'' := by simp
  obtain ⟨bottom, last, hlast⟩ := singleFrom_singleBody h hline hrest
    (Gap.keeps_empty (show column + 1 ≠ 0 by omega) text) line
  have hempty : Gap.empty.isBroken = false := rfl
  rw [hempty] at hlast
  refine ⟨bottom, last, ?_⟩
  rw [List.append_assoc, List.singleton_append, quoted?]
  simp only [hlast]
  rfl

/-- A text between double quotes is read back. -/
theorem spellsTree_double (text : Text)
    : SpellsTree ('"' :: (doubleBody text ++ ['"'])) (.scalar text .other) := by
  refine spellsTree_quoted (.inr rfl) (fun line column fresh rest => ?_)
  obtain ⟨last, hlast⟩ := doubleFrom_doubleBody text [] line (show column + 1 ≠ 0 by omega)
    ('\n' :: rest)
  refine ⟨line, last, ?_⟩
  rw [List.append_assoc, List.singleton_append, quoted?]
  simp only [Gap.empty, hlast]
  rfl

/-- Brackets are read back as the empty sequence. -/
theorem spellsTree_brackets : SpellsTree ['[', ']'] (.sequence []) := by
  constructor
  · intro rest
    exact toToken_space rfl rfl (by decide) _
  · intro rest
    exact .cons (by decide) (by simp)
  · intro fuel indent line column fresh rest hfuel _ _ hopens
    obtain ⟨fuel, rfl⟩ : ∃ less, fuel = less + 2 := ⟨fuel - 2, by omega⟩
    refine ⟨⟨'\n' :: rest, line, column + 2, false⟩, line + 1, ?_,
      toToken_lineEnd hopens line _ false⟩
    have hinside : Cursor.toToken true
          (Cursor.past ⟨'[' :: ']' :: '\n' :: rest, line, column, fresh⟩ 1 true)
        = ⟨']' :: '\n' :: rest, line, column + 1, true⟩ := by
      simp [Cursor.past, Cursor.toToken, Cursor.tokenFrom, isBreak]
    have hentries : flowEntries? (fuel + 1) ']' indent
          ⟨']' :: '\n' :: rest, line, column + 1, true⟩
        = some ([], ⟨'\n' :: rest, line, column + 2, false⟩) := by
      rw [flowEntries?.eq_def]
      rfl
    rw [flowTree?.eq_def]
    simp only [List.cons_append, List.nil_append]
    rw [hinside, hentries]
    rfl

-----------------------------------------------------------------------------------------
-- Any scalar
-----------------------------------------------------------------------------------------

/-- A text without line feeds is written plain, if it may stand so, or between quotes. -/
theorem styleOf_cases {text : Text} (h : '\n' ∉ text)
    : (styleOf text = .plain ∧ allowsPlain text = true ∧ text ≠ [])
      ∨ (styleOf text = .single ∧ allowsSingle text = true) ∨ styleOf text = .double := by
  have hbreak : text.any (· == '\n') = false := by
    rw [List.any_eq_false]
    intro c hc heq
    exact h (beq_iff_eq.mp heq ▸ hc)
  rw [styleOf, hbreak]
  simp only [Bool.false_eq_true, if_false]
  by_cases hplain : (!readsOtherwise text && allowsPlain text) = true
  · rw [if_pos hplain]
    rw [Bool.and_eq_true, Bool.not_eq_true'] at hplain
    refine .inl ⟨rfl, hplain.2, ?_⟩
    rintro rfl
    cases hplain.1
  · rw [if_neg hplain]
    by_cases hsingle : allowsSingle text = true
    · rw [if_pos hsingle]
      exact .inr (.inl ⟨rfl, hsingle⟩)
    · rw [if_neg hsingle]
      exact .inr (.inr rfl)

section

variable {text : Text}

/-- A text in the plain style is written as it is. -/
theorem scalarText_plain (h : styleOf text = .plain) : scalarText text = text := by
  rw [scalarText, h]

/-- A text in the single style is written between single quotes. -/
theorem scalarText_single (h : styleOf text = .single)
    : scalarText text = '\'' :: (singleBody false text ++ ['\'']) := by
  rw [scalarText, h]
  rfl

/-- A text in the double style is written between double quotes. -/
theorem scalarText_double (h : styleOf text = .double)
    : scalarText text = '"' :: (doubleBody text ++ ['"']) := by
  rw [scalarText, h]
  rfl

end

/-- The form in which a text without line feeds is written. -/
def formOf (text : Text) : Form :=
  if styleOf text = .plain then .plain else .other

/-- A text as the tree that it is written as. -/
def asTree (text : Text) : Tree :=
  .scalar text (formOf text)

/-- A text as the scalar that it stands for. -/
def asScalar (text : Text) : Node :=
  .scalar text (formOf text) none

/-- A text without line feeds is read back as a scalar, in whichever style it is written. -/
theorem spellsTree_scalarText {text : Text} (h : '\n' ∉ text)
    : SpellsTree (scalarText text) (asTree text) := by
  rcases styleOf_cases h with ⟨hstyle, hplain, hne⟩ | ⟨hstyle, hsingle⟩ | hstyle
  · rw [scalarText_plain hstyle, asTree, formOf, hstyle]
    exact spellsTree_plain hplain hne
  · rw [scalarText_single hstyle, asTree, formOf, hstyle]
    exact spellsTree_single hsingle h
  · rw [scalarText_double hstyle, asTree, formOf, hstyle]
    exact spellsTree_double text

/-- A scalar that is not a block has no line feed at its end, so one is put behind it. -/
theorem asLine_scalarText {text : Text} (h : '\n' ∉ text) (lead : Text)
    : asLine (lead ++ scalarText text) = lead ++ (scalarText text ++ ['\n']) := by
  have hend : ∃ c, (scalarText text).getLast? = some c ∧ c ≠ '\n' := by
    rcases styleOf_cases h with ⟨hstyle, -, hne⟩ | ⟨hstyle, -⟩ | hstyle
    · rw [scalarText_plain hstyle]
      refine ⟨text.getLast hne, List.getLast?_eq_some_getLast hne, fun hbreak => ?_⟩
      exact h (hbreak ▸ List.getLast_mem hne)
    · rw [scalarText_single hstyle, ← List.cons_append]
      exact ⟨'\'', List.getLast?_concat, by decide⟩
    · rw [scalarText_double hstyle, ← List.cons_append]
      exact ⟨'"', List.getLast?_concat, by decide⟩
  obtain ⟨c, hc, hbreak⟩ := hend
  have hlast : (lead ++ scalarText text).getLast? ≠ some '\n' := by
    rw [List.getLast?_append, hc]
    simpa using hbreak
  rw [asLine, if_neg hlast, List.append_assoc]

-----------------------------------------------------------------------------------------
-- Printable characters
-----------------------------------------------------------------------------------------

/-- Every character is written as it is. -/
def Printable (text : Text) : Prop :=
  ∀ c ∈ text, isPrintable c = true

/-- Two texts are printable together if both are. -/
theorem printable_append {first second : Text}
    : Printable (first ++ second) ↔ Printable first ∧ Printable second :=
  List.forall_mem_append

/-- A text is printable if its first character and the rest are. -/
theorem printable_cons {c : Char} {text : Text}
    : Printable (c :: text) ↔ isPrintable c = true ∧ Printable text :=
  List.forall_mem_cons

/-- A single character is printable by itself. -/
theorem printable_singleton {c : Char} : Printable [c] ↔ isPrintable c = true :=
  List.forall_mem_singleton

/-- Hexadecimal digits are printable, by induction on them. -/
theorem printable_hexDigits (width n : Nat) : Printable (hexDigits width n) := by
  have hdigit : ∀ d < 16, isPrintable d.digitChar.toUpper = true := by decide
  rw [hexDigits, printable_append]
  constructor
  · intro c hc
    rw [List.eq_of_mem_replicate hc]
    rfl
  · induction n using Nat.base_induction 16 (by decide) with
    | single d hd =>
        rw [Nat.toDigits_of_lt_base hd]
        exact printable_singleton.mpr (hdigit d hd)
    | digit n d hd hn ih =>
        rw [← Nat.toDigits_append_toDigits (by decide) hn hd, Nat.toDigits_of_lt_base hd,
          List.map_append, printable_append]
        exact ⟨ih, printable_singleton.mpr (hdigit d hd)⟩

/-- Escapes are printable. -/
theorem printable_escape (c : Char) : Printable (escape c) := by
  have hletter : ∀ entry ∈ writtenEscapes, isPrintable entry.2 = true := by decide
  rw [escape]
  cases hfind : writtenEscapes.find? (fun entry => entry.1 == c) with
  | some entry =>
      have hmem := List.mem_of_find?_eq_some hfind
      exact printable_cons.mpr ⟨rfl, printable_singleton.mpr (hletter entry hmem)⟩
  | none =>
      simp only [Option.map_none]
      split_ifs
      · exact printable_append.mpr ⟨by simp [Printable, isPrintable], printable_hexDigits 2 _⟩
      · exact printable_append.mpr ⟨by simp [Printable, isPrintable], printable_hexDigits 4 _⟩
      · exact printable_append.mpr ⟨by simp [Printable, isPrintable], printable_hexDigits 8 _⟩

/-- What stands between double quotes is printable. -/
theorem printable_doubleBody (text : Text) : Printable (doubleBody text) := by
  intro d hd
  obtain ⟨c, -, hd⟩ := List.mem_flatMap.mp hd
  split_ifs at hd with hescape
  · exact printable_escape c d hd
  · obtain rfl := List.mem_singleton.mp hd
    simp only [Bool.or_eq_true, not_or, Bool.not_eq_true', Bool.not_eq_false] at hescape
    exact hescape.1.1.1

/-- Between single quotes stand the characters of the text, spaces and further quotes, by induction
on the text. -/
theorem printable_singleBody {text : Text} (h : Printable text) (broken : Bool)
    : Printable (singleBody broken text) := by
  have hspaces : ∀ broken : Bool, Printable (if broken then indentation else []) := by
    simp [Printable, isPrintable, indentation]
  induction text generalizing broken with
  | nil => exact hspaces broken
  | cons c text ih =>
      obtain ⟨hc, h⟩ := printable_cons.mp h
      cases hbreak : isBreak c with
      | true =>
          rw [singleBody, if_pos hbreak]
          exact printable_cons.mpr ⟨hc, ih h true⟩
      | false =>
          rw [singleBody_cons hbreak, printable_append, printable_append]
          refine ⟨⟨hspaces broken, ?_⟩, ih h false⟩
          split_ifs
          · simp [Printable, isPrintable]
          · exact printable_singleton.mpr hc

/-- A text without line feeds is written in printable characters. -/
theorem printable_scalarText {text : Text} (h : '\n' ∉ text) : Printable (scalarText text) := by
  rcases styleOf_cases h with ⟨hstyle, hplain, -⟩ | ⟨hstyle, hsingle⟩ | hstyle
  · simp only [allowsPlain, Bool.and_eq_true, List.all_eq_true] at hplain
    rw [scalarText_plain hstyle]
    exact hplain.1.1.1.1
  · simp only [allowsSingle, Bool.and_eq_true, List.all_eq_true] at hsingle
    rw [scalarText_single hstyle, printable_cons, printable_append, printable_singleton]
    exact ⟨rfl, printable_singleBody hsingle.1 false, rfl⟩
  · rw [scalarText_double hstyle, printable_cons, printable_append, printable_singleton]
    exact ⟨rfl, printable_doubleBody text, rfl⟩

/-- Printable characters may stand in a document. -/
theorem isAllowed_of_isPrintable {c : Char} (h : isPrintable c = true) : isAllowed c = true := by
  simp only [isPrintable, isAllowed, Bool.or_eq_true, Bool.and_eq_true, beq_iff_eq, bne_iff_ne,
    decide_eq_true_eq] at h ⊢
  omega

/-- Printable line breaks have the form that the reader works with, by induction on the text. -/
theorem withPlainBreaks_of_printable {text : Text} (h : Printable text)
    : withPlainBreaks text = text := by
  induction text with
  | nil => rfl
  | cons c text ih =>
      obtain ⟨hc, h⟩ := printable_cons.mp h
      have hreturn : c ≠ '\r' := by
        rintro rfl
        cases hc
      have hnext : c ≠ '\u0085' := by
        rintro rfl
        cases hc
      rw [withPlainBreaks, ih h]
      · simp [hreturn, hnext]
      · rintro _ rfl
        exact absurd rfl hreturn

end LeasePapers.Yaml
