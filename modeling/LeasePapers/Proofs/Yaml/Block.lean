import LeasePapers.Proofs.Yaml.Written
import LeasePapers.Yaml.Document

/-! Block mappings of scalars and of sequences of scalars, read back as they are written. The
readers of a block call each other; here each of them reads its part of a text up to the line where
the next member begins, with fuel for every character of that part.
-/

namespace LeasePapers.Yaml

-----------------------------------------------------------------------------------------
-- Keys
-----------------------------------------------------------------------------------------

/-- Whether a character may stand in a key: a small letter or a low line. -/
def isKeyChar (c : Char) : Bool :=
  c.isLower || c == '_'

/-- A character of keys differs from one that is none. -/
theorem ne_of_isKeyChar {c mark : Char} (h : isKeyChar c = true) (hmark : isKeyChar mark = false)
    : c ≠ mark := by
  rintro rfl
  rw [h] at hmark
  cases hmark

/-- The characters of keys are printable. -/
theorem isPrintable_of_isKeyChar {c : Char} (h : isKeyChar c = true) : isPrintable c = true := by
  rw [isKeyChar, Bool.or_eq_true, beq_iff_eq] at h
  rcases h with h | rfl
  · rw [show c.isLower = (decide (97 ≤ c.toNat) && decide (c.toNat ≤ 122)) from rfl,
      Bool.and_eq_true, decide_eq_true_eq, decide_eq_true_eq] at h
    simp only [isPrintable, Bool.or_eq_true, Bool.and_eq_true, decide_eq_true_eq, beq_iff_eq]
    omega
  · rfl

/-- The characters of keys are no gaps. -/
theorem isGap_of_isKeyChar {c : Char} (h : isKeyChar c = true) : isGap c = false := by
  simp only [isGap, Bool.or_eq_false_iff, beq_eq_false_iff_ne]
  exact ⟨ne_of_isKeyChar h (by decide), ne_of_isKeyChar h (by decide)⟩

/-- The characters of keys break no line. -/
theorem isBreak_of_isKeyChar {c : Char} (h : isKeyChar c = true) : isBreak c = false := by
  simp only [isBreak, Bool.or_eq_false_iff, beq_eq_false_iff_ne]
  refine ⟨⟨⟨⟨?_, ?_⟩, ?_⟩, ?_⟩, ?_⟩ <;> exact ne_of_isKeyChar h (by decide)

/-- A key is a word of letters and low lines that is short enough. -/
structure IsKey (key : Text) : Prop where
  nonempty : key ≠ []
  chars : ∀ c ∈ key, isKeyChar c = true
  short : key.length ≤ 1024

/-- A key has no mark inside, by induction on the key. -/
theorem hasMarkInside_of_chars {key : Text} (h : ∀ c ∈ key, isKeyChar c = true)
    : hasMarkInside key = false := by
  induction key with
  | nil => rfl
  | cons c key ih =>
      obtain ⟨hc, hkey⟩ := List.forall_mem_cons.mp h
      have hcolon : c ≠ ':' := ne_of_isKeyChar hc (by decide)
      simp [hasMarkInside, ih hkey, isGap_of_isKeyChar hc, isBreak_of_isKeyChar hc, hcolon]

/-- A character of keys begins a plain scalar. -/
theorem beginsPlain_of_isKeyChar {c : Char} (h : isKeyChar c = true) (text : Text)
    : beginsPlain false (c :: text) = true := by
  have hmarks : ('-' :: '?' :: ':' :: marks).all (fun mark => !isKeyChar mark) = true := rfl
  simp only [List.all_eq_true, Bool.not_eq_true'] at hmarks
  have hne : ∀ mark ∈ '-' :: '?' :: ':' :: marks, c ≠ mark := fun mark hmark =>
    ne_of_isKeyChar h (hmarks mark hmark)
  simp only [marks, List.forall_mem_cons, List.not_mem_nil, false_implies, implies_true, and_true]
    at hne
  simp [beginsPlain, isFlowMark, isGap_of_isKeyChar h, isBreak_of_isKeyChar h, hne]

/-- A key is read up to its colon. -/
theorem IsKey.flowTree? {key : Text} (h : IsKey key) {tail : Text} (hcut : isCut tail = true)
    {fuel : Nat} (hfuel : 0 < fuel) (indent line : Nat) (fresh : Bool)
    : Yaml.flowTree? fuel false indent ⟨key ++ ':' :: tail, line, 0, fresh⟩
      = some (.scalar key .plain, ⟨':' :: tail, line, key.length, false⟩) := by
  obtain ⟨c, key, rfl⟩ := List.exists_cons_of_ne_nil h.nonempty
  obtain ⟨hc, -⟩ := List.forall_mem_cons.mp h.chars
  have hmark : Cursor.isAnyMark 0 (c :: key ++ ':' :: tail) = false :=
    isAnyMark_of_ne (ne_of_isKeyChar hc (by decide)) (ne_of_isKeyChar hc (by decide)) 0 _
  have hline : OneLine (c :: key) := fun d hd => isBreak_of_isKeyChar (h.chars d hd)
  have hlast : (c :: key).getLast?.any isGap = false := by
    rw [List.getLast?_eq_some_getLast h.nonempty]
    exact isGap_of_isKeyChar (h.chars _ (List.getLast_mem h.nonempty))
  have hread := plainFrom_append h.nonempty hline (hasMarkInside_of_chars h.chars) hlast hmark []
    (fun h => absurd rfl h) indent line
  have hend : plainFrom false indent .empty line (0 + (c :: key).length) (':' :: tail)
      = some ([], ⟨':' :: tail, line, (c :: key).length, false⟩) := by
    simp [plainFrom, plainEnds, hcut, isGap, isBreak, Gap.empty, Gap.isBroken]
  have hbegins : beginsPlain false (c :: key ++ ':' :: tail) = true := beginsPlain_of_isKeyChar hc _
  rw [flowTree?_plain hbegins hfuel, Gap.empty, hread, hend, prepend_some, List.append_nil]
  rfl

-----------------------------------------------------------------------------------------
-- Items of a sequence
-----------------------------------------------------------------------------------------

/-- A member of a mapping begins here, or the text is at its end. -/
def OpensMember (rest : Text) : Prop :=
  ∀ c, rest.head? = some c → isKeyChar c = true

/-- A member opens the next line. -/
theorem OpensMember.opens {rest : Text} (h : OpensMember rest) : Opens rest := by
  intro c hc
  have hkey := h c hc
  exact ⟨isGap_of_isKeyChar hkey, isBreak_of_isKeyChar hkey, ne_of_isKeyChar hkey (by decide),
    ne_of_isKeyChar hkey (by decide)⟩

/-- No item begins where a member does. -/
theorem OpensMember.notItem {rest : Text} (h : OpensMember rest) (line column : Nat) (fresh : Bool)
    : Cursor.isItem ⟨rest, line, column, fresh⟩ = false := by
  cases rest with
  | nil => rfl
  | cons c rest =>
      have hc : c ≠ '-' := ne_of_isKeyChar (h c rfl) (by decide)
      simp [Cursor.isItem, hc]

/-- Neither items nor marks begin where a member does. -/
theorem OpensMember.beginsLine {rest : Text} (h : OpensMember rest) : BeginsLine rest := by
  cases rest with
  | nil => rintro _ _ ⟨⟩
  | cons c rest =>
      have hkey := h c rfl
      refine .cons (fun hmark => ?_) (fun hsign => ?_)
      · have hmarks : ['&', '!', '|', '>'].all (fun mark => !isKeyChar mark) = true := rfl
        simp only [List.all_eq_true, Bool.not_eq_true'] at hmarks
        exact ne_of_isKeyChar hkey (hmarks c hmark) rfl
      · rcases hsign with rfl | rfl <;> cases hkey

/-- No directive begins where a member does. -/
theorem OpensMember.noDirective {rest : Text} (h : OpensMember rest) (line column : Nat)
    (fresh : Bool)
    : Directives.beginHere ⟨rest, line, column, fresh⟩ = false := by
  cases rest with
  | nil => simp [Directives.beginHere]
  | cons c rest =>
      have hc : c ≠ '%' := ne_of_isKeyChar (h c rfl) (by decide)
      simp [Directives.beginHere, hc]

/-- Nothing is declared in front of a member. -/
theorem OpensMember.directives_eq {rest : Text} (h : OpensMember rest) (directives : Directives)
    (line column : Nat) (fresh : Bool) (fuel : Nat)
    : directives.from? ⟨rest, line, column, fresh⟩ (fuel + 1)
      = some (directives, ⟨rest, line, column, fresh⟩) := by
  rw [Directives.from?, h.noDirective]
  rfl

/-- No mark between documents stands where a member begins. -/
theorem OpensMember.notMark {rest : Text} (h : OpensMember rest) (column : Nat)
    : Cursor.isAnyMark column rest = false := by
  cases rest with
  | nil => rfl
  | cons c rest =>
      have hkey := h c rfl
      exact isAnyMark_of_ne (ne_of_isKeyChar hkey (by decide)) (ne_of_isKeyChar hkey (by decide))
        column rest

/-- The document goes on where a member begins. -/
theorem OpensMember.notDone {rest : Text} (h : OpensMember rest) (hne : rest ≠ [])
    (line column : Nat) (fresh : Bool)
    : Cursor.isDone ⟨rest, line, column, fresh⟩ = false := by
  simp [Cursor.isDone, h.notMark, hne]

/-- A member does not begin with a byte order mark. -/
theorem OpensMember.withoutOrderMark_eq {rest : Text} (h : OpensMember rest)
    : withoutOrderMark rest = rest := by
  cases rest with
  | nil => rfl
  | cons c rest =>
      have hmark : c ≠ '\uFEFF' := ne_of_isKeyChar (h c rfl) (by decide)
      simp [withoutOrderMark, Text.dropLead?, hmark.symm]

/-- An item of a sequence as it is written. -/
def itemText (text : Text) : Text :=
  '-' :: ' ' :: (text ++ ['\n'])

/-- Behind the beginning of a line, a document ends with the text only. -/
theorem isDone_of_ne_nil {rest : Text} (h : rest ≠ []) {column : Nat} (hcolumn : column ≠ 0)
    (line : Nat) (fresh : Bool)
    : Cursor.isDone ⟨rest, line, column, fresh⟩ = false := by
  simp [Cursor.isDone, h, isAnyMark_of_ne_zero hcolumn]

/-- The document goes on where an item begins. -/
theorem isDone_itemText (text rest : Text) (line : Nat) (fresh : Bool)
    : Cursor.isDone ⟨itemText text ++ rest, line, 0, fresh⟩ = false := by
  simp [Cursor.isDone, Cursor.isAnyMark, Cursor.isMark, itemText, Text.dropLead?]

/-- An item begins where it is written. -/
theorem isItem_itemText (text rest : Text) (line : Nat) (fresh : Bool)
    : Cursor.isItem ⟨itemText text ++ rest, line, 0, fresh⟩ = true := by
  simp [Cursor.isItem, itemText, isCut, isGap]

/-- An item opens the next line. -/
theorem opens_itemText (text rest : Text) : Opens (itemText text ++ rest) := by
  rintro c ⟨⟩
  decide

/-- A tree is read in its place behind a blank. -/
theorem SpellsTree.blockPlace? {text : Text} {tree : Tree} (h : SpellsTree text tree) {fuel : Nat}
    (hfuel : 6 ≤ fuel) (flush : Bool) (line column : Nat) (fresh : Bool) {rest : Text}
    (hopens : Opens rest)
    : ∃ bottom,
        Yaml.blockPlace? fuel 1 flush .none ⟨' ' :: (text ++ '\n' :: rest), line, column, fresh⟩
          = some (tree, ⟨rest, bottom, 0, true⟩) := by
  obtain ⟨fuel, rfl⟩ : ∃ less, fuel = less + 1 := ⟨fuel - 1, by omega⟩
  have hcolumn : column + 1 ≠ 0 := by omega
  have hdone := isDone_of_ne_nil (show text ++ '\n' :: rest ≠ [] by simp) hcolumn line fresh
  obtain ⟨bottom, hread⟩ := h.blockTree? (show 5 ≤ fuel by omega) Nat.one_pos hcolumn flush line
    fresh hopens
  refine ⟨bottom, ?_⟩
  rw [blockPlace?_of_le (h.token rest line column fresh) hdone (show 1 ≤ column + 1 by omega),
    hread]

/-- One item is read, and further ones if an item follows. -/
theorem blockItems?_itemText {text : Text} {tree : Tree} (h : SpellsTree text tree) {fuel : Nat}
    (hfuel : 6 ≤ fuel) {rest : Text} (hrest : Opens rest) (line : Nat) (fresh : Bool)
    : ∃ bottom, blockItems? (fuel + 1) 0 ⟨itemText text ++ rest, line, 0, fresh⟩
        = if !Cursor.isDone ⟨rest, bottom, 0, true⟩ && Cursor.isItem ⟨rest, bottom, 0, true⟩ then
            (blockItems? fuel 0 ⟨rest, bottom, 0, true⟩).map (fun (items, after) =>
              (tree :: items, after))
          else some ([tree], ⟨rest, bottom, 0, true⟩) := by
  obtain ⟨bottom, hread⟩ := h.blockPlace? hfuel false line 1 true hrest
  have hitem : itemText text ++ rest = '-' :: ' ' :: (text ++ '\n' :: rest) := by simp [itemText]
  refine ⟨bottom, ?_⟩
  rw [hitem, blockItems?.eq_def]
  simp only [Cursor.past, List.drop_succ_cons, List.drop_zero, Nat.zero_add, hread,
    Option.bind_eq_bind, Option.bind_some, decide_true, Bool.and_true, Option.map_eq_bind]
  rfl

/-- The items of a sequence are read up to the next member of the mapping, by induction on them. -/
theorem blockItems?_items {items : List (Text × Tree)} (hne : items ≠ [])
    (h : ∀ item ∈ items, SpellsTree item.1 item.2) {rest : Text} (hrest : OpensMember rest)
    {fuel : Nat} (hfuel : items.length + 6 ≤ fuel) (line : Nat) (fresh : Bool)
    : ∃ bottom, blockItems? fuel 0
          ⟨items.flatMap (fun item => itemText item.1) ++ rest, line, 0, fresh⟩
        = some (items.map (·.2), ⟨rest, bottom, 0, true⟩) := by
  induction items generalizing fuel line fresh with
  | nil => exact absurd rfl hne
  | cons item items ih =>
      obtain ⟨hitem, h⟩ := List.forall_mem_cons.mp h
      obtain ⟨fuel, rfl⟩ : ∃ less, fuel = less + 1 := ⟨fuel - 1, by omega⟩
      rw [List.length_cons] at hfuel
      rw [List.flatMap_cons, List.append_assoc, List.map_cons]
      cases items with
      | nil =>
          obtain ⟨bottom, hread⟩ := blockItems?_itemText hitem (show 6 ≤ fuel by omega)
            hrest.opens line fresh
          refine ⟨bottom, ?_⟩
          rw [List.flatMap_nil, List.nil_append, hread, hrest.notItem, Bool.and_false]
          rfl
      | cons next items =>
          rw [List.flatMap_cons, List.append_assoc] at ih ⊢
          obtain ⟨middle, hread⟩ := blockItems?_itemText hitem (show 6 ≤ fuel by omega)
            (opens_itemText next.1 (items.flatMap (fun item => itemText item.1) ++ rest)) line fresh
          obtain ⟨bottom, hmore⟩ := ih (List.cons_ne_nil next items) h (show _ ≤ fuel by omega)
            middle true
          refine ⟨bottom, ?_⟩
          rw [hread, isDone_itemText, isItem_itemText, hmore]
          rfl

-----------------------------------------------------------------------------------------
-- Values
-----------------------------------------------------------------------------------------

/-- Behind its colon, a text is read as the value of a member, up to the next one. -/
structure SpellsValue (tail : Text) (tree : Tree) : Prop where
  cut : ∀ rest, isCut (tail ++ rest) = true
  value : ∀ fuel line column rest, tail.length + 6 ≤ fuel → OpensMember rest →
    ∃ bottom, blockPlace? fuel 1 true .none ⟨tail ++ rest, line, column, false⟩
      = some (tree, ⟨rest, bottom, 0, true⟩)

/-- A value on the line of its key. -/
theorem spellsValue_line {text : Text} {tree : Tree} (h : SpellsTree text tree)
    : SpellsValue (' ' :: (text ++ ['\n'])) tree := by
  constructor
  · intro rest
    rfl
  · intro fuel line column rest hfuel hrest
    obtain ⟨bottom, hread⟩ := h.blockPlace? (show 6 ≤ fuel by omega) true line column false
      hrest.opens
    refine ⟨bottom, ?_⟩
    rw [List.cons_append, List.append_assoc, List.singleton_append, hread]

/-- The text of items is no shorter than their number, by induction on the items. -/
theorem length_le_itemTexts (items : List (Text × Tree))
    : items.length ≤ (items.flatMap (fun item => itemText item.1)).length := by
  induction items with
  | nil => exact Nat.le_refl 0
  | cons item items ih =>
      rw [List.flatMap_cons, List.length_append, List.length_cons, itemText, List.length_cons]
      omega

/-- A sequence on the lines behind its key. -/
theorem spellsValue_items {items : List (Text × Tree)} (hne : items ≠ [])
    (h : ∀ item ∈ items, SpellsTree item.1 item.2)
    : SpellsValue ('\n' :: items.flatMap (fun item => itemText item.1))
        (.sequence (items.map (·.2))) := by
  constructor
  · intro rest
    rfl
  · intro fuel line column rest hfuel hrest
    have hlength := length_le_itemTexts items
    rw [List.length_cons] at hfuel
    obtain ⟨fuel, rfl⟩ : ∃ less, fuel = less + 1 := ⟨fuel - 1, by omega⟩
    obtain ⟨bottom, hread⟩ := blockItems?_items hne h hrest (show _ ≤ fuel by omega) (line + 1) true
    obtain ⟨item, items, rfl⟩ := List.exists_cons_of_ne_nil hne
    refine ⟨bottom, ?_⟩
    rw [List.flatMap_cons, List.append_assoc] at hread
    rw [List.flatMap_cons, List.cons_append, List.append_assoc, blockPlace?.eq_def]
    -- The sequence stands in the column of the key, so it is flush with the mapping.
    simp only [toToken_lineEnd (opens_itemText item.1 _), isDone_itemText, isItem_itemText, hread]
    rfl

-----------------------------------------------------------------------------------------
-- From trees to nodes
-----------------------------------------------------------------------------------------

/-- A tree without marks stands for a node, whatever is declared and whichever anchors have come. -/
def Tree.StandsFor (tree : Tree) (node : Node) : Prop :=
  ∀ handles anchors, Node.ofTree? handles none anchors tree = some (node, anchors)

/-- A scalar stands for itself, without a tag. -/
theorem standsFor_scalar (text : Text) (form : Form)
    : Tree.StandsFor (.scalar text form) (.scalar text form none) := by
  intro handles anchors
  rw [Node.ofTree?]

/-- The items of a sequence stand for nodes one by one, by induction on them. -/
theorem standsFor_sequence {items : List (Tree × Node)}
    (h : ∀ item ∈ items, item.1.StandsFor item.2)
    : Tree.StandsFor (.sequence (items.map (·.1))) (.sequence (items.map (·.2))) := by
  intro handles anchors
  have hitems : Node.ofItems? handles anchors (items.map (·.1))
      = some (items.map (·.2), anchors) := by
    induction items with
    | nil => rw [List.map_nil, Node.ofItems?]; rfl
    | cons item items ih =>
        obtain ⟨hitem, h⟩ := List.forall_mem_cons.mp h
        rw [List.map_cons, Node.ofItems?, hitem handles anchors]
        simp only [Option.bind_eq_bind, Option.bind_some, ih h, List.map_cons]
  rw [Node.ofTree?, hitems]
  rfl

-----------------------------------------------------------------------------------------
-- Members of a mapping, and documents
-----------------------------------------------------------------------------------------

/-- A member of a mapping: its key, what is written behind the colon, and what that is read as and
stands for. -/
structure Entry where
  key : Text
  tail : Text
  tree : Tree
  node : Node

namespace Entry

/-- A member as it is written. -/
def text (entry : Entry) : Text :=
  entry.key ++ ':' :: entry.tail

/-- A member as it is read. -/
def treePair (entry : Entry) : Tree × Tree :=
  (.scalar entry.key .plain, entry.tree)

/-- A member as it is understood. -/
def pair (entry : Entry) : Node × Node :=
  (.scalar entry.key .plain none, entry.node)

/-- The key is one, and the value is read as it is written and stands for its node. -/
structure Sound (entry : Entry) : Prop where
  key : IsKey entry.key
  value : SpellsValue entry.tail entry.tree
  stands : entry.tree.StandsFor entry.node

end Entry

section

variable {entry : Entry} {entries : List Entry}

/-- A member is written with something. -/
theorem Entry.text_ne_nil (entry : Entry) (rest : Text) : entry.text ++ rest ≠ [] := by
  simp [text]

/-- A member takes room. -/
theorem Entry.length_text_pos (entry : Entry) : 0 < entry.text.length :=
  List.length_pos_iff.mpr (by simp [text])

/-- Members are written with something, if there are any. -/
theorem texts_ne_nil (hne : entries ≠ []) : entries.flatMap Entry.text ≠ [] := by
  obtain ⟨entry, entries, rfl⟩ := List.exists_cons_of_ne_nil hne
  exact entry.text_ne_nil _

/-- A sound member begins where it is written. -/
theorem Entry.Sound.opensMember (h : entry.Sound) (rest : Text)
    : OpensMember (entry.text ++ rest) := by
  obtain ⟨c, key, hkey⟩ := List.exists_cons_of_ne_nil h.key.nonempty
  rw [Entry.text, hkey]
  rintro d ⟨⟩
  exact h.key.chars c (hkey ▸ List.mem_cons_self)

/-- Sound members begin where they are written, or there are none. -/
theorem opensMember_entries (h : ∀ entry ∈ entries, entry.Sound)
    : OpensMember (entries.flatMap Entry.text) := by
  cases entries with
  | nil => simp [OpensMember]
  | cons entry entries => exact (h entry List.mem_cons_self).opensMember _

/-- The key of a member is read, then its colon and its value. -/
theorem Entry.Sound.reads (h : entry.Sound) {rest : Text} (hrest : OpensMember rest) {fuel : Nat}
    (hfuel : entry.text.length + 3 ≤ fuel) (indent line : Nat) (fresh : Bool)
    : ∃ colon bottom, flowTree? fuel false indent ⟨entry.text ++ rest, line, 0, fresh⟩
          = some (.scalar entry.key .plain, colon)
        ∧ colon.toToken false = colon ∧ colon.isColon = true
        ∧ Cursor.canBeKey ⟨entry.text ++ rest, line, 0, fresh⟩ colon = true
        ∧ blockPlace? (fuel + 1) 1 true .none (colon.past 1 false)
          = some (entry.tree, ⟨rest, bottom, 0, true⟩) := by
  have htext : entry.text ++ rest = entry.key ++ ':' :: (entry.tail ++ rest) := by simp [text]
  have hlength : entry.tail.length + 2 ≤ entry.text.length := by
    have hkey := List.length_pos_iff.mpr h.key.nonempty
    rw [text, List.length_append, List.length_cons]
    omega
  have hcut := h.value.cut rest
  have hshort := h.key.short
  obtain ⟨bottom, hvalue⟩ := h.value.value (fuel + 1) line (entry.key.length + 1) rest (by omega)
    hrest
  rw [htext]
  refine ⟨⟨':' :: (entry.tail ++ rest), line, entry.key.length, false⟩, bottom,
    h.key.flowTree? hcut (by omega) indent line fresh, rfl, ?_, ?_, hvalue⟩
  · simp [Cursor.isColon, hcut]
  · simp only [Cursor.canBeKey, beq_self_eq_true, Bool.true_and, decide_eq_true_eq,
      List.length_append]
    omega

/-- The members of a mapping are read up to the end of the text, by induction on them. -/
theorem blockMembers?_entries (h : ∀ entry ∈ entries, entry.Sound) {fuel : Nat}
    (hfuel : (entries.flatMap Entry.text).length + 6 ≤ fuel) (line : Nat) (fresh : Bool)
    : ∃ after : Cursor, after.rest = []
        ∧ blockMembers? fuel 0 ⟨entries.flatMap Entry.text, line, 0, fresh⟩
          = some (entries.map Entry.treePair, after) := by
  induction entries generalizing fuel line fresh with
  | nil =>
      obtain ⟨fuel, rfl⟩ : ∃ less, fuel = less + 1 := ⟨fuel - 1, by omega⟩
      refine ⟨⟨[], line, 0, fresh⟩, rfl, ?_⟩
      rw [blockMembers?.eq_def]
      rfl
  | cons entry entries ih =>
      obtain ⟨hentry, h⟩ := List.forall_mem_cons.mp h
      obtain ⟨fuel, rfl⟩ : ∃ less, fuel = less + 3 := ⟨fuel - 3, by omega⟩
      have hlength := entry.length_text_pos
      rw [List.flatMap_cons, List.length_append] at hfuel
      have hopens := hentry.opensMember (entries.flatMap Entry.text)
      have hdone := hopens.notDone (entry.text_ne_nil _) line 0 fresh
      obtain ⟨colon, middle, hkey, htoken, hcolon, hcan, hvalue⟩ :=
        hentry.reads (opensMember_entries h) (show _ ≤ fuel by omega) 1 line fresh
      have hmember := blockMember?_of_key hopens.beginsLine hkey htoken hcolon hcan hvalue
      obtain ⟨after, hrest, hmore⟩ := ih h (show _ ≤ fuel + 2 by omega) middle true
      refine ⟨after, hrest, ?_⟩
      rw [List.flatMap_cons, blockMembers?.eq_def]
      simp only [hdone, hmember, Option.bind_eq_bind, Option.bind_some, hmore]
      rfl

/-- The members of a document are read as its mapping. -/
theorem blockPlace?_entries (hne : entries ≠ []) (h : ∀ entry ∈ entries, entry.Sound) {fuel : Nat}
    (hfuel : (entries.flatMap Entry.text).length + 7 ≤ fuel) (line : Nat)
    : ∃ after : Cursor, after.rest = []
        ∧ blockPlace? fuel 0 false .none ⟨entries.flatMap Entry.text, line, 0, true⟩
          = some (.mapping (entries.map Entry.treePair), after) := by
  obtain ⟨entry, entries, rfl⟩ := List.exists_cons_of_ne_nil hne
  obtain ⟨hentry, h⟩ := List.forall_mem_cons.mp h
  obtain ⟨fuel, rfl⟩ : ∃ less, fuel = less + 3 := ⟨fuel - 3, by omega⟩
  have hlength := entry.length_text_pos
  rw [List.flatMap_cons, List.length_append] at hfuel
  have hopens := hentry.opensMember (entries.flatMap Entry.text)
  obtain ⟨colon, middle, hkey, htoken, hcolon, hcan, hvalue⟩ :=
    hentry.reads (opensMember_entries h) (show _ ≤ fuel by omega) 0 line true
  obtain ⟨after, hrest, hmore⟩ := blockMembers?_entries h (show _ ≤ fuel + 1 by omega) middle true
  refine ⟨after, hrest, ?_⟩
  rw [List.flatMap_cons, blockPlace?_of_le (toToken_opens hopens.opens line)
    (hopens.notDone (entry.text_ne_nil _) line 0 true) (Nat.zero_le 0),
    blockTree?_of_key hopens.beginsLine rfl hkey htoken hcolon hcan hvalue hmore]
  rfl

/-- The members of a mapping stand for nodes one by one, by induction on them. -/
theorem standsFor_entries (h : ∀ entry ∈ entries, entry.Sound)
    : Tree.StandsFor (.mapping (entries.map Entry.treePair))
        (.mapping (entries.map Entry.pair)) := by
  intro handles anchors
  have hmembers : Node.ofMembers? handles anchors (entries.map Entry.treePair)
      = some (entries.map Entry.pair, anchors) := by
    induction entries with
    | nil => rw [List.map_nil, Node.ofMembers?]; rfl
    | cons entry entries ih =>
        obtain ⟨hentry, h⟩ := List.forall_mem_cons.mp h
        rw [List.map_cons, Entry.treePair, Node.ofMembers?,
          standsFor_scalar entry.key .plain handles anchors]
        simp only [Option.bind_eq_bind, Option.bind_some, hentry.stands handles anchors, ih h,
          List.map_cons, Entry.pair]
  rw [Node.ofTree?, hmembers]
  rfl

/-- At the end of the text there is no mark to be passed over. -/
theorem pastEndMarks_of_nil {cursor : Cursor} (h : cursor.rest = []) (fuel : Nat)
    : pastEndMarks fuel cursor = cursor := by
  cases fuel <;> simp [pastEndMarks, Cursor.isMark, Text.dropLead?, h]

/-- The members of a document are its root. -/
theorem rootAt?_entries (hne : entries ≠ []) (h : ∀ entry ∈ entries, entry.Sound) {fuel : Nat}
    (hfuel : (entries.flatMap Entry.text).length + 7 ≤ fuel)
    : rootAt? fuel false ⟨entries.flatMap Entry.text, 0, 0, true⟩
      = some (.mapping (entries.map Entry.treePair)) := by
  have hopens := opensMember_entries h
  have htext := texts_ne_nil hne
  have hmark : Cursor.isMark '-' 0 (entries.flatMap Entry.text) = false :=
    (Bool.or_eq_false_iff.mp (hopens.notMark 0)).1
  obtain ⟨after, hrest, hread⟩ := blockPlace?_entries hne h hfuel 0
  rw [rootAt?]
  simp only [hmark, hopens.notDone htext, Bool.false_eq_true, Bool.or_false, if_false, hread,
    Option.bind_eq_bind, Option.bind_some, pastEndMarks_of_nil hrest, if_pos hrest]

/-- A text of printable members is read as their mapping, and nothing comes after it. -/
theorem ofText?_entries (hne : entries ≠ []) (h : ∀ entry ∈ entries, entry.Sound)
    (hprint : Printable (entries.flatMap Entry.text))
    : ofText? (entries.flatMap Entry.text) = some (.mapping (entries.map Entry.pair)) := by
  have hopens := opensMember_entries h
  have htext := texts_ne_nil hne
  have hlength := List.length_pos_iff.mpr htext
  have hallowed : (entries.flatMap Entry.text).all isAllowed = true :=
    List.all_eq_true.mpr (fun c hc => isAllowed_of_isPrintable (hprint c hc))
  have hroot := rootAt?_entries hne h
    (show _ ≤ 4 * (entries.flatMap Entry.text).length + 4 by omega)
  rw [ofText?]
  simp only [hopens.withoutOrderMark_eq, if_pos hallowed, withPlainBreaks_of_printable hprint,
    Cursor.start, toToken_opens hopens.opens, if_neg htext, hopens.directives_eq,
    hopens.noDirective, Option.bind_eq_bind, Option.bind_some, hroot, standsFor_entries h _ _]

end

end LeasePapers.Yaml
