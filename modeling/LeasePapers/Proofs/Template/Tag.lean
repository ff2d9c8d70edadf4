import LeasePapers.Proofs.Template.Argument
import LeasePapers.Proofs.Template.Scan

/-! Single tags: what a tag that is read holds, and how a leaf, an opener, an else and a closer are
written so that they are read again.
-/

namespace LeasePapers.Template

-----------------------------------------------------------------------------------------
-- What a tag that is read holds
-----------------------------------------------------------------------------------------

/-- A header that can be written: its names are names, and a literal has no marks in it and leaves
one of the quotes out.
-/
def Header.Writable : Header → Prop
  | .each name | .present name | .absent name => isPath name = true
  | .equal field literal =>
      isPath field = true ∧ ¬HasPair openMark literal ∧ ¬HasPair closeMark literal
        ∧ ('"' ∉ literal ∨ '\'' ∉ literal)

/-- A leaf that can be written: its names are names, and a variable is not the else tag. -/
def Node.WritableLeaf : Node → Prop
  | .variable name => isPath name = true ∧ name ≠ elseName
  | .helper _ field => isPath field = true
  | .text _ | .block _ _ _ => False

/-- A name has none of the characters that a literal must do without. -/
theorem writable_of_isPath {field literal : Text} (hfield : isPath field = true)
    (h : isPath literal = true)
    : (Header.equal field literal).Writable :=
  ⟨hfield, not_hasPair_of_not_mem (not_mem_isPath h (by decide)),
    not_hasPair_of_not_mem (not_mem_isPath h (by decide)),
    Or.inl (not_mem_isPath h (by decide))⟩

/-- A header that is made of arguments from a tag is writable. -/
theorem writable_of_header {kind : Kind} {arguments : List Argument} {header : Header}
    {text : Text} (h : header? kind arguments = some header)
    (hread : ∀ argument ∈ arguments, argument.ReadFrom text)
    (hopen : ¬HasPair openMark text) (hclose : ¬HasPair closeMark text)
    : header.Writable := by
  unfold header? at h
  split at h
  · obtain rfl := Option.some.inj h
    exact hread (.path _) (by simp)
  · rename_i field literal
    obtain rfl := Option.some.inj h
    obtain ⟨hpart, quote, hquote, hmem⟩ := hread (.literal literal) (by simp)
    refine ⟨hread (.path field) (by simp), fun hpair => hopen (hpair.of_infix hpart),
      fun hpair => hclose (hpair.of_infix hpart), ?_⟩
    rcases hquote with rfl | rfl
    · exact Or.inl hmem
    · exact Or.inr hmem
  · rename_i field literal
    obtain rfl := Option.some.inj h
    exact writable_of_isPath (hread (.path field) (by simp)) (hread (.path literal) (by simp))
  · obtain rfl := Option.some.inj h
    exact hread (.path _) (by simp)
  · obtain rfl := Option.some.inj h
    exact hread (.path _) (by simp)
  · cases h

/-- An opener is read as the header that its arguments make. -/
theorem header_of_openerTag {text : Text} {header : Header}
    (h : openerTag text = .opener header)
    : ∃ kind arguments,
        arguments? (text.dropWhile (fun c => !Text.isBlank c)) = some arguments
        ∧ header? kind arguments = some header := by
  unfold openerTag at h
  simp only at h
  split at h
  · cases h
  · split at h
    · cases h
    · rename_i kind _
      split at h
      · rename_i found hfound
        obtain rfl := Tag.opener.inj h
        obtain ⟨arguments, harguments, hheader⟩ := Option.bind_eq_some_iff.mp hfound
        exact ⟨kind, arguments, harguments, hheader⟩
      · cases h

/-- No opener is a leaf. -/
theorem openerTag_ne_leaf (text : Text) (node : Node) : openerTag text ≠ .leaf node := by
  unfold openerTag
  simp only
  split
  · simp
  · split
    · simp
    · split <;> simp

/-- A header that is read from a complete tag is writable. -/
theorem writable_of_opener {inner : Text} {header : Header}
    (h : Tag.ofInner inner = .opener header) (hinner : Complete inner)
    : header.Writable := by
  unfold Tag.ofInner at h
  split at h
  · rename_i rest htrim
    obtain ⟨kind, arguments, harguments, hheader⟩ := header_of_openerTag h
    have hpart : rest.dropWhile (fun c => !Text.isBlank c) <:+: inner := by
      have hrest : rest <:+: inner :=
        (htrim ▸ (List.suffix_cons '#' rest).isInfix).trans (Text.isInfix_trim inner)
      exact (List.dropWhile_suffix _).isInfix.trans hrest
    refine writable_of_header hheader (readFrom_arguments harguments)
      (fun hpair => hinner.noOpening (hpair.of_infix hpart)) (fun hpair => ?_)
    exact hinner.noClosing (hasPair_concat.mpr (Or.inl (hpair.of_infix hpart)))
  · cases h
  · split at h
    · cases h
    · unfold leafTag at h
      split at h
      · cases h
      · split at h <;> cases h
      · cases h

/-- A leaf that is read from a text without blanks around it is writable. -/
theorem writableLeaf_of_leafTag {text : Text} {node : Node} (h : leafTag text = .leaf node)
    (hhead : ∀ c ∈ text.head?, Text.isBlank c = false)
    (hlast : ∀ c ∈ text.getLast?, Text.isBlank c = false) (helse : text ≠ elseName)
    : node.WritableLeaf := by
  unfold leafTag at h
  split at h
  · rename_i name hread
    obtain rfl := Tag.leaf.inj h
    refine ⟨readFrom_arguments hread (.path name) (by simp), ?_⟩
    rwa [← eq_of_arguments_path hhead hlast hread]
  · rename_i name field hread
    split at h
    · obtain rfl := Tag.leaf.inj h
      exact readFrom_arguments hread (.path field) (by simp)
    · cases h
  · cases h

/-- A leaf that is read from a tag is writable. -/
theorem writableLeaf_of_leaf {inner : Text} {node : Node} (h : Tag.ofInner inner = .leaf node)
    : node.WritableLeaf := by
  unfold Tag.ofInner at h
  split at h
  · exact absurd h (openerTag_ne_leaf _ node)
  · cases h
  · split at h
    · cases h
    · rename_i helse
      exact writableLeaf_of_leafTag h (fun c hc => Text.isBlank_head?_trim hc)
        (fun c hc => Text.isBlank_getLast?_trimEnd hc) helse

-----------------------------------------------------------------------------------------
-- What is written between the marks of a tag
-----------------------------------------------------------------------------------------

/-- A text in the quotes that it does not contain. -/
def quoted (literal : Text) : Text :=
  if '"' ∈ literal then '\'' :: (literal ++ ['\'']) else '"' :: (literal ++ ['"'])

/-- The arguments of a header as they are written. -/
def Header.arguments : Header → Text
  | .each name | .present name | .absent name => name
  | .equal field literal => field ++ ' ' :: quoted literal

/-- The tag that opens a block. -/
def Header.opener (header : Header) : Text :=
  '#' :: (header.kind.name ++ ' ' :: header.arguments)

/-- The tag that closes a block. -/
def Kind.closer (kind : Kind) : Text :=
  '/' :: kind.name

/-- The tag in front of an else branch. -/
def elseMark : Text :=
  '#' :: elseName

/-- The tag that calls a helper. -/
def Helper.call (helper : Helper) (field : Text) : Text :=
  helper.name ++ ' ' :: field

/-- The name of a kind has no blank. -/
theorem kind_name_isBlank (kind : Kind) : ∀ c ∈ kind.name, Text.isBlank c = false := by
  have hname : kind.name.any Text.isBlank = false := by
    cases kind <;> decide
  simpa using hname

/-- A kind is found by its name. -/
theorem kind_ofName (kind : Kind) : Kind.ofName? kind.name = some kind := by
  cases kind <;> decide

/-- No kind is named like the else tag. -/
theorem kind_name_ne_else (kind : Kind) : kind.name ≠ elseName := by
  cases kind <;> decide

/-- The name of a helper is a name. -/
theorem helper_isPath (helper : Helper) : isPath helper.name = true := by
  cases helper <;> decide

/-- A helper is found by its name. -/
theorem helper_ofName (helper : Helper) : Helper.ofName? helper.name = some helper := by
  cases helper <;> decide

/-- A text without one of the quotes is written between two of them. -/
theorem quoted_eq {literal : Text} (h : '"' ∉ literal ∨ '\'' ∉ literal)
    : ∃ quote, IsQuote quote ∧ quote ∉ literal
        ∧ quoted literal = quote :: (literal ++ [quote]) := by
  by_cases hmem : '"' ∈ literal
  · exact ⟨'\'', Or.inr rfl, h.resolve_left (not_not_intro hmem), by rw [quoted, if_pos hmem]⟩
  · exact ⟨'"', Or.inl rfl, hmem, by rw [quoted, if_neg hmem]⟩

/-- The arguments of a writable header are read again. -/
theorem arguments_header {header : Header} (h : header.Writable)
    : (arguments? (' ' :: header.arguments)).bind (header? header.kind) = some header := by
  rw [arguments_space]
  cases header with
  | each name | present name | absent name =>
      rw [Header.arguments, arguments_path h]
      rfl
  | equal field literal =>
      obtain ⟨hfield, -, -, hquote⟩ := h
      obtain ⟨quote, hmark, hmem, hquoted⟩ := quoted_eq hquote
      rw [Header.arguments, arguments_path_space hfield, hquoted, arguments_quoted hmark hmem]
      rfl

/-- A text with a name at its end has no blank there. -/
theorem isBlank_getLast?_of_isPath {name : Text} (h : isPath name = true) (before : Text)
    : ∀ c ∈ (before ++ name).getLast?, Text.isBlank c = false := by
  intro c hc
  rw [List.getLast?_append_of_ne_nil _ (isPath_chars h).1] at hc
  exact isBlank_of_mem_isPath h (List.mem_of_getLast? hc)

/-- The end of a writable header is neither blank nor half a mark. -/
theorem getLast?_header {header : Header} (h : header.Writable) {before : Text}
    : ∀ c ∈ (before ++ header.arguments).getLast?,
        Text.isBlank c = false ∧ c ≠ closeMark := by
  intro c hc
  cases header with
  | each name | present name | absent name =>
      have hname : isPath name = true := h
      rw [Header.arguments, List.getLast?_append_of_ne_nil _ (isPath_chars hname).1] at hc
      have hmem := List.mem_of_getLast? hc
      refine ⟨isBlank_of_mem_isPath hname hmem, ?_⟩
      rintro rfl
      exact not_mem_isPath hname (by decide) hmem
  | equal field literal =>
      obtain ⟨quote, hmark, -, hquoted⟩ := quoted_eq h.2.2.2
      have happend : before ++ Header.arguments (.equal field literal)
          = (before ++ field ++ ' ' :: quote :: literal) ++ [quote] := by
        simp [Header.arguments, hquoted]
      rw [happend, List.getLast?_concat] at hc
      obtain rfl := Option.some.inj hc
      rcases hmark with rfl | rfl <;> decide

/-- The opener of a writable header is read as it. -/
theorem ofInner_opener {header : Header} (h : header.Writable)
    : Tag.ofInner header.opener = .opener header := by
  have htrim : Text.trim header.opener = header.opener := by
    refine Text.trim_eq_self ?_ ?_
    · simp [Header.opener]
      decide
    · intro c hc
      rw [Header.opener, ← List.cons_append, List.append_cons] at hc
      exact (getLast?_header h c hc).1
  have htake : (header.kind.name ++ ' ' :: header.arguments).takeWhile
      (fun c => !Text.isBlank c) = header.kind.name := by
    rw [List.takeWhile_append_of_pos (by simpa using kind_name_isBlank header.kind)]
    simp [Text.isBlank]
  have hdrop : (header.kind.name ++ ' ' :: header.arguments).dropWhile
      (fun c => !Text.isBlank c) = ' ' :: header.arguments := by
    rw [List.dropWhile_append_of_pos (by simpa using kind_name_isBlank header.kind)]
    simp [Text.isBlank]
  rw [Tag.ofInner, htrim]
  change openerTag (header.kind.name ++ ' ' :: header.arguments) = .opener header
  rw [openerTag, htake, hdrop]
  simp only [kind_name_ne_else, false_and, if_false, kind_ofName, arguments_header h]

/-- The closer of a kind is read as its closer. -/
theorem ofInner_closer (kind : Kind) : Tag.ofInner kind.closer = .closer kind.name := by
  cases kind <;> rfl

/-- The else tag is read as one. -/
theorem ofInner_elseMark : Tag.ofInner elseMark = .otherwise :=
  rfl

/-- The first character of a name begins neither an opener nor a closer. -/
theorem ofInner_of_isPath {name rest : Text} (h : isPath name = true)
    (hlast : ∀ c ∈ (name ++ rest).getLast?, Text.isBlank c = false)
    : Tag.ofInner (name ++ rest)
      = if name ++ rest = elseName then .otherwise else leafTag (name ++ rest) := by
  have htrim : Text.trim (name ++ rest) = name ++ rest := by
    refine Text.trim_eq_self (fun c hc => ?_) hlast
    rw [List.head?_append_of_ne_nil _ (isPath_chars h).1] at hc
    exact isBlank_of_mem_isPath h (List.mem_of_mem_head? hc)
  rw [Tag.ofInner, htrim]
  cases name with
  | nil => exact absurd rfl (isPath_chars h).1
  | cons c name =>
      split
      · rename_i hc
        obtain ⟨rfl, -⟩ := List.cons.inj hc
        exact absurd List.mem_cons_self (not_mem_isPath h (by decide))
      · rename_i hc
        obtain ⟨rfl, -⟩ := List.cons.inj hc
        exact absurd List.mem_cons_self (not_mem_isPath h (by decide))
      · rfl

/-- A name that is not that of the else tag is read as a variable. -/
theorem ofInner_variable {name : Text} (h : isPath name = true) (helse : name ≠ elseName)
    : Tag.ofInner name = .leaf (.variable name) := by
  have hlast : ∀ c ∈ (name ++ []).getLast?, Text.isBlank c = false := by
    simpa using isBlank_getLast?_of_isPath h []
  have hread := ofInner_of_isPath h hlast
  rw [List.append_nil, if_neg helse, leafTag, arguments_path h] at hread
  exact hread

/-- The call of a helper is read as one. -/
theorem ofInner_call {helper : Helper} {field : Text} (h : isPath field = true)
    : Tag.ofInner (helper.call field) = .leaf (.helper helper field) := by
  have helse : helper.call field ≠ elseName := by
    intro he
    have hspace : ' ' ∈ helper.call field := by simp [Helper.call]
    rw [he] at hspace
    revert hspace
    decide
  have hlast : ∀ c ∈ (helper.name ++ ' ' :: field).getLast?, Text.isBlank c = false := by
    intro c hc
    rw [List.append_cons] at hc
    exact isBlank_getLast?_of_isPath h _ c hc
  rw [Helper.call, ofInner_of_isPath (helper_isPath helper) hlast, ← Helper.call, if_neg helse,
    Helper.call, leafTag, arguments_path_space (helper_isPath helper), arguments_path h]
  simp [helper_ofName]

-----------------------------------------------------------------------------------------
-- What is written between the marks of a tag is complete
-----------------------------------------------------------------------------------------

/-- What has neither mark is complete. -/
theorem complete_of_not_mem {inner : Text} (hopen : openMark ∉ inner) (hclose : closeMark ∉ inner)
    : Complete inner :=
  complete_of_not_hasPair (not_hasPair_of_not_mem hopen) (not_hasPair_of_not_mem hclose)
    (fun hlast => hclose (List.mem_of_getLast? hlast))

/-- A name is complete. -/
theorem complete_of_isPath {name : Text} (h : isPath name = true) : Complete name :=
  complete_of_not_mem (not_mem_isPath h (by decide))
    (not_mem_isPath h (by decide))

/-- A closer is complete. -/
theorem complete_closer (kind : Kind) : Complete kind.closer := by
  cases kind <;> exact complete_of_not_mem (by decide) (by decide)

/-- The else tag is complete. -/
theorem complete_elseMark : Complete elseMark :=
  complete_of_not_mem (by decide) (by decide)

/-- A piece without braces may stand before what is complete. -/
theorem complete_append {piece inner : Text} (hopen : openMark ∉ piece) (hclose : closeMark ∉ piece)
    (h : Complete inner)
    : Complete (piece ++ inner) := by
  constructor
  · rw [hasPair_append_left hopen]
    exact h.noOpening
  · rw [List.append_assoc, hasPair_append_left hclose]
    exact h.noClosing

/-- The call of a helper is complete. -/
theorem complete_call {helper : Helper} {field : Text} (h : isPath field = true)
    : Complete (helper.call field) := by
  rw [Helper.call, List.append_cons]
  refine complete_append ?_ ?_ (complete_of_isPath h) <;> cases helper <;> decide

/-- A literal before its closing quote is complete: the quote is not half a mark. -/
theorem complete_literal {quote : Char} {literal : Text} (hmark : IsQuote quote)
    (hopen : ¬HasPair openMark literal) (hclose : ¬HasPair closeMark literal)
    : Complete (literal ++ [quote]) := by
  have hquote : openMark ∉ [quote] ∧ closeMark ∉ [quote] := by
    rcases hmark with rfl | rfl <;> decide
  refine complete_of_not_hasPair ?_ ?_ ?_
  · rwa [hasPair_append_right hquote.1]
  · rwa [hasPair_append_right hquote.2]
  · rw [List.getLast?_concat]
    rintro he
    exact hquote.2 (by simp [Option.some.inj he])

/-- The arguments of a writable header are complete. -/
theorem complete_arguments {header : Header} (h : header.Writable)
    : Complete header.arguments := by
  cases header with
  | each name | present name | absent name => exact complete_of_isPath h
  | equal field literal =>
      obtain ⟨hfield, hopen, hclose, hquote⟩ := h
      obtain ⟨quote, hmark, -, hquoted⟩ := quoted_eq hquote
      have hlead : openMark ∉ field ++ [' ', quote] ∧ closeMark ∉ field ++ [' ', quote] := by
        have hopening := not_mem_isPath hfield (c := openMark) (by decide)
        have hclosing := not_mem_isPath hfield (c := closeMark) (by decide)
        rcases hmark with rfl | rfl <;> simp [hopening, hclosing] <;> decide
      have hpieces : Header.arguments (.equal field literal)
          = (field ++ [' ', quote]) ++ (literal ++ [quote]) := by
        simp [Header.arguments, hquoted]
      rw [hpieces]
      exact complete_append hlead.1 hlead.2 (complete_literal hmark hopen hclose)

/-- The opener of a writable header is complete. -/
theorem complete_opener {header : Header} (h : header.Writable) : Complete header.opener := by
  rw [Header.opener, List.append_cons, ← List.cons_append]
  refine complete_append ?_ ?_ (complete_arguments h) <;> cases header.kind <;> decide

end LeasePapers.Template
