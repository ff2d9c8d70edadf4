import LeasePapers.Proofs.Redaction.Forms

/-! Redacted prose keeps no full name. Every other name that prose is searched for can be passed
over without the full name coming about, and behind the full name itself only names follow that are
no longer and do not have it in their redacted forms.
-/

namespace LeasePapers.Redaction

open Text (folded bare)

variable {name : Text} {fields : Dictionary}

-----------------------------------------------------------------------------------------
-- Known names
-----------------------------------------------------------------------------------------

/-- The text for a missing name stands in brackets. -/
theorem bare_nameMissing
    : bare nameMissing = '[' :: (folded "NOME NÃO INFORMADO" ++ [']']) := by
  decide

namespace Traceable

/-- A traceable name is not read across a redacted form that stands between marks. -/
theorem readable_marked (h : Traceable name) {known : KnownName} {opening closing : Char}
    {inner : Text} (hopening : opening ∈ marks) (hclosing : closing ∈ marks)
    (hform : folded known.redacted = opening :: (inner ++ [closing]))
    : Readable (folded name) known := by
  have hwhole : folded known.redacted = [] ++ (opening :: (inner ++ [closing]) ++ []) := by
    rw [hform, List.append_nil, List.nil_append]
  exact .walled hwhole (h.noWayIn_mark hopening _) (h.noWayOut_mark hclosing (opening :: inner))
    List.nil_prefix List.nil_suffix

/-- A traceable name is not read across a redacted form that ends with an initial. -/
theorem readable_initialed (h : Traceable name) (htrim : Text.trim name = name)
    {known : KnownName} {first : Text} {c : Char} (hc : Text.isBlank c = false)
    (hform : folded known.redacted = bare first ++ dotted c) (hfirst : first <+: known.spelling)
    : Readable (folded name) known := by
  have hwhole : folded known.redacted = bare first ++ (dotted c ++ []) := by
    rw [hform, List.append_nil]
  exact .walled hwhole (h.noWayIn_dotted htrim hc) (h.noWayOut_dotted c)
    ((hfirst.filter _).map _) List.nil_suffix

/-- A single name reads as its words do: alone, or the first one before a wall. -/
theorem readable_known (h : Traceable name) (htrim : Text.trim name = name) {other : Text}
    (hother : Text.trim other = other)
    : Readable (folded name) (known other) := by
  have hform : folded (known other).redacted = bare (redactName other) :=
    (Text.bare_of_braceFree (braceFree_redactName other)).symm
  rcases hwords : Text.words other with - | ⟨first, - | ⟨second, rest⟩⟩
  · rw [redactName, hwords] at hform
    exact h.readable_marked (by decide) (by decide) (hform.trans bare_nameMissing)
  · refine .whole ?_
    have hsame := (Text.begins_of_words hother hwords).2 rfl
    rw [known, redactName, hwords, hsame]
  · obtain ⟨c, hc, hbare⟩ := bare_redactName hwords
    exact h.readable_initialed htrim hc (hform.trans hbare) (Text.begins_of_words hother hwords).1

/-- How the redacted form of a name in a list begins: with the first word, and a wall behind it. -/
theorem redactEntry_begins (h : Traceable name) (htrim : Text.trim name = name) {entry word : Text}
    {more : List Text} (hentry : Text.trim entry = entry) (hwords : Text.words entry = word :: more)
    : ∃ front wall, bare (redactEntry entry) = front ++ wall ∧ front <+: bare word
        ∧ (NoWayIn (folded name) wall ∨ wall = []) := by
  rcases redactEntry_cases hentry with ⟨opening, hopening, closing, -, inner, hform⟩ | hform
  · exact ⟨[], _, hform, List.nil_prefix, Or.inl (h.noWayIn_mark hopening _)⟩
  · rw [hform]
    cases more with
    | nil =>
        have hsingle := bare_redactName_single hwords
        exact ⟨bare word, [], by rw [hsingle, List.append_nil], List.prefix_rfl, Or.inr rfl⟩
    | cons second rest =>
        obtain ⟨c, hc, hbare⟩ := bare_redactName hwords
        exact ⟨bare word, dotted c, hbare, List.prefix_rfl, Or.inl (h.noWayIn_dotted htrim hc)⟩

end Traceable

/-- How the redacted form of a name in a list ends: with a mark, unless it is a single word. -/
theorem redactEntry_ends {entry : Text} (hentry : Text.trim entry = entry)
    : (∃ front, ∃ c ∈ marks, bare (redactEntry entry) = front ++ [c])
      ∨ ∃ only, Text.words entry = [only] ∧ bare (redactEntry entry) = bare only := by
  rcases redactEntry_cases hentry with ⟨opening, -, closing, hclosing, inner, hform⟩ | hform
  · exact Or.inl ⟨opening :: inner, closing, hclosing, hform⟩
  · rw [hform]
    match hparts : Text.words entry with
    | [] =>
        rw [redactName, hparts]
        exact Or.inl ⟨'[' :: folded "NOME NÃO INFORMADO", ']', by decide, bare_nameMissing⟩
    | [only] => exact Or.inr ⟨only, rfl, bare_redactName_single hparts⟩
    | first :: second :: rest =>
        obtain ⟨c, -, hbare⟩ := bare_redactName hparts
        have hdot : bare (redactName entry)
            = bare first ++ ' ' :: bare (Text.upperChar c) ++ ['.'] := by
          simp [hbare, dotted]
        exact Or.inl ⟨_, '.', by decide, hdot⟩

/-- Redacted names, as they are compared, are the joined entries. -/
theorem bare_redactNames {text : Text} (h : Name.split text ≠ [])
    : folded (redactNames text) = bare (Name.joinAll ((Name.split text).map redactEntry)) := by
  rw [redactNames]
  split
  · rename_i hnil
    exact absurd hnil h
  · rfl

namespace Traceable

/-- A free text of several names begins with the first word of the first one, or with a mark, ends
with a mark or a last name of a single word, and has a wall in between.
-/
theorem readable_several (h : Traceable name) (htrim : Text.trim name = name)
    {text first last : Text} {middle : List Text} (htext : Text.trim text = text)
    (hends : Name.EndsInNames text) (hsplit : Name.split text = first :: (middle ++ [last]))
    : Readable (folded name) ⟨text, redactNames text⟩ := by
  have hmem : first ∈ Name.split text ∧ last ∈ Name.split text := by simp [hsplit]
  have hlast : Name.split text = (first :: middle) ++ [last] := hsplit
  obtain ⟨word, more, hwords, hbegin⟩ := hends.begins htext hsplit
  obtain ⟨separator, hjoin, hin, hout⟩ :=
    h.exists_wall htrim (redactEntry first) (middle.map redactEntry) (redactEntry last)
  obtain ⟨start, before, hbegins, hstart, hbefore⟩ :=
    h.redactEntry_begins htrim (Name.trim_of_mem_split hmem.1) hwords
  have hform : folded (redactNames text)
      = start ++ (before ++ (separator ++ bare (redactEntry last))) := by
    rw [bare_redactNames (List.ne_nil_of_mem hmem.1), hsplit, List.map_cons, List.map_append,
      List.map_singleton, hjoin, hbegins, List.append_assoc]
  have hwayIn : ∀ after, NoWayIn (folded name) (before ++ (separator ++ after)) := by
    intro after
    rcases hbefore with hwall | rfl
    · exact hwall.append _
    · exact hin.append _
  have hfront : start <+: bare text := hstart.trans ((hbegin.filter _).map _)
  rcases redactEntry_ends (Name.trim_of_mem_split hmem.2) with
    ⟨front, c, hc, hmark⟩ | ⟨only, honly, hbare⟩
  · have hwhole : folded (redactNames text)
        = start ++ (before ++ (separator ++ (front ++ [c])) ++ []) := by
      rw [hform, hmark, List.append_nil]
    have hwayOut : NoWayOut (folded name) (before ++ (separator ++ (front ++ [c]))) := by
      rw [← List.append_assoc, ← List.append_assoc]
      exact h.noWayOut_mark hc _
    exact .walled hwhole (hwayIn _) hwayOut hfront List.nil_suffix
  · have hwhole : folded (redactNames text)
        = start ++ (before ++ (separator ++ []) ++ bare only) := by
      rw [hform, hbare, List.append_nil, List.append_assoc]
    have hwayOut : NoWayOut (folded name) (before ++ (separator ++ [])) := by
      rw [List.append_nil]
      exact hout.append _
    have hback := hends.ends htext hlast honly
    exact .walled hwhole (hwayIn _) hwayOut hfront ((hback.filter _).map _)

/-- A free text reads as its names do, if it begins and ends with them. -/
theorem readable_text (h : Traceable name) (htrim : Text.trim name = name) {text : Text}
    (htext : Text.trim text = text) (hends : Name.EndsInNames text)
    : Readable (folded name) ⟨text, redactNames text⟩ := by
  rcases hsplit : Name.split text with - | ⟨first, others⟩
  · have hmissing : folded namesMissing = '[' :: (folded "NOMES NÃO INFORMADOS" ++ [']']) := by
      decide
    have hform : redactNames text = namesMissing := by
      rw [redactNames, hsplit]
    exact h.readable_marked (by decide) (by decide) ((congrArg folded hform).trans hmissing)
  rcases List.eq_nil_or_concat others with rfl | ⟨middle, last, rfl⟩
  · obtain ⟨word, more, hwords, hbegin⟩ := hends.begins htext hsplit
    have hform : redactNames text = Text.withoutBraces (redactEntry first) := by
      rw [redactNames, hsplit]
      rfl
    have hfirst := Name.trim_of_mem_split (hsplit ▸ List.mem_singleton_self first)
    rcases redactEntry_cases hfirst with ⟨_, hopening, _, hclosing, inner, hmarked⟩ | hplain
    · exact h.readable_marked hopening hclosing ((congrArg folded hform).trans hmarked)
    · rw [hplain] at hform
      cases more with
      | nil =>
          refine .whole ?_
          have hsame := hends.single htext hsplit hwords
          rw [hform, Text.withoutBraces_of_braceFree (braceFree_redactName first), redactName,
            hwords, hsame]
      | cons second rest =>
          obtain ⟨c, hc, hbare⟩ := bare_redactName hwords
          exact h.readable_initialed htrim hc ((congrArg folded hform).trans hbare) hbegin
  · rw [List.concat_eq_append] at hsplit
    exact h.readable_several htrim htext hends hsplit

/-- Every name that prose is searched for can be passed over. -/
theorem passable (h : Traceable name) (htrim : Text.trim name = name)
    (hends : ∀ text, GivesText fields text → Name.EndsInNames text) {other : KnownName}
    (hother : other ∈ knownNames fields)
    : Passable (folded name) other := by
  have hne := spelling_ne_nil hother
  obtain ⟨hchanged, ⟨text, hgiven, rfl⟩ | ⟨text, hgiven, rfl⟩⟩ := mem_knownNames hother
  · have hreadable := h.readable_text htrim hgiven.trimmed.1 (hends text hgiven)
    exact ⟨hreadable, braceFree_redactNames text, hchanged, hne⟩
  · exact ⟨h.readable_known htrim hgiven.trimmed, braceFree_redactName text, hchanged, hne⟩

/-- A known name with the name in its redacted form is longer. -/
theorem length_lt_of_infix (h : Traceable name) (htrim : Text.trim name = name)
    {other : KnownName} (hother : other ∈ knownNames fields)
    (hread : folded name <:+: folded other.redacted)
    : name.length < other.spelling.length := by
  obtain ⟨-, ⟨text, hgiven, rfl⟩ | ⟨text, hgiven, rfl⟩⟩ := mem_knownNames hother
  · by_cases hsplit : Name.split text = []
    · have hform : redactNames text = namesMissing := by rw [redactNames, hsplit]
      exact absurd (hform ▸ hread) (h.notMissing namesMissing (by simp))
    · rw [bare_redactNames hsplit] at hread
      obtain ⟨part, hpart, hread⟩ := h.infix_joinAll htrim hread
      obtain ⟨entry, hentry, rfl⟩ := List.mem_map.mp hpart
      exact (h.length_lt_of_redactEntry htrim hread).trans_le (Name.length_le_of_mem_split hentry)
  · rw [known, ← Text.bare_of_braceFree (braceFree_redactName text)] at hread
    exact absurd hread (h.not_infix_redactName htrim text)

/-- The redacted form of the name itself ends in a mark, also where it is all of a free text. -/
theorem redacted_ends (h : Traceable name) {own : KnownName} (hown : own ∈ knownNames fields)
    (hspelling : own.spelling = name)
    : ∃ front, ∃ c ∈ marks, folded own.redacted = front ++ [c] := by
  obtain ⟨first, second, rest, hwords⟩ := h.exists_words
  obtain ⟨-, ⟨text, -, rfl⟩ | ⟨text, -, rfl⟩⟩ := mem_knownNames hown
  · obtain rfl : text = name := hspelling
    have hparts : ∀ word ∈ Text.words text, word ≠ [] ∧ ∀ c ∈ word, Text.isBlank c = false :=
      fun _ => Text.word_of_mem_words
    have hentry := (Text.words_join hparts).trans hwords
    rw [bare_redactNames (by simp [h.split_eq]), h.split_eq]
    rcases redactEntry_ends (Text.trim_join hparts) with hmark | ⟨only, honly, -⟩
    · exact hmark
    · simp [hentry] at honly
  · obtain rfl : text = name := hspelling
    obtain ⟨c, -, hform⟩ := bare_redactName hwords
    rw [known, ← Text.bare_of_braceFree (braceFree_redactName text), hform]
    exact ⟨bare first ++ ' ' :: bare (Text.upperChar c), '.', by decide, by simp [dotted]⟩

/-- Redaction changes the name, because that has no dot. -/
theorem changed (h : Traceable name) : name ≠ redactName name := by
  obtain ⟨first, second, rest, hwords⟩ := h.exists_words
  obtain ⟨c, -, hform⟩ := bare_redactName hwords
  intro hsame
  have hdot : '.' ∈ bare name := by
    rw [hsame, hform]
    simp [dotted]
  have hmem : '.' ∈ folded name := (List.filter_sublist.map _).subset hdot
  exact h.not_mem_mark (by decide) hmem

end Traceable

-----------------------------------------------------------------------------------------
-- Prose
-----------------------------------------------------------------------------------------

/-- Prose that is searched for the name does not have it afterwards. -/
theorem not_infix_redactProse [Patterns] {text : Text} (htraceable : Traceable name)
    (hname : GivesName fields name) (hbuilds : Patterns.builds name = true)
    (hunbroken : Unbroken (folded name) text)
    (hends : ∀ text, GivesText fields text → Name.EndsInNames text)
    : ¬folded name <:+: folded (redactProse (searchedNames fields) text) := by
  intro hread
  have htrim := hname.trimmed
  have hdot : '.' ∉ folded name := htraceable.not_mem_mark (by decide)
  have hfree : Text.BraceFree (folded name) :=
    fun c hc => Text.braceFree_bare _ c (hread.subset hc)
  obtain ⟨own, hown, hspelling⟩ := exists_mem_knownNames hname htraceable.changed
  have hsearched : own ∈ searchedNames fields := List.mem_filter.mpr ⟨hown, hspelling ▸ hbuilds⟩
  obtain ⟨before, after, hsplit⟩ := List.append_of_mem hsearched
  have hknown : ∀ known ∈ before ++ own :: after, known ∈ knownNames fields :=
    fun known hmem => mem_knownNames_of_searched (hsplit ▸ hmem)
  have hpassable : ∀ known ∈ before ++ own :: after, Passable (folded name) known :=
    fun known hmem => htraceable.passable htrim hends (hknown known hmem)
  have hshorter : ∀ known ∈ own :: after, ¬folded name <:+: folded known.redacted := by
    intro known hmem hin
    have hlonger := htraceable.length_lt_of_infix htrim
      (hknown known (List.mem_append_right _ hmem)) hin
    have hsorted := pairwise_searchedNames fields
    rw [hsplit, List.pairwise_append, List.pairwise_cons] at hsorted
    rcases List.mem_cons.mp hmem with rfl | hafter
    · exact absurd hlonger (by rw [hspelling]; omega)
    · have hlength := hsorted.2.1.1 known hafter
      rw [hspelling] at hlength
      omega
  rw [List.forall_mem_append, List.forall_mem_cons] at hpassable
  obtain ⟨hbefore, hownPassable, hafter⟩ := hpassable
  rw [List.forall_mem_cons] at hshorter
  -- Up to the name itself no braces come into its spellings, and then it is replaced.
  have hstill := unbroken_foldl hbefore hdot hfree hunbroken
  have hreplaced := replaced_replaceName (before.foldl replaceName text) hownPassable.spelled
  have hgone : ¬folded name <:+: bare (replaceName (before.foldl replaceName text) own) := by
    refine hreplaced.not_infix_bare hownPassable hdot (congrArg folded hspelling) ?_ hshorter.1
      hstill
    obtain ⟨front, c, hc, hform⟩ := htraceable.redacted_ends hown hspelling
    intro lead hlead hend
    by_contra hne
    rw [hform] at hend
    exact (htraceable.noWayOut_mark hc front lead hlead hne).1 hend
  have hlater : ∀ known ∈ after,
      Passable (folded name) known ∧ ¬folded name <:+: folded known.redacted :=
    fun known hmem => ⟨hafter known hmem, hshorter.2 known hmem⟩
  rw [redactProse, hsplit, List.foldl_append, List.foldl_cons] at hread
  exact not_infix_foldl hlater hdot hgone hread

/-- Redacted prose keeps no full name that the form gives and a pattern can be built from: apart
from case, the name is not in it any more, if no other text can run into its redacted form, no brace
stands inside its spellings, and the free texts of names begin and end with names.
-/
theorem not_infix_redact [Patterns] {field text : Text} (hrule : ruleFor? field = some .prose)
    (hvalue : fields.get? field = some (.text text)) (htext : Redactable text)
    (hname : GivesName fields name) (htraceable : Traceable name)
    (hbuilds : Patterns.builds name = true) (hunbroken : Unbroken (folded name) text)
    (hends : ∀ given, GivesText fields given → Name.EndsInNames given)
    : ∃ out, (redact fields).get? field = some (.text out) ∧ ¬folded name <:+: folded out := by
  refine ⟨redactProse (searchedNames fields) text, ?_, ?_⟩
  · rw [get?_redact, hvalue, Option.map_some, redactField, hrule]
    exact congrArg some (htext.redactValue _ _)
  · exact not_infix_redactProse htraceable hname hbuilds hunbroken hends

/-- What a field of prose holds after redaction, by the names that are searched for. -/
theorem get?_redact_prose [Patterns] {field : Field} {text out : Text} {names : List KnownName}
    (hrule : (field, .prose) ∈ rules) (hvalue : fields.get? field.name = some (.text text))
    (htext : Redactable text) (hnames : searchedNames fields = names)
    (hout : redactProse names text = out)
    : (redact fields).get? field.name = some (.text out) := by
  rw [get?_redact, hvalue, Option.map_some, redactField, ruleFor?_of_mem hrule]
  exact congrArg some ((htext.redactValue _ _).trans (by rw [hnames, redactBy, hout]))

/-- A form with a name in a slot, others in a free text, and all of them in prose. -/
def namesInProse : Dictionary :=
  ((TextMap.empty.insert Field.primeiroFiador.name (.text "Ana Souza")).insert
      Field.nomeProprietario.name (.text "Ana Souza Reis, Rui Souza,")).insert
    Field.observacao.name (.text "\x7bana souza\x7d reis, ANA SOUZA REIS e \x7bAna Souza.")

/-- A name is not read in a note that joins other names to words. -/
theorem not_infix_redact_observacao
    : GivesName namesInProse "Ana Souza" ∧ Traceable "Ana Souza"
      ∧ Patterns.builds "Ana Souza" = true
      ∧ (∀ given, GivesText namesInProse given → Name.EndsInNames given)
      ∧ (redact namesInProse).get? Field.observacao.name
        = some (.text "Ana S. reis, Ana R. e Ana S.")
      ∧ ¬folded "Ana Souza" <:+: folded "Ana S. reis, Ana R. e Ana S." := by
  have hname : GivesName namesInProse "Ana Souza" := by
    have hfilled : Dictionary.filled? namesInProse Field.primeiroFiador.name
        = some "Ana Souza" := by decide +kernel
    exact .slot (by decide : Field.primeiroFiador ∈ Role.slots .guarantor) hfilled
  have htraceable : Traceable "Ana Souza" := by
    have hlast : (Text.words (folded "Ana Souza")).getLast? = some "souza" := by decide +kernel
    have hunmarked : marks.all (fun c => !("Ana Souza" : Text).contains c) = true := by decide
    refine ⟨by decide, by simpa using hunmarked, by decide +kernel, ?_, by decide +kernel⟩
    intro last hmem
    obtain rfl := Option.some.inj (hlast.symm.trans hmem)
    exact Traceable.noInitial_of_length (by decide)
  have howners : Name.EndsInNames "Ana Souza Reis, Rui Souza," := by
    have hsplit : Name.split "Ana Souza Reis, Rui Souza,"
        = ["Ana Souza Reis"] ++ ["Rui Souza"] := by decide
    refine ⟨fun _ => ⟨"Ana", (Name.tokenize "Ana Souza Reis, Rui Souza,").tail, by decide⟩, ?_⟩
    intro others last hnames hone
    obtain ⟨-, hlast⟩ := List.append_inj' (hsplit.symm.trans hnames) rfl
    rw [← List.singleton_inj.mp hlast] at hone
    exact absurd hone (by decide)
  have hends : ∀ given, GivesText namesInProse given → Name.EndsInNames given := by
    have hfields : ∀ role : Role, ∀ field ∈ role.freeTexts,
        field = .nomeProprietario ∨ Dictionary.filled? namesInProse field.name = none := by
      intro role
      cases role <;> decide +kernel
    have howner : Dictionary.filled? namesInProse Field.nomeProprietario.name
        = some "Ana Souza Reis, Rui Souza," := by decide +kernel
    intro given hgiven
    cases hgiven with
    | @field role field _ hfield filled _ =>
        rcases hfields role field hfield with rfl | hempty
        · exact Option.some.inj (howner.symm.trans filled) ▸ howners
        · rw [hempty] at filled
          cases filled
  have htext : Redactable "\x7bana souza\x7d reis, ANA SOUZA REIS e \x7bAna Souza." :=
    redactable_of_not_mem (by decide) (by decide)
  have hout : (redact namesInProse).get? Field.observacao.name
      = some (.text "Ana S. reis, Ana R. e Ana S.") :=
    get?_redact_prose (by decide) (by decide +kernel) htext
      (searchedNames_of_pairwise (by decide +kernel)) (by decide +kernel)
  have hrule : ruleFor? Field.observacao.name = some .prose := ruleFor?_of_mem (by decide)
  obtain ⟨out, hsome, hread⟩ := not_infix_redact hrule (by decide +kernel) htext hname htraceable
    (by decide) (by decide +kernel) hends
  obtain rfl := Field.Value.text.inj (Option.some.inj (hout.symm.trans hsome))
  exact ⟨hname, htraceable, by decide, hends, hout, hread⟩

/-- A form with two names, and prose in which the end of the longer one follows the shorter one. -/
def namesAcross : Dictionary :=
  ((TextMap.empty.insert Field.primeiroLocatario.name (.text "Ana S. Silva")).insert
      Field.segundoLocatario.name (.text "Ana Souza")).insert
    Field.observacao.name (.text "Ana Souza Silva")

/-- Once the shorter name is redacted, its initial and the rest of the prose make up the longer one.
-/
theorem infix_redact_observacao
    : GivesName namesAcross "Ana S. Silva" ∧ 2 ≤ (Text.words "Ana S. Silva").length
      ∧ ¬folded "Ana S. Silva" <:+: folded (redactName "Ana S. Silva")
      ∧ ruleFor? Field.observacao.name = some .prose ∧ Redactable "Ana Souza Silva"
      ∧ namesAcross.get? Field.observacao.name = some (.text "Ana Souza Silva")
      ∧ (redact namesAcross).get? Field.observacao.name = some (.text "Ana S. Silva")
      ∧ folded "Ana S. Silva" <:+: folded "Ana S. Silva" := by
  have hname : GivesName namesAcross "Ana S. Silva" := by
    have hfilled : Dictionary.filled? namesAcross Field.primeiroLocatario.name
        = some "Ana S. Silva" := by decide +kernel
    exact .slot (by decide : Field.primeiroLocatario ∈ Role.slots .tenant) hfilled
  have htext : Redactable "Ana Souza Silva" := redactable_of_not_mem (by decide) (by decide)
  have hvalue : namesAcross.get? Field.observacao.name = some (.text "Ana Souza Silva") := by
    decide +kernel
  have hout : (redact namesAcross).get? Field.observacao.name = some (.text "Ana S. Silva") :=
    get?_redact_prose (by decide) hvalue htext (searchedNames_of_pairwise (by decide +kernel))
      (by decide +kernel)
  exact ⟨hname, by decide, by decide +kernel, ruleFor?_of_mem (by decide), htext, hvalue, hout,
    List.infix_rfl⟩

end LeasePapers.Redaction
