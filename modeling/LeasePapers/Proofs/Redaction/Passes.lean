import Mathlib.Data.List.Infix
import LeasePapers.Proofs.Redaction.Replaced

/-! What a name can be read from while other names are replaced. A redacted form is what is left of
the spelling without braces, or it has a wall that no reading of the name gets through, between a
beginning and an end of that spelling. So a reading of the name behind a replacement has been there
before it, and once the name itself has been replaced it is not read anywhere any more.
-/

namespace LeasePapers.Redaction

open Text (folded bare)

-----------------------------------------------------------------------------------------
-- Walls
-----------------------------------------------------------------------------------------

/-- No end of a name runs into a wall from the left. -/
def NoWayIn (name wall : Text) : Prop :=
  ∀ part, part <:+ name → part ≠ [] → ¬part <+: wall ∧ ¬wall <+: part

/-- No beginning of a name runs out of a wall to the right. -/
def NoWayOut (name wall : Text) : Prop :=
  ∀ part, part <+: name → part ≠ [] → ¬part <:+ wall ∧ ¬wall <:+ part

variable {name wall : Text}

/-- A wall keeps out what comes from the left, whatever stands behind it. -/
theorem NoWayIn.append (h : NoWayIn name wall) (more : Text) : NoWayIn name (wall ++ more) := by
  intro part hpart hne
  obtain ⟨hin, hthrough⟩ := h part hpart hne
  refine ⟨fun hread => ?_, fun hread => hthrough ((List.prefix_append _ _).trans hread)⟩
  exact (List.prefix_or_prefix_of_prefix hread (List.prefix_append wall more)).elim hin hthrough

/-- A wall keeps out what comes from the right, whatever stands before it. -/
theorem NoWayOut.append (h : NoWayOut name wall) (more : Text) : NoWayOut name (more ++ wall) := by
  intro part hpart hne
  obtain ⟨hin, hthrough⟩ := h part hpart hne
  refine ⟨fun hread => ?_, fun hread => hthrough ((List.suffix_append _ _).trans hread)⟩
  exact (List.suffix_or_suffix_of_suffix hread (List.suffix_append more wall)).elim hin hthrough

/-- The beginning of two texts ends in the first one or goes on into the second. -/
theorem prefix_append_cases {part first second : Text} (h : part <+: first ++ second)
    : part <+: first ∨ ∃ more, part = first ++ more ∧ more <+: second := by
  rcases List.prefix_or_prefix_of_prefix h (List.prefix_append first second) with hin | ⟨more, rfl⟩
  · exact Or.inl hin
  · exact Or.inr ⟨more, rfl, (List.prefix_append_right_inj first).mp h⟩

/-- The end of two texts begins in the second one or before it, in the first. -/
theorem suffix_append_cases {part first second : Text} (h : part <:+ first ++ second)
    : part <:+ second ∨ ∃ more, part = more ++ second ∧ more <:+ first := by
  rcases List.suffix_or_suffix_of_suffix h (List.suffix_append first second) with hin | ⟨more, rfl⟩
  · exact Or.inl hin
  · exact Or.inr ⟨more, rfl, List.suffix_append_self_iff.mp h⟩

/-- What is read of an end of the name before a wall ends before it. -/
theorem NoWayIn.prefix_of_prefix (h : NoWayIn name wall) {part before after : Text}
    (hpart : part <:+ name) (hread : part <+: before ++ (wall ++ after))
    : part <+: before := by
  rcases prefix_append_cases hread with hin | ⟨more, rfl, hmore⟩
  · exact hin
  · by_cases hnil : more = []
    · simp [hnil]
    · obtain ⟨hin, hthrough⟩ := h more ((List.suffix_append _ _).trans hpart) hnil
      exact absurd hmore (fun hread => (List.prefix_or_prefix_of_prefix hread
        (List.prefix_append wall after)).elim hin hthrough)

/-- What is read of a beginning of the name behind a wall begins behind it. -/
theorem NoWayOut.suffix_of_suffix (h : NoWayOut name wall) {part before after : Text}
    (hpart : part <+: name) (hread : part <:+ before ++ wall ++ after)
    : part <:+ after := by
  rcases suffix_append_cases hread with hin | ⟨more, rfl, hmore⟩
  · exact hin
  · by_cases hnil : more = []
    · simp [hnil]
    · obtain ⟨hin, hthrough⟩ := h more ((List.prefix_append _ _).trans hpart) hnil
      exact absurd hmore (fun hread => (List.suffix_or_suffix_of_suffix hread
        (List.suffix_append before wall)).elim hin hthrough)

/-- A name that is read in a text with a wall behind it is read before the wall or in it. -/
theorem NoWayIn.infix_cases (h : NoWayIn name wall) {before : Text}
    (hread : name <:+: before ++ wall)
    : name <:+: before ∨ name <:+: wall := by
  rcases List.infix_append_iff.mp hread with hbefore | hwall | ⟨lead, rest, rfl, hlead, hrest⟩
  · exact Or.inl hbefore
  · exact Or.inr hwall
  · by_cases hnil : rest = []
    · rw [hnil, List.append_nil]
      exact Or.inl hlead.isInfix
    · exact absurd hrest (h rest (List.suffix_append _ _) hnil).1

/-- A name that a wall lets not out is read inside of the wall or behind it. -/
theorem NoWayOut.infix_cases (h : NoWayOut name wall) {after : Text}
    (hread : name <:+: wall ++ after)
    : name <:+: wall ∨ name <:+: after := by
  rcases List.infix_append_iff.mp hread with hwall | hafter | ⟨lead, rest, rfl, hlead, hrest⟩
  · exact Or.inl hwall
  · exact Or.inr hafter
  · by_cases hnil : lead = []
    · rw [hnil, List.nil_append]
      exact Or.inr hrest.isInfix
    · exact absurd hlead (h lead (List.prefix_append _ _) hnil).1

-----------------------------------------------------------------------------------------
-- Redacted forms
-----------------------------------------------------------------------------------------

/-- How the redacted form of a known name can be read: it is the spelling without its braces, or it
has a wall for readings of the name between a beginning and an end of that.
-/
inductive Readable (name : Text) (known : KnownName) : Prop
  | whole (same : known.redacted = Text.withoutBraces known.spelling)
  | walled {front wall back : Text} (redacted : folded known.redacted = front ++ (wall ++ back))
      (noWayIn : NoWayIn name wall) (noWayOut : NoWayOut name wall)
      (hfront : front <+: bare known.spelling) (hback : back <:+ bare known.spelling)

/-- A known name that may be replaced while another name is looked out for. -/
structure Passable (name : Text) (known : KnownName) : Prop where
  readable : Readable name known
  braceFree : Text.BraceFree known.redacted
  changed : known.spelling ≠ known.redacted
  spelled : known.spelling ≠ []

variable {known : KnownName} {text out : Text}

/-- What a name is replaced with has no brace. -/
theorem Passable.braceFree_redactedBefore (h : Passable name known) (after : Text)
    : Text.BraceFree (redactedBefore known after) := by
  rcases redactedBefore_cases known after with hwhole | ⟨hshort, -⟩
  · rw [hwhole]
    exact h.braceFree
  · have hfree := h.braceFree
    rw [← hshort, Text.braceFree_append] at hfree
    exact hfree.1

/-- Braces are taken out behind a replaced name as if it were not there. -/
theorem Passable.bare_append (h : Passable name known) (after out : Text)
    : bare (redactedBefore known after ++ out)
      = folded (redactedBefore known after) ++ bare out := by
  rw [Text.bare_append, Text.bare_of_braceFree (h.braceFree_redactedBefore after)]

/-- What a name is replaced with is the beginning of its redacted form. -/
theorem prefix_redacted (known : KnownName) (after : Text)
    : folded (redactedBefore known after) <+: folded known.redacted := by
  rcases redactedBefore_cases known after with hwhole | ⟨hshort, -⟩
  · exact hwhole ▸ List.prefix_rfl
  · rw [← hshort, Text.folded_append]
    exact List.prefix_append _ _

/-- A redacted form is there in full where a name without dots is read on behind it: where its dot
is dropped another one follows.
-/
theorem redactedBefore_eq (known : KnownName) {after rest : Text} (hdot : '.' ∉ name)
    (hrest : rest <:+ name) (hne : rest ≠ []) (hread : rest <+: bare after)
    : redactedBefore known after = known.redacted := by
  rcases redactedBefore_cases known after with hwhole | ⟨-, hhead⟩
  · exact hwhole
  · obtain ⟨more, rfl⟩ := List.head?_eq_some_iff.mp hhead
    have hfolds : Text.foldChar '.' = '.' := by decide
    rw [Text.bare_cons more (by decide), hfolds, List.prefix_cons_iff] at hread
    rcases hread with hnil | ⟨others, rfl, -⟩
    · exact absurd hnil hne
    · exact absurd (hrest.subset List.mem_cons_self) hdot

/-- What is read of an end of the name behind replacements has been read there before, by induction
on the replacements.
-/
theorem Replaced.prefix_bare (h : Replaced known text out) (hknown : Passable name known)
    (hdot : '.' ∉ name) {part : Text} (hpart : part <:+ name) (hread : part <+: bare out)
    : part <+: bare text := by
  induction h generalizing part with
  | nil => exact hread
  | @keep c rest out _ _ ih =>
      cases hbrace : Text.isBrace c with
      | true =>
          rw [Text.bare_cons_of_isBrace _ hbrace] at hread ⊢
          exact ih hpart hread
      | false =>
          rw [Text.bare_cons _ hbrace, List.prefix_cons_iff] at hread ⊢
          refine hread.imp_right ?_
          rintro ⟨more, rfl, hmore⟩
          exact ⟨more, rfl, ih ((List.suffix_cons _ _).trans hpart) hmore⟩
  | @swap found after out spelled _ ih =>
      rw [hknown.bare_append] at hread
      rw [Text.bare_append, Text.bare_congr spelled]
      -- The part ends in the redacted form, or that is there in full and the rest follows it.
      have hcases : part <+: folded known.redacted
          ∨ ∃ more, part = folded known.redacted ++ more ∧ more <+: bare after := by
        rcases prefix_append_cases hread with hin | ⟨more, rfl, hmore⟩
        · exact Or.inl (hin.trans (prefix_redacted known after))
        · by_cases hnil : more = []
          · rw [hnil, List.append_nil]
            exact Or.inl (prefix_redacted known after)
          · have hrest := (List.suffix_append _ more).trans hpart
            have hafter := ih hrest hmore
            rw [redactedBefore_eq known hdot hrest hnil hafter]
            exact Or.inr ⟨more, rfl, hafter⟩
      cases hknown.readable with
      | whole same =>
          have hsame : folded known.redacted = bare known.spelling := by rw [same, bare]
          rw [hsame] at hcases
          rcases hcases with hin | ⟨more, rfl, hafter⟩
          · exact hin.trans (List.prefix_append _ _)
          · exact (List.prefix_append_right_inj _).mpr hafter
      | @walled front wall back redacted noWayIn _ hfront _ =>
          have hstart : part <+: front := by
            rw [redacted] at hcases
            rcases hcases with hin | ⟨more, hmore, -⟩
            · exact noWayIn.prefix_of_prefix hpart hin
            · rw [List.append_assoc, List.append_assoc] at hmore
              exact noWayIn.prefix_of_prefix hpart ⟨[], (List.append_nil _).trans hmore⟩
          exact (hstart.trans hfront).trans (List.prefix_append _ _)

/-- A reading that begins in a redacted form and leaves it begins in what that has in common with
the end of the spelling, and what follows has been read behind the spelling.
-/
theorem read_across {lead rest after : Text} (hknown : Passable name known) (hdot : '.' ∉ name)
    (htail : Replaced known after out) (hname : name = lead ++ rest) (hrest : rest ≠ [])
    (hlead : lead <:+ folded (redactedBefore known after)) (hread : rest <+: bare out)
    : redactedBefore known after = known.redacted
      ∧ lead <:+ bare known.spelling ∧ rest <+: bare after := by
  have hpart : rest <:+ name := hname ▸ List.suffix_append _ _
  have hafter : rest <+: bare after := htail.prefix_bare hknown hdot hpart hread
  have hwhole := redactedBefore_eq known hdot hpart hrest hafter
  refine ⟨hwhole, ?_, hafter⟩
  rw [hwhole] at hlead
  cases hknown.readable with
  | whole same =>
      rw [same] at hlead
      exact hlead
  | walled redacted _ noWayOut _ hback =>
      rw [redacted, ← List.append_assoc] at hlead
      exact (noWayOut.suffix_of_suffix (hname ▸ List.prefix_append _ _) hlead).trans hback

/-- What is read in a replacement is read in the redacted form. -/
theorem infix_redacted_of_before {after : Text}
    (h : name <:+: folded (redactedBefore known after))
    : name <:+: folded known.redacted :=
  h.trans (prefix_redacted known after).isInfix

-----------------------------------------------------------------------------------------
-- After the name itself
-----------------------------------------------------------------------------------------

/-- Where a name is not read, replacing others does not make it readable, unless it is part of a
redacted form, by induction on the replacements.
-/
theorem Replaced.infix_bare (h : Replaced known text out) (hknown : Passable name known)
    (hdot : '.' ∉ name) (hread : name <:+: bare out)
    : name <:+: bare text ∨ name <:+: folded known.redacted := by
  induction h with
  | nil => exact Or.inl hread
  | @keep c rest out unspelled tail ih =>
      cases hbrace : Text.isBrace c with
      | true =>
          rw [Text.bare_cons_of_isBrace _ hbrace] at hread ⊢
          exact ih hread
      | false =>
          have hwhole := (Replaced.keep unspelled tail).prefix_bare hknown hdot List.suffix_rfl
          rw [Text.bare_cons _ hbrace, List.infix_cons_iff, ← Text.bare_cons _ hbrace] at hread
          rw [Text.bare_cons _ hbrace, List.infix_cons_iff, ← Text.bare_cons _ hbrace, or_assoc]
          exact hread.imp hwhole ih
  | @swap found after out spelled tail ih =>
      rw [hknown.bare_append, List.infix_append_iff] at hread
      rw [Text.bare_append, Text.bare_congr spelled, List.infix_append_iff]
      rcases hread with hin | hlater | ⟨lead, rest, hname, hlead, hrest⟩
      · exact Or.inr (infix_redacted_of_before hin)
      · exact (ih hlater).imp_left (fun hafter => Or.inr (Or.inl hafter))
      · by_cases hnil : rest = []
        · rw [hnil, List.append_nil] at hname
          exact Or.inr (infix_redacted_of_before (hname ▸ hlead.isInfix))
        · obtain ⟨-, hspelled, hafter⟩ := read_across hknown hdot tail hname hnil hlead hrest
          exact Or.inl (Or.inr (Or.inr ⟨lead, rest, hname, hspelled, hafter⟩))

/-- No brace of a text stands inside a spelling of a name: wherever the name is read without the
braces, it is spelled with no brace in it.
-/
def Unbroken (name text : Text) : Prop :=
  ∀ c rest, c :: rest <:+ text → Text.isBrace c = false →
    name <+: bare (c :: rest) → name <+: folded (c :: rest)

/-- Whether a name is unbroken in a text is found out at every place of the text. -/
instance (name text : Text) : Decidable (Unbroken name text) :=
  decidable_of_iff
    (∀ rest ∈ text.tails, rest.head?.any Text.isBrace = true
      ∨ (name <+: bare rest → name <+: folded rest))
    ⟨fun h c rest hrest hc hread => by
        have hrest := h (c :: rest) ((List.mem_tails _ _).mpr hrest)
        rw [List.head?_cons, Option.any_some, hc] at hrest
        exact hrest.resolve_left Bool.false_ne_true hread,
      fun h rest hrest => by
        cases rest with
        | nil => exact Or.inr id
        | cons c rest =>
            refine or_iff_not_imp_left.mpr (fun hc => h c rest ((List.mem_tails _ _).mp hrest) ?_)
            simpa using hc⟩

/-- A name that is unbroken in a text is so in the rest of it. -/
theorem Unbroken.of_suffix (h : Unbroken name text) {rest : Text} (hrest : rest <:+ text)
    : Unbroken name rest :=
  fun c more hmore => h c more (hmore.trans hrest)

/-- Once an unbroken name has been replaced itself, it is not read any more, by induction on the
replacements.
-/
theorem Replaced.not_infix_bare (h : Replaced known text out) (hknown : Passable name known)
    (hdot : '.' ∉ name) (hspelling : folded known.spelling = name)
    (hends : ∀ lead, lead <+: name → lead <:+ folded known.redacted → lead = [])
    (hfree : ¬name <:+: folded known.redacted) (hunbroken : Unbroken name text)
    : ¬name <:+: bare out := by
  induction h with
  | nil =>
      intro hread
      exact hfree (hread.trans List.nil_infix)
  | @keep c rest out unspelled tail ih =>
      have htail := ih (hunbroken.of_suffix (List.suffix_cons _ _))
      cases hbrace : Text.isBrace c with
      | true => rwa [Text.bare_cons_of_isBrace _ hbrace]
      | false =>
          have hwhole := (Replaced.keep unspelled tail).prefix_bare hknown hdot List.suffix_rfl
          rw [Text.bare_cons _ hbrace, List.infix_cons_iff, ← Text.bare_cons _ hbrace]
          rintro (hhere | hlater)
          · have hread := hunbroken c rest List.suffix_rfl hbrace (hwhole hhere)
            exact unspelled (hspelling ▸ hread)
          · exact htail hlater
  | @swap found after out spelled tail ih =>
      have htail := ih (hunbroken.of_suffix (List.suffix_append _ _))
      rw [hknown.bare_append, List.infix_append_iff]
      rintro (hin | hlater | ⟨lead, rest, hname, hlead, hrest⟩)
      · exact hfree (infix_redacted_of_before hin)
      · exact htail hlater
      · by_cases hnil : rest = []
        · rw [hnil, List.append_nil] at hname
          exact hfree (infix_redacted_of_before (hname ▸ hlead.isInfix))
        · obtain ⟨hwhole, -, -⟩ := read_across hknown hdot tail hname hnil hlead hrest
          rw [hwhole] at hlead
          have hempty := hends lead (hname ▸ List.prefix_append _ _) hlead
          rw [hempty, List.nil_append] at hname
          exact htail (hname ▸ hrest.isInfix)

-----------------------------------------------------------------------------------------
-- Before the name itself
-----------------------------------------------------------------------------------------

/-- What is spelled before a replacement and read after it is spelled after it, by induction on the
replacements.
-/
theorem Replaced.prefix_folded (h : Replaced known text out) (hknown : Passable name known)
    (hdot : '.' ∉ name) (hfree : Text.BraceFree name) {part : Text} (hpart : part <:+ name)
    (hspelled : part <+: folded text) (hread : part <+: bare out)
    : part <+: folded out := by
  induction h generalizing part with
  | nil => exact hspelled
  | @keep c rest out _ _ ih =>
      rw [Text.folded_cons, List.prefix_cons_iff] at hspelled ⊢
      rcases hspelled with rfl | ⟨more, rfl, hmore⟩
      · exact Or.inl rfl
      · have hc : Text.isBrace c = false := by
          rw [← Text.isBrace_foldChar]
          exact hfree _ (hpart.subset List.mem_cons_self)
        rw [Text.bare_cons _ hc, List.cons_prefix_cons] at hread
        exact Or.inr ⟨more, rfl, ih ((List.suffix_cons _ _).trans hpart) hmore hread.2⟩
  | @swap found after out spelled tail ih =>
      rw [hknown.bare_append] at hread
      rw [Text.folded_append]
      rcases prefix_append_cases hread with hin | ⟨more, rfl, hmore⟩
      · exact hin.trans (List.prefix_append _ _)
      · have hrest := (List.suffix_append _ more).trans hpart
        by_cases hnil : more = []
        · simp [hnil]
        · have hafter := tail.prefix_bare hknown hdot hrest hmore
          rw [redactedBefore_eq known hdot hrest hnil hafter] at hspelled hpart ⊢
          cases hknown.readable with
          | whole same =>
              -- The spelling has braces, and what is spelled without any ends before them.
              have hsame : folded known.redacted = bare found := by
                rw [Text.bare_congr spelled, same, bare]
              have hpartFree : Text.BraceFree (folded known.redacted ++ more) :=
                fun c hc => hfree c (hpart.subset hc)
              rcases Text.prefix_bare_or_eq hpartFree hspelled with hin | hplain
              · have hlength := hin.length_le
                rw [hsame, List.length_append] at hlength
                exact absurd (List.length_eq_zero_iff.mp (by omega)) hnil
              · rw [spelled, Text.bare_congr spelled] at hplain
                have hspelling := Text.braceFree_of_folded_eq_bare hplain
                rw [Text.withoutBraces_of_braceFree hspelling] at same
                exact absurd same.symm hknown.changed
          | @walled front wall back redacted noWayIn _ _ _ =>
              have hstart : folded known.redacted ++ more <+: front := by
                have hwall : folded known.redacted ++ more = front ++ (wall ++ (back ++ more)) := by
                  rw [redacted, List.append_assoc, List.append_assoc]
                exact noWayIn.prefix_of_prefix hpart ⟨[], (List.append_nil _).trans hwall⟩
              have hlength := hstart.length_le
              rw [redacted] at hlength
              simp only [List.length_append] at hlength
              exact absurd (List.length_eq_zero_iff.mp (by omega)) hnil

/-- No replacement of another name puts braces into a spelling, by induction on the replacements. -/
theorem Replaced.unbroken (h : Replaced known text out) (hknown : Passable name known)
    (hdot : '.' ∉ name) (hfree : Text.BraceFree name) (hunbroken : Unbroken name text)
    : Unbroken name out := by
  induction h with
  | nil => exact hunbroken
  | @keep c rest out unspelled tail ih =>
      have htail := ih (hunbroken.of_suffix (List.suffix_cons _ _))
      intro d more hmore hd hread
      rcases List.suffix_cons_iff.mp hmore with hwhole | hlater
      · obtain ⟨rfl, rfl⟩ := List.cons.inj hwhole
        have hkeep := Replaced.keep unspelled tail
        have hbefore := hkeep.prefix_bare hknown hdot List.suffix_rfl hread
        exact hkeep.prefix_folded hknown hdot hfree List.suffix_rfl
          (hunbroken d rest List.suffix_rfl hd hbefore) hread
      · exact htail d more hlater hd hread
  | @swap found after out spelled tail ih =>
      have htail := ih (hunbroken.of_suffix (List.suffix_append _ _))
      intro d more hmore hd hread
      rcases suffix_append_cases hmore with hlater | ⟨lead, hlead, hsuffix⟩
      · exact htail d more hlater hd hread
      · by_cases hnil : lead = []
        · rw [hnil, List.nil_append] at hlead
          exact htail d more (hlead ▸ List.suffix_rfl) hd hread
        · have hleadFree : Text.BraceFree lead :=
            fun c hc => hknown.braceFree_redactedBefore after c (hsuffix.subset hc)
          rw [hlead, Text.bare_append, Text.bare_of_braceFree hleadFree] at hread
          rw [hlead, Text.folded_append]
          rcases prefix_append_cases hread with hin | ⟨rest, hname, hrest⟩
          · exact hin.trans (List.prefix_append _ _)
          · by_cases hend : rest = []
            · rw [hname, hend]
              simp
            · -- The reading leaves the redacted form, so it was there before, without braces.
              obtain ⟨-, hspelling, hafter⟩ :=
                read_across hknown hdot tail hname hend (hsuffix.map _) hrest
              rw [← Text.bare_congr spelled] at hspelling
              obtain ⟨c, begun, hbegun, hc, hbare⟩ :=
                Text.exists_suffix_of_bare hspelling (by simpa using hnil)
              have hsuffixed : c :: (begun ++ after) <:+ found ++ after :=
                List.suffix_append_self_iff.mpr hbegun
              have hbefore : name <+: bare (c :: (begun ++ after)) := by
                rw [← List.cons_append, Text.bare_append, hbare, hname]
                exact (List.prefix_append_right_inj _).mpr hafter
              have hspelled := hunbroken c _ hsuffixed hc hbefore
              rw [← List.cons_append] at hspelled
              rcases Text.prefix_bare_or_eq hfree hspelled with hshort | hplain
              · have hlength := hshort.length_le
                rw [hbare, hname, List.length_append] at hlength
                exact absurd (List.length_eq_zero_iff.mp (by omega)) hend
              · rw [Text.folded_append, hplain, hbare, hname,
                  List.prefix_append_right_inj] at hspelled
                rw [hname, List.prefix_append_right_inj]
                exact tail.prefix_folded hknown hdot hfree (hname ▸ List.suffix_append _ _)
                  hspelled hrest

-----------------------------------------------------------------------------------------
-- All names
-----------------------------------------------------------------------------------------

variable {names : List KnownName}

/-- All names before a name leave it unbroken, by induction on them. -/
theorem unbroken_foldl (hnames : ∀ known ∈ names, Passable name known) (hdot : '.' ∉ name)
    (hfree : Text.BraceFree name) (h : Unbroken name text)
    : Unbroken name (names.foldl replaceName text) := by
  induction names generalizing text with
  | nil => exact h
  | cons known rest ih =>
      rw [List.forall_mem_cons] at hnames
      have hreplaced := replaced_replaceName text hnames.1.spelled
      exact ih hnames.2 (hreplaced.unbroken hnames.1 hdot hfree h)

/-- All names behind a name leave it unread, by induction on them. -/
theorem not_infix_foldl
    (hnames : ∀ known ∈ names, Passable name known ∧ ¬name <:+: folded known.redacted)
    (hdot : '.' ∉ name) (h : ¬name <:+: bare text)
    : ¬name <:+: bare (names.foldl replaceName text) := by
  induction names generalizing text with
  | nil => exact h
  | cons known rest ih =>
      rw [List.forall_mem_cons] at hnames
      refine ih hnames.2 (fun hread => ?_)
      have hreplaced := replaced_replaceName text hnames.1.1.spelled
      rcases hreplaced.infix_bare hnames.1.1 hdot hread with hbefore | hin
      · exact h hbefore
      · exact hnames.1.2 hin

end LeasePapers.Redaction
