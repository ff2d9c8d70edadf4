import LeasePapers.Template.Segment
import Mathlib.Data.List.Chain

/-! The scanner cuts a template into segments and loses nothing. What it cuts out has a shape of its
own, and segments of that shape are cut out again when they are written one after the other.
-/

namespace LeasePapers.Template

-----------------------------------------------------------------------------------------
-- Pairs of marks
-----------------------------------------------------------------------------------------

/-- A character stands twice in a row somewhere in a text. -/
def HasPair (mark : Char) (text : Text) : Prop :=
  twice mark <:+: text

/-- A pair stands at the beginning of a text or in the rest. -/
theorem hasPair_cons {mark c : Char} {rest : Text}
    : HasPair mark (c :: rest) ↔ (c = mark ∧ rest.head? = some mark) ∨ HasPair mark rest := by
  rw [HasPair, HasPair, List.infix_cons_iff]
  refine or_congr_left ?_
  cases rest with
  | nil => simp [twice]
  | cons d rest => simp [twice, eq_comm]

/-- The empty text has no pair. -/
theorem not_hasPair_nil {mark : Char} : ¬HasPair mark [] := by
  simp [HasPair, twice]

/-- A text has the pairs of its parts. -/
theorem HasPair.of_infix {mark : Char} {part text : Text} (h : HasPair mark part)
    (hpart : part <:+: text)
    : HasPair mark text :=
  h.trans hpart

/-- A text followed by a mark has a pair if it has one already or ends in the mark, by induction on
the text. -/
theorem hasPair_concat {mark : Char} {text : Text}
    : HasPair mark (text ++ [mark]) ↔ HasPair mark text ∨ text.getLast? = some mark := by
  induction text with
  | nil => simp [HasPair, twice, List.infix_cons_iff]
  | cons c rest ih =>
      rw [List.cons_append, hasPair_cons, ih, hasPair_cons]
      cases rest with
      | nil => simp [not_hasPair_nil]
      | cons d rest => simp [or_assoc]

/-- A text without a mark has no pair of it. -/
theorem not_hasPair_of_not_mem {mark : Char} {text : Text} (h : mark ∉ text)
    : ¬HasPair mark text :=
  fun hpair => h (hpair.subset (by simp [twice]))

/-- A piece without the character has no part in a pair, whether it comes first or last, by
induction on the piece. -/
theorem hasPair_append_left {mark : Char} {piece text : Text} (h : mark ∉ piece)
    : HasPair mark (piece ++ text) ↔ HasPair mark text := by
  induction piece with
  | nil => rfl
  | cons c piece ih =>
      rw [List.mem_cons, not_or] at h
      rw [List.cons_append, hasPair_cons, ih h.2]
      simp [Ne.symm h.1]

/-- A pair is one from either side. -/
theorem hasPair_reverse {mark : Char} {text : Text}
    : HasPair mark text.reverse ↔ HasPair mark text := by
  rw [HasPair, HasPair, ← List.reverse_infix, List.reverse_reverse]
  rfl

/-- A piece without the mark adds no pair. -/
theorem hasPair_append_right {mark : Char} {piece text : Text} (h : mark ∉ piece)
    : HasPair mark (text ++ piece) ↔ HasPair mark text := by
  have hback : mark ∉ piece.reverse := by simpa using h
  rw [← hasPair_reverse, List.reverse_append, hasPair_append_left hback, hasPair_reverse]

/-- A text is not cut if and only if it has no pair, by induction on the text. -/
theorem cutAtPair_eq_none_iff {mark : Char} {text : Text}
    : cutAtPair mark text = none ↔ ¬HasPair mark text := by
  induction text with
  | nil => simp [cutAtPair, not_hasPair_nil]
  | cons c rest ih =>
      rw [cutAtPair, hasPair_cons]
      split
      · rename_i hc
        simp [hc]
      · rename_i hc
        simp [hc, ih]

/-- The cut is at the first pair, so the piece before it forms none with the mark that follows, by
induction on the text. -/
theorem not_hasPair_of_cutAtPair {mark : Char} {text before after : Text}
    (h : cutAtPair mark text = some (before, after))
    : ¬HasPair mark (before ++ [mark]) := by
  induction text generalizing before with
  | nil => simp [cutAtPair] at h
  | cons c rest ih =>
      rw [cutAtPair] at h
      split at h
      · obtain ⟨rfl, -⟩ := Prod.mk.inj (Option.some.inj h)
        simp [HasPair, twice, List.infix_cons_iff]
      · rename_i hc
        simp only [Option.map_eq_some_iff, Prod.mk.injEq, Prod.exists] at h
        obtain ⟨start, _, hcut, rfl, rfl⟩ := h
        rw [List.cons_append, hasPair_cons, not_or]
        refine ⟨?_, ih hcut⟩
        rintro ⟨hmark, hhead⟩
        refine hc ⟨hmark, ?_⟩
        rw [eq_append_of_cutAtPair hcut]
        cases start with
        | nil => simp [twice]
        | cons d start => simpa using hhead

/-- A text is cut at a pair if no pair begins earlier, by induction on what stands before it. -/
theorem cutAtPair_append {mark : Char} {before : Text} (after : Text)
    (h : ¬HasPair mark (before ++ [mark]))
    : cutAtPair mark (before ++ twice mark ++ after) = some (before, after) := by
  induction before with
  | nil => simp [twice, cutAtPair]
  | cons c rest ih =>
      rw [List.cons_append, hasPair_cons, not_or] at h
      rw [List.cons_append, List.cons_append, cutAtPair, ih h.2, if_neg]
      · simp
      · rintro ⟨hmark, hhead⟩
        refine h.1 ⟨hmark, ?_⟩
        cases rest with
        | nil => simp
        | cons d rest => simpa using hhead

/-- A text is not cut from behind if and only if it has no pair, by induction on the text. -/
theorem cutAtLastPair_eq_none_iff {mark : Char} {text : Text}
    : cutAtLastPair mark text = none ↔ ¬HasPair mark text := by
  induction text with
  | nil => simp [cutAtLastPair, not_hasPair_nil]
  | cons c rest ih =>
      rw [cutAtLastPair, hasPair_cons]
      cases hcut : cutAtLastPair mark rest with
      | none =>
          have hrest := ih.mp hcut
          simp [hrest]
      | some parts =>
          have hrest : HasPair mark rest := by
            by_contra hno
            simp [ih.mpr hno] at hcut
          simp [hrest]

/-- The last cut leaves a piece without pairs behind it, by induction on the text. -/
theorem eq_append_of_cutAtLastPair {mark : Char} {text before after : Text}
    (h : cutAtLastPair mark text = some (before, after))
    : text = before ++ twice mark ++ after ∧ ¬HasPair mark after := by
  induction text generalizing before with
  | nil => simp [cutAtLastPair] at h
  | cons c rest ih =>
      rw [cutAtLastPair] at h
      cases hcut : cutAtLastPair mark rest with
      | some parts =>
          simp only [hcut, Option.some.injEq, Prod.mk.injEq] at h
          obtain ⟨rfl, rfl⟩ := h
          obtain ⟨hrest, hafter⟩ := ih hcut
          exact ⟨by simp [hrest], hafter⟩
      | none =>
          simp only [hcut, Option.ite_none_right_eq_some, Option.some.injEq, Prod.mk.injEq] at h
          obtain ⟨⟨rfl, hhead⟩, rfl, rfl⟩ := h
          have hrest := cutAtLastPair_eq_none_iff.mp hcut
          refine ⟨?_, fun hpair => hrest (hpair.of_infix (List.tail_suffix rest).isInfix)⟩
          cases rest with
          | nil => simp at hhead
          | cons d rest => simpa [twice, eq_comm] using hhead

-----------------------------------------------------------------------------------------
-- The shape of segments
-----------------------------------------------------------------------------------------

/-- What may stand between the marks of a tag: no further pair of opening marks, and no pair of
closing marks before the one that ends the tag.
-/
structure Complete (inner : Text) : Prop where
  noOpening : ¬HasPair openMark inner
  noClosing : ¬HasPair closeMark (inner ++ [closeMark])

/-- What has no pair of either mark, and no half of the closing one at its end, is complete. -/
theorem complete_of_not_hasPair {inner : Text} (hopen : ¬HasPair openMark inner)
    (hclose : ¬HasPair closeMark inner) (hlast : inner.getLast? ≠ some closeMark)
    : Complete inner := by
  refine ⟨hopen, ?_⟩
  rw [hasPair_concat, not_or]
  exact ⟨hclose, hlast⟩

/-- The shape of a segment by itself. -/
def Segment.Shaped : Segment → Prop
  | .text content => content ≠ [] ∧ ¬HasPair openMark content
  | .tag inner => Complete inner
  | .unterminated raw => raw ≠ []

/-- A segment is something. -/
theorem Segment.Shaped.raw_ne_nil {segment : Segment} (h : segment.Shaped) : segment.raw ≠ [] := by
  cases segment with
  | text content => exact h.1
  | tag inner => simp [Segment.raw, tagText, twice]
  | unterminated raw => exact h

/-- What a segment leaves to the next one: after literal text comes no more of it, and no opening
mark that would make a pair with the end of the text.
-/
def Parted (segment next : Segment) : Prop :=
  ∀ content, segment = .text content →
    content.getLast? ≠ some openMark ∧ ∀ more, next ≠ .text more

/-- A tag leaves anything to the next segment. -/
theorem parted_tag (inner : Text) (next : Segment) : Parted (.tag inner) next := by
  intro content he
  cases he

/-- An unterminated tag leaves anything to the next segment. -/
theorem parted_unterminated (raw : Text) (next : Segment) : Parted (.unterminated raw) next := by
  intro content he
  cases he

-----------------------------------------------------------------------------------------
-- What the scanner cuts out
-----------------------------------------------------------------------------------------

/-- A text without an opening mark is literal. -/
theorem segments_of_none {text : Text} (hopen : cutAtPair openMark text = none)
    : segments text = Segment.ofText text := by
  rw [segments]
  split
  · rfl
  · simp_all

/-- A text without a closing mark ends with an unterminated tag. -/
theorem segments_of_unterminated {text before after : Text}
    (hopen : cutAtPair openMark text = some (before, after))
    (hclose : cutAtPair closeMark after = none)
    : segments text = Segment.ofText before ++ [.unterminated (twice openMark ++ after)] := by
  rw [segments]
  split
  · simp_all
  · rename_i hcut
    obtain ⟨rfl, rfl⟩ := Prod.mk.inj (Option.some.inj (hcut.symm.trans hopen))
    split
    · rfl
    · simp_all

/-- A tag is cut out between what stands before it and what follows. -/
theorem segments_of_tag {text before after inner rest : Text}
    (hopen : cutAtPair openMark text = some (before, after))
    (hclose : cutAtPair closeMark after = some (inner, rest))
    : segments text = Segment.ofText before ++ (tagSegments inner ++ segments rest) := by
  rw [segments]
  split
  · simp_all
  · rename_i hcut
    obtain ⟨rfl, rfl⟩ := Prod.mk.inj (Option.some.inj (hcut.symm.trans hopen))
    split
    · simp_all
    · rename_i hcut'
      obtain ⟨rfl, rfl⟩ := Prod.mk.inj (Option.some.inj (hcut'.symm.trans hclose))
      rfl

/-- Literal text is its own segment, or none if it is empty. -/
theorem raw_ofText (content : Text) : (Segment.ofText content).flatMap Segment.raw = content := by
  by_cases h : content = [] <;> simp [Segment.ofText, h, Segment.raw]

/-- The segments of a tag are written as the tag. -/
theorem raw_tagSegments (inner : Text)
    : (tagSegments inner).flatMap Segment.raw = tagText inner := by
  rw [tagSegments]
  cases hcut : cutAtLastPair openMark inner with
  | none => simp [Segment.raw]
  | some parts =>
      obtain ⟨stale, rest⟩ := parts
      simp [Segment.raw, tagText, (eq_append_of_cutAtLastPair hcut).1]

/-- The segments of a template, written one after the other, are the template, by induction on the
segments. -/
theorem raw_segments (text : Text) : (segments text).flatMap Segment.raw = text := by
  induction text using segments.induct with
  | case1 text hopen => rw [segments_of_none hopen, raw_ofText]
  | case2 text before after hopen ih =>
      rw [eq_append_of_cutAtPair hopen]
      cases hclose : cutAtPair closeMark after with
      | none =>
          rw [← eq_append_of_cutAtPair hopen, segments_of_unterminated hopen hclose,
            List.flatMap_append, raw_ofText, eq_append_of_cutAtPair hopen]
          simp [Segment.raw]
      | some parts =>
          obtain ⟨inner, rest⟩ := parts
          rw [← eq_append_of_cutAtPair hopen, segments_of_tag hopen hclose, List.flatMap_append,
            List.flatMap_append, raw_ofText, raw_tagSegments, ih inner rest hclose,
            eq_append_of_cutAtPair hopen, eq_append_of_cutAtPair hclose]
          simp [tagText]

/-- The tag between an opening mark and the first closing mark is complete. -/
theorem shaped_tagSegments {inner : Text} (hclose : ¬HasPair closeMark (inner ++ [closeMark]))
    : ∀ segment ∈ tagSegments inner, segment.Shaped := by
  intro segment hmem
  rw [tagSegments] at hmem
  cases hcut : cutAtLastPair openMark inner with
  | none =>
      simp only [hcut, List.mem_singleton] at hmem
      subst hmem
      exact ⟨cutAtLastPair_eq_none_iff.mp hcut, hclose⟩
  | some parts =>
      obtain ⟨stale, rest⟩ := parts
      obtain ⟨hinner, hrest⟩ := eq_append_of_cutAtLastPair hcut
      simp only [hcut, List.mem_cons, List.not_mem_nil, or_false] at hmem
      rcases hmem with rfl | rfl
      · simp [Segment.Shaped, twice]
      · refine ⟨hrest, fun hpair => hclose (hpair.of_infix ?_)⟩
        rw [hinner, List.append_assoc]
        exact (List.suffix_append _ _).isInfix

/-- Literal text without an opening mark has the shape of it. -/
theorem shaped_ofText {content : Text} (h : ¬HasPair openMark content)
    : ∀ segment ∈ Segment.ofText content, segment.Shaped := by
  intro segment hmem
  rw [Segment.ofText] at hmem
  split at hmem
  · cases hmem
  · rename_i hne
    rw [List.mem_singleton.mp hmem]
    exact ⟨hne, h⟩

/-- Every segment of a template is shaped, by induction along the scanner. -/
theorem shaped_segments (text : Text) : ∀ segment ∈ segments text, segment.Shaped := by
  induction text using segments.induct with
  | case1 text hopen =>
      rw [segments_of_none hopen]
      exact shaped_ofText (cutAtPair_eq_none_iff.mp hopen)
  | case2 text before after hopen ih =>
      have hbefore : ¬HasPair openMark before := fun hpair =>
        not_hasPair_of_cutAtPair hopen (hasPair_concat.mpr (Or.inl hpair))
      intro segment hmem
      cases hclose : cutAtPair closeMark after with
      | none =>
          rw [segments_of_unterminated hopen hclose] at hmem
          rcases List.mem_append.mp hmem with hmem | hmem
          · exact shaped_ofText hbefore segment hmem
          · rw [List.mem_singleton.mp hmem]
            simp [Segment.Shaped, twice]
      | some parts =>
          obtain ⟨inner, rest⟩ := parts
          rw [segments_of_tag hopen hclose] at hmem
          rcases List.mem_append.mp hmem with hmem | hmem
          · exact shaped_ofText hbefore segment hmem
          · rcases List.mem_append.mp hmem with hmem | hmem
            · exact shaped_tagSegments (not_hasPair_of_cutAtPair hclose) segment hmem
            · exact ih inner rest hclose segment hmem

/-- Literal text before an opening mark is parted from what follows. -/
theorem isChain_ofText_append {content : Text} {more : List Segment}
    (hcontent : ¬HasPair openMark (content ++ [openMark]))
    (hhead : ∀ next ∈ more.head?, ∀ other, next ≠ .text other) (hmore : more.IsChain Parted)
    : (Segment.ofText content ++ more).IsChain Parted := by
  rw [Segment.ofText]
  split
  · exact hmore
  · refine hmore.cons ?_
    intro next hnext text he
    obtain rfl := Segment.text.inj he
    exact ⟨fun hlast => hcontent (hasPair_concat.mpr (Or.inr hlast)), hhead next hnext⟩

/-- A tag leaves anything to what follows. -/
theorem isChain_tagSegments_append {inner : Text} {more : List Segment}
    (hmore : more.IsChain Parted)
    : (tagSegments inner ++ more).IsChain Parted := by
  rw [tagSegments]
  cases cutAtLastPair openMark inner with
  | none => exact hmore.cons (fun next _ => parted_tag inner next)
  | some parts =>
      refine .cons (hmore.cons (fun next _ => parted_tag _ next)) ?_
      exact fun next _ => parted_unterminated _ next

/-- Neighbouring segments of a template are parted, by induction along the scanner. -/
theorem isChain_segments (text : Text) : (segments text).IsChain Parted := by
  induction text using segments.induct with
  | case1 text hopen =>
      rw [segments_of_none hopen, Segment.ofText]
      split <;> simp
  | case2 text before after hopen ih =>
      have hbefore := not_hasPair_of_cutAtPair hopen
      cases hclose : cutAtPair closeMark after with
      | none =>
          rw [segments_of_unterminated hopen hclose]
          exact isChain_ofText_append hbefore (by simp) (by simp)
      | some parts =>
          obtain ⟨inner, rest⟩ := parts
          rw [segments_of_tag hopen hclose]
          refine isChain_ofText_append hbefore ?_
            (isChain_tagSegments_append (ih inner rest hclose))
          rw [tagSegments]
          cases cutAtLastPair openMark inner <;> simp

/-- A segment that is no literal text begins with the opening mark of a tag. -/
def Segment.Opening : Segment → Prop
  | .text _ => True
  | .tag inner => twice openMark <+: tagText inner
  | .unterminated raw => twice openMark <+: raw

/-- Every segment of a template but literal text begins with the opening mark, by induction along
the scanner. -/
theorem opening_segments (text : Text) : ∀ segment ∈ segments text, segment.Opening := by
  have htext : ∀ content : Text, ∀ segment ∈ Segment.ofText content, segment.Opening := by
    intro content segment hmem
    rw [Segment.ofText] at hmem
    split at hmem
    · cases hmem
    · rw [List.mem_singleton.mp hmem]
      trivial
  have hopening : ∀ inner : Text, (Segment.tag inner).Opening := by
    intro inner
    rw [Segment.Opening, tagText, List.append_assoc]
    exact List.prefix_append _ _
  have htag : ∀ inner : Text, ∀ segment ∈ tagSegments inner, segment.Opening := by
    intro inner
    rw [tagSegments]
    split
    · exact List.forall_mem_singleton.mpr (hopening _)
    · exact List.forall_mem_cons.mpr
        ⟨List.prefix_append _ _, List.forall_mem_singleton.mpr (hopening _)⟩
  induction text using segments.induct with
  | case1 text hopen =>
      rw [segments_of_none hopen]
      exact htext text
  | case2 text before after hopen ih =>
      cases hclose : cutAtPair closeMark after with
      | none =>
          rw [segments_of_unterminated hopen hclose]
          exact List.forall_mem_append.mpr
            ⟨htext before, List.forall_mem_singleton.mpr (List.prefix_append _ _)⟩
      | some parts =>
          obtain ⟨inner, rest⟩ := parts
          rw [segments_of_tag hopen hclose]
          exact List.forall_mem_append.mpr
            ⟨htext before, List.forall_mem_append.mpr ⟨htag inner, ih inner rest hclose⟩⟩

-----------------------------------------------------------------------------------------
-- What is written is scanned again
-----------------------------------------------------------------------------------------

/-- A complete tag is cut out of the text around it. -/
theorem segments_tagText (before : Text) {inner : Text} (rest : Text)
    (hbefore : ¬HasPair openMark (before ++ [openMark])) (hinner : Complete inner)
    : segments (before ++ tagText inner ++ rest)
      = Segment.ofText before ++ .tag inner :: segments rest := by
  have hopen : cutAtPair openMark (before ++ tagText inner ++ rest)
      = some (before, inner ++ twice closeMark ++ rest) := by
    simpa [tagText] using cutAtPair_append (inner ++ twice closeMark ++ rest) hbefore
  have htag : tagSegments inner = [.tag inner] := by
    rw [tagSegments, cutAtLastPair_eq_none_iff.mpr hinner.noOpening]
  rw [segments_of_tag hopen (cutAtPair_append rest hinner.noClosing), htag]
  rfl

/-- Shaped and parted segments without unterminated ones are the segments of what they write, by
induction on the segments; a literal segment is cut out together with the tag after it.
-/
theorem segments_raw {written : List Segment} (hshaped : ∀ segment ∈ written, segment.Shaped)
    (hparted : written.IsChain Parted)
    (hterminated : ∀ raw, .unterminated raw ∉ written)
    : segments (written.flatMap Segment.raw) = written := by
  match written with
  | [] =>
      rw [List.flatMap_nil, segments_of_none rfl]
      rfl
  | .unterminated raw :: rest => exact absurd (by simp) (hterminated raw)
  | .tag inner :: rest =>
      rw [List.forall_mem_cons] at hshaped
      have hrest :=
        segments_raw hshaped.2 hparted.tail (fun raw hmem => hterminated raw (by simp [hmem]))
      have h := segments_tagText [] (rest.flatMap Segment.raw)
        (by simp [HasPair, twice, List.infix_cons_iff]) hshaped.1
      rw [hrest] at h
      exact h
  | [.text content] =>
      obtain ⟨hne, hcontent⟩ := hshaped (.text content) (by simp)
      rw [List.flatMap_singleton, Segment.raw,
        segments_of_none (cutAtPair_eq_none_iff.mpr hcontent), Segment.ofText, if_neg hne]
  | .text content :: .text more :: rest =>
      obtain ⟨-, hnext⟩ := (List.isChain_cons_cons.mp hparted).1 content rfl
      exact absurd rfl (hnext more)
  | .text content :: .unterminated raw :: rest => exact absurd (by simp) (hterminated raw)
  | .text content :: .tag inner :: rest =>
      rw [List.forall_mem_cons, List.forall_mem_cons] at hshaped
      obtain ⟨⟨hne, hcontent⟩, htag, hshaped⟩ := hshaped
      obtain ⟨hlast, -⟩ := (List.isChain_cons_cons.mp hparted).1 content rfl
      have hrest := segments_raw hshaped hparted.tail.tail
        (fun raw hmem => hterminated raw (by simp [hmem]))
      have hbefore : ¬HasPair openMark (content ++ [openMark]) := by
        rw [hasPair_concat, not_or]
        exact ⟨hcontent, hlast⟩
      have h := segments_tagText content (rest.flatMap Segment.raw) hbefore htag
      rw [hrest, Segment.ofText, if_neg hne] at h
      simpa [Segment.raw] using h

end LeasePapers.Template
