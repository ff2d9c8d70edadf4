import LeasePapers.Proofs.Template.Places

/-! Where problems are reported. Every problem is one of the tag at its position, at which the
template has an opening mark, no two problems have the same position, and the counts of openers and
closers are compared once, at the end.
-/

namespace LeasePapers.Template

/-- A segment has a problem: it is an unterminated tag, it is a tag that is read as nothing
well-formed, or it is an opener, a closer or an else tag, each of which has problems of its own. -/
inductive Problem.IsOf : Problem → Segment → Prop
  | unterminated (raw : Text) : IsOf .unterminatedTag (.unterminated raw)
  | literal {inner : Text} {problem : Problem} (meaning : Tag.ofInner inner = .literal problem)
    : IsOf problem (.tag inner)
  | unclosed {inner : Text} {header : Header} (meaning : Tag.ofInner inner = .opener header)
    : IsOf (.unclosedBlock header.kind) (.tag inner)
  | tooDeep {inner : Text} {header : Header} (meaning : Tag.ofInner inner = .opener header)
    : IsOf (.nestingTooDeep header.kind) (.tag inner)
  | stray {inner name : Text} (meaning : Tag.ofInner inner = .closer name)
    : IsOf (.strayCloser name) (.tag inner)
  | mismatched {inner name : Text} {expected : Kind} (meaning : Tag.ofInner inner = .closer name)
      (other : expected.name ≠ name)
    : IsOf (.mismatchedCloser expected name) (.tag inner)
  | strayElse {inner : Text} (meaning : Tag.ofInner inner = .otherwise)
    : IsOf .strayElse (.tag inner)

/-- The opening mark of a tag stands at a byte position of a text. -/
def OpensAt (text : Text) (position : Nat) : Prop :=
  ∃ before after, text = before ++ twice openMark ++ after ∧ Text.byteSize before = position

/-- Literal text has no problem, so where a segment has one, a tag is opened. -/
theorem Problem.IsOf.opens {problem : Problem} {segment : Segment} (h : problem.IsOf segment)
    (hopening : segment.Opening)
    : twice openMark <+: segment.raw := by
  cases segment with
  | text content => cases h
  | tag inner => exact hopening
  | unterminated raw => exact hopening

/-- The problem of a block that is open, should it never be closed. -/
def Frame.unclosed (frame : Frame) : Issue :=
  .problem (.unclosedBlock frame.header.kind) frame.position

namespace Builder

/-- What has been reported, and what would be if nothing followed. -/
def pending (b : Builder) : List Issue :=
  b.frames.map Frame.unclosed ++ b.issues

variable {b after : Builder} {segment : Segment}

/-- Adding nodes keeps what is pending. -/
@[simp] theorem pending_add (b : Builder) (nodes : List Node)
    : (b.add nodes).pending = b.pending := by
  have hunclosed : ∀ (frame : Frame) (nodes : List Node),
      (frame.add nodes).unclosed = frame.unclosed := by
    intro frame nodes
    rw [Frame.unclosed, Frame.header_add, Frame.position_add, Frame.unclosed]
  rw [pending, map_frames_add hunclosed, issues_add, pending]

/-- A reported problem is all that is new. -/
theorem mem_pending_report {issue : Issue} {problem : Problem} {position : Nat}
    (h : issue ∈ (b.report problem position).pending)
    : issue ∈ b.pending ∨ issue = .problem problem position := by
  simpa [pending, report, or_assoc] using h

/-- A block that is given up is reported as what was pending. -/
theorem pending_unwind (b : Builder) : b.unwind.pending ⊆ b.pending := by
  unfold unwind
  split
  · exact List.Subset.refl _
  · rename_i frame rest hframes
    intro issue hmem
    rw [pending_add] at hmem
    rw [pending, hframes, List.map_cons, List.cons_append, List.mem_cons]
    exact (mem_pending_report hmem).symm

/-- Giving up blocks adds nothing that was not pending, by induction on their number. -/
theorem pending_unwindMany (b : Builder) (count : Nat)
    : (b.unwindMany count).pending ⊆ b.pending := by
  induction count generalizing b with
  | zero => exact List.Subset.refl _
  | succ count ih => exact List.Subset.trans (ih b.unwind) (pending_unwind b)

/-- Closing a block adds nothing that was not pending. -/
theorem pending_closeTop (b : Builder) : b.closeTop.pending ⊆ b.pending := by
  unfold closeTop
  split
  · exact List.Subset.refl _
  · rename_i frame rest hframes
    rw [pending_add, pending, pending, hframes, List.map_cons, List.cons_append]
    exact List.subset_cons_self _ _

/-- Closing a block of a name adds nothing that was not pending. -/
theorem pending_closeNamed (b : Builder) (name raw : Text)
    : (b.closeNamed name raw).pending ⊆ b.pending := by
  unfold closeNamed
  split
  · rw [literal, pending_add]
    exact List.Subset.refl _
  · exact List.Subset.trans (pending_closeTop _) (pending_unwindMany b _)

-----------------------------------------------------------------------------------------
-- One step
-----------------------------------------------------------------------------------------

/-- All that is new is a problem of a segment at the present position. -/
def Reports (b : Builder) (segment : Segment) (after : Builder) : Prop :=
  ∀ issue ∈ after.pending,
    issue ∈ b.pending ∨ ∃ problem, problem.IsOf segment ∧ issue = .problem problem b.position

/-- Nothing new is reported if nothing is pending that was not before. -/
theorem reports_of_subset (h : after.pending ⊆ b.pending) : b.Reports segment after :=
  fun _ hmem => Or.inl (h hmem)

/-- Adding nodes reports nothing new. -/
theorem reports_add (b : Builder) (segment : Segment) (nodes : List Node)
    : b.Reports segment (b.add nodes) :=
  reports_of_subset (by rw [pending_add]; exact List.Subset.refl _)

/-- A problem of the segment may be reported at its position. -/
theorem reports_report {problem : Problem} (h : problem.IsOf segment)
    : b.Reports segment (b.report problem b.position) := by
  intro issue hmem
  rcases mem_pending_report hmem with hbefore | rfl
  · exact Or.inl hbefore
  · exact Or.inr ⟨problem, h, rfl⟩

/-- A segment may be refused for a problem of its own. -/
theorem reports_refuse {problem : Problem} (h : problem.IsOf segment) (raw : Text)
    : b.Reports segment (b.refuse problem raw) := by
  intro issue hmem
  rw [refuse, literal, pending_add] at hmem
  exact reports_report h issue hmem

/-- All that an opener adds is that its block may never be closed. -/
theorem reports_openBlock {inner : Text} {header : Header}
    (hmeaning : Tag.ofInner inner = .opener header)
    : b.Reports (.tag inner) (b.openBlock header (tagText inner)) := by
  intro issue hmem
  rcases List.mem_cons.mp hmem with rfl | hbefore
  · exact Or.inr ⟨.unclosedBlock header.kind, .unclosed hmeaning, rfl⟩
  · exact Or.inl hbefore

/-- An else tag has problems of its own. -/
theorem reports_beginElse {inner : Text} (hmeaning : Tag.ofInner inner = .otherwise)
    : b.Reports (.tag inner) (b.beginElse (tagText inner)) := by
  unfold beginElse
  split
  · rename_i frame rest hframes
    split
    · refine reports_of_subset ?_
      rw [pending, pending, hframes]
      exact List.Subset.refl _
    · exact reports_refuse (.strayElse hmeaning) _
  · exact reports_refuse (.strayElse hmeaning) _

/-- A closer has problems of its own. -/
theorem reports_close {inner name : Text} (hmeaning : Tag.ofInner inner = .closer name)
    : b.Reports (.tag inner) (b.close name (tagText inner)) := by
  cases hframes : b.frames with
  | nil =>
      simp only [close, hframes]
      exact reports_refuse (.stray hmeaning) _
  | cons top rest =>
      rw [close_cons b hframes]
      intro issue hmem
      have hreported := pending_closeNamed _ _ _ hmem
      split at hreported
      · exact Or.inl hreported
      · rename_i hname
        exact reports_report (.mismatched hmeaning hname) issue hreported

/-- Outside the limit a tag is reported for what it means. -/
theorem reports_apply {inner : Text} {tag : Tag} (hmeaning : Tag.ofInner inner = tag)
    : b.Reports (.tag inner) (b.apply (tagText inner) tag) := by
  cases tag with
  | leaf node => exact reports_add b _ [node]
  | literal problem => exact reports_refuse (.literal hmeaning) _
  | opener header => exact reports_openBlock hmeaning
  | otherwise => exact reports_beginElse hmeaning
  | closer name => exact @reports_close { b with closed := b.closed + 1 } inner name hmeaning

/-- At the limit an opener is reported as one, and other tags as elsewhere or not at all. -/
theorem reports_applyAtLimit {inner : Text} {tag : Tag} (hmeaning : Tag.ofInner inner = tag)
    : b.Reports (.tag inner) (b.applyAtLimit (tagText inner) tag) := by
  cases tag with
  | leaf node => exact reports_apply hmeaning
  | literal problem => exact reports_apply hmeaning
  | opener header => exact @reports_refuse b (.tag inner) _ (.tooDeep hmeaning) (tagText inner)
  | otherwise =>
      rw [applyAtLimit]
      split
      · exact reports_apply hmeaning
      · exact reports_add b _ _
  | closer name =>
      rw [applyAtLimit]
      split
      · split
        · exact @reports_add { b with tooDeep := _ } _ _
        · exact reports_apply hmeaning
      · exact reports_apply hmeaning

/-- All that a step reports is a problem of its segment. -/
theorem reports_step (b : Builder) (segment : Segment) : b.Reports segment (b.step segment) := by
  have htake : b.Reports segment (b.take segment) := by
    cases segment with
    | text content => exact reports_add b _ _
    | unterminated raw => exact reports_refuse (.unterminated raw) raw
    | tag inner =>
        simp only [take]
        split
        · exact reports_applyAtLimit rfl
        · exact reports_apply rfl
  exact htake

-----------------------------------------------------------------------------------------
-- The run
-----------------------------------------------------------------------------------------

/-- An issue is a problem of one of the segments, at the position of that segment. -/
def Located (segments : List Segment) (issue : Issue) : Prop :=
  ∃ before segment after problem,
    segments = before ++ segment :: after ∧ problem.IsOf segment
    ∧ issue = .problem problem (Text.byteSize (before.flatMap Segment.raw))

/-- An issue that is located stays so when more is read. -/
theorem Located.concat {segments : List Segment} {issue : Issue} (h : Located segments issue)
    (segment : Segment)
    : Located (segments ++ [segment]) issue := by
  obtain ⟨before, own, after, problem, rfl, hproblem, hissue⟩ := h
  exact ⟨before, own, after ++ [segment], problem, by simp, hproblem, hissue⟩

/-- At every point of a template all that is reported or pending is located, by induction on the
segments from the last one. -/
theorem located_reading (segments : List Segment)
    : ∀ issue ∈ (reading segments).pending, Located segments issue := by
  induction segments using List.reverseRecOn with
  | nil => exact fun _ hmem => absurd hmem List.not_mem_nil
  | append_singleton segments segment ih =>
      intro issue hmem
      rw [reading_concat] at hmem
      rcases reports_step _ segment issue hmem with hbefore | ⟨problem, hproblem, rfl⟩
      · exact (ih issue hbefore).concat segment
      · rw [position_reading]
        exact ⟨segments, segment, [], problem, rfl, hproblem, rfl⟩

/-- At the end only the comparison of the counts is added to what was pending. -/
theorem issues_finish (b : Builder)
    : ∃ reported, reported ⊆ b.pending
      ∧ (b.finish.issues = reported
        ∨ ∃ opened closed, b.finish.issues = reported ++ [.countMismatch opened closed]) := by
  have hsubset : (b.unwindMany b.frames.length).issues ⊆ b.pending :=
    List.Subset.trans (List.subset_append_right _ _) (pending_unwindMany b _)
  refine ⟨_, hsubset, ?_⟩
  unfold finish
  simp only
  split
  · exact Or.inl rfl
  · exact Or.inr ⟨_, _, rfl⟩

end Builder

open Builder

/-- Where a segment has a problem, the opening mark stands in the whole text. -/
theorem opensAt_of_located {text : Text} {problem : Problem} {position : Nat}
    (h : Located (segments text) (.problem problem position))
    : OpensAt text position := by
  obtain ⟨before, segment, after, own, hsegments, hproblem, hissue⟩ := h
  obtain ⟨rfl, rfl⟩ := Issue.problem.inj hissue
  have hmem : segment ∈ segments text := by simp [hsegments]
  obtain ⟨rest, hraw⟩ := hproblem.opens (opening_segments text segment hmem)
  refine ⟨before.flatMap Segment.raw, rest ++ after.flatMap Segment.raw, ?_, rfl⟩
  rw [← raw_segments text, hsegments, List.flatMap_append, List.flatMap_cons, ← hraw]
  simp only [List.append_assoc]

/-- The positions of the problems of a template are all different. -/
theorem nodup_places (text : Text) : ((ofText text).issues.filterMap Issue.place?).Nodup := by
  have hfilled : ∀ segment ∈ segments text, segment.raw ≠ [] :=
    fun segment hmem => (shaped_segments text segment hmem).raw_ne_nil
  obtain ⟨hperm, hissues⟩ := places_finish (reading (segments text))
  exact hissues ▸ hperm.nodup_iff.mpr (placed_start.run hfilled).nodup

/-- What is found wrong with a template are located problems, and the comparison of the counts after
them if there is one. -/
theorem issues_ofText (text : Text)
    : ∃ reported, (∀ issue ∈ reported, Located (segments text) issue)
      ∧ ((ofText text).issues = reported
        ∨ ∃ opened closed, (ofText text).issues = reported ++ [.countMismatch opened closed]) := by
  obtain ⟨reported, hpending, hissues⟩ := issues_finish (reading (segments text))
  exact ⟨reported, fun issue hmem => located_reading (segments text) issue (hpending hmem), hissues⟩

/-- A mismatch of counts is located nowhere. -/
theorem not_located_countMismatch (segments : List Segment) (opened closed : Nat)
    : ¬Located segments (.countMismatch opened closed) := by
  rintro ⟨_, _, _, _, _, _, hissue⟩
  cases hissue

/-- Every problem of a template is one of its tags, at the byte position at which the tag is opened.
The positions are all different, and nothing is reported after the comparison of the counts. -/
theorem problems_at_openings (text : Text)
    : (∀ problem position, .problem problem position ∈ (ofText text).issues →
        OpensAt text position ∧ Located (segments text) (.problem problem position))
      ∧ ((ofText text).issues.filterMap Issue.place?).Nodup
      ∧ ∀ front opened closed back,
          (ofText text).issues = front ++ .countMismatch opened closed :: back → back = [] := by
  obtain ⟨reported, hlocated, hissues⟩ := issues_ofText text
  have hcounts : ∀ opened closed, Issue.countMismatch opened closed ∉ reported :=
    fun opened closed hmem => not_located_countMismatch _ opened closed (hlocated _ hmem)
  refine ⟨?_, nodup_places text, ?_⟩
  · intro problem position hmem
    have hreported : Issue.problem problem position ∈ reported := by
      rcases hissues with he | ⟨opened, closed, he⟩
      · rwa [he] at hmem
      · simpa [he] using hmem
    exact ⟨opensAt_of_located (hlocated _ hreported), hlocated _ hreported⟩
  · intro front opened closed back hsplit
    rcases hissues with he | ⟨opened', closed', he⟩
    · exact absurd (by simp [← he, hsplit]) (hcounts opened closed)
    · by_contra hback
      have hmem : Issue.countMismatch opened closed ∈ (ofText text).issues.dropLast := by
        rw [hsplit, List.dropLast_append_of_ne_nil (List.cons_ne_nil _ _),
          List.dropLast_cons_of_ne_nil hback]
        simp
      rw [he, List.dropLast_concat] at hmem
      exact hcounts opened closed hmem

end LeasePapers.Template
