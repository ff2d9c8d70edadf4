import LeasePapers.Proofs.Template.Spelling
import LeasePapers.Template.Basic

/-! The run of the builder over the segments of a template. At every point the segments read so far
spell the tree outside all open blocks and then the open blocks from the outermost to the innermost,
and a tag stays literal only after a problem has been reported.
-/

namespace LeasePapers.Template

-----------------------------------------------------------------------------------------
-- The invariant
-----------------------------------------------------------------------------------------

/-- Segments spell the tree outside all open blocks and then the open blocks. The innermost block
comes first among the blocks and last among the segments; `room` is the room inside of it.
-/
inductive OpenSpelling (literal : Segment → Prop) (root : List Node)
    : Nat → List Frame → List Segment → Prop
  | root {room : Nat} {segments : List Segment} (outside : Spelling literal room root segments)
    : OpenSpelling literal root room [] segments
  | frame {room : Nat} {frame : Frame} {frames : List Frame} {before within : List Segment}
      (outside : OpenSpelling literal root (room + 1) frames before)
      (inside : OpenBlock literal room frame within)
    : OpenSpelling literal root room (frame :: frames) (before ++ within)

/-- Segments spell open blocks if more of them may stay literal, by induction on the open blocks. -/
theorem OpenSpelling.mono {literal wider : Segment → Prop} {root : List Node} {room : Nat}
    {frames : List Frame} {segments : List Segment}
    (h : OpenSpelling literal root room frames segments)
    (hliteral : ∀ segment, literal segment → wider segment)
    : OpenSpelling wider root room frames segments := by
  induction h with
  | root outside => exact .root (outside.mono hliteral (Nat.le_refl _))
  | frame _ inside ih => exact .frame ih (inside.mono hliteral)

/-- Adding nodes keeps the header of a block. -/
@[simp] theorem Frame.header_add (frame : Frame) (nodes : List Node)
    : (frame.add nodes).header = frame.header := by
  unfold Frame.add
  split <;> rfl

/-- Adding nodes keeps the opener of a block. -/
@[simp] theorem Frame.opener_add (frame : Frame) (nodes : List Node)
    : (frame.add nodes).opener = frame.opener := by
  unfold Frame.add
  split <;> rfl

/-- Adding nodes keeps the position of a block. -/
@[simp] theorem Frame.position_add (frame : Frame) (nodes : List Node)
    : (frame.add nodes).position = frame.position := by
  unfold Frame.add
  split <;> rfl

namespace Builder

/-- The segments that may stay literal: literal text, and everything else once a problem has been
reported.
-/
def MayStay (b : Builder) (segment : Segment) : Prop :=
  (∃ content, segment = .text content) ∨ b.issues ≠ []

/-- The segments read so far spell what has been built. The room left and the open blocks make up
the deepest nesting, and a block beyond it has been reported.
-/
structure Reads (b : Builder) (segments : List Segment) : Prop where
  spelled : ∃ room, room + b.frames.length = deepestNesting
    ∧ OpenSpelling b.MayStay b.root room b.frames segments
  deep : b.tooDeep ≠ [] → b.issues ≠ []

/-- Before anything is read, nothing has been built. -/
theorem reads_start : start.Reads [] :=
  ⟨⟨deepestNesting, rfl, .root .nil⟩, fun h => absurd rfl h⟩

variable {b : Builder} {segments more : List Segment}

-----------------------------------------------------------------------------------------
-- Adding, reporting and refusing
-----------------------------------------------------------------------------------------

/-- Adding nodes reports nothing. -/
@[simp] theorem issues_add (b : Builder) (nodes : List Node) : (b.add nodes).issues = b.issues := by
  unfold add
  split <;> rfl

/-- Adding nodes neither opens nor closes what is nested too deep. -/
@[simp] theorem tooDeep_add (b : Builder) (nodes : List Node)
    : (b.add nodes).tooDeep = b.tooDeep := by
  unfold add
  split <;> rfl

/-- What adding nodes to a block does not change, it does not change in any open block. -/
theorem map_frames_add {α : Type} {f : Frame → α}
    (h : ∀ (frame : Frame) (nodes : List Node), f (frame.add nodes) = f frame)
    (b : Builder) (nodes : List Node)
    : (b.add nodes).frames.map f = b.frames.map f := by
  unfold add
  split
  · rfl
  · rename_i frame rest hframes
    rw [hframes, List.map_cons, List.map_cons, h]

/-- Adding nodes keeps the headers of the open blocks. -/
@[simp] theorem headers_add (b : Builder) (nodes : List Node)
    : (b.add nodes).frames.map Frame.header = b.frames.map Frame.header :=
  map_frames_add Frame.header_add b nodes

/-- Nodes that fit into the room are spelled behind what has been read. -/
theorem Reads.add {room : Nat} {nodes : List Node} (h : b.Reads segments)
    (hroom : room + b.frames.length ≤ deepestNesting)
    (hnodes : Spelling b.MayStay room nodes more)
    : (b.add nodes).Reads (segments ++ more) := by
  obtain ⟨⟨space, hspace, hspelled⟩, hdeep⟩ := h
  have hfits : Spelling b.MayStay space nodes more := hnodes.mono (fun _ h => h) (by omega)
  obtain ⟨root, frames, tooDeep, issues, opened, closed, position⟩ := b
  cases hspelled with
  | root outside => exact ⟨⟨space, hspace, .root (hfits.addNodes outside)⟩, hdeep⟩
  | frame outside inside =>
      rw [List.append_assoc]
      exact ⟨⟨space, hspace, .frame outside (inside.add hfits)⟩, hdeep⟩

/-- A report makes everything fit to stay. -/
theorem Reads.report (h : b.Reads segments) (problem : Problem) (position : Nat)
    : (b.report problem position).Reads segments := by
  obtain ⟨⟨room, hroom, hspelled⟩, hdeep⟩ := h
  have hissues : (b.report problem position).issues ≠ [] := by simp [Builder.report]
  exact ⟨⟨room, hroom, hspelled.mono (fun _ _ => Or.inr hissues)⟩, fun _ => hissues⟩

/-- A segment that may stay literal is spelled by itself. -/
theorem Reads.literal {segment : Segment} (h : b.Reads segments) (hstay : b.MayStay segment)
    (hfilled : segment.raw ≠ [])
    : (b.literal segment.raw).Reads (segments ++ [segment]) := by
  obtain ⟨room, hroom, -⟩ := h.spelled
  refine h.add (Nat.le_of_eq hroom) ?_
  have hraw : [segment].flatMap Segment.raw = segment.raw := by simp
  rw [← hraw]
  rw [← hraw] at hfilled
  have hsingle : Spelling b.MayStay room _ _ :=
    .text (by simpa using hstay) hfilled (by simp) .nil
  simpa using hsingle

/-- A refused segment is spelled by itself, since its problem is reported. -/
theorem Reads.refuse {segment : Segment} (h : b.Reads segments) (problem : Problem)
    (hfilled : segment.raw ≠ [])
    : (b.refuse problem segment.raw).Reads (segments ++ [segment]) :=
  (h.report problem b.position).literal (Or.inr (by simp [Builder.report])) hfilled

/-- A tag is written with something. -/
theorem tagText_ne_nil (inner : Text) : tagText inner ≠ [] := by
  simp [tagText, twice]

/-- A refused tag is spelled by itself. -/
theorem Reads.refuseTag {inner : Text} (h : b.Reads segments) (problem : Problem)
    : (b.refuse problem (tagText inner)).Reads (segments ++ [.tag inner]) :=
  @Reads.refuse b segments (.tag inner) h problem (tagText_ne_nil inner)

/-- A tag may stay literal once a problem is reported. -/
theorem Reads.literalTag {inner : Text} (h : b.Reads segments) (hissues : b.issues ≠ [])
    : (b.literal (tagText inner)).Reads (segments ++ [.tag inner]) :=
  @Reads.literal b segments (.tag inner) h (Or.inr hissues) (tagText_ne_nil inner)

-----------------------------------------------------------------------------------------
-- Opening and closing
-----------------------------------------------------------------------------------------

/-- The innermost open block is spelled behind all that stands outside of it. -/
theorem Reads.outside {frame : Frame} {rest : List Frame} (h : b.Reads segments)
    (hframes : b.frames = frame :: rest)
    : ∃ before within room,
        segments = before ++ within
        ∧ room + 1 + rest.length = deepestNesting
        ∧ ({ b with frames := rest }).Reads before
        ∧ OpenBlock b.MayStay room frame within := by
  obtain ⟨⟨room, hroom, hspelled⟩, hdeep⟩ := h
  rw [hframes] at hroom hspelled
  have hlength : room + 1 + rest.length = deepestNesting := by
    rw [List.length_cons] at hroom
    omega
  cases hspelled with
  | @frame _ _ _ before within outside inside =>
      exact ⟨before, within, room, rfl, hlength, ⟨⟨room + 1, hlength, outside⟩, hdeep⟩, inside⟩

/-- An opener with room inside opens a block. -/
theorem Reads.openBlock {header : Header} {inner : Text} (h : b.Reads segments)
    (hmeaning : Tag.ofInner inner = .opener header) (hroom : b.frames.length < deepestNesting)
    : (b.openBlock header (tagText inner)).Reads (segments ++ [.tag inner]) := by
  obtain ⟨⟨space, hspace, hspelled⟩, hdeep⟩ := h
  obtain ⟨room, rfl⟩ := Nat.exists_eq_succ_of_ne_zero (show space ≠ 0 by omega)
  refine ⟨⟨room, ?_, .frame hspelled (.body hmeaning .nil)⟩, hdeep⟩
  simp only [Builder.openBlock, List.length_cons]
  omega

/-- An else tag begins the else branch of a block, or stays literal with its problem. -/
theorem Reads.beginElse {inner : Text} (h : b.Reads segments)
    (hmeaning : Tag.ofInner inner = .otherwise)
    : (b.beginElse (tagText inner)).Reads (segments ++ [.tag inner]) := by
  unfold Builder.beginElse
  split
  · rename_i frame rest hframes
    split
    · rename_i hfork
      obtain ⟨before, within, room, rfl, hroom, ⟨⟨space, hspace, hspelled⟩, hdeep⟩, hinside⟩ :=
        h.outside hframes
      obtain rfl : space = room + 1 := by simp only at hspace; omega
      have hblock : OpenBlock b.MayStay room { frame with otherwise := some (tagText inner, []) }
          (within ++ [.tag inner]) := by
        cases hinside with
        | body opens inside => exact .otherwise (by simpa using hfork) opens hmeaning inside .nil
        | otherwise => simp at hfork
      rw [List.append_assoc]
      exact ⟨⟨room, by simp only [List.length_cons]; omega, .frame hspelled hblock⟩, hdeep⟩
    · exact h.refuseTag .strayElse
  · exact h.refuseTag .strayElse

/-- A block that is given up leaves its segments where they were. -/
theorem Reads.unwind (h : b.Reads segments) : b.unwind.Reads segments := by
  unfold Builder.unwind
  split
  · exact h
  · rename_i frame rest hframes
    obtain ⟨before, within, room, rfl, hroom, houtside, hinside⟩ := h.outside hframes
    have hreport := houtside.report (.unclosedBlock frame.header.kind) frame.position
    have hissues : (({ b with frames := rest }).report (.unclosedBlock frame.header.kind)
        frame.position).issues ≠ [] := by
      simp [Builder.report]
    have hblock := hinside.mono (fun _ _ => trivial)
    refine hreport.add (Nat.le_of_lt ?_) ((hblock.literal_spelling (fun _ => trivial)).mono
      (fun segment _ => Or.inr hissues) (Nat.le_refl room))
    simp only [Builder.report]
    omega

/-- Giving up the innermost block leaves the headers around it. -/
theorem headers_unwind (b : Builder)
    : b.unwind.frames.map Frame.header = (b.frames.map Frame.header).tail := by
  unfold unwind
  split
  · simp_all
  · rename_i frame rest hframes
    simp [hframes, Builder.report]

/-- Open blocks that are given up are still spelled by what was read, by induction on their number.
-/
theorem Reads.unwindMany (h : b.Reads segments) (count : Nat)
    : (b.unwindMany count).Reads segments := by
  induction count generalizing b with
  | zero => exact h
  | succ count ih => exact ih h.unwind

/-- Giving up blocks leaves the headers around them, by induction on their number. -/
theorem headers_unwindMany (b : Builder) (count : Nat)
    : (b.unwindMany count).frames.map Frame.header = (b.frames.map Frame.header).drop count := by
  induction count generalizing b with
  | zero => rfl
  | succ count ih =>
      rw [unwindMany, ih, headers_unwind, List.drop_tail]

/-- The closer of the innermost block makes it a node. -/
theorem Reads.closeTop {inner : Text} {header : Header} (h : b.Reads segments)
    (hmeaning : Tag.ofInner inner = .closer header.kind.name)
    (hheader : (b.frames.map Frame.header).head? = some header)
    : b.closeTop.Reads (segments ++ [.tag inner]) := by
  unfold Builder.closeTop
  split
  · rename_i hframes
    simp [hframes] at hheader
  · rename_i frame rest hframes
    obtain rfl : frame.header = header := by simpa [hframes] using hheader
    obtain ⟨before, within, room, rfl, hroom, houtside, hinside⟩ := h.outside hframes
    rw [List.append_assoc]
    exact houtside.add (Nat.le_of_eq hroom) (hinside.node hmeaning)

/-- A closer closes a block of its name, and the blocks inside of that are given up. -/
theorem Reads.closeAt {inner name : Text} {depth : Nat} (h : b.Reads segments)
    (hmeaning : Tag.ofInner inner = .closer name)
    (hdepth : b.frames.findIdx? (fun frame => frame.header.kind.name = name) = some depth)
    : (b.unwindMany depth).closeTop.Reads (segments ++ [.tag inner]) := by
  obtain ⟨hlt, hname, -⟩ := List.findIdx?_eq_some_iff_getElem.mp hdepth
  have hkind : b.frames[depth].header.kind.name = name := by simpa using hname
  rw [← hkind] at hmeaning
  refine (h.unwindMany depth).closeTop hmeaning ?_
  rw [headers_unwindMany, List.head?_drop]
  simp [hlt]

/-- A closer closes the innermost block of its name, or it stays literal after a report. -/
theorem Reads.close {inner name : Text} (h : b.Reads segments)
    (hmeaning : Tag.ofInner inner = .closer name)
    : (b.close name (tagText inner)).Reads (segments ++ [.tag inner]) := by
  unfold Builder.close
  split
  · exact h.refuseTag (.strayCloser name)
  · rename_i top rest hframes
    by_cases htop : top.header.kind.name = name
    · -- The innermost block has the name, so some block has it.
      simp only [if_pos htop]
      split
      · rename_i hnone
        simp [hframes, htop] at hnone
      · rename_i depth hdepth
        exact h.closeAt hmeaning hdepth
    · simp only [if_neg htop]
      have hreport := h.report (.mismatchedCloser top.header.kind name) b.position
      split
      · exact hreport.literalTag (by simp [Builder.report])
      · rename_i depth hdepth
        exact hreport.closeAt hmeaning hdepth

-----------------------------------------------------------------------------------------
-- Whole segments
-----------------------------------------------------------------------------------------

/-- What is spelled does not depend on the counts and the position. -/
theorem Reads.count (h : b.Reads segments) (opened closed position : Nat)
    : ({ b with opened, closed, position }).Reads segments :=
  ⟨h.spelled, h.deep⟩

/-- What is spelled does not depend on what is nested too deep, once it is reported. -/
theorem Reads.nested (h : b.Reads segments) (tooDeep : List Kind) (hissues : b.issues ≠ [])
    : ({ b with tooDeep }).Reads segments :=
  ⟨h.spelled, fun _ => hissues⟩

/-- A tag is taken in as what it means; an opener needs room inside. -/
theorem Reads.apply {inner : Text} {tag : Tag} (h : b.Reads segments)
    (hmeaning : Tag.ofInner inner = tag)
    (hroom : ∀ header, tag = .opener header → b.frames.length < deepestNesting)
    : (b.apply (tagText inner) tag).Reads (segments ++ [.tag inner]) := by
  cases tag with
  | opener header => exact h.openBlock hmeaning (hroom header rfl)
  | otherwise => exact h.beginElse hmeaning
  | closer name => exact (h.count b.opened (b.closed + 1) b.position).close hmeaning
  | leaf node =>
      obtain ⟨room, hspace, -⟩ := h.spelled
      exact h.add (Nat.le_of_eq hspace) (.leaf hmeaning .nil)
  | literal problem => exact h.refuseTag problem

/-- An opener that nests too deep stays literal. -/
theorem Reads.refuseDeep {inner : Text} (h : b.Reads segments) (kind : Kind)
    : (b.refuseDeep kind (tagText inner)).Reads (segments ++ [.tag inner]) := by
  have hissues : (b.refuse (.nestingTooDeep kind) (tagText inner)).issues ≠ [] := by
    simp [Builder.refuse, Builder.literal, Builder.report]
  exact (h.refuseTag (.nestingTooDeep kind)).nested (kind :: b.tooDeep) hissues

/-- At the deepest nesting openers stay literal after a report, and so do the tags that belong to
such openers.
-/
theorem Reads.applyAtLimit {inner : Text} {tag : Tag} (h : b.Reads segments)
    (hmeaning : Tag.ofInner inner = tag)
    : (b.applyAtLimit (tagText inner) tag).Reads (segments ++ [.tag inner]) := by
  cases tag with
  | opener header => exact h.refuseDeep header.kind
  | closer name =>
      simp only [Builder.applyAtLimit]
      split
      · rename_i kind rest hdeep
        have hissues : b.issues ≠ [] := h.deep (by simp [hdeep])
        split
        · exact (h.nested rest hissues).literalTag hissues
        · exact h.apply hmeaning (by simp)
      · exact h.apply hmeaning (by simp)
  | otherwise =>
      simp only [Builder.applyAtLimit]
      split
      · exact h.apply hmeaning (by simp)
      · rename_i hdeep
        exact h.literalTag (h.deep hdeep)
  | leaf node => exact h.apply hmeaning (by simp)
  | literal problem => exact h.apply hmeaning (by simp)

/-- What was read is spelled by one segment more, whatever that is. -/
theorem Reads.take {segment : Segment} (h : b.Reads segments) (hfilled : segment.raw ≠ [])
    : (b.take segment).Reads (segments ++ [segment]) := by
  cases segment with
  | text content => exact h.literal (Or.inl ⟨content, rfl⟩) hfilled
  | unterminated raw => exact h.refuse .unterminatedTag hfilled
  | tag inner =>
      simp only [Builder.take]
      split
      · exact h.applyAtLimit rfl
      · rename_i hlimit
        refine h.apply rfl (fun _ _ => ?_)
        simp only [isAtLimit, Bool.or_eq_true, decide_eq_true_eq, not_or, not_le] at hlimit
        exact hlimit.2

/-- Every step keeps the invariant. -/
theorem Reads.step {segment : Segment} (h : b.Reads segments) (hfilled : segment.raw ≠ [])
    : (b.step segment).Reads (segments ++ [segment]) :=
  (h.take hfilled).count _ _ _

/-- Every run keeps the invariant, by induction on the segments. -/
theorem Reads.run {more : List Segment} (h : b.Reads segments)
    (hfilled : ∀ segment ∈ more, segment.raw ≠ [])
    : (more.foldl Builder.step b).Reads (segments ++ more) := by
  induction more generalizing b segments with
  | nil => simpa using h
  | cons segment more ih =>
      rw [List.forall_mem_cons] at hfilled
      have hrest := ih (h.step hfilled.1) hfilled.2
      rwa [List.append_assoc, List.singleton_append] at hrest

/-- At the end no block is open, and the segments spell the whole tree. -/
theorem Reads.finish (h : b.Reads segments)
    : Spelling b.finish.MayStay deepestNesting b.finish.root segments := by
  have hclosed : (b.unwindMany b.frames.length).frames.map Frame.header = [] := by
    rw [headers_unwindMany, List.drop_eq_nil_iff, List.length_map]
  obtain ⟨⟨room, hroom, hspelled⟩, -⟩ := h.unwindMany b.frames.length
  rw [List.map_eq_nil_iff.mp hclosed] at hroom hspelled
  obtain rfl : room = deepestNesting := hroom
  cases hspelled with
  | root outside =>
      unfold Builder.finish
      simp only
      split
      · exact outside
      · exact outside.mono (fun segment _ => Or.inr (by simp)) (Nat.le_refl _)

end Builder

/-- The segments of a template spell its tree. A tag among them is literal only if something is
wrong with the template.
-/
theorem spelling_ofText (text : Text)
    : Spelling (fun segment => (∃ content, segment = .text content) ∨ (ofText text).issues ≠ [])
        deepestNesting (ofText text).nodes (segments text) := by
  have hfilled : ∀ segment ∈ segments text, segment.raw ≠ [] :=
    fun segment hmem => (shaped_segments text segment hmem).raw_ne_nil
  exact (Builder.reads_start.run hfilled).finish

end LeasePapers.Template
