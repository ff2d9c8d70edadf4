import LeasePapers.Proofs.Template.Contents
import LeasePapers.Proofs.Template.Lossless
import LeasePapers.Proofs.Template.RoundTrip

/-! What a template without problems looks like. As long as nothing has been reported, every tag
that was read is a directive of the tree or opens a block, and the counts of openers and closers
agree with the open blocks. As soon as a problem is reported, some tag stands in the literal text,
and it stays there.
-/

namespace LeasePapers.Template

/-- A tag has an opening mark. -/
theorem hasPair_tagText (inner : Text) : HasPair openMark (tagText inner) := by
  rw [tagText, List.append_assoc]
  exact (List.prefix_append _ _).isInfix

/-- A segment that is no literal text shows a tag. -/
def Segment.Marked : Segment → Prop
  | .text _ => True
  | .tag inner => HasPair openMark (tagText inner)
  | .unterminated raw => HasPair openMark raw

-----------------------------------------------------------------------------------------
-- All that has been built
-----------------------------------------------------------------------------------------

/-- The nodes of both branches of an open block. -/
def Frame.nodes (frame : Frame) : List Node :=
  frame.body ++ (frame.otherwise.map (·.2)).getD []

namespace Builder

/-- The nodes built so far, inside of open blocks and outside of them. -/
def nodes (b : Builder) : List Node :=
  b.frames.flatMap Frame.nodes ++ b.root

variable {b : Builder} {more : List Node}

/-- Adding nodes keeps the openers of the open blocks. -/
@[simp] theorem openers_add (b : Builder) (more : List Node)
    : (b.add more).frames.map Frame.opener = b.frames.map Frame.opener :=
  map_frames_add Frame.opener_add b more

/-- Adding nodes keeps the count of opened blocks. -/
@[simp] theorem opened_add (b : Builder) (more : List Node) : (b.add more).opened = b.opened := by
  unfold add
  split <;> rfl

/-- Adding nodes keeps the count of closed blocks. -/
@[simp] theorem closed_add (b : Builder) (more : List Node) : (b.add more).closed = b.closed := by
  unfold add
  split <;> rfl

/-- A tag is shown in a block or in the nodes that are added to it. -/
theorem showsTag_frame_add {frame : Frame} (h : ShowsTag frame.nodes ∨ ShowsTag more)
    : ShowsTag (frame.add more).nodes := by
  obtain ⟨header, opener, position, body, otherwise⟩ := frame
  cases otherwise with
  | none =>
      simp only [Frame.nodes, Frame.add, Option.map_none, Option.getD_none, List.append_nil] at h ⊢
      exact ShowsTag.addNodes h
  | some branch =>
      simp only [Frame.nodes, Frame.add, Option.map_some, Option.getD_some] at h ⊢
      rw [showsTag_append, or_assoc] at h
      exact showsTag_append.mpr (h.imp_right ShowsTag.addNodes)

/-- What is added shows up among the nodes built so far, and nothing disappears from them. -/
theorem showsTag_add (h : ShowsTag b.nodes ∨ ShowsTag more) : ShowsTag (b.add more).nodes := by
  unfold add
  cases hframes : b.frames with
  | nil =>
      simp only [nodes, hframes, List.flatMap_nil, List.nil_append] at h ⊢
      exact ShowsTag.addNodes h
  | cons frame rest =>
      simp only [nodes, hframes, List.flatMap_cons, List.append_assoc] at h ⊢
      rw [showsTag_append, or_right_comm] at h
      exact showsTag_append.mpr (h.imp_left showsTag_frame_add)

/-- The blocks of added nodes are counted with those of the open block. -/
theorem blocksIn_frame_add (frame : Frame) (more : List Node)
    : blocksIn (frame.add more).nodes = blocksIn frame.nodes + blocksIn more := by
  obtain ⟨header, opener, position, body, otherwise⟩ := frame
  cases otherwise <;>
    simp [Frame.nodes, Frame.add, additive_blocksIn.append, additive_blocksIn.addNodes,
      Nat.add_assoc]

/-- The blocks of added nodes are counted with those that were built. -/
theorem blocksIn_add (b : Builder) (more : List Node)
    : blocksIn (b.add more).nodes = blocksIn b.nodes + blocksIn more := by
  unfold add
  cases hframes : b.frames with
  | nil => simp [nodes, hframes, additive_blocksIn.addNodes]
  | cons frame rest =>
      simp only [nodes, hframes, List.flatMap_cons, additive_blocksIn.append, blocksIn_frame_add]
      omega

-----------------------------------------------------------------------------------------
-- Once a problem has been reported
-----------------------------------------------------------------------------------------

/-- The openers of the open blocks are tags. -/
def OpenersMarked (b : Builder) : Prop :=
  ∀ opener ∈ b.frames.map Frame.opener, HasPair openMark opener

/-- A problem has been reported, and some tag stands in the literal text. -/
structure Spoiled (b : Builder) : Prop where
  openers : b.OpenersMarked
  reported : ∃ problem position, .problem problem position ∈ b.issues
  shown : ShowsTag b.nodes

/-- The openers stay tags when nodes are added. -/
theorem OpenersMarked.add (h : b.OpenersMarked) (more : List Node)
    : (b.add more).OpenersMarked := by
  rw [OpenersMarked, openers_add]
  exact h

/-- What is spoiled stays so when nodes are added. -/
theorem Spoiled.add (h : b.Spoiled) (more : List Node) : (b.add more).Spoiled := by
  refine ⟨h.openers.add more, ?_, showsTag_add (Or.inl h.shown)⟩
  rw [issues_add]
  exact h.reported

/-- What is spoiled stays so when more is reported. -/
theorem Spoiled.report (h : b.Spoiled) (problem : Problem) (position : Nat)
    : (b.report problem position).Spoiled := by
  obtain ⟨found, place, hmem⟩ := h.reported
  exact ⟨h.openers, ⟨found, place, List.mem_append_left _ hmem⟩, h.shown⟩

/-- A problem is reported, and nodes are added that show a tag. -/
theorem spoiled_report_add (h : b.OpenersMarked) (problem : Problem) (position : Nat)
    (hmore : ShowsTag more)
    : ((b.report problem position).add more).Spoiled := by
  have hopeners : (b.report problem position).OpenersMarked := h
  refine ⟨hopeners.add more, ⟨problem, position, ?_⟩, showsTag_add (Or.inr hmore)⟩
  rw [issues_add]
  exact List.mem_append_right _ (List.mem_singleton_self _)

/-- A tag that is refused is reported and stays in the literal text. -/
theorem spoiled_refuse (h : b.OpenersMarked) (problem : Problem) {raw : Text}
    (hraw : HasPair openMark raw)
    : (b.refuse problem raw).Spoiled :=
  spoiled_report_add h problem b.position (showsTag_text.mpr hraw)

/-- A block that is given up is reported, and its opener stays in the literal text. -/
theorem spoiled_unwind (h : b.OpenersMarked) (hframes : b.frames ≠ []) : b.unwind.Spoiled := by
  obtain ⟨frame, rest, hcons⟩ := List.exists_cons_of_ne_nil hframes
  rw [OpenersMarked, hcons, List.map_cons, List.forall_mem_cons] at h
  have hopener : ShowsTag (addNodes [.text frame.opener] frame.body) :=
    ShowsTag.addNodes (Or.inl (showsTag_text.mpr h.1))
  have hliteral : ShowsTag frame.literal := by
    unfold Frame.literal
    split
    · exact hopener
    · exact ShowsTag.addNodes (Or.inl (ShowsTag.addText (Or.inl hopener)))
  unfold unwind
  rw [hcons]
  exact spoiled_report_add (b := { b with frames := rest }) h.2 _ _ hliteral

/-- What is spoiled stays so when the innermost block is given up. -/
theorem Spoiled.unwind (h : b.Spoiled) : b.unwind.Spoiled := by
  by_cases hframes : b.frames = []
  · unfold Builder.unwind
    rw [hframes]
    exact h
  · exact spoiled_unwind h.openers hframes

/-- What is spoiled stays so when blocks are given up, by induction on their number. -/
theorem Spoiled.unwindMany (h : b.Spoiled) (count : Nat) : (b.unwindMany count).Spoiled := by
  induction count generalizing b with
  | zero => exact h
  | succ count ih => exact ih h.unwind

/-- Blocks that are given up leave a tag in the literal text, if there are any. -/
theorem spoiled_unwindMany (h : b.OpenersMarked) (hframes : b.frames ≠ []) {count : Nat}
    (hcount : count ≠ 0)
    : (b.unwindMany count).Spoiled := by
  obtain ⟨less, rfl⟩ := Nat.exists_eq_succ_of_ne_zero hcount
  exact (spoiled_unwind h hframes).unwindMany less

/-- A closed block keeps what it shows. -/
theorem Spoiled.closeTop (h : b.Spoiled) : b.closeTop.Spoiled := by
  unfold Builder.closeTop
  split
  · exact h
  · rename_i frame rest hframes
    obtain ⟨hopeners, hreported, hshown⟩ := h
    rw [OpenersMarked, hframes, List.map_cons, List.forall_mem_cons] at hopeners
    rw [nodes, hframes, List.flatMap_cons, List.append_assoc, showsTag_append, Frame.nodes,
      showsTag_append] at hshown
    refine ⟨OpenersMarked.add (b := { b with frames := rest }) hopeners.2 _, ?_, ?_⟩
    · rw [issues_add]
      exact hreported
    · exact showsTag_add (hshown.symm.imp_right showsTag_block.mpr)

/-- What is spoiled stays so after a closer. -/
theorem Spoiled.close (h : b.Spoiled) (name raw : Text) : (b.close name raw).Spoiled := by
  unfold Builder.close
  split
  · exact (h.report _ _).add _
  · rename_i top rest hframes
    have hmatched : (if top.header.kind.name = name then b
        else b.report (.mismatchedCloser top.header.kind name) b.position).Spoiled := by
      split
      · exact h
      · exact h.report _ _
    simp only
    split
    · exact hmatched.add _
    · exact (hmatched.unwindMany _).closeTop

/-- What is spoiled stays so after a tag. -/
theorem Spoiled.apply (h : b.Spoiled) {raw : Text} (hraw : HasPair openMark raw) (tag : Tag)
    : (b.apply raw tag).Spoiled := by
  cases tag with
  | leaf node => exact h.add [node]
  | literal problem => exact (h.report _ _).add _
  | opener header =>
      refine ⟨?_, h.reported, ?_⟩
      · rw [OpenersMarked, Builder.apply, openBlock, List.map_cons, List.forall_mem_cons]
        exact ⟨hraw, h.openers⟩
      · exact h.shown
  | otherwise =>
      rw [Builder.apply, beginElse]
      split
      · rename_i frame rest hframes
        split
        · rename_i hfork
          obtain ⟨hopeners, hreported, hshown⟩ := h
          rw [OpenersMarked, hframes] at hopeners
          rw [Bool.and_eq_true, Option.isNone_iff_eq_none] at hfork
          refine ⟨hopeners, hreported, ?_⟩
          simpa [nodes, hframes, Frame.nodes, hfork.2] using hshown
        · exact (h.report _ _).add _
      · exact (h.report _ _).add _
  | closer name =>
      have hcounted : ({ b with closed := b.closed + 1 } : Builder).Spoiled :=
        ⟨h.openers, h.reported, h.shown⟩
      exact hcounted.close name raw

/-- What is spoiled stays so whatever is nested too deep. -/
theorem Spoiled.nested (h : b.Spoiled) (tooDeep : List Kind) : ({ b with tooDeep }).Spoiled :=
  ⟨h.openers, h.reported, h.shown⟩

/-- What is spoiled stays so after a tag at the limit. -/
theorem Spoiled.applyAtLimit (h : b.Spoiled) {raw : Text} (hraw : HasPair openMark raw) (tag : Tag)
    : (b.applyAtLimit raw tag).Spoiled := by
  cases tag with
  | opener header => exact ((h.report _ _).add _).nested _
  | closer name =>
      simp only [Builder.applyAtLimit]
      split
      · rename_i kind rest hdeep
        split
        · exact (h.nested rest).add _
        · exact h.apply hraw _
      · exact h.apply hraw _
  | otherwise =>
      simp only [Builder.applyAtLimit]
      split
      · exact h.apply hraw _
      · exact h.add _
  | leaf node => exact h.apply hraw (.leaf node)
  | literal problem => exact h.apply hraw (.literal problem)

/-- What is spoiled stays so at any position. -/
theorem Spoiled.moved (h : b.Spoiled) (position : Nat) : ({ b with position }).Spoiled :=
  ⟨h.openers, h.reported, h.shown⟩

/-- Nothing that is read makes up for a problem. -/
theorem Spoiled.step (h : b.Spoiled) {segment : Segment} (hmarked : segment.Marked)
    : (b.step segment).Spoiled := by
  refine Spoiled.moved ?_ _
  cases segment with
  | text content => exact h.add _
  | unterminated raw => exact (h.report _ _).add _
  | tag inner =>
      simp only [take]
      split
      · exact h.applyAtLimit hmarked _
      · exact h.apply hmarked _

-----------------------------------------------------------------------------------------
-- As long as nothing has been reported
-----------------------------------------------------------------------------------------

/-- Nothing has been reported. Every block that was opened is still open or has been closed, and
the closed ones are the blocks of the tree.
-/
structure Clean (b : Builder) : Prop where
  openers : b.OpenersMarked
  issues : b.issues = []
  tooDeep : b.tooDeep = []
  opened : b.opened = b.closed + b.frames.length
  blocks : blocksIn b.nodes = b.closed

/-- Before anything is read, all is clean. -/
theorem clean_start : start.Clean :=
  ⟨fun _ hmem => absurd hmem List.not_mem_nil, rfl, rfl, rfl, rfl⟩

/-- What is clean stays so when nodes without blocks are added. -/
theorem Clean.add (h : b.Clean) (hmore : blocksIn more = 0) : (b.add more).Clean := by
  refine ⟨h.openers.add more, ?_, ?_, ?_, ?_⟩
  · rw [issues_add, h.issues]
  · rw [tooDeep_add, h.tooDeep]
  · rw [opened_add, closed_add, length_frames_add, h.opened]
  · rw [blocksIn_add, hmore, closed_add, h.blocks, Nat.add_zero]

/-- A leaf has no blocks. -/
theorem blocksIn_leaf {inner : Text} {node : Node} (h : Tag.ofInner inner = .leaf node)
    : blocksIn [node] = 0 := by
  have hleaf := writableLeaf_of_leaf h
  cases node with
  | block header body otherwise => exact hleaf.elim
  | _ => rfl

/-- What is clean stays so when a block is opened. -/
theorem Clean.openBlock (h : b.Clean) (header : Header) {raw : Text} (hraw : HasPair openMark raw)
    : (b.openBlock header raw).Clean := by
  refine ⟨?_, h.issues, h.tooDeep, ?_, h.blocks⟩
  · rw [OpenersMarked, Builder.openBlock, List.map_cons, List.forall_mem_cons]
    exact ⟨hraw, h.openers⟩
  · have hopened := h.opened
    simp only [Builder.openBlock, List.length_cons]
    omega

/-- The closer of the innermost block makes it one more block of the tree. -/
theorem Clean.closeTop {frame : Frame} {rest : List Frame} (h : b.Clean)
    (hframes : b.frames = frame :: rest)
    : ({ b with closed := b.closed + 1 } : Builder).closeTop.Clean := by
  have hclose : ({ b with closed := b.closed + 1 } : Builder).closeTop
      = ({ b with frames := rest, closed := b.closed + 1 } : Builder).add [frame.node] := by
    simp only [Builder.closeTop, hframes]
  obtain ⟨hopeners, hissues, hdeep, hopened, hblocks⟩ := h
  rw [OpenersMarked, hframes, List.map_cons, List.forall_mem_cons] at hopeners
  rw [hframes, List.length_cons] at hopened
  rw [nodes, hframes, List.flatMap_cons, List.append_assoc, additive_blocksIn.append, Frame.nodes,
    additive_blocksIn.append] at hblocks
  rw [hclose]
  have houtside : ({ b with frames := rest, closed := b.closed + 1 } : Builder).OpenersMarked :=
    hopeners.2
  refine ⟨houtside.add _, ?_, ?_, ?_, ?_⟩
  · rw [issues_add, hissues]
  · rw [tooDeep_add, hdeep]
  · rw [opened_add, closed_add, length_frames_add]
    simp only
    omega
  · rw [blocksIn_add, closed_add, nodes, blocksIn, blocksIn, Frame.node, Node.blocks]
    simp only
    omega

/-- After an else tag all is clean, or it is spoiled by a problem. -/
theorem Clean.beginElse (h : b.Clean) {raw : Text} (hraw : HasPair openMark raw)
    : (b.beginElse raw).Clean ∨ (b.beginElse raw).Spoiled := by
  unfold Builder.beginElse
  split
  · rename_i frame rest hframes
    split
    · rename_i hfork
      obtain ⟨hopeners, hissues, hdeep, hopened, hblocks⟩ := h
      rw [OpenersMarked, hframes] at hopeners
      rw [hframes] at hopened
      rw [Bool.and_eq_true, Option.isNone_iff_eq_none] at hfork
      refine Or.inl ⟨hopeners, hissues, hdeep, hopened, ?_⟩
      simpa [nodes, hframes, Frame.nodes, hfork.2] using hblocks
    · exact Or.inr (spoiled_refuse h.openers _ hraw)
  · exact Or.inr (spoiled_refuse h.openers _ hraw)

/-- A closer closes the innermost block, or it leaves some tag in the literal text: itself, or the
openers of the blocks that are given up for it.
-/
theorem close_cases (h : b.OpenersMarked) (name : Text) {raw : Text} (hraw : HasPair openMark raw)
    : (∃ frame rest, b.frames = frame :: rest ∧ b.close name raw = b.closeTop)
      ∨ (b.close name raw).Spoiled := by
  cases hframes : b.frames with
  | nil =>
      unfold Builder.close
      rw [hframes]
      exact Or.inr (spoiled_refuse h _ hraw)
  | cons top rest =>
      by_cases hname : top.header.kind.name = name
      · subst hname
        exact Or.inl ⟨top, rest, rfl, close_top raw hframes⟩
      · refine Or.inr ?_
        have hopeners :
            (b.report (.mismatchedCloser top.header.kind name) b.position).OpenersMarked := h
        have hopen :
            (b.report (.mismatchedCloser top.header.kind name) b.position).frames ≠ [] := by
          simp [Builder.report, hframes]
        unfold Builder.close
        simp only [hframes, if_neg hname]
        split
        · exact spoiled_report_add h _ _ (showsTag_text.mpr hraw)
        · rename_i depth hdepth
          have hdeeper : depth ≠ 0 := by
            rintro rfl
            simp [Builder.report, hframes, List.findIdx?_cons, hname] at hdepth
          exact (spoiled_unwindMany hopeners hopen hdeeper).closeTop

/-- After a tag all is clean, or it is spoiled by a problem. -/
theorem Clean.apply (h : b.Clean) {inner : Text} {tag : Tag} (hmeaning : Tag.ofInner inner = tag)
    : (b.apply (tagText inner) tag).Clean ∨ (b.apply (tagText inner) tag).Spoiled := by
  have hraw := hasPair_tagText inner
  cases tag with
  | leaf node => exact Or.inl (h.add (blocksIn_leaf hmeaning))
  | literal problem => exact Or.inr (spoiled_refuse h.openers problem hraw)
  | opener header => exact Or.inl (h.openBlock header hraw)
  | otherwise => exact h.beginElse hraw
  | closer name =>
      have hopeners : ({ b with closed := b.closed + 1 } : Builder).OpenersMarked := h.openers
      rcases close_cases hopeners name hraw with ⟨frame, rest, hframes, hclose⟩ | hspoiled
      · rw [Builder.apply, hclose]
        exact Or.inl (h.closeTop hframes)
      · exact Or.inr hspoiled

/-- At the deepest nesting only an opener is refused, because no opener has been refused before. -/
theorem Clean.applyAtLimit (h : b.Clean) {inner : Text} {tag : Tag}
    (hmeaning : Tag.ofInner inner = tag)
    : (b.applyAtLimit (tagText inner) tag).Clean
      ∨ (b.applyAtLimit (tagText inner) tag).Spoiled := by
  cases tag with
  | opener header =>
      exact Or.inr ((spoiled_refuse h.openers _ (hasPair_tagText inner)).nested _)
  | closer name =>
      rw [Builder.applyAtLimit, h.tooDeep]
      exact h.apply hmeaning
  | otherwise =>
      rw [Builder.applyAtLimit, if_pos h.tooDeep]
      exact h.apply hmeaning
  | leaf node => exact h.apply hmeaning
  | literal problem => exact h.apply hmeaning

/-- After a segment all is clean, or it is spoiled by a problem. -/
theorem Clean.step (h : b.Clean) {segment : Segment} (hmarked : segment.Marked)
    : (b.step segment).Clean ∨ (b.step segment).Spoiled := by
  have htake : (b.take segment).Clean ∨ (b.take segment).Spoiled := by
    cases segment with
    | text content => exact Or.inl (h.add rfl)
    | unterminated raw => exact Or.inr (spoiled_refuse h.openers _ hmarked)
    | tag inner =>
        simp only [take]
        split
        · exact h.applyAtLimit rfl
        · exact h.apply rfl
  rcases htake with hclean | hspoiled
  · exact Or.inl ⟨hclean.openers, hclean.issues, hclean.tooDeep, hclean.opened, hclean.blocks⟩
  · exact Or.inr (hspoiled.moved _)

-----------------------------------------------------------------------------------------
-- Whole templates
-----------------------------------------------------------------------------------------

/-- Every run ends without a report or with a tag in the literal text, by induction on the
segments.
-/
theorem clean_or_spoiled_run {segments : List Segment} (h : b.Clean ∨ b.Spoiled)
    (hmarked : ∀ segment ∈ segments, segment.Marked)
    : (segments.foldl Builder.step b).Clean ∨ (segments.foldl Builder.step b).Spoiled := by
  induction segments generalizing b with
  | nil => exact h
  | cons segment rest ih =>
      rw [List.forall_mem_cons] at hmarked
      refine ih ?_ hmarked.2
      rcases h with hclean | hspoiled
      · exact hclean.step hmarked.1
      · exact Or.inr (hspoiled.step hmarked.1)

/-- A template that ends with all blocks closed is finished as it is. -/
theorem Clean.finish (h : b.Clean) (hframes : b.frames = []) : b.finish = b := by
  have hopened := h.opened
  simp only [hframes, List.length_nil, Nat.add_zero] at hopened
  simp [Builder.finish, hframes, unwindMany, hopened]

/-- When all blocks are given up, none is open. -/
theorem frames_unwindMany (b : Builder) : (b.unwindMany b.frames.length).frames = [] := by
  rw [← List.map_eq_nil_iff (f := Frame.header), headers_unwindMany, List.drop_eq_nil_iff,
    List.length_map]

/-- With a problem reported, or with a block still open, a tag stands in the literal text at last.
-/
theorem spoiled_finish (h : (b.unwindMany b.frames.length).Spoiled)
    : (∃ problem position, .problem problem position ∈ b.finish.issues)
      ∧ ShowsTag b.finish.root := by
  obtain ⟨-, ⟨problem, position, hmem⟩, hshown⟩ := h
  rw [nodes, frames_unwindMany, List.flatMap_nil, List.nil_append] at hshown
  unfold Builder.finish
  simp only
  split
  · exact ⟨⟨problem, position, hmem⟩, hshown⟩
  · exact ⟨⟨problem, position, List.mem_append_left _ hmem⟩, hshown⟩

end Builder

/-- All segments but literal text show a tag. -/
theorem marked_segments (text : Text) : ∀ segment ∈ segments text, segment.Marked := by
  intro segment hmem
  have hopening := opening_segments text segment hmem
  cases segment with
  | text content => trivial
  | tag inner => exact hasPair_tagText inner
  | unterminated raw => exact hopening.isInfix

/-- A template is read without any problem, all its blocks being closed, or else some problem is
reported and some tag stands in the literal text.
-/
theorem clean_or_shown (text : Text)
    : (∃ b : Builder, (segments text).foldl Builder.step Builder.start = b
        ∧ b.Clean ∧ b.frames = [] ∧ ofText text = ⟨b.root, []⟩)
      ∨ ((∃ problem position, .problem problem position ∈ (ofText text).issues)
        ∧ ShowsTag (ofText text).nodes) := by
  have hrun := Builder.clean_or_spoiled_run (Or.inl Builder.clean_start) (marked_segments text)
  rw [ofText, ofSegments]
  generalize (segments text).foldl Builder.step Builder.start = b at hrun
  rcases hrun with hclean | hspoiled
  · by_cases hframes : b.frames = []
    · refine Or.inl ⟨b, rfl, hclean, hframes, ?_⟩
      rw [hclean.finish hframes, hclean.issues]
    · have hcount : b.frames.length ≠ 0 := fun hzero => hframes (List.length_eq_zero_iff.mp hzero)
      exact Or.inr (Builder.spoiled_finish
        (Builder.spoiled_unwindMany hclean.openers hframes hcount))
  · exact Or.inr (Builder.spoiled_finish (hspoiled.unwindMany _))

/-- No literal text of a canonical tree holds a tag, by induction on the tree. -/
theorem Canonical.not_showsTag {room : Nat} {followed : Bool} {nodes : List Node}
    (h : Canonical room followed nodes)
    : ¬ShowsTag nodes := by
  induction h with
  | nil => exact showsTag_nil
  | text filled unmarked _ _ _ ih =>
      rw [showsTag_cons, showsTag_text, not_or]
      exact ⟨unmarked, ih⟩
  | @leaf _ _ node rest writable _ ih =>
      rw [showsTag_cons, not_or]
      refine ⟨?_, ih⟩
      cases node with
      | text content => exact writable.elim
      | block header body otherwise => exact writable.elim
      | «variable» | helper => simp [ShowsTag, literalsIn, Node.literals]
  | block _ _ _ _ _ inside apart tail =>
      rw [showsTag_cons, showsTag_block, not_or, not_or]
      exact ⟨⟨inside, apart⟩, tail⟩

/-- Reporting is exact. A template is the literal texts of its tree and the tags of the directives.
Nothing is reported of it if and only if no literal text holds an opening mark, so that every
opening mark of the template belongs to a directive; and nothing is reported of what a canonical
tree writes. Whatever is reported, some tag is among the problems; the numbers of openers and
closers never disagree alone.
-/
theorem issues_eq_nil_iff (text : Text)
    : Written (ofText text).nodes text
      ∧ ((ofText text).issues = []
          ↔ ∀ content ∈ literalsIn (ofText text).nodes, ¬HasPair openMark content)
      ∧ (∀ nodes, Canonical deepestNesting false nodes → write nodes = text
        → (ofText text).issues = [])
      ∧ ((ofText text).issues ≠ []
        → ∃ problem position, .problem problem position ∈ (ofText text).issues)
      ∧ ∀ opened closed, (ofText text).issues ≠ [.countMismatch opened closed] := by
  have hexact : (ofText text).issues = []
      ∨ (∃ problem position, .problem problem position ∈ (ofText text).issues)
        ∧ ShowsTag (ofText text).nodes := by
    refine (clean_or_shown text).imp_left ?_
    rintro ⟨b, -, -, -, hread⟩
    rw [hread]
  refine ⟨?_, ⟨fun hnone content hmem hpair => ?_, fun hliterals => ?_⟩, ?_, fun hsome => ?_, ?_⟩
  · have hwritten := (spelling_ofText text).written (shaped_segments text)
    rwa [raw_segments] at hwritten
  · exact (canonical_ofText hnone).not_showsTag ⟨content, hmem, hpair⟩
  · refine hexact.resolve_right ?_
    rintro ⟨-, content, hmem, hpair⟩
    exact hliterals content hmem hpair
  · rintro nodes hcanonical rfl
    rw [hcanonical.ofText_write]
  · exact (hexact.resolve_left hsome).1
  · intro opened closed honly
    rcases hexact with hnone | ⟨⟨problem, position, hmem⟩, -⟩
    · rw [hnone] at honly
      cases honly
    · rw [honly, List.mem_singleton] at hmem
      cases hmem

end LeasePapers.Template
