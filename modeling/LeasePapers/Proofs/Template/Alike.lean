import Mathlib.Data.List.Forall2
import LeasePapers.Proofs.Template.Places

/-! Builders that come to the same tree. Their open blocks are the same but for blocks that are
never closed: of these only the literal text counts, so it does not matter whether such a block has
begun its else branch. What is reported and counted does not matter either.
-/

namespace LeasePapers.Template

-----------------------------------------------------------------------------------------
-- Open blocks
-----------------------------------------------------------------------------------------

/-- Nodes that are added to an open block are added to its literal text. -/
theorem Frame.literal_add (frame : Frame) (nodes : List Node)
    : (frame.add nodes).literal = addNodes frame.literal nodes := by
  obtain ⟨header, opener, position, body, otherwise⟩ := frame
  cases otherwise with
  | none => exact addNodes_addNodes _ _ _
  | some branch => exact addNodes_addNodes _ _ _

/-- The else tag of a block is part of its literal text. -/
theorem Frame.literal_fork {frame : Frame} (h : frame.otherwise = none) (raw : Text)
    : ({ frame with otherwise := some (raw, []) } : Frame).literal
      = addNodes frame.literal [.text raw] := by
  obtain ⟨header, opener, position, body, otherwise⟩ := frame
  subst h
  rfl

/-- Adding nodes begins no else branch. -/
theorem Frame.isNone_otherwise_add (frame : Frame) (nodes : List Node)
    : (frame.add nodes).otherwise.isNone = frame.otherwise.isNone := by
  obtain ⟨header, opener, position, body, otherwise⟩ := frame
  cases otherwise <;> rfl

/-- Two open blocks that come to the same: they are one block, or they are given up at last, and the
second has begun its else branch where the first may have kept the else tag as literal text.
-/
inductive Frame.Alike (lost : Nat → Prop) : Frame → Frame → Prop
  | same (frame : Frame) : Frame.Alike lost frame frame
  | begun {frame other : Frame} (header : frame.header = other.header)
      (position : frame.position = other.position) (literal : frame.literal = other.literal)
      (otherwise : other.otherwise.isNone = false) (given : lost frame.position)
    : Frame.Alike lost frame other

namespace Frame.Alike

variable {lost : Nat → Prop} {frame other : Frame}

/-- Blocks that come to the same have the same header. -/
theorem header_eq (h : frame.Alike lost other) : frame.header = other.header := by
  cases h with
  | same => rfl
  | begun header => exact header

/-- Blocks that come to the same stand at the same position. -/
theorem position_eq (h : frame.Alike lost other) : frame.position = other.position := by
  cases h with
  | same => rfl
  | begun _ position => exact position

/-- Blocks that come to the same are the same literal text when they are given up. -/
theorem literal_eq (h : frame.Alike lost other) : frame.literal = other.literal := by
  cases h with
  | same => rfl
  | begun _ _ literal => exact literal

/-- Blocks that come to the same are the same where they are not lost. -/
theorem eq_of_not_lost (h : frame.Alike lost other) (hkept : ¬lost frame.position)
    : frame = other := by
  cases h with
  | same => rfl
  | begun _ _ _ _ given => exact absurd given hkept

/-- Blocks that come to the same do so with further nodes. -/
theorem add (h : frame.Alike lost other) (nodes : List Node)
    : (frame.add nodes).Alike lost (other.add nodes) := by
  cases h with
  | same => exact .same _
  | begun header position literal otherwise given =>
      refine .begun ?_ ?_ ?_ ?_ ?_
      · rw [header_add, header_add, header]
      · rw [position_add, position_add, position]
      · rw [literal_add, literal_add, literal]
      · rw [isNone_otherwise_add, otherwise]
      · rwa [position_add]

end Frame.Alike

namespace Builder

variable {lost : Nat → Prop} {b other b' other' rest : Builder} {frame : Frame} {name : Text}

-----------------------------------------------------------------------------------------
-- Builders up to reports and counts
-----------------------------------------------------------------------------------------

/-- Nodes are added together or one after the other. -/
theorem add_addNodes (b : Builder) (nodes more : List Node)
    : b.add (addNodes nodes more) = (b.add nodes).add more := by
  obtain ⟨root, frames, tooDeep, issues, opened, closed, position⟩ := b
  cases frames with
  | nil => simp only [add, addNodes_addNodes]
  | cons frame rest =>
      obtain ⟨header, opener, place, body, otherwise⟩ := frame
      cases otherwise <;> simp only [add, Frame.add, addNodes_addNodes]

/-- Adding nodes does not move a builder. -/
@[simp] theorem position_add (b : Builder) (nodes : List Node)
    : (b.add nodes).position = b.position := by
  unfold add
  split <;> rfl

/-- Two builders have built the same, whatever they have reported and counted. -/
structure Same (b other : Builder) : Prop where
  root : b.root = other.root
  frames : b.frames = other.frames
  tooDeep : b.tooDeep = other.tooDeep
  position : b.position = other.position

/-- Builders of the same stay so with further nodes. -/
theorem Same.add (h : b.Same other) (nodes : List Node) : (b.add nodes).Same (other.add nodes) := by
  obtain ⟨root, frames, tooDeep, issues, opened, closed, position⟩ := b
  obtain ⟨root', frames', tooDeep', issues', opened', closed', position'⟩ := other
  obtain ⟨rfl, rfl, rfl, rfl⟩ := h
  cases frames <;> exact ⟨rfl, rfl, rfl, rfl⟩

/-- A problem that is reported changes nothing that is built. -/
theorem same_report (b : Builder) (problem : Problem) (position : Nat)
    : (b.report problem position).Same b :=
  ⟨rfl, rfl, rfl, rfl⟩

/-- A segment that is refused is built as literal text. -/
theorem same_refuse (b : Builder) (problem : Problem) (raw : Text)
    : (b.refuse problem raw).Same (b.literal raw) :=
  (b.same_report problem b.position).add [.text raw]

/-- The first builder has one more block open inside of what the second has open. -/
structure Pushed (frame : Frame) (rest b : Builder) : Prop where
  frames : b.frames = frame :: rest.frames
  root : b.root = rest.root
  tooDeep : b.tooDeep = rest.tooDeep
  position : b.position = rest.position

/-- The innermost open block is one more than those around it. -/
theorem pushed_of_frames {frames : List Frame} (h : b.frames = frame :: frames)
    : Pushed frame { b with frames } b :=
  ⟨h, rfl, rfl, rfl⟩

/-- One more block stays so in a builder of the same. -/
theorem Pushed.of_same (h : Pushed frame rest b) (hsame : b'.Same b) : Pushed frame rest b' :=
  ⟨hsame.frames.trans h.frames, hsame.root.trans h.root, hsame.tooDeep.trans h.tooDeep,
    hsame.position.trans h.position⟩

/-- Nodes are added to the innermost open block. -/
theorem Pushed.add (h : Pushed frame rest b) (nodes : List Node)
    : Pushed (frame.add nodes) rest (b.add nodes) := by
  obtain ⟨root, frames, tooDeep, issues, opened, closed, position⟩ := b
  obtain ⟨hframes, hroot, hdeep, hposition⟩ := h
  subst hframes
  exact ⟨rfl, hroot, hdeep, hposition⟩

/-- One more block stays so at another position. -/
theorem Pushed.moved (h : Pushed frame rest b) (position : Nat)
    : Pushed frame { rest with position } { b with position } :=
  ⟨h.frames, h.root, h.tooDeep, rfl⟩

/-- The block is given up. -/
theorem Pushed.unwind (h : Pushed frame rest b) : b.unwind.Same (rest.add frame.literal) := by
  have hunwind : b.unwind
      = (({ b with frames := rest.frames }).report (.unclosedBlock frame.header.kind)
          frame.position).add frame.literal := by
    simp only [Builder.unwind, h.frames]
  have houtside : (({ b with frames := rest.frames }).report (.unclosedBlock frame.header.kind)
      frame.position).Same rest :=
    ⟨h.root, rfl, h.tooDeep, h.position⟩
  exact hunwind ▸ houtside.add _

/-- The block is closed. -/
theorem Pushed.closeTop (h : Pushed frame rest b) : b.closeTop.Same (rest.add [frame.node]) := by
  have hclose : b.closeTop = ({ b with frames := rest.frames }).add [frame.node] := by
    simp only [Builder.closeTop, h.frames]
  have houtside : ({ b with frames := rest.frames }).Same rest :=
    ⟨h.root, rfl, h.tooDeep, h.position⟩
  exact hclose ▸ houtside.add _

/-- A closer is a closer of its name, whatever is reported of it. -/
theorem same_close (b : Builder) (name raw : Text)
    : ∃ reported : Builder, reported.Same b ∧ b.close name raw = reported.closeNamed name raw := by
  obtain ⟨reported, hreported, hclose⟩ := close_eq_closeNamed b name raw
  refine ⟨reported, ?_, hclose⟩
  rcases hreported with rfl | ⟨problem, rfl⟩
  · exact ⟨rfl, rfl, rfl, rfl⟩
  · exact b.same_report problem b.position

-----------------------------------------------------------------------------------------
-- Builders that come to the same
-----------------------------------------------------------------------------------------

/-- Two builders that come to the same tree: the blocks that are open come to the same, and all else
is the same. The blocks at the lost places are never closed.
-/
structure Alike (lost : Nat → Prop) (b other : Builder) : Prop where
  root : b.root = other.root
  frames : List.Forall₂ (Frame.Alike lost) b.frames other.frames
  tooDeep : b.tooDeep = other.tooDeep
  position : b.position = other.position

/-- Builders that come to the same do so for builders of the same. -/
theorem Alike.of_same (h : b.Alike lost other) (hb : b'.Same b) (hother : other'.Same other)
    : b'.Alike lost other' := by
  refine ⟨?_, ?_, ?_, ?_⟩
  · rw [hb.root, h.root, hother.root]
  · rw [hb.frames, hother.frames]
    exact h.frames
  · rw [hb.tooDeep, h.tooDeep, hother.tooDeep]
  · rw [hb.position, h.position, hother.position]

/-- Builders of the same come to the same. -/
theorem alike_of_same (h : b.Same other) : b.Alike lost other :=
  ⟨h.root, h.frames ▸ List.forall₂_same.mpr (fun frame _ => .same frame), h.tooDeep, h.position⟩

/-- Both builders have no block open, or blocks that come to the same in builders that do. -/
theorem Alike.cases (h : b.Alike lost other)
    : b.frames = [] ∧ other.frames = []
      ∨ ∃ frame frame' rest rest',
          Pushed frame rest b ∧ Pushed frame' rest' other
          ∧ frame.Alike lost frame' ∧ rest.Alike lost rest' := by
  obtain ⟨hroot, hframes, hdeep, hposition⟩ := h
  generalize hb : b.frames = frames at hframes
  generalize hother : other.frames = frames' at hframes
  cases hframes with
  | nil => exact Or.inl ⟨rfl, rfl⟩
  | cons hframe hrest =>
      exact Or.inr ⟨_, _, _, _, pushed_of_frames hb, pushed_of_frames hother, hframe,
        ⟨hroot, hrest, hdeep, hposition⟩⟩

/-- Builders come to the same if their innermost blocks do, and what is around them. -/
theorem Pushed.alike {frame' : Frame} {rest' : Builder} (h : Pushed frame rest b)
    (h' : Pushed frame' rest' other) (hframe : frame.Alike lost frame')
    (hrest : rest.Alike lost rest')
    : b.Alike lost other := by
  refine ⟨?_, ?_, ?_, ?_⟩
  · rw [h.root, hrest.root, h'.root]
  · rw [h.frames, h'.frames]
    exact .cons hframe hrest.frames
  · rw [h.tooDeep, hrest.tooDeep, h'.tooDeep]
  · rw [h.position, hrest.position, h'.position]

/-- Builders that come to the same do so with further nodes. -/
theorem Alike.add (h : b.Alike lost other) (nodes : List Node)
    : (b.add nodes).Alike lost (other.add nodes) := by
  rcases h.cases with ⟨hb, hother⟩ | ⟨frame, frame', rest, rest', hb, hother, hframe, hrest⟩
  · refine alike_of_same (Same.add ⟨h.root, hb.trans hother.symm, h.tooDeep, h.position⟩ nodes)
  · exact (hb.add nodes).alike (hother.add nodes) (hframe.add nodes) hrest

/-- Builders that come to the same do so when a segment is refused. -/
theorem Alike.refuse (h : b.Alike lost other) (problem : Problem) (raw : Text)
    : (b.refuse problem raw).Alike lost (other.refuse problem raw) :=
  (h.add [.text raw]).of_same (same_refuse _ _ _) (same_refuse _ _ _)

/-- Builders that come to the same do so when the innermost block is given up. -/
theorem Alike.unwind (h : b.Alike lost other) : b.unwind.Alike lost other.unwind := by
  rcases h.cases with ⟨hb, hother⟩ | ⟨frame, frame', rest, rest', hb, hother, hframe, hrest⟩
  · simpa only [Builder.unwind, hb, hother] using h
  · refine (hrest.add frame.literal).of_same hb.unwind ?_
    rw [hframe.literal_eq]
    exact hother.unwind

/-- Builders that come to the same do so when several blocks are given up, by induction on their
number. -/
theorem Alike.unwindMany (h : b.Alike lost other) (count : Nat)
    : (b.unwindMany count).Alike lost (other.unwindMany count) := by
  induction count generalizing b other with
  | zero => exact h
  | succ count ih => exact ih h.unwind

/-- A closer closes blocks at the same place, by induction on the open blocks. -/
theorem Alike.closes? (h : b.Alike lost other) (name : Text)
    : b.closes? name = other.closes? name := by
  have hframes := h.frames
  rw [Builder.closes?, Builder.closes?]
  generalize b.frames = frames at hframes
  generalize other.frames = frames' at hframes
  induction hframes with
  | nil => rfl
  | cons hframe _ ih =>
      rw [List.find?_cons, List.find?_cons, hframe.header_eq]
      split
      · exact congrArg some hframe.position_eq
      · exact ih

/-- The block that is closed is the same in both builders, because it is not lost, by induction on
the blocks that are given up. -/
theorem Alike.closing {place : Nat} {after : Builder} (h : b.Alike lost other)
    (hclosing : Closing name place b after) (hplace : b.closes? name = some place)
    (hkept : ¬lost place) (raw : Text)
    : after.Alike lost (other.closeNamed name raw) := by
  induction hclosing generalizing other with
  | top frames named placed =>
      rcases h.cases with ⟨hb, -⟩ | ⟨frame, frame', rest, rest', hb, hother, hframe, hrest⟩
      · simp [frames] at hb
      · obtain ⟨rfl, -⟩ := List.cons.inj (frames.symm.trans hb.frames)
        obtain rfl := hframe.eq_of_not_lost (placed ▸ hkept)
        rw [closeNamed_top hother.frames named]
        exact (hrest.add _).of_same hb.closeTop hother.closeTop
  | inside frames differs _ ih =>
      rcases h.cases with ⟨hb, -⟩ | ⟨frame, frame', rest, rest', hb, hother, hframe, hrest⟩
      · simp [frames] at hb
      · obtain ⟨rfl, -⟩ := List.cons.inj (frames.symm.trans hb.frames)
        rw [closeNamed_unwind hother.frames (hframe.header_eq ▸ differs)
          (by rw [← h.closes?, hplace]; exact Option.some_ne_none place)]
        exact ih h.unwind (by rw [closes?_unwind frames differs, hplace])

/-- Builders that come to the same do so when a block is closed that is not lost. -/
theorem Alike.close (h : b.Alike lost other)
    (hkept : ∀ place, b.closes? name = some place → ¬lost place) (raw : Text)
    : (b.close name raw).Alike lost (other.close name raw) := by
  obtain ⟨reported, hreported, hb⟩ := same_close b name raw
  obtain ⟨reported', hreported', hother⟩ := same_close other name raw
  have halike := h.of_same hreported hreported'
  have hcloses : reported.closes? name = b.closes? name := by
    rw [Builder.closes?, hreported.frames, Builder.closes?]
  rw [hb, hother]
  cases hplace : reported.closes? name with
  | none =>
      rw [closeNamed_of_none hplace, closeNamed_of_none (halike.closes? name ▸ hplace)]
      exact halike.add _
  | some place =>
      exact halike.closing (closing_closeNamed hplace raw) hplace
        (hkept place (hcloses.symm.trans hplace)) raw

/-- A block that takes an else tag for its else branch comes to the same as a block that keeps the
tag as literal text, if both are given up.
-/
theorem Alike.literal_beginElse (h : b.Alike lost other) (raw : Text)
    (hlost : ∀ frame rest, b.frames = frame :: rest → frame.header.kind.hasElse = true →
      frame.otherwise = none → lost frame.position)
    : (b.literal raw).Alike lost (other.beginElse raw) := by
  have hrefuse : (b.literal raw).Alike lost (other.refuse .strayElse raw) :=
    (h.add [.text raw]).of_same ⟨rfl, rfl, rfl, rfl⟩ (same_refuse _ _ _)
  rcases h.cases with ⟨-, hother⟩ | ⟨frame, frame', rest, rest', hb, hother, hframe, hrest⟩
  · simpa only [Builder.beginElse, hother] using hrefuse
  · simp only [Builder.beginElse, hother.frames]
    split
    · rename_i hfork
      rw [Bool.and_eq_true, Option.isNone_iff_eq_none] at hfork
      cases hframe with
      | begun _ _ _ otherwise => simp [hfork.2] at otherwise
      | same =>
          have hbegun : Pushed { frame with otherwise := some (raw, []) } rest'
              { other with
                frames := { frame with otherwise := some (raw, []) } :: rest'.frames } :=
            ⟨rfl, hother.root, hother.tooDeep, hother.position⟩
          refine (hb.add [.text raw]).alike hbegun (.begun ?_ ?_ ?_ rfl ?_) hrest
          · rw [Frame.header_add]
          · rw [Frame.position_add]
          · rw [Frame.literal_add, Frame.literal_fork hfork.2]
          · rw [Frame.position_add]
            exact hlost frame _ hb.frames hfork.1 hfork.2
    · exact hrefuse

/-- A block whose else branch has begun keeps a further else tag as literal text; one that has kept
its else tag as literal text may begin its else branch now.
-/
theorem Alike.beginElse (h : b.Alike lost other) (raw : Text)
    : (b.beginElse raw).Alike lost (other.beginElse raw) := by
  have hrefuse := h.refuse .strayElse raw
  rcases h.cases with ⟨hb, hother⟩ | ⟨frame, frame', rest, rest', hb, hother, hframe, hrest⟩
  · simpa only [Builder.beginElse, hb, hother] using hrefuse
  · cases hframe with
    | same =>
        simp only [Builder.beginElse, hb.frames, hother.frames]
        split
        · exact ⟨h.root, .cons (.same _) hrest.frames, h.tooDeep, h.position⟩
        · exact hrefuse
    | begun header position literal otherwise given =>
        have hstay : other.beginElse raw = other.refuse .strayElse raw := by
          simp [Builder.beginElse, hother.frames, otherwise]
        rw [hstay]
        simp only [Builder.beginElse, hb.frames]
        split
        · rename_i hfork
          rw [Bool.and_eq_true, Option.isNone_iff_eq_none] at hfork
          have hbegun : Pushed { frame with otherwise := some (raw, []) } rest
              { b with frames := { frame with otherwise := some (raw, []) } :: rest.frames } :=
            ⟨rfl, hb.root, hb.tooDeep, hb.position⟩
          refine (hbegun.alike (hother.add [.text raw]) (.begun ?_ ?_ ?_ ?_ given) hrest).of_same
            ⟨rfl, rfl, rfl, rfl⟩ (same_refuse _ _ _)
          · rw [Frame.header_add, header]
          · rw [Frame.position_add, position]
          · rw [Frame.literal_fork hfork.2, Frame.literal_add, literal]
          · rw [Frame.isNone_otherwise_add, otherwise]
        · exact hrefuse

-----------------------------------------------------------------------------------------
-- Whole segments
-----------------------------------------------------------------------------------------

/-- Builders that come to the same do so after a tag that closes no lost block. -/
theorem Alike.apply {raw : Text} {tag : Tag} (h : b.Alike lost other)
    (hkept : ∀ name place, tag = .closer name → b.closes? name = some place → ¬lost place)
    : (b.apply raw tag).Alike lost (other.apply raw tag) := by
  cases tag with
  | leaf node => exact h.add [node]
  | literal problem => exact h.refuse problem raw
  | opener header =>
      refine ⟨h.root, ?_, h.tooDeep, h.position⟩
      simp only [Builder.apply, Builder.openBlock, h.position]
      exact .cons (.same _) h.frames
  | otherwise => exact h.beginElse raw
  | closer name =>
      have hcounted : Alike lost { b with closed := b.closed + 1 }
          { other with closed := other.closed + 1 } :=
        ⟨h.root, h.frames, h.tooDeep, h.position⟩
      exact hcounted.close (fun place => hkept name place rfl) raw

/-- Builders that come to the same do so whatever is nested too deep. -/
theorem Alike.nested (h : b.Alike lost other) (tooDeep : List Kind)
    : Alike lost { b with tooDeep } { other with tooDeep } :=
  ⟨h.root, h.frames, rfl, h.position⟩

/-- Builders that come to the same do so after a tag at the limit that closes no lost block. -/
theorem Alike.applyAtLimit {raw : Text} {tag : Tag} (h : b.Alike lost other)
    (hkept : ∀ name place, tag = .closer name →
      (∀ kind rest, b.tooDeep = kind :: rest → kind.name ≠ name) →
      b.closes? name = some place → ¬lost place)
    : (b.applyAtLimit raw tag).Alike lost (other.applyAtLimit raw tag) := by
  cases tag with
  | leaf node => exact h.add [node]
  | literal problem => exact h.refuse problem raw
  | opener header =>
      have hrefuse := h.refuse (.nestingTooDeep header.kind) raw
      exact ⟨hrefuse.root, hrefuse.frames, congrArg (header.kind :: ·) h.tooDeep,
        hrefuse.position⟩
  | otherwise =>
      simp only [Builder.applyAtLimit, h.tooDeep]
      split
      · exact h.beginElse raw
      · exact h.add [.text raw]
  | closer name =>
      simp only [Builder.applyAtLimit, ← h.tooDeep]
      split
      · rename_i kind rest hdeep
        split
        · exact (h.nested rest).add [.text raw]
        · rename_i hname
          refine h.apply (fun name' place htag => hkept name' place htag ?_)
          rintro kind' rest' hdeep'
          obtain ⟨rfl, -⟩ := List.cons.inj (hdeep.symm.trans hdeep')
          obtain rfl := Tag.closer.inj htag
          exact hname
      · rename_i hdeep
        exact h.apply (fun name' place htag => hkept name' place htag (by simp [hdeep]))

/-- Every step keeps builders alike, unless it closes a lost block. -/
theorem Alike.step {segment : Segment} (h : b.Alike lost other)
    (hkept : ∀ place, b.Closes segment place → ¬lost place)
    : (b.step segment).Alike lost (other.step segment) := by
  have htake : (b.take segment).Alike lost (other.take segment) := by
    cases segment with
    | text content => exact h.add [.text content]
    | unterminated raw => exact h.refuse .unterminatedTag raw
    | tag inner =>
        have hlimit : other.isAtLimit = b.isAtLimit := by
          rw [Builder.isAtLimit, Builder.isAtLimit, h.tooDeep, h.frames.length_eq]
        simp only [Builder.take, hlimit]
        split
        · exact h.applyAtLimit (fun name place hmeaning hother hplace =>
            hkept place ⟨inner, name, rfl, hmeaning, hother, hplace⟩)
        · rename_i hfree
          rw [isAtLimit_eq_true_iff, not_or, not_not] at hfree
          exact h.apply (fun name place hmeaning hplace =>
            hkept place ⟨inner, name, rfl, hmeaning, by simp [hfree.1], hplace⟩)
  exact ⟨htake.root, htake.frames, htake.tooDeep, congrArg (· + _) h.position⟩

/-- At the end all open blocks are given up. -/
theorem root_finish (b : Builder) : b.finish.root = (b.unwindMany b.frames.length).root := by
  rw [finish]
  split <;> rfl

/-- Builders that are alike finish with the same tree. -/
theorem Alike.root_finish (h : b.Alike lost other) : b.finish.root = other.finish.root := by
  rw [Builder.root_finish, Builder.root_finish, h.frames.length_eq]
  exact (h.unwindMany _).root

end Builder

end LeasePapers.Template
