import Mathlib.Data.List.Perm.Subperm
import LeasePapers.Proofs.Template.Nesting

/-! Where blocks are open and problems reported. A tag opens a block or has a problem, but not both,
so all these places are different; a block that is given up leaves its place to the problem that is
then reported. A block that is closed takes its place with it, and nothing is reported there later.
-/

namespace LeasePapers.Template

/-- The position of an issue that belongs to a tag. -/
def Issue.place? : Issue → Option Nat
  | .problem _ position => some position
  | .countMismatch _ _ => none

namespace Builder

/-- The positions of the open blocks and of the problems reported. -/
def places (b : Builder) : List Nat :=
  b.frames.map Frame.position ++ b.issues.filterMap Issue.place?

variable {b : Builder} {name : Text} {place : Nat}

-----------------------------------------------------------------------------------------
-- The block that a closer closes
-----------------------------------------------------------------------------------------

/-- The position of the block that a closer of a name closes. -/
def closes? (b : Builder) (name : Text) : Option Nat :=
  (b.frames.find? (fun frame => frame.header.kind.name = name)).map Frame.position

/-- Blocks are given up from the innermost on until one has the name, and that one is closed. -/
inductive Closing (name : Text) (place : Nat) : Builder → Builder → Prop
  | top {b : Builder} {frame : Frame} {rest : List Frame} (frames : b.frames = frame :: rest)
      (named : frame.header.kind.name = name) (placed : frame.position = place)
    : Closing name place b b.closeTop
  | inside {b after : Builder} {frame : Frame} {rest : List Frame}
      (frames : b.frames = frame :: rest) (other : frame.header.kind.name ≠ name)
      (closing : Closing name place b.unwind after)
    : Closing name place b after

/-- Where no block is open, none is closed. -/
theorem closes?_nil (hframes : b.frames = []) (name : Text) : b.closes? name = none := by
  rw [closes?, hframes]
  rfl

/-- A closer closes the innermost block if that has its name, or else looks further out. -/
theorem closes?_cons {frame : Frame} {rest : List Frame} (hframes : b.frames = frame :: rest)
    (name : Text)
    : b.closes? name
      = if frame.header.kind.name = name then some frame.position
        else ({ b with frames := rest }).closes? name := by
  rw [closes?, hframes, List.find?_cons]
  split <;> simp_all [closes?]

/-- Adding nodes makes no difference to what is closed. -/
@[simp] theorem closes?_add (b : Builder) (nodes : List Node) (name : Text)
    : (b.add nodes).closes? name = b.closes? name := by
  unfold add
  split
  · rfl
  · rename_i frame rest hframes
    rw [closes?_cons hframes, closes?_cons rfl, Frame.header_add, Frame.position_add]

/-- A block of another name makes no difference to what is closed. -/
theorem closes?_unwind {frame : Frame} {rest : List Frame} (hframes : b.frames = frame :: rest)
    (hname : frame.header.kind.name ≠ name)
    : b.unwind.closes? name = b.closes? name := by
  rw [closes?_cons hframes, if_neg hname, unwind]
  simp only [hframes, closes?_add]
  rfl

/-- Without a block of the name the closer is literal text. -/
theorem closeNamed_of_none (h : b.closes? name = none) (raw : Text)
    : b.closeNamed name raw = b.literal raw := by
  have hnone : b.frames.findIdx? (fun frame => frame.header.kind.name = name) = none := by
    rw [closes?, Option.map_eq_none_iff, List.find?_eq_none] at h
    rw [List.findIdx?_eq_none_iff]
    simpa using h
  rw [closeNamed, hnone]

/-- The innermost block is closed if it has the name. -/
theorem closeNamed_top {frame : Frame} {rest : List Frame} (hframes : b.frames = frame :: rest)
    (hname : frame.header.kind.name = name) (raw : Text)
    : b.closeNamed name raw = b.closeTop := by
  have hfirst : b.frames.findIdx? (fun frame => frame.header.kind.name = name) = some 0 := by
    rw [hframes, List.findIdx?_cons, if_pos (by simpa using hname)]
  rw [closeNamed, hfirst]
  rfl

/-- The innermost block is given up if it has another name. -/
theorem closeNamed_unwind {frame : Frame} {rest : List Frame} (hframes : b.frames = frame :: rest)
    (hname : frame.header.kind.name ≠ name) (h : b.closes? name ≠ none) (raw : Text)
    : b.closeNamed name raw = b.unwind.closeNamed name raw := by
  have hmap : ∀ frames : List Frame,
      frames.findIdx? (fun frame => frame.header.kind.name = name)
        = (frames.map Frame.header).findIdx? (fun header => header.kind.name = name) := by
    intro frames
    rw [List.findIdx?_map]
    rfl
  have hinside : b.frames.findIdx? (fun frame => frame.header.kind.name = name)
      = (b.unwind.frames.findIdx? (fun frame => frame.header.kind.name = name)).map (· + 1) := by
    rw [hmap b.unwind.frames, headers_unwind, hframes, List.findIdx?_cons,
      if_neg (by simpa using hname), List.map_cons, List.tail_cons, ← hmap]
  rw [closeNamed, closeNamed, hinside]
  cases hdepth : b.unwind.frames.findIdx? (fun frame => frame.header.kind.name = name) with
  | some depth => rfl
  | none =>
      rw [hdepth, Option.map_none, List.findIdx?_eq_none_iff] at hinside
      refine absurd ?_ h
      rw [closes?, Option.map_eq_none_iff, List.find?_eq_none]
      simpa using hinside

/-- Giving up the innermost block leaves one fewer. -/
theorem length_frames_unwind (b : Builder) : b.unwind.frames.length = b.frames.length - 1 :=
  length_frames_unwindMany b 1

/-- A closer is a closer of its name whatever is reported of it. -/
theorem close_eq_closeNamed (b : Builder) (name raw : Text)
    : ∃ reported : Builder,
        (reported = b ∨ ∃ problem, reported = b.report problem b.position)
        ∧ b.close name raw = reported.closeNamed name raw := by
  cases hframes : b.frames with
  | nil =>
      have hnone : (b.report (.strayCloser name) b.position).closes? name = none :=
        closes?_nil hframes name
      have hrefuse : b.close name raw = b.refuse (.strayCloser name) raw := by
        simp only [close, hframes]
      exact ⟨_, Or.inr ⟨_, rfl⟩, hrefuse.trans (closeNamed_of_none hnone raw).symm⟩
  | cons top rest =>
      refine ⟨_, ?_, close_cons b hframes name raw⟩
      split
      · exact Or.inl rfl
      · exact Or.inr ⟨_, rfl⟩

/-- A closer closes the innermost block of its name, by induction on the number of open blocks. -/
theorem closing_closeNamed (h : b.closes? name = some place) (raw : Text)
    : Closing name place b (b.closeNamed name raw) := by
  generalize hlength : b.frames.length = length
  induction length generalizing b with
  | zero =>
      rw [closes?_nil (List.length_eq_zero_iff.mp hlength)] at h
      cases h
  | succ length ih =>
      obtain ⟨frame, rest, hframes⟩ := List.exists_cons_of_length_eq_add_one hlength
      by_cases hname : frame.header.kind.name = name
      · rw [closes?_cons hframes, if_pos hname] at h
        rw [closeNamed_top hframes hname]
        exact .top hframes hname (Option.some.inj h)
      · rw [closeNamed_unwind hframes hname (by simp [h])]
        refine .inside hframes hname (ih ?_ ?_)
        · rw [closes?_unwind hframes hname, h]
        · rw [length_frames_unwind, hlength, Nat.add_sub_cancel]

-----------------------------------------------------------------------------------------
-- What becomes of the places
-----------------------------------------------------------------------------------------

/-- Adding nodes keeps the positions of the open blocks. -/
@[simp] theorem positions_add (b : Builder) (nodes : List Node)
    : (b.add nodes).frames.map Frame.position = b.frames.map Frame.position :=
  map_frames_add Frame.position_add b nodes

/-- Adding nodes keeps the places. -/
@[simp] theorem places_add (b : Builder) (nodes : List Node) : (b.add nodes).places = b.places := by
  rw [places, positions_add, issues_add, places]

/-- Literal text keeps the places. -/
@[simp] theorem places_literal (b : Builder) (raw : Text) : (b.literal raw).places = b.places :=
  places_add b _

/-- A reported problem adds its position to the places. -/
theorem places_report (b : Builder) (problem : Problem) (position : Nat)
    : ((b.report problem position).places).Perm (position :: b.places) := by
  have happend : (b.report problem position).places = b.places ++ [position] := by
    simp [places, report, Issue.place?]
  rw [happend]
  exact List.perm_append_singleton position b.places

/-- A refused segment adds its position to the places. -/
theorem places_refuse (b : Builder) (problem : Problem) (raw : Text)
    : ((b.refuse problem raw).places).Perm (b.position :: b.places) := by
  rw [refuse, places_literal]
  exact places_report b problem b.position

/-- A block that is given up leaves its place to the problem reported. -/
theorem places_unwind (b : Builder) : b.unwind.places.Perm b.places := by
  unfold unwind
  cases hframes : b.frames with
  | nil => rfl
  | cons frame rest =>
      have hplaces : b.places = frame.position :: ({ b with frames := rest }).places := by
        simp [places, hframes]
      simp only [places_add]
      rw [hplaces]
      exact places_report _ _ _

/-- Blocks that are given up keep their places, as problems, by induction on their number. -/
theorem places_unwindMany (b : Builder) (count : Nat)
    : (b.unwindMany count).places.Perm b.places := by
  induction count generalizing b with
  | zero => exact .rfl
  | succ count ih => exact (ih b.unwind).trans (places_unwind b)

/-- A block that is closed takes its place with it. -/
theorem places_closeTop {frame : Frame} {rest : List Frame} (hframes : b.frames = frame :: rest)
    : frame.position :: b.closeTop.places = b.places := by
  unfold closeTop
  simp only [hframes, places_add]
  simp [places, hframes]

/-- Closing a block takes its place away, and the others are kept, by induction on the blocks that
are given up. -/
theorem Closing.places {after : Builder} (h : Closing name place b after)
    : (place :: after.places).Perm b.places := by
  induction h with
  | top frames _ placed =>
      rw [← placed, places_closeTop frames]
  | inside _ _ _ ih => exact ih.trans (places_unwind _)

/-- An else tag adds its position at most. -/
theorem places_beginElse (b : Builder) (raw : Text)
    : (b.beginElse raw).places.Subperm (b.position :: b.places) := by
  unfold beginElse
  split
  · rename_i frame rest hframes
    split
    · have hplaces : ({ b with
          frames := { frame with otherwise := some (raw, []) } :: rest } : Builder).places
          = b.places := by
        simp [places, hframes]
      rw [hplaces]
      exact List.Subperm.cons_self
    · exact (places_refuse b _ raw).subperm
  · exact (places_refuse b _ raw).subperm

/-- A closer is reported at most once. The block that it closes is gone, and nothing else is. -/
theorem places_close (b : Builder) (name raw : Text)
    : (b.close name raw).places.Subperm (b.position :: b.places)
      ∧ ∀ place, b.closes? name = some place →
          (place :: (b.close name raw).places).Subperm (b.position :: b.places) := by
  obtain ⟨reported, hreported, hclose⟩ := close_eq_closeNamed b name raw
  have hplaces : reported.places.Subperm (b.position :: b.places) := by
    rcases hreported with rfl | ⟨problem, rfl⟩
    · exact List.Subperm.cons_self
    · exact (places_report b problem b.position).subperm
  have hcloses : reported.closes? name = b.closes? name := by
    rcases hreported with rfl | ⟨problem, rfl⟩ <;> rfl
  rw [hclose, ← hcloses]
  cases hplace : reported.closes? name with
  | none =>
      rw [closeNamed_of_none hplace, places_literal]
      exact ⟨hplaces, nofun⟩
  | some place =>
      have hclosed := (closing_closeNamed hplace raw).places.subperm.trans hplaces
      refine ⟨List.Subperm.cons_self.trans hclosed, ?_⟩
      rintro _ ⟨⟩
      exact hclosed

/-- A tag adds its position at most. -/
theorem places_apply (b : Builder) (raw : Text) (tag : Tag)
    : (b.apply raw tag).places.Subperm (b.position :: b.places) := by
  cases tag with
  | leaf node =>
      rw [apply, places_add]
      exact List.Subperm.cons_self
  | literal problem => exact (places_refuse b problem raw).subperm
  | opener header => exact List.Subperm.refl _
  | otherwise => exact places_beginElse b raw
  | closer name => exact (places_close { b with closed := b.closed + 1 } name raw).1

/-- A tag at the limit adds its position at most. -/
theorem places_applyAtLimit (b : Builder) (raw : Text) (tag : Tag)
    : (b.applyAtLimit raw tag).places.Subperm (b.position :: b.places) := by
  cases tag with
  | leaf node => exact places_apply b raw _
  | literal problem => exact places_apply b raw _
  | opener header => exact (places_refuse b (.nestingTooDeep header.kind) raw).subperm
  | otherwise =>
      rw [applyAtLimit]
      split
      · exact places_apply b raw _
      · rw [places_literal]
        exact List.Subperm.cons_self
  | closer name =>
      rw [applyAtLimit]
      split
      · split
        · rw [places_literal]
          exact List.Subperm.cons_self
        · exact places_apply b raw _
      · exact places_apply b raw _

/-- A segment takes its own place at most once, and no other. -/
theorem places_take (b : Builder) (segment : Segment)
    : (b.take segment).places.Subperm (b.position :: b.places) := by
  cases segment with
  | text content =>
      rw [take, places_literal]
      exact List.Subperm.cons_self
  | unterminated raw => exact (places_refuse b _ raw).subperm
  | tag inner =>
      simp only [take]
      split
      · exact places_applyAtLimit b _ _
      · exact places_apply b _ _

/-- All blocks that are open at the end are reported. -/
theorem places_finish (b : Builder)
    : b.finish.places.Perm b.places
      ∧ b.finish.places = b.finish.issues.filterMap Issue.place? := by
  have hplaces : b.finish.places = (b.unwindMany b.frames.length).places := by
    unfold finish
    simp only
    split
    · rfl
    · simp [places, Issue.place?]
  have hframes : b.finish.frames = [] := by
    rw [← frames_unwindMany b, finish]
    split <;> rfl
  refine ⟨hplaces ▸ places_unwindMany b _, ?_⟩
  rw [places, hframes]
  rfl

-----------------------------------------------------------------------------------------
-- The run
-----------------------------------------------------------------------------------------

/-- The places are all different, and the segments at them have been read. -/
structure Placed (b : Builder) : Prop where
  nodup : b.places.Nodup
  read : ∀ place ∈ b.places, place < b.position

/-- Before anything is read, there are no places. -/
theorem placed_start : start.Placed :=
  ⟨List.nodup_nil, fun _ hmem => absurd hmem List.not_mem_nil⟩

/-- The present position is a new place. -/
theorem Placed.nodup_cons (h : b.Placed) : (b.position :: b.places).Nodup :=
  List.nodup_cons.mpr ⟨fun hmem => (h.read b.position hmem).false, h.nodup⟩

/-- What is different stays so when some of it is taken. -/
theorem nodup_of_subperm {some all : List Nat} (h : some.Subperm all) (hall : all.Nodup)
    : some.Nodup := by
  obtain ⟨between, hperm, hsublist⟩ := h
  exact hperm.nodup_iff.mp (hall.sublist hsublist)

/-- Reading a segment moves the position on. -/
theorem lt_position_step (b : Builder) {segment : Segment} (hfilled : segment.raw ≠ [])
    : b.position < (b.step segment).position :=
  Nat.lt_add_of_pos_right (Text.byteSize_pos hfilled)

/-- Every step keeps the invariant. -/
theorem Placed.step {segment : Segment} (h : b.Placed) (hfilled : segment.raw ≠ [])
    : (b.step segment).Placed := by
  have htake := places_take b segment
  refine ⟨nodup_of_subperm htake h.nodup_cons, fun place hmem => ?_⟩
  have hlt := b.lt_position_step hfilled
  rcases List.mem_cons.mp (htake.subset hmem) with rfl | hbefore
  · exact hlt
  · exact (h.read place hbefore).trans hlt

/-- Every run keeps the invariant, by induction on the segments. -/
theorem Placed.run {segments : List Segment} (h : b.Placed)
    (hfilled : ∀ segment ∈ segments, segment.raw ≠ [])
    : (segments.foldl Builder.step b).Placed := by
  induction segments generalizing b with
  | nil => exact h
  | cons segment rest ih =>
      rw [List.forall_mem_cons] at hfilled
      exact ih (h.step hfilled.1) hfilled.2

/-- A place has been passed, and neither an open block nor a problem has it. -/
def Gone (b : Builder) (place : Nat) : Prop :=
  place ∉ b.places ∧ place < b.position

/-- A place that is gone does not come back. -/
theorem Gone.step (h : b.Gone place) (segment : Segment) : (b.step segment).Gone place := by
  refine ⟨fun hmem => ?_, h.2.trans_le (Nat.le_add_right _ _)⟩
  rcases List.mem_cons.mp ((places_take b segment).subset hmem) with he | hbefore
  · exact h.2.ne he
  · exact h.1 hbefore

/-- Nothing is reported any more at a place that is gone, by induction on the segments. -/
theorem Gone.not_reported (h : b.Gone place) (segments : List Segment) (problem : Problem)
    : .problem problem place ∉ (segments.foldl Builder.step b).finish.issues := by
  induction segments generalizing b with
  | nil =>
      intro hmem
      obtain ⟨hperm, hissues⟩ := places_finish b
      refine h.1 (hperm.subset ?_)
      rw [hissues]
      exact List.mem_filterMap.mpr ⟨_, hmem, rfl⟩
  | cons segment rest ih => exact ih (h.step segment)

-----------------------------------------------------------------------------------------
-- Blocks that are closed, and problems at one place
-----------------------------------------------------------------------------------------

/-- A segment closes the open block at a place. -/
def Closes (b : Builder) (segment : Segment) (place : Nat) : Prop :=
  ∃ inner name,
    segment = .tag inner ∧ Tag.ofInner inner = .closer name
    ∧ (∀ kind rest, b.tooDeep = kind :: rest → kind.name ≠ name)
    ∧ b.closes? name = some place

/-- At the limit too, a tag is taken in as it is elsewhere, if it is no opener and belongs to no
block nested too deep.
-/
theorem take_tag {inner : Text}
    (hopener : ∀ header, Tag.ofInner inner = .opener header → b.isAtLimit = false)
    (helse : Tag.ofInner inner = .otherwise → b.tooDeep = [])
    (hcloser : ∀ name, Tag.ofInner inner = .closer name →
      ∀ kind rest, b.tooDeep = kind :: rest → kind.name ≠ name)
    : b.take (.tag inner) = b.apply (tagText inner) (Tag.ofInner inner) := by
  simp only [take]
  split
  · rename_i hlimit
    cases hmeaning : Tag.ofInner inner with
    | leaf node => rfl
    | literal problem => rfl
    | opener header => simp [hopener header hmeaning] at hlimit
    | otherwise => rw [applyAtLimit, if_pos (helse hmeaning)]
    | closer name =>
        rw [applyAtLimit]
        split
        · rename_i kind rest hdeep
          rw [if_neg (hcloser name hmeaning kind rest hdeep)]
        · rfl
  · rfl

/-- What is closed stands at one of the places. -/
theorem mem_places_of_closes? (h : b.closes? name = some place) : place ∈ b.places :=
  (closing_closeNamed h []).places.subset List.mem_cons_self

/-- A block that is closed is gone. -/
theorem Placed.gone_of_closes {segment : Segment} (h : b.Placed) (hcloses : b.Closes segment place)
    : (b.step segment).Gone place := by
  obtain ⟨inner, name, rfl, hmeaning, hother, hplace⟩ := hcloses
  have hclosed :=
    (places_close { b with closed := b.closed + 1 } name (tagText inner)).2 place hplace
  have htake : (b.step (.tag inner)).places
      = (({ b with closed := b.closed + 1 } : Builder).close name (tagText inner)).places := by
    rw [Builder.step, take_tag (by simp [hmeaning]) (by simp [hmeaning]) ?_, hmeaning]
    · rfl
    · rintro name' hmeaning'
      obtain rfl := Tag.closer.inj (hmeaning.symm.trans hmeaning')
      exact hother
  refine ⟨?_, (h.read place (mem_places_of_closes? hplace)).trans_le (Nat.le_add_right _ _)⟩
  rw [htake]
  exact (List.nodup_cons.mp (nodup_of_subperm hclosed h.nodup_cons)).1

/-- No two problems are reported at one place, by induction on the issues. -/
theorem Placed.problem_unique {first second : Problem} (h : b.Placed)
    (hfirst : .problem first place ∈ b.finish.issues)
    (hsecond : .problem second place ∈ b.finish.issues)
    : first = second := by
  obtain ⟨hperm, hissues⟩ := places_finish b
  have hnodup := hperm.nodup_iff.mpr h.nodup
  rw [hissues, List.Nodup, List.pairwise_filterMap] at hnodup
  have happart : b.finish.issues.Pairwise
      (fun issue other => issue.place? = some place → other.place? ≠ some place) :=
    hnodup.imp (fun hne hissue hother => hne place hissue place hother rfl)
  generalize b.finish.issues = issues at hfirst hsecond happart
  induction issues with
  | nil => cases hfirst
  | cons issue rest ih =>
      obtain ⟨hhead, hrest⟩ := List.pairwise_cons.mp happart
      rcases List.mem_cons.mp hfirst with rfl | hbehind
      · rcases List.mem_cons.mp hsecond with he | hafter
        · exact (Issue.problem.inj he).1.symm
        · exact absurd rfl (hhead _ hafter rfl)
      · rcases List.mem_cons.mp hsecond with rfl | hafter
        · exact absurd rfl (hhead _ hbehind rfl)
        · exact ih hbehind hafter hrest

end Builder

end LeasePapers.Template
