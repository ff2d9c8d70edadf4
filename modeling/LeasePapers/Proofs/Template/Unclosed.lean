import LeasePapers.Proofs.Template.Alike

/-! Blocks that are never closed. As long as such a block is open, whatever is built inside and
outside of it is built as if its opener were literal text, and when it is given up its contents
stand where they stand without it. Two things can come in between: an else tag that the block keeps
from the block around it, and an opener that only this block makes one too deep.
-/

namespace LeasePapers.Template

namespace Builder

/-- The block opened at a place is open. -/
def IsOpen (b : Builder) (place : Nat) : Prop :=
  place ∈ b.frames.map Frame.position

/-- The block opened at a place is the innermost one, and the block directly around it could begin
its else branch.
-/
def Shields (b : Builder) (place : Nat) (around : Frame) : Prop :=
  ∃ block outer,
    b.frames = block :: around :: outer ∧ block.position = place
    ∧ around.header.kind.hasElse = true ∧ around.otherwise = none

/-- The block opened at a place is open in the first builder, and the second comes to what the first
comes to without it: the blocks inside of it are the same, and outside of it its literal text is
there already.
-/
inductive Lacks (lost : Nat → Prop) (place : Nat) : Builder → Builder → Prop
  | innermost {b other rest : Builder} {block : Frame} (pushed : Pushed block rest b)
      (placed : block.position = place) (shallow : rest.tooDeep = [])
      (alike : (rest.add block.literal).Alike lost other)
    : Lacks lost place b other
  | inside {b other rest rest' : Builder} {frame : Frame} (pushed : Pushed frame rest b)
      (pushed' : Pushed frame rest' other) (lacks : Lacks lost place rest rest')
    : Lacks lost place b other

namespace Lacks

variable {lost : Nat → Prop} {place : Nat} {b other b' other' : Builder} {name : Text}

/-- A block is lacking for builders of the same. -/
theorem of_same (h : b.Lacks lost place other) (hb : b'.Same b) (hother : other'.Same other)
    : b'.Lacks lost place other' := by
  cases h with
  | innermost pushed placed shallow alike =>
      exact .innermost (pushed.of_same hb) placed shallow
        (alike.of_same ⟨rfl, rfl, rfl, rfl⟩ hother)
  | inside pushed pushed' lacks =>
      exact .inside (pushed.of_same hb) (pushed'.of_same hother) lacks

/-- The block that is lacking is open in the first builder, by induction on the open blocks. -/
theorem isOpen (h : b.Lacks lost place other) : b.IsOpen place := by
  induction h with
  | innermost pushed placed =>
      rw [IsOpen, pushed.frames, List.map_cons, placed]
      exact List.mem_cons_self
  | inside pushed _ _ ih =>
      rw [IsOpen, pushed.frames, List.map_cons]
      exact List.mem_cons_of_mem _ ih

/-- Nothing is nested too deep while a block is lacking, by induction on the open blocks. -/
theorem tooDeep_nil (h : b.Lacks lost place other) : b.tooDeep = [] := by
  induction h with
  | innermost pushed _ shallow => exact pushed.tooDeep.trans shallow
  | inside pushed _ _ ih => exact pushed.tooDeep.trans ih

/-- What is nested too deep is the same, by induction on the open blocks. -/
theorem tooDeep_eq (h : b.Lacks lost place other) : b.tooDeep = other.tooDeep := by
  induction h with
  | innermost pushed _ _ alike => rw [pushed.tooDeep, ← alike.tooDeep, tooDeep_add]
  | inside pushed pushed' _ ih => rw [pushed.tooDeep, pushed'.tooDeep, ih]

/-- The position is the same, by induction on the open blocks. -/
theorem position_eq (h : b.Lacks lost place other) : b.position = other.position := by
  induction h with
  | innermost pushed _ _ alike => rw [pushed.position, ← alike.position, position_add]
  | inside pushed pushed' _ ih => rw [pushed.position, pushed'.position, ih]

/-- One block less is open in the second builder, by induction on the open blocks. -/
theorem length_frames (h : b.Lacks lost place other)
    : b.frames.length = other.frames.length + 1 := by
  induction h with
  | innermost pushed _ _ alike =>
      rw [pushed.frames, List.length_cons, ← alike.frames.length_eq, length_frames_add]
  | inside pushed pushed' _ ih =>
      rw [pushed.frames, pushed'.frames, List.length_cons, List.length_cons, ih]

/-- A block is lacking at any position, by induction on the open blocks. -/
theorem moved (h : b.Lacks lost place other) (position : Nat)
    : Lacks lost place { b with position } { other with position } := by
  induction h with
  | @innermost _ _ rest _ pushed placed shallow alike =>
      refine .innermost (pushed.moved position) placed shallow ?_
      rw [add_moved]
      exact ⟨alike.root, alike.frames, alike.tooDeep, rfl⟩
  | inside pushed pushed' _ ih => exact .inside (pushed.moved position) (pushed'.moved position) ih

/-- A block is still lacking when nodes are added. -/
theorem add (h : b.Lacks lost place other) (nodes : List Node)
    : (b.add nodes).Lacks lost place (other.add nodes) := by
  cases h with
  | innermost pushed placed shallow alike =>
      refine .innermost (pushed.add nodes) ?_ shallow ?_
      · rw [Frame.position_add, placed]
      · rw [Frame.literal_add, add_addNodes]
        exact alike.add nodes
  | inside pushed pushed' lacks => exact .inside (pushed.add nodes) (pushed'.add nodes) lacks

/-- A block is still lacking when a segment is refused. -/
theorem refuse (h : b.Lacks lost place other) (problem : Problem) (raw : Text)
    : (b.refuse problem raw).Lacks lost place (other.refuse problem raw) :=
  (h.add [.text raw]).of_same (same_refuse _ _ _) (same_refuse _ _ _)

/-- A block is still lacking when another one is opened. -/
theorem openBlock (h : b.Lacks lost place other) (header : Header) (raw : Text)
    : (b.openBlock header raw).Lacks lost place (other.openBlock header raw) := by
  have hopened : Pushed ⟨header, raw, b.position, [], none⟩ other (other.openBlock header raw) := by
    rw [h.position_eq]
    exact ⟨rfl, rfl, rfl, rfl⟩
  exact .inside ⟨rfl, rfl, rfl, rfl⟩ hopened h

/-- An else tag directly inside of the block is part of its literal text, whether the block takes it
or not.
-/
theorem beginElse (h : b.Lacks lost place other) (raw : Text)
    (hlost : ∀ around, b.Shields place around → lost around.position)
    : (b.beginElse raw).Lacks lost place (other.beginElse raw) := by
  cases h with
  | @innermost _ _ rest block pushed placed shallow alike =>
      have hrest : (rest.add (addNodes block.literal [.text raw])).Alike lost
          (other.beginElse raw) := by
        rw [add_addNodes]
        refine alike.literal_beginElse raw (fun frame outer hframes helse hnone => ?_)
        cases hrest : rest.frames with
        | nil => simp [Builder.add, hrest] at hframes
        | cons around others =>
            simp only [Builder.add, hrest, List.cons.injEq] at hframes
            obtain ⟨rfl, -⟩ := hframes
            rw [Frame.header_add] at helse
            rw [← Option.isNone_iff_eq_none, Frame.isNone_otherwise_add,
              Option.isNone_iff_eq_none] at hnone
            rw [Frame.position_add]
            exact hlost around ⟨block, others, hrest ▸ pushed.frames, placed, helse, hnone⟩
      simp only [Builder.beginElse, pushed.frames]
      split
      · rename_i hfork
        rw [Bool.and_eq_true, Option.isNone_iff_eq_none] at hfork
        refine .innermost ⟨rfl, pushed.root, pushed.tooDeep, pushed.position⟩ placed shallow ?_
        rw [Frame.literal_fork hfork.2]
        exact hrest
      · refine .innermost ((pushed.add [.text raw]).of_same (same_refuse _ _ _)) ?_ shallow ?_
        · rw [Frame.position_add, placed]
        · rw [Frame.literal_add]
          exact hrest
  | inside pushed pushed' lacks =>
      simp only [Builder.beginElse, pushed.frames, pushed'.frames]
      split
      · exact .inside ⟨rfl, pushed.root, pushed.tooDeep, pushed.position⟩
          ⟨rfl, pushed'.root, pushed'.tooDeep, pushed'.position⟩ lacks
      · exact refuse (.inside pushed pushed' lacks) .strayElse raw

/-- A closer closes the same block in both builders, or the block that the second one lacks, by
induction on the open blocks. -/
theorem closes? (h : b.Lacks lost place other) (name : Text)
    : b.closes? name = some place ∨ b.closes? name = other.closes? name := by
  induction h with
  | innermost pushed placed _ alike =>
      rw [closes?_cons pushed.frames]
      split
      · exact Or.inl (congrArg some placed)
      · refine Or.inr ?_
        rw [← alike.closes?, closes?_add]
        rfl
  | inside pushed pushed' _ ih =>
      rw [closes?_cons pushed.frames, closes?_cons pushed'.frames]
      split
      · exact Or.inr rfl
      · exact ih

/-- A closer closes a block inside of the block that is lacking, or gives that one up and closes a
block outside of it.
-/
theorem closing {closed : Nat} {after : Builder} (h : b.Lacks lost place other)
    (hclosing : Closing name closed b after) (hclosed : b.closes? name = some closed)
    (hkept : ¬lost closed) (hother : closed ≠ place) (raw : Text)
    : after.Lacks lost place (other.closeNamed name raw)
      ∨ after.Alike lost (other.closeNamed name raw) := by
  induction hclosing generalizing other with
  | top frames named placed =>
      cases h with
      | innermost pushed placed' =>
          obtain ⟨rfl, -⟩ := List.cons.inj (frames.symm.trans pushed.frames)
          exact absurd (placed.symm.trans placed') hother
      | inside pushed pushed' lacks =>
          obtain ⟨rfl, -⟩ := List.cons.inj (frames.symm.trans pushed.frames)
          rw [closeNamed_top pushed'.frames named]
          exact Or.inl ((lacks.add _).of_same pushed.closeTop pushed'.closeTop)
  | inside frames differs closing ih =>
      have hinside := closes?_unwind frames differs ▸ hclosed
      cases h with
      | innermost pushed _ _ alike =>
          have halike := alike.of_same pushed.unwind ⟨rfl, rfl, rfl, rfl⟩
          exact Or.inr (halike.closing closing hinside hkept raw)
      | inside pushed pushed' lacks =>
          obtain ⟨rfl, -⟩ := List.cons.inj (frames.symm.trans pushed.frames)
          have hsome : other.closes? name ≠ none := by
            rcases (Lacks.inside pushed pushed' lacks).closes? name with hplace | hsame
            · exact absurd (Option.some.inj (hclosed.symm.trans hplace)) hother
            · rw [← hsame, hclosed]
              exact Option.some_ne_none closed
          rw [closeNamed_unwind pushed'.frames differs hsome]
          exact ih ((lacks.add _).of_same pushed.unwind pushed'.unwind) hinside

/-- After a closer the block is still lacking, or it was given up and the builders come to the same.
-/
theorem close (h : b.Lacks lost place other)
    (hkept : ∀ closed, b.closes? name = some closed → ¬lost closed) (hplace : lost place)
    (raw : Text)
    : (b.close name raw).Lacks lost place (other.close name raw)
      ∨ (b.close name raw).Alike lost (other.close name raw) := by
  obtain ⟨reported, hreported, hb⟩ := same_close b name raw
  obtain ⟨reported', hreported', hother⟩ := same_close other name raw
  have hlacks := h.of_same hreported hreported'
  have hcloses : reported.closes? name = b.closes? name := by
    rw [Builder.closes?, hreported.frames, Builder.closes?]
  rw [hb, hother]
  cases hclosed : reported.closes? name with
  | none =>
      have hnone : reported'.closes? name = none := by
        rcases hlacks.closes? name with hplace' | hsame
        · simp [hclosed] at hplace'
        · rw [← hsame, hclosed]
      rw [closeNamed_of_none hclosed, closeNamed_of_none hnone]
      exact Or.inl (hlacks.add _)
  | some closed =>
      have hkept' := hkept closed (hcloses.symm.trans hclosed)
      exact hlacks.closing (closing_closeNamed hclosed raw) hclosed hkept'
        (fun he => hkept' (he ▸ hplace)) raw

-----------------------------------------------------------------------------------------
-- Whole segments
-----------------------------------------------------------------------------------------

/-- A segment keeps the second builder lacking, or gives the block up in the first one. -/
theorem step {segment : Segment} (h : b.Lacks lost place other) (hplace : lost place)
    (hkept : ∀ closed, b.Closes segment closed → ¬lost closed)
    (helse : ∀ inner around, segment = .tag inner → Tag.ofInner inner = .otherwise →
      b.Shields place around → lost around.position)
    (hroom : ∀ inner header, segment = .tag inner → Tag.ofInner inner = .opener header →
      b.isAtLimit = false)
    : (b.step segment).Lacks lost place (other.step segment)
      ∨ (b.step segment).Alike lost (other.step segment) := by
  have htake : (b.take segment).Lacks lost place (other.take segment)
      ∨ (b.take segment).Alike lost (other.take segment) := by
    cases segment with
    | text content => exact Or.inl (h.add [.text content])
    | unterminated raw => exact Or.inl (h.refuse .unterminatedTag raw)
    | tag inner =>
        have hroom' : ∀ header, Tag.ofInner inner = .opener header → other.isAtLimit = false := by
          intro header hmeaning
          have hlimit := hroom inner header rfl hmeaning
          have hlength := h.length_frames
          rw [← Bool.not_eq_true, isAtLimit_eq_true_iff, not_or] at hlimit ⊢
          exact ⟨h.tooDeep_eq ▸ hlimit.1, by omega⟩
        have hshallow := h.tooDeep_nil
        have hshallow' := h.tooDeep_eq ▸ hshallow
        rw [take_tag (fun header => hroom inner header rfl) (fun _ => hshallow) (by simp [hshallow]),
          take_tag hroom' (fun _ => hshallow') (by simp [hshallow'])]
        cases hmeaning : Tag.ofInner inner with
        | leaf node => exact Or.inl (h.add [node])
        | literal problem => exact Or.inl (h.refuse problem _)
        | opener header => exact Or.inl (h.openBlock header _)
        | otherwise =>
            exact Or.inl (h.beginElse _ (fun around => helse inner around rfl hmeaning))
        | closer name =>
            have hcounted : Lacks lost place { b with closed := b.closed + 1 }
                { other with closed := other.closed + 1 } :=
              h.of_same ⟨rfl, rfl, rfl, rfl⟩ ⟨rfl, rfl, rfl, rfl⟩
            refine hcounted.close (fun closed hclosed => hkept closed ?_) hplace _
            exact ⟨inner, name, rfl, hmeaning, by simp [hshallow], hclosed⟩
  rw [Builder.step, Builder.step, h.position_eq]
  exact htake.imp (fun hlacks => hlacks.moved _)
    (fun halike => ⟨halike.root, halike.frames, halike.tooDeep, rfl⟩)

/-- The block is given up at last, by induction on the number of blocks open inside and outside. -/
theorem unwindMany {count : Nat} (h : b.Lacks lost place other)
    (hcount : other.frames.length = count)
    : (b.unwindMany (count + 1)).Alike lost (other.unwindMany count) := by
  induction count generalizing b other with
  | zero =>
      cases h with
      | innermost pushed _ _ alike => exact alike.of_same pushed.unwind ⟨rfl, rfl, rfl, rfl⟩
      | inside pushed pushed' lacks => simp [pushed'.frames] at hcount
  | succ count ih =>
      cases h with
      | innermost pushed _ _ alike =>
          exact (alike.of_same pushed.unwind ⟨rfl, rfl, rfl, rfl⟩).unwindMany (count + 1)
      | inside pushed pushed' lacks =>
          refine ih ((lacks.add _).of_same pushed.unwind pushed'.unwind) ?_
          rw [length_frames_unwind, hcount, Nat.add_sub_cancel]

/-- At the end the block is given up, and the trees are the same. -/
theorem root_finish (h : b.Lacks lost place other) : b.finish.root = other.finish.root := by
  rw [Builder.root_finish, Builder.root_finish, h.length_frames]
  exact (h.unwindMany rfl).root

end Lacks

-----------------------------------------------------------------------------------------
-- The run
-----------------------------------------------------------------------------------------

/-- From a builder that has the block open, and from one that lacks it, the same tree is built, by
induction on the segments.
-/
theorem root_finish_of_lacks {lost : Nat → Prop} {place : Nat} {segments : List Segment}
    {b other : Builder}
    (h : b.Lacks lost place other ∨ b.Alike lost other) (hplaced : b.Placed)
    (hfilled : ∀ segment ∈ segments, segment.raw ≠ []) (hplace : lost place)
    (hlost : ∀ given, lost given →
      ∃ problem, .problem problem given ∈ (segments.foldl step b).finish.issues)
    (helse : ∀ read inner rest around, segments = read ++ .tag inner :: rest →
      Tag.ofInner inner = .otherwise → (read.foldl step b).Shields place around →
      lost around.position)
    (hroom : ∀ read inner header rest, segments = read ++ .tag inner :: rest →
      Tag.ofInner inner = .opener header → (read.foldl step b).IsOpen place →
      (read.foldl step b).isAtLimit = false)
    : (segments.foldl step b).finish.root = (segments.foldl step other).finish.root := by
  induction segments generalizing b other with
  | nil => exact h.elim Lacks.root_finish Alike.root_finish
  | cons segment rest ih =>
      rw [List.forall_mem_cons] at hfilled
      have hkept : ∀ closed, b.Closes segment closed → ¬lost closed := by
        intro closed hcloses hclosed
        obtain ⟨problem, hmem⟩ := hlost closed hclosed
        exact (hplaced.gone_of_closes hcloses).not_reported rest problem hmem
      refine ih ?_ (hplaced.step hfilled.1) hfilled.2 hlost ?_ ?_
      · rcases h with hlacks | halike
        · refine hlacks.step hplace hkept ?_ ?_
          · rintro inner around rfl
            exact helse [] inner rest around rfl
          · rintro inner header rfl hmeaning
            exact hroom [] inner header rest rfl hmeaning hlacks.isOpen
        · exact Or.inr (halike.step hkept)
      · intro read inner more around hrest
        exact helse (segment :: read) inner more around (congrArg _ hrest)
      · intro read inner header more hrest
        exact hroom (segment :: read) inner header more (congrArg _ hrest)

/-- Segments are read together or one part after the other. -/
theorem reading_append (read rest : List Segment)
    : reading (read ++ rest) = rest.foldl step (reading read) :=
  List.foldl_append

/-- Where an opener is taken in as text, the block that it opens is lacking. -/
theorem lacks_opener {lost : Nat → Prop} {read : List Segment} {inner : Text} {header : Header}
    (hopener : Tag.ofInner inner = .opener header) (hroom : (reading read).isAtLimit = false)
    : (reading (read ++ [.tag inner])).Lacks lost (reading read).position
        ((reading read).step (.text (tagText inner))) := by
  have htake : (reading read).take (.tag inner)
      = (reading read).openBlock header (tagText inner) := by
    simp [take, hroom, hopener, apply]
  have hshallow : (reading read).tooDeep = [] := by
    rw [← Bool.not_eq_true, isAtLimit_eq_true_iff, not_or, not_not] at hroom
    exact hroom.1
  have hpushed : Pushed ⟨header, tagText inner, (reading read).position, [], none⟩ (reading read)
      ((reading read).openBlock header (tagText inner)) :=
    ⟨rfl, rfl, rfl, rfl⟩
  have hopened : ((reading read).openBlock header (tagText inner)).Lacks lost
      (reading read).position ((reading read).literal (tagText inner)) :=
    .innermost hpushed rfl hshallow (alike_of_same ⟨rfl, rfl, rfl, rfl⟩)
  rw [reading_concat, step, step, htake]
  exact hopened.moved _

end Builder

open Builder

/-- The number of bytes of segments. -/
def bytesOf (read : List Segment) : Nat :=
  Text.byteSize (read.flatMap Segment.raw)

/-- An opener that is read at the limit is reported. -/
theorem nestingTooDeep_of_isAtLimit {text inner : Text} {read rest : List Segment} {header : Header}
    (hsegments : segments text = read ++ .tag inner :: rest)
    (hopener : Tag.ofInner inner = .opener header) (hlimit : (reading read).isAtLimit = true)
    : .problem (.nestingTooDeep header.kind) (bytesOf read) ∈ (ofText text).issues := by
  have hrefused : (reading (segments text)).finish.Refused header.kind (bytesOf read) :=
    (refused_finish _).mpr ((refused_reading _).mpr
      ⟨read, inner, header, rest, hsegments, hopener, rfl, position_reading read, hlimit⟩)
  exact hrefused

/-- An opener that is never closed is literal text: the tree is the same with the opener as text, if
nothing else is read differently because of its block. Directly inside of that block no else tag may
be read that the block around it could take, unless that one is never closed either; and no opener
inside of it may be reported as nested too deep.
-/
theorem nodes_eq_of_unclosed {text inner : Text} {read rest : List Segment} {header : Header}
    (hsegments : segments text = read ++ .tag inner :: rest)
    (hopener : Tag.ofInner inner = .opener header)
    (hunclosed : .problem (.unclosedBlock header.kind) (bytesOf read) ∈ (ofText text).issues)
    (helse : ∀ within tag more around, rest = within ++ .tag tag :: more →
      Tag.ofInner tag = .otherwise →
      (reading (read ++ .tag inner :: within)).Shields (bytesOf read) around →
      .problem (.unclosedBlock around.header.kind) around.position ∈ (ofText text).issues)
    (hroom : ∀ within tag other more, rest = within ++ .tag tag :: more →
      Tag.ofInner tag = .opener other →
      (reading (read ++ .tag inner :: within)).IsOpen (bytesOf read) →
      .problem (.nestingTooDeep other.kind) (bytesOf (read ++ .tag inner :: within))
        ∉ (ofText text).issues)
    : (ofSegments (read ++ .text (tagText inner) :: rest)).nodes = (ofText text).nodes := by
  have hfilled : ∀ segment ∈ segments text, segment.raw ≠ [] :=
    fun segment hmem => (shaped_segments text segment hmem).raw_ne_nil
  have hplaced : (reading (segments text)).Placed := placed_start.run hfilled
  have hfree : (reading read).isAtLimit = false := by
    by_contra hlimit
    rw [Bool.not_eq_false] at hlimit
    have hdeep := nestingTooDeep_of_isAtLimit hsegments hopener hlimit
    cases hplaced.problem_unique hdeep hunclosed
  have hwithin : ∀ within, within.foldl step (reading (read ++ [.tag inner]))
      = reading (read ++ .tag inner :: within) := by
    intro within
    rw [← reading_append, List.append_assoc, List.singleton_append]
  rw [hsegments] at hfilled
  have hlacks : (reading (read ++ [.tag inner])).Lacks
      (fun place => ∃ kind, .problem (.unclosedBlock kind) place ∈ (ofText text).issues)
      (bytesOf read) ((reading read).step (.text (tagText inner))) := by
    rw [bytesOf, ← position_reading]
    exact lacks_opener hopener hfree
  have hread : (reading (read ++ [.tag inner])).Placed :=
    placed_start.run (fun segment hmem =>
      hfilled segment (by simpa using List.mem_append_left rest hmem))
  have hroot : (rest.foldl step (reading (read ++ [.tag inner]))).finish.root
      = (rest.foldl step ((reading read).step (.text (tagText inner)))).finish.root := by
    refine root_finish_of_lacks (Or.inl hlacks) hread
      (fun segment hmem => hfilled segment (by simp [hmem])) ⟨header.kind, hunclosed⟩ ?_ ?_ ?_
    · rintro given ⟨kind, hmem⟩
      refine ⟨.unclosedBlock kind, ?_⟩
      rw [hwithin, ← hsegments]
      exact hmem
    · intro within tag more around hrest hmeaning hshields
      rw [hwithin] at hshields
      exact ⟨_, helse within tag more around hrest hmeaning hshields⟩
    · intro within tag other more hrest hmeaning hopen
      rw [hwithin] at hopen ⊢
      by_contra hlimit
      rw [Bool.not_eq_false] at hlimit
      have hsplit : segments text = (read ++ .tag inner :: within) ++ .tag tag :: more := by
        rw [hsegments, hrest, List.append_assoc, List.cons_append]
      exact hroom within tag other more hrest hmeaning hopen
        (nestingTooDeep_of_isAtLimit hsplit hmeaning hlimit)
  calc (ofSegments (read ++ .text (tagText inner) :: rest)).nodes
      = (rest.foldl step ((reading read).step (.text (tagText inner)))).finish.root :=
        congrArg (fun b : Builder => b.finish.root) (reading_append read _)
    _ = (rest.foldl step (reading (read ++ [.tag inner]))).finish.root := hroot.symm
    _ = (ofText text).nodes := by
        rw [hwithin, ← hsegments]
        rfl

/-- A block with an else branch inside of another block, both never closed, and a block that is
closed inside of both.
-/
def bothUnclosed : Text :=
  ("\x7b\x7b#if a\x7d\x7dx" : Text)
    ++ ("\x7b\x7b#eq b \"1\"\x7d\x7dy\x7b\x7belse\x7d\x7dz" : Text)
    ++ ("\x7b\x7b#unless c\x7d\x7dw\x7b\x7b/unless\x7d\x7d" : Text)

/-- The inner opener can be text, although its block keeps an else tag from the outer one. -/
theorem nodes_eq_bothUnclosed
    : (ofText bothUnclosed).issues
        = [.problem (.unclosedBlock .equal) 10, .problem (.unclosedBlock .present) 0,
            .countMismatch 3 1]
      ∧ (ofSegments ([.tag "#if a", .text "x"] ++ .text (tagText "#eq b \"1\"")
            :: [.text "y", .tag "else", .text "z", .tag "#unless c", .text "w",
              .tag "/unless"])).nodes
        = (ofText bothUnclosed).nodes := by
  have hissues : (ofText bothUnclosed).issues
      = [.problem (.unclosedBlock .equal) 10, .problem (.unclosedBlock .present) 0,
          .countMismatch 3 1] := by
    decide +kernel
  refine ⟨hissues, nodes_eq_of_unclosed (by decide +kernel) rfl (by decide +kernel) ?_ ?_⟩
  · intro within tag more around hrest _ hshields
    obtain ⟨block, outer, hframes, -, helse, -⟩ := hshields
    have hgiven : ∀ count < 6, ∀ frame ∈
        (reading ([.tag "#if a", .text "x"] ++ .tag "#eq b \"1\""
          :: [.text "y", .tag "else", .text "z", .tag "#unless c", .text "w",
            .tag "/unless"].take count)).frames,
        frame.header.kind.hasElse = true →
        .problem (.unclosedBlock frame.header.kind) frame.position
          ∈ (ofText bothUnclosed).issues := by
      decide +kernel
    have hcount : within.length < 6 := by
      have hlength := congrArg List.length hrest
      simp only [List.length_cons, List.length_nil, List.length_append] at hlength
      omega
    have hread := hgiven within.length hcount around
    rw [hrest, List.take_left, hframes] at hread
    exact hread (by simp) helse
  · intro within tag other more _ _ _
    rw [hissues]
    simp

/-- The else tag that the unclosed block keeps would be that of the block around it. -/
def keepsElse : Text :=
  ("\x7b\x7b#if a\x7d\x7dx\x7b\x7b#eq b \"1\"\x7d\x7dy" : Text)
    ++ ("\x7b\x7belse\x7d\x7dz\x7b\x7b/if\x7d\x7d" : Text)

/-- The unclosed block stands in all but one of the blocks that may nest, and another block in it.
-/
def keepsRoom : Text :=
  (List.replicate 63 ("\x7b\x7b#if a\x7d\x7d" : Text)).flatten
    ++ ("\x7b\x7b#each b\x7d\x7d\x7b\x7b#if a\x7d\x7dx" : Text)
    ++ (List.replicate 64 ("\x7b\x7b/if\x7d\x7d" : Text)).flatten

/-- Openers that are reported as never closed, and without which the tree is another one: with the
opener as text, the else tag parts the block around it, and the inner block is read.
-/
theorem nodes_ne_of_unclosed
    : (segments keepsElse = [.tag "#if a", .text "x"] ++ .tag "#eq b \"1\""
            :: [.text "y", .tag "else", .text "z", .tag "/if"]
        ∧ Tag.ofInner "#eq b \"1\"" = .opener (.equal "b" "1")
        ∧ .problem (.unclosedBlock .equal) (bytesOf [.tag "#if a", .text "x"])
          ∈ (ofText keepsElse).issues
        ∧ (ofSegments ([.tag "#if a", .text "x"] ++ .text (tagText "#eq b \"1\"")
            :: [.text "y", .tag "else", .text "z", .tag "/if"])).nodes ≠ (ofText keepsElse).nodes)
      ∧ segments keepsRoom = List.replicate 63 (.tag "#if a") ++ .tag "#each b"
            :: (.tag "#if a" :: .text "x" :: List.replicate 64 (.tag "/if"))
        ∧ Tag.ofInner "#each b" = .opener (.each "b")
        ∧ .problem (.unclosedBlock .each) (bytesOf (List.replicate 63 (.tag "#if a")))
          ∈ (ofText keepsRoom).issues
        ∧ (ofSegments (List.replicate 63 (.tag "#if a") ++ .text (tagText "#each b")
            :: (.tag "#if a" :: .text "x" :: List.replicate 64 (.tag "/if")))).nodes
          ≠ (ofText keepsRoom).nodes := by
  refine ⟨⟨by decide +kernel, rfl, by decide +kernel, ?_⟩,
    by decide +kernel, rfl, by decide +kernel, ?_⟩
  · intro hnodes
    have hliterals := congrArg literalsIn hnodes
    revert hliterals
    decide +kernel
  · intro hnodes
    have hliterals := congrArg literalsIn hnodes
    revert hliterals
    decide +kernel

end LeasePapers.Template
