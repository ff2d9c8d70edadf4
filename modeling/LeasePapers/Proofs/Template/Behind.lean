import LeasePapers.Proofs.Template.Contents

/-! Reading a template behind another one. The builder then holds the nodes of the first template,
and its positions and counts of blocks are larger by what the first template takes; nothing that it
does depends on them.
-/

namespace LeasePapers.Template

/-- An issue of a template that is moved by so many bytes, behind so many blocks. -/
def Issue.moved (size blocks : Nat) : Issue → Issue
  | .problem found position => .problem found (position + size)
  | .countMismatch opened closed => .countMismatch (opened + blocks) (closed + blocks)

/-- A block of a template that is moved by so many bytes. -/
def Frame.moved (size : Nat) (frame : Frame) : Frame :=
  { frame with position := frame.position + size }

namespace Builder

/-- The builder of a template that stands behind another one, of which the tree, the size and the
number of blocks are given.
-/
def behind (b : Builder) (before : List Node) (size blocks : Nat) : Builder where
  root := addNodes before b.root
  frames := b.frames.map (Frame.moved size)
  tooDeep := b.tooDeep
  issues := b.issues.map (Issue.moved size blocks)
  opened := b.opened + blocks
  closed := b.closed + blocks
  position := b.position + size

variable (b : Builder) (before : List Node) (size blocks : Nat)

/-- Nodes are added to a block that was moved. -/
theorem moved_add (frame : Frame) (more : List Node)
    : (frame.moved size).add more = (frame.add more).moved size := by
  obtain ⟨header, opener, position, body, otherwise⟩ := frame
  cases otherwise <;> rfl

/-- Nodes are added behind another template. -/
theorem behind_add (more : List Node)
    : (b.behind before size blocks).add more = (b.add more).behind before size blocks := by
  obtain ⟨root, frames, tooDeep, issues, opened, closed, position⟩ := b
  cases frames with
  | nil => simp only [add, behind, List.map_nil, addNodes_addNodes]
  | cons frame rest => simp only [add, behind, List.map_cons, moved_add]

/-- Literal text is built behind another template. -/
theorem behind_literal (raw : Text)
    : (b.behind before size blocks).literal raw = (b.literal raw).behind before size blocks :=
  behind_add b before size blocks [.text raw]

/-- A problem is reported behind another template, at the moved position. -/
theorem behind_report (problem : Problem) (position : Nat)
    : (b.behind before size blocks).report problem (position + size)
      = (b.report problem position).behind before size blocks := by
  simp [report, behind, Issue.moved]

/-- A segment is refused behind another template. -/
theorem behind_refuse (problem : Problem) (raw : Text)
    : (b.behind before size blocks).refuse problem raw
      = (b.refuse problem raw).behind before size blocks := by
  rw [refuse, refuse, ← behind_literal, ← behind_report]
  rfl

/-- An else branch is begun behind another template. -/
theorem behind_beginElse (raw : Text)
    : (b.behind before size blocks).beginElse raw
      = (b.beginElse raw).behind before size blocks := by
  have hrefuse := behind_refuse b before size blocks .strayElse raw
  obtain ⟨root, frames, tooDeep, issues, opened, closed, position⟩ := b
  cases frames with
  | nil => exact hrefuse
  | cons frame rest =>
      simp only [beginElse, behind, List.map_cons, Frame.moved]
      split
      · rfl
      · exact hrefuse

/-- The innermost block is given up behind another template. -/
theorem behind_unwind
    : (b.behind before size blocks).unwind = b.unwind.behind before size blocks := by
  obtain ⟨root, frames, tooDeep, issues, opened, closed, position⟩ := b
  cases frames with
  | nil => rfl
  | cons frame rest =>
      simp only [unwind]
      rw [← behind_add, ← behind_report]
      rfl

/-- Blocks are given up behind another template, by induction on their number. -/
theorem behind_unwindMany (count : Nat)
    : (b.behind before size blocks).unwindMany count
      = (b.unwindMany count).behind before size blocks := by
  induction count generalizing b with
  | zero => rfl
  | succ count ih => rw [unwindMany, behind_unwind, ih, unwindMany]

/-- The innermost block is closed behind another template. -/
theorem behind_closeTop
    : (b.behind before size blocks).closeTop = b.closeTop.behind before size blocks := by
  obtain ⟨root, frames, tooDeep, issues, opened, closed, position⟩ := b
  cases frames with
  | nil => rfl
  | cons frame rest =>
      simp only [closeTop]
      rw [← behind_add]
      rfl

/-- Closes the innermost block of a name, and gives the blocks inside of it up. -/
def closeNamed (b : Builder) (name raw : Text) : Builder :=
  match b.frames.findIdx? (fun frame => frame.header.kind.name = name) with
  | none => b.literal raw
  | some depth => (b.unwindMany depth).closeTop

/-- With a block open, a closer reports a mismatch, if there is one, and closes a block of its name.
-/
theorem close_cons {top : Frame} {rest : List Frame} (hframes : b.frames = top :: rest)
    (name raw : Text)
    : b.close name raw
      = (if top.header.kind.name = name then b
          else b.report (.mismatchedCloser top.header.kind name) b.position).closeNamed
            name raw := by
  unfold close
  simp only [hframes]
  rfl

/-- A block of a name is closed behind another template. -/
theorem behind_closeNamed (name raw : Text)
    : (b.behind before size blocks).closeNamed name raw
      = (b.closeNamed name raw).behind before size blocks := by
  have hfind : (b.behind before size blocks).frames.findIdx?
        (fun frame => frame.header.kind.name = name)
      = b.frames.findIdx? (fun frame => frame.header.kind.name = name) :=
    List.findIdx?_map
  rw [closeNamed, closeNamed, hfind]
  split
  · exact behind_literal _ _ _ _ _
  · rw [behind_unwindMany, behind_closeTop]

/-- A closer is read behind another template. -/
theorem behind_close (name raw : Text)
    : (b.behind before size blocks).close name raw
      = (b.close name raw).behind before size blocks := by
  cases hframes : b.frames with
  | nil =>
      have hrefuse := behind_refuse b before size blocks (.strayCloser name) raw
      have hframes' : (b.behind before size blocks).frames = [] := by simp [behind, hframes]
      unfold close
      simp only [hframes, hframes']
      exact hrefuse
  | cons top rest =>
      have hframes' : (b.behind before size blocks).frames
          = top.moved size :: rest.map (Frame.moved size) := by
        simp [behind, hframes]
      have hheader : (top.moved size).header = top.header := rfl
      rw [close_cons _ hframes, close_cons _ hframes', ← behind_closeNamed, hheader]
      by_cases hname : top.header.kind.name = name
      · rw [if_pos hname, if_pos hname]
      · rw [if_neg hname, if_neg hname, ← behind_report]
        rfl

/-- A tag is applied behind another template. -/
theorem behind_apply (raw : Text) (tag : Tag)
    : (b.behind before size blocks).apply raw tag
      = (b.apply raw tag).behind before size blocks := by
  cases tag with
  | leaf node => exact behind_add b before size blocks [node]
  | literal problem => exact behind_refuse b before size blocks problem raw
  | opener header =>
      simp only [apply, openBlock, behind, List.map_cons, Frame.moved, Nat.add_right_comm]
  | otherwise => exact behind_beginElse b before size blocks raw
  | closer name =>
      have hclosed :
          ({ b.behind before size blocks with closed := b.closed + blocks + 1 } : Builder)
          = ({ b with closed := b.closed + 1 } : Builder).behind before size blocks := by
        simp only [behind, Nat.add_right_comm]
      rw [apply, apply, ← behind_close, ← hclosed]
      rfl

/-- A tag is applied at the limit behind another template. -/
theorem behind_applyAtLimit (raw : Text) (tag : Tag)
    : (b.behind before size blocks).applyAtLimit raw tag
      = (b.applyAtLimit raw tag).behind before size blocks := by
  cases tag with
  | opener header =>
      have hrefuse := behind_refuse b before size blocks (.nestingTooDeep header.kind) raw
      simp only [applyAtLimit, refuseDeep, hrefuse]
      rfl
  | otherwise =>
      simp only [applyAtLimit]
      by_cases hdeep : b.tooDeep = []
      · rw [if_pos hdeep, ← behind_apply]
        exact if_pos hdeep
      · rw [if_neg hdeep, ← behind_literal]
        exact if_neg hdeep
  | closer name =>
      have hdeep : (b.behind before size blocks).tooDeep = b.tooDeep := rfl
      simp only [applyAtLimit, hdeep]
      split
      · rename_i kind rest _
        split
        · exact behind_literal { b with tooDeep := rest } before size blocks raw
        · exact behind_apply b before size blocks raw (.closer name)
      · exact behind_apply b before size blocks raw (.closer name)
  | leaf node => exact behind_apply b before size blocks raw (.leaf node)
  | literal problem => exact behind_apply b before size blocks raw (.literal problem)

/-- A segment is read behind another template. -/
theorem behind_step (segment : Segment)
    : (b.behind before size blocks).step segment
      = (b.step segment).behind before size blocks := by
  have htake : (b.behind before size blocks).take segment
      = (b.take segment).behind before size blocks := by
    cases segment with
    | text content => exact behind_literal b before size blocks content
    | unterminated raw => exact behind_refuse b before size blocks .unterminatedTag raw
    | tag inner =>
        have hlength : (b.behind before size blocks).frames.length = b.frames.length :=
          List.length_map _
        have hlimit : (b.behind before size blocks).isAtLimit = b.isAtLimit := by
          rw [isAtLimit, hlength]
          rfl
        simp only [take, hlimit]
        split
        · exact behind_applyAtLimit b before size blocks _ _
        · exact behind_apply b before size blocks _ _
  rw [step, htake, step]
  simp only [behind, Nat.add_right_comm]

/-- What is read behind another template is read as by itself, by induction on the segments. -/
theorem behind_run (segments : List Segment)
    : segments.foldl step (b.behind before size blocks)
      = (segments.foldl step b).behind before size blocks := by
  induction segments generalizing b with
  | nil => rfl
  | cons segment rest ih => rw [List.foldl_cons, behind_step, ih, List.foldl_cons]

/-- A template is brought to its end behind another one. -/
theorem behind_finish
    : (b.behind before size blocks).finish = b.finish.behind before size blocks := by
  have hlength : (b.behind before size blocks).frames.length = b.frames.length :=
    List.length_map _
  unfold finish
  simp only [hlength, behind_unwindMany]
  generalize b.unwindMany b.frames.length = b
  have hcounts : (b.behind before size blocks).opened = (b.behind before size blocks).closed
      ↔ b.opened = b.closed :=
    Nat.add_right_cancel_iff
  by_cases hcount : b.opened = b.closed
  · rw [if_pos hcount, if_pos (hcounts.mpr hcount)]
  · rw [if_neg hcount, if_neg (fun heq => hcount (hcounts.mp heq))]
    simp [behind, Issue.moved]

end Builder

end LeasePapers.Template
