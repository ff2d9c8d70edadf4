import LeasePapers.Proofs.Template.Tag
import LeasePapers.Template.Builder

/-! How the segments of a template spell its tree. A leaf is spelled by its tag, a block by its
opener, its body, its else tag and its closer, and literal text by one or more segments that stay
as they are. Texts are merged where they meet, so no two of them are neighbours.
-/

namespace LeasePapers.Template

/-- Segments spell nodes. `literal` says which segments may stay literal, and `room` how many blocks
may still nest in each other.
-/
inductive Spelling (literal : Segment → Prop) : Nat → List Node → List Segment → Prop
  | nil {room : Nat} : Spelling literal room [] []
  | text {room : Nat} {rest : List Node} {pieces segments : List Segment}
      (stay : ∀ piece ∈ pieces, literal piece) (filled : pieces.flatMap Segment.raw ≠ [])
      (parted : ∀ more, rest.head? ≠ some (.text more))
      (tail : Spelling literal room rest segments)
    : Spelling literal room (.text (pieces.flatMap Segment.raw) :: rest) (pieces ++ segments)
  | leaf {room : Nat} {node : Node} {rest : List Node} {inner : Text} {segments : List Segment}
      (meaning : Tag.ofInner inner = .leaf node) (tail : Spelling literal room rest segments)
    : Spelling literal room (node :: rest) (.tag inner :: segments)
  | block {room : Nat} {header : Header} {body rest : List Node} {opener closer : Text}
      {within segments : List Segment} (opens : Tag.ofInner opener = .opener header)
      (closes : Tag.ofInner closer = .closer header.kind.name)
      (inside : Spelling literal room body within)
      (tail : Spelling literal (room + 1) rest segments)
    : Spelling literal (room + 1) (.block header body [] :: rest)
        (.tag opener :: within ++ .tag closer :: segments)
  | branches {room : Nat} {header : Header} {body otherwise rest : List Node}
      {opener middle closer : Text} {within beyond segments : List Segment}
      (forked : header.kind.hasElse = true) (opens : Tag.ofInner opener = .opener header)
      (parts : Tag.ofInner middle = .otherwise)
      (closes : Tag.ofInner closer = .closer header.kind.name)
      (inside : Spelling literal room body within)
      (apart : Spelling literal room otherwise beyond)
      (tail : Spelling literal (room + 1) rest segments)
    : Spelling literal (room + 1) (.block header body otherwise :: rest)
        (.tag opener :: within ++ .tag middle :: beyond ++ .tag closer :: segments)

namespace Spelling

variable {literal : Segment → Prop} {room : Nat} {nodes more : List Node}
  {segments others : List Segment}

/-- No nodes are spelled by nothing. -/
theorem eq_nil (h : Spelling literal room [] segments) : segments = [] := by
  cases h
  rfl

/-- Nodes are spelled by something. -/
theorem ne_nil (h : Spelling literal room nodes segments) (hnodes : nodes ≠ [])
    : segments ≠ [] := by
  cases h with
  | nil => exact absurd rfl hnodes
  | text stay filled parted tail =>
      intro he
      rw [(List.append_eq_nil_iff.mp he).1] at filled
      exact filled rfl
  | leaf | block | branches => simp

/-- More segments may stay literal, and there may be more room, by induction on the spelling. -/
theorem mono {wider : Segment → Prop} {space : Nat} (h : Spelling literal room nodes segments)
    (hliteral : ∀ segment, literal segment → wider segment) (hroom : room ≤ space)
    : Spelling wider space nodes segments := by
  induction h generalizing space with
  | nil => exact .nil
  | text stay filled parted _ ih =>
      exact .text (fun piece hmem => hliteral piece (stay piece hmem)) filled parted (ih hroom)
  | leaf meaning _ ih => exact .leaf meaning (ih hroom)
  | block opens closes _ _ inside tail =>
      obtain ⟨larger, rfl⟩ := Nat.exists_eq_add_of_le' (Nat.le_of_add_left_le hroom)
      exact .block opens closes (inside (Nat.le_of_succ_le_succ hroom)) (tail hroom)
  | branches forked opens parts closes _ _ _ inside apart tail =>
      obtain ⟨larger, rfl⟩ := Nat.exists_eq_add_of_le' (Nat.le_of_add_left_le hroom)
      have hlarger := Nat.le_of_succ_le_succ hroom
      exact .branches forked opens parts closes (inside hlarger) (apart hlarger) (tail hroom)

end Spelling

/-- A node that is not literal text. -/
def Node.IsDirective (node : Node) : Prop :=
  ∀ content, node ≠ .text content

/-- A tag that is read as a leaf is read as a directive. -/
theorem directive_of_leaf {inner : Text} {node : Node} (h : Tag.ofInner inner = .leaf node)
    : node.IsDirective := by
  rintro content rfl
  exact writableLeaf_of_leaf h

/-- A block is a directive. -/
theorem directive_block (header : Header) (body otherwise : List Node)
    : (Node.block header body otherwise).IsDirective := by
  intro content he
  cases he

/-- Literal text is added behind a directive. -/
theorem addText_directive {node : Node} (h : node.IsDirective) (rest : List Node) (content : Text)
    : addText (node :: rest) content = node :: addText rest content := by
  cases node with
  | text before => exact absurd rfl (h before)
  | _ => cases rest <;> rfl

/-- A directive is added as a node of its own. -/
theorem addNode_directive {node : Node} (h : node.IsDirective) (nodes : List Node)
    : addNode nodes node = nodes ++ [node] := by
  cases node with
  | text before => exact absurd rfl (h before)
  | _ => rfl

/-- Nodes are added one by one. -/
theorem addNodes_cons (nodes more : List Node) (node : Node)
    : addNodes nodes (node :: more) = addNodes (addNode nodes node) more :=
  rfl

/-- Literal text that is added last does not come first. -/
theorem head?_addText {nodes : List Node} (hnodes : nodes ≠ [])
    (h : ∀ more, nodes.head? ≠ some (.text more)) (content more : Text)
    : (addText nodes content).head? ≠ some (.text more) := by
  cases nodes with
  | nil => exact absurd rfl hnodes
  | cons node rest =>
      have hnode : node.IsDirective := fun text he => h text (by rw [he]; rfl)
      rw [addText_directive hnode]
      exact h more

namespace Spelling

variable {literal : Segment → Prop} {room : Nat} {nodes more : List Node}
  {segments others : List Segment}

/-- Segments that stay literal are spelled by the text they add, by induction on the spelling so
far: the text goes to the last node if that is a text.
-/
theorem addText (h : Spelling literal room nodes segments)
    (hothers : ∀ piece ∈ others, literal piece) (hfilled : others.flatMap Segment.raw ≠ [])
    : Spelling literal room (Template.addText nodes (others.flatMap Segment.raw))
        (segments ++ others) := by
  induction h with
  | @nil room =>
      have hsingle : Spelling literal room _ _ := .text hothers hfilled (by simp) .nil
      rw [Template.addText, if_neg hfilled]
      simpa using hsingle
  | @text room rest pieces segments stay filled parted tail ih =>
      cases rest with
      | nil =>
          obtain rfl := tail.eq_nil
          have hboth : ∀ piece ∈ pieces ++ others, literal piece := by
            intro piece hmem
            exact (List.mem_append.mp hmem).elim (stay piece) (hothers piece)
          have hmerged : Spelling literal room _ _ :=
            .text hboth (by simp [filled]) (by simp) .nil
          simpa [Template.addText] using hmerged
      | cons node rest =>
          have hparted := head?_addText (by simp) parted (others.flatMap Segment.raw)
          rw [List.append_assoc]
          exact .text stay filled hparted ih
  | leaf meaning tail ih =>
      rw [addText_directive (directive_of_leaf meaning)]
      exact .leaf meaning ih
  | block opens closes inside tail _ ih =>
      rw [addText_directive (directive_block _ _ _), List.append_assoc]
      exact .block opens closes inside ih
  | branches forked opens parts closes inside apart tail _ _ ih =>
      rw [addText_directive (directive_block _ _ _), List.append_assoc]
      exact .branches forked opens parts closes inside apart ih

/-- What begins with a directive is spelled behind any nodes, by induction on the first spelling. -/
theorem append (h : Spelling literal room nodes segments)
    (hmore : Spelling literal room more others) (hhead : ∀ text, more.head? ≠ some (.text text))
    : Spelling literal room (nodes ++ more) (segments ++ others) := by
  induction h with
  | nil => exact hmore
  | @text _ rest _ _ stay filled parted tail ih =>
      have hparted : ∀ text, (rest ++ more).head? ≠ some (.text text) := by
        cases rest with
        | nil => exact hhead
        | cons => exact parted
      rw [List.cons_append, List.append_assoc]
      exact .text stay filled hparted (ih hmore)
  | leaf meaning tail ih => exact .leaf meaning (ih hmore)
  | block opens closes inside tail _ ih =>
      rw [List.append_assoc]
      exact .block opens closes inside (ih hmore)
  | branches forked opens parts closes inside apart tail _ _ ih =>
      rw [List.append_assoc]
      exact .branches forked opens parts closes inside apart (ih hmore)

/-- Nodes that are added one by one are spelled by the segments of both, by induction on what is
added; texts are merged where they meet.
-/
theorem addNodes (hmore : Spelling literal room more others)
    (h : Spelling literal room nodes segments)
    : Spelling literal room (Template.addNodes nodes more) (segments ++ others) := by
  induction hmore generalizing nodes segments with
  | nil => simpa [Template.addNodes] using h
  | @text _ rest pieces others stay filled parted tail ih =>
      have hadded := ih (h.addText stay filled)
      rw [List.append_assoc] at hadded
      exact hadded
  | @leaf _ node rest inner others meaning tail ih =>
      have hnode := directive_of_leaf meaning
      have hadded :=
        ih (h.append (.leaf meaning .nil) (fun text he => hnode text (by simpa using he)))
      rw [← addNode_directive hnode, List.append_assoc] at hadded
      exact hadded
  | block opens closes inside tail _ ih =>
      have hadded := ih (h.append (.block opens closes inside .nil) (by simp))
      rw [← addNode_directive (directive_block _ _ _)] at hadded
      simpa [addNodes_cons] using hadded
  | branches forked opens parts closes inside apart tail _ _ ih =>
      have hadded := ih (h.append (.branches forked opens parts closes inside apart .nil) (by simp))
      rw [← addNode_directive (directive_block _ _ _)] at hadded
      simpa [addNodes_cons] using hadded

end Spelling

-----------------------------------------------------------------------------------------
-- Open blocks
-----------------------------------------------------------------------------------------

/-- Segments spell a block that is still open: its opener, its body so far, and its else tag and
else branch so far if the else tag has been read.
-/
inductive OpenBlock (literal : Segment → Prop) (room : Nat) : Frame → List Segment → Prop
  | body {header : Header} {opener : Text} {position : Nat} {body : List Node}
      {within : List Segment} (opens : Tag.ofInner opener = .opener header)
      (inside : Spelling literal room body within)
    : OpenBlock literal room ⟨header, tagText opener, position, body, none⟩
        (.tag opener :: within)
  | otherwise {header : Header} {opener middle : Text} {position : Nat} {body branch : List Node}
      {within beyond : List Segment} (forked : header.kind.hasElse = true)
      (opens : Tag.ofInner opener = .opener header) (parts : Tag.ofInner middle = .otherwise)
      (inside : Spelling literal room body within) (apart : Spelling literal room branch beyond)
    : OpenBlock literal room
        ⟨header, tagText opener, position, body, some (tagText middle, branch)⟩
        (.tag opener :: within ++ .tag middle :: beyond)

namespace OpenBlock

variable {literal : Segment → Prop} {room : Nat} {frame : Frame} {segments : List Segment}

/-- Segments spell an open block if more of them may stay literal. -/
theorem mono {wider : Segment → Prop} (h : OpenBlock literal room frame segments)
    (hliteral : ∀ segment, literal segment → wider segment)
    : OpenBlock wider room frame segments := by
  cases h with
  | body opens inside => exact .body opens (inside.mono hliteral (Nat.le_refl room))
  | otherwise forked opens parts inside apart =>
      exact .otherwise forked opens parts (inside.mono hliteral (Nat.le_refl room))
        (apart.mono hliteral (Nat.le_refl room))

/-- Nodes that are spelled behind an open block are added to it. -/
theorem add {nodes : List Node} {more : List Segment} (h : OpenBlock literal room frame segments)
    (hnodes : Spelling literal room nodes more)
    : OpenBlock literal room (frame.add nodes) (segments ++ more) := by
  cases h with
  | body opens inside => exact .body opens (hnodes.addNodes inside)
  | otherwise forked opens parts inside apart =>
      rw [List.append_assoc]
      exact .otherwise forked opens parts inside (hnodes.addNodes apart)

/-- A block with its closer is one node. -/
theorem node {closer : Text} (h : OpenBlock literal room frame segments)
    (closes : Tag.ofInner closer = .closer frame.header.kind.name)
    : Spelling literal (room + 1) [frame.node] (segments ++ [.tag closer]) := by
  cases h with
  | body opens inside => exact .block opens closes inside .nil
  | otherwise forked opens parts inside apart =>
      exact .branches forked opens parts closes inside apart .nil

/-- A block that is given up is spelled by the same segments: its opener and its else tag stay
literal, and its branches are what they are.
-/
theorem literal_spelling (h : OpenBlock literal room frame segments)
    (hall : ∀ segment, literal segment)
    : Spelling literal room frame.literal segments := by
  have htag : ∀ inner : Text, [Segment.tag inner].flatMap Segment.raw = tagText inner := by
    simp [Segment.raw]
  have hfilled : ∀ inner : Text, [Segment.tag inner].flatMap Segment.raw ≠ [] := by
    simp [Segment.raw, tagText, twice]
  have hopener : ∀ inner : Text, Spelling literal room [.text (tagText inner)] [.tag inner] := by
    intro inner
    have hsingle : Spelling literal room _ _ :=
      .text (fun piece _ => hall piece) (hfilled inner) (by simp) .nil
    simpa [htag] using hsingle
  cases h with
  | body opens inside => exact inside.addNodes (hopener _)
  | @otherwise header opener middle position body branch within beyond forked opens parts inside
      apart =>
      have hbody := inside.addNodes (hopener opener)
      have hmiddle := hbody.addText (fun piece _ => hall piece) (hfilled middle)
      rw [htag] at hmiddle
      simpa [Frame.literal] using apart.addNodes hmiddle

end OpenBlock

end LeasePapers.Template
