import LeasePapers.Proofs.Template.Spelling

/-! What a directive tree holds: its literal texts and its blocks, those inside of blocks included.
Nodes that are added one by one keep both, although texts are merged where they meet.
-/

namespace LeasePapers.Template

mutual

/-- The literal texts of a node, those of its branches included. -/
def Node.literals : Node → List Text
  | .text content => [content]
  | .variable _ | .helper _ _ => []
  | .block _ body otherwise => literalsIn body ++ literalsIn otherwise

/-- The literal texts of nodes. -/
def literalsIn : List Node → List Text
  | [] => []
  | node :: rest => node.literals ++ literalsIn rest

end

mutual

/-- The number of blocks of a node: the node itself, and the blocks of its branches. -/
def Node.blocks : Node → Nat
  | .text _ | .variable _ | .helper _ _ => 0
  | .block _ body otherwise => blocksIn body + blocksIn otherwise + 1

/-- The number of blocks of nodes. -/
def blocksIn : List Node → Nat
  | [] => 0
  | node :: rest => node.blocks + blocksIn rest

end

-----------------------------------------------------------------------------------------
-- Tags in literal text
-----------------------------------------------------------------------------------------

/-- The opening mark of a tag stands in one of the literal texts of nodes. -/
def ShowsTag (nodes : List Node) : Prop :=
  ∃ content ∈ literalsIn nodes, HasPair openMark content

/-- No nodes show no tag. -/
theorem showsTag_nil : ¬ShowsTag [] := by
  rintro ⟨content, hmem, -⟩
  cases hmem

/-- Nodes show a tag if the first one does or the others do. -/
theorem showsTag_cons {node : Node} {rest : List Node}
    : ShowsTag (node :: rest) ↔ ShowsTag [node] ∨ ShowsTag rest := by
  simp only [ShowsTag, literalsIn, List.append_nil, List.mem_append, or_and_right, exists_or]

/-- Nodes show a tag together if either do, by induction on the first ones. -/
theorem showsTag_append {nodes more : List Node}
    : ShowsTag (nodes ++ more) ↔ ShowsTag nodes ∨ ShowsTag more := by
  induction nodes with
  | nil => simp [showsTag_nil]
  | cons node rest ih => rw [List.cons_append, showsTag_cons, ih, ← or_assoc, ← showsTag_cons]

/-- Literal text shows a tag if it has an opening mark. -/
theorem showsTag_text {content : Text} : ShowsTag [.text content] ↔ HasPair openMark content := by
  simp [ShowsTag, literalsIn, Node.literals]

/-- A block shows a tag if one of its branches does. -/
theorem showsTag_block {header : Header} {body otherwise : List Node}
    : ShowsTag [.block header body otherwise] ↔ ShowsTag body ∨ ShowsTag otherwise := by
  simp only [ShowsTag, literalsIn, Node.literals, List.append_nil, List.mem_append, or_and_right,
    exists_or]

/-- Text that is added to nodes shows what both have shown, by induction along the addition. -/
theorem ShowsTag.addText {nodes : List Node} {content : Text}
    (h : ShowsTag nodes ∨ HasPair openMark content)
    : ShowsTag (addText nodes content) := by
  fun_induction Template.addText nodes content with
  | case1 =>
      rcases h with h | h
      · exact absurd h showsTag_nil
      · exact absurd h not_hasPair_nil
  | case2 content hfilled => exact showsTag_text.mpr (h.resolve_left showsTag_nil)
  | case3 before content =>
      rw [showsTag_text] at h ⊢
      rcases h with h | h
      · exact h.of_infix (List.prefix_append _ _).isInfix
      · exact h.of_infix (List.suffix_append _ _).isInfix
  | case4 node rest content _ ih =>
      rw [showsTag_cons, or_assoc] at h
      exact showsTag_cons.mpr (h.imp_right ih)

/-- A tag that is shown is still shown when a node is added. -/
theorem ShowsTag.addNode {nodes : List Node} {node : Node} (h : ShowsTag nodes ∨ ShowsTag [node])
    : ShowsTag (addNode nodes node) := by
  cases node with
  | text content => exact ShowsTag.addText (h.imp_right showsTag_text.mp)
  | _ => exact showsTag_append.mpr h

/-- Nodes that are added show what they have shown, by induction on them. -/
theorem ShowsTag.addNodes {nodes more : List Node} (h : ShowsTag nodes ∨ ShowsTag more)
    : ShowsTag (addNodes nodes more) := by
  induction more generalizing nodes with
  | nil => exact h.resolve_right showsTag_nil
  | cons node rest ih =>
      rw [showsTag_cons, ← or_assoc] at h
      exact ih (h.imp_left ShowsTag.addNode)

-----------------------------------------------------------------------------------------
-- Readings of added nodes
-----------------------------------------------------------------------------------------

/-- A reading puts together what it reads in one node after the other, and does not see where
literal text is parted. -/
structure Additive {α : Type} (op : α → α → α) (unit : α) (reading : List Node → α) : Prop where
  nil : reading [] = unit
  cons : ∀ node rest, reading (node :: rest) = op (reading [node]) (reading rest)
  empty : reading [.text []] = unit
  text : ∀ before after,
    reading [.text (before ++ after)] = op (reading [.text before]) (reading [.text after])

namespace Additive

variable {α : Type} {op : α → α → α} {unit : α} [Std.Associative op] [Std.LawfulIdentity op unit]
  {reading : List Node → α}

/-- What is read in nodes is put together, by induction on the first ones. -/
theorem append (h : Additive op unit reading) (nodes more : List Node)
    : reading (nodes ++ more) = op (reading nodes) (reading more) := by
  induction nodes with
  | nil => rw [List.nil_append, h.nil, @Std.LawfulLeftIdentity.left_id _ _ op unit _]
  | cons node rest ih =>
      rw [List.cons_append, h.cons, ih, h.cons node rest, @Std.Associative.assoc _ op _]

/-- What is read in literal text is put together, wherever the text is added, by induction on the
nodes. -/
theorem addText (h : Additive op unit reading) (nodes : List Node) (content : Text)
    : reading (addText nodes content) = op (reading nodes) (reading [.text content]) := by
  fun_induction Template.addText nodes content with
  | case1 => rw [h.nil, h.empty, @Std.LawfulLeftIdentity.left_id _ _ op unit _]
  | case2 content _ => rw [h.nil, @Std.LawfulLeftIdentity.left_id _ _ op unit _]
  | case3 before content => exact h.text before content
  | case4 node rest content _ ih =>
      rw [h.cons, ih, h.cons node rest, @Std.Associative.assoc _ op _]

/-- Added nodes are read as they are by themselves, by induction on them. -/
theorem addNodes (h : Additive op unit reading) (nodes more : List Node)
    : reading (addNodes nodes more) = op (reading nodes) (reading more) := by
  induction more generalizing nodes with
  | nil =>
      rw [h.nil, @Std.LawfulRightIdentity.right_id _ _ op unit _]
      rfl
  | cons node rest ih =>
      have hnode : reading (addNode nodes node) = op (reading nodes) (reading [node]) := by
        cases node with
        | text content => exact h.addText nodes content
        | _ => exact h.append nodes _
      rw [addNodes_cons, ih, hnode, h.cons node rest, @Std.Associative.assoc _ op _]

end Additive

/-- The blocks of nodes are counted one by one. -/
theorem additive_blocksIn : Additive (· + ·) 0 blocksIn :=
  ⟨rfl, fun _ _ => rfl, rfl, fun _ _ => rfl⟩

-----------------------------------------------------------------------------------------
-- Adding nodes in groups
-----------------------------------------------------------------------------------------

/-- Literal text is added behind the first node, unless it goes on from there. -/
theorem addText_cons {node : Node} {rest : List Node}
    (h : ∀ before, node = .text before → rest ≠ []) (content : Text)
    : addText (node :: rest) content = node :: addText rest content := by
  cases node with
  | text before =>
      obtain ⟨next, others, rfl⟩ := List.exists_cons_of_ne_nil (h before rfl)
      rfl
  | _ => cases rest <;> rfl

/-- Adding literal text leaves something, by induction on the nodes. -/
theorem addText_ne_nil {nodes : List Node} (h : nodes ≠ []) (content : Text)
    : addText nodes content ≠ [] := by
  fun_induction addText nodes content with
  | case1 => exact h
  | case2 => simp
  | case3 => simp
  | case4 => simp

/-- Adding no text changes nothing, by induction on the nodes. -/
theorem addText_nil (nodes : List Node) : addText nodes [] = nodes := by
  generalize hcontent : ([] : Text) = content
  fun_induction addText nodes content with
  | case1 => rfl
  | case2 content hfilled => exact absurd hcontent.symm hfilled
  | case3 before content => rw [← hcontent, List.append_nil]
  | case4 node rest content _ ih => rw [ih hcontent]

/-- Literal text is added together or one part after the other, by induction on the nodes. -/
theorem addText_addText (nodes : List Node) (before after : Text)
    : addText (addText nodes before) after = addText nodes (before ++ after) := by
  fun_induction addText nodes before with
  | case1 => rfl
  | case2 before hfilled => rw [addText, addText, if_neg (by simp [hfilled])]
  | case3 content before => rw [addText, addText, List.append_assoc]
  | case4 node rest before hparted ih =>
      have hparted' : ∀ content, node = .text content → addText rest before ≠ [] :=
        fun content hnode => addText_ne_nil (hparted content hnode) before
      rw [addText_cons hparted', addText_cons hparted, ih]

/-- Text may be added before or after other nodes are, by induction along its addition to those. -/
theorem addNodes_addText (nodes more : List Node) (content : Text)
    : addNodes nodes (addText more content) = addText (addNodes nodes more) content := by
  fun_induction addText more content generalizing nodes with
  | case1 => exact (addText_nil nodes).symm
  | case2 => rfl
  | case3 before content => exact (addText_addText nodes before content).symm
  | case4 node rest content _ ih => exact ih (addNode nodes node)

/-- A node is added at last, whether before or after the others are put together. -/
theorem addNodes_addNode (nodes more : List Node) (node : Node)
    : addNodes nodes (addNode more node) = addNode (addNodes nodes more) node := by
  cases node with
  | text content => exact addNodes_addText nodes more content
  | _ => exact List.foldl_append

/-- Nodes may be added in groups, by induction on the last group. -/
theorem addNodes_addNodes (nodes more others : List Node)
    : addNodes nodes (addNodes more others) = addNodes (addNodes nodes more) others := by
  induction others generalizing more with
  | nil => rfl
  | cons node rest ih => rw [addNodes_cons, ih, addNodes_addNode, ← addNodes_cons]

end LeasePapers.Template
