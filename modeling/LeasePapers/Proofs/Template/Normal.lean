import LeasePapers.Proofs.Template.Building
import LeasePapers.Proofs.Template.Walk

/-! The normal form of directive trees. Whatever a template looks like, the tree read from it nests
no deeper than blocks may, keeps literal text in as few nodes as possible, and names nothing but
names.
-/

namespace LeasePapers.Template

mutual

/-- How deep the blocks of a node nest, the node itself counted. -/
def Node.depth : Node → Nat
  | .text _ | .variable _ | .helper _ _ => 0
  | .block _ body otherwise => max (depthIn body) (depthIn otherwise) + 1

/-- How deep the blocks of a tree nest. -/
def depthIn : List Node → Nat
  | [] => 0
  | node :: rest => max node.depth (depthIn rest)

end

/-- The list that a block repeats over, or the field that it depends on. -/
def Header.subject : Header → Text
  | .each name | .equal name _ | .present name | .absent name => name

/-- Of two neighbours one at least is no literal text. -/
def TextsApart (nodes : List Node) : Prop :=
  nodes.IsChain (fun node next => node.IsDirective ∨ next.IsDirective)

/-- A node in normal form: literal text is not empty, names are names, no variable is the else tag,
and texts are apart in both branches of a block, of which the second is empty where the block may
have none. -/
def Node.Normal : Node → Prop
  | .text content => content ≠ []
  | .variable name => isPath name = true ∧ name ≠ elseName
  | .helper _ field => isPath field = true
  | .block header body otherwise =>
      isPath header.subject = true ∧ TextsApart body ∧ TextsApart otherwise
        ∧ (otherwise ≠ [] → header.kind.hasElse = true)

/-- A tree in normal form, with so much room for blocks inside each other. -/
structure Normal (room : Nat) (nodes : List Node) : Prop where
  depth : depthIn nodes ≤ room
  apart : TextsApart nodes
  all : ∀ node ∈ visitedIn nodes, node.Normal

/-- The subject of a writable header is a name. -/
theorem isPath_subject {header : Header} (h : header.Writable) : isPath header.subject = true := by
  cases header with
  | equal field literal => exact h.1
  | each | present | absent => exact h

/-- A writable leaf is normal. -/
theorem Node.WritableLeaf.normal {node : Node} (h : node.WritableLeaf) : node.Normal := by
  cases node with
  | «variable» | helper => exact h
  | text | block => exact h.elim

/-- A writable leaf is a leaf. -/
theorem Node.WritableLeaf.isLeaf {node : Node} (h : node.WritableLeaf) : node.IsLeaf := by
  rintro header body otherwise rfl
  exact h

namespace Normal

variable {room : Nat} {rest : List Node}

/-- No nodes are normal. -/
theorem nil : Normal room [] :=
  ⟨Nat.zero_le room, .nil, fun _ hmem => absurd hmem List.not_mem_nil⟩

/-- Literal text is normal if it is something and none follows it. -/
theorem text {content : Text} (hfilled : content ≠ [])
    (hparted : ∀ more, rest.head? ≠ some (.text more)) (h : Normal room rest)
    : Normal room (.text content :: rest) := by
  have hleaf : (Node.text content).IsLeaf := nofun
  refine ⟨?_, h.apart.cons ?_, (forall_visitedIn_leaf hleaf).mpr ⟨hfilled, h.all⟩⟩
  · rw [depthIn, Node.depth, Nat.zero_max]
    exact h.depth
  · rintro next hnext
    refine Or.inr (fun more he => hparted more ?_)
    rw [← he]
    exact hnext

/-- A writable leaf is normal in front of normal nodes. -/
theorem leaf {node : Node} (hnode : node.WritableLeaf) (h : Normal room rest)
    : Normal room (node :: rest) := by
  refine ⟨?_, h.apart.cons ?_, (forall_visitedIn_leaf hnode.isLeaf).mpr ⟨hnode.normal, h.all⟩⟩
  · have hdepth : node.depth = 0 := by
      cases node with
      | block => exact hnode.elim
      | _ => rw [Node.depth]
    rw [depthIn, hdepth, Nat.zero_max]
    exact h.depth
  · intro next _
    refine Or.inl ?_
    rintro content rfl
    exact hnode

/-- A block is normal if its branches are and there is room for it. -/
theorem block {header : Header} {body otherwise : List Node} (hheader : header.Writable)
    (hforked : otherwise ≠ [] → header.kind.hasElse = true) (hbody : Normal room body)
    (hotherwise : Normal room otherwise) (h : Normal (room + 1) rest)
    : Normal (room + 1) (.block header body otherwise :: rest) := by
  refine ⟨?_, h.apart.cons (fun next _ => Or.inl (directive_block _ _ _)),
    forall_visitedIn_block.mpr ⟨?_, hbody.all, hotherwise.all, h.all⟩⟩
  · rw [depthIn, Node.depth]
    have hinside := hbody.depth
    have hbeside := hotherwise.depth
    have hrest := h.depth
    omega
  · exact ⟨isPath_subject hheader, hbody.apart, hotherwise.apart, hforked⟩

end Normal

/-- Whatever is spelled by shaped segments is in normal form, by induction on the spelling: text is
spelled by as many pieces as stand side by side, and a block takes one level of the room. -/
theorem Spelling.normal {literal : Segment → Prop} {room : Nat} {nodes : List Node}
    {segments : List Segment} (h : Spelling literal room nodes segments)
    (hshaped : ∀ segment ∈ segments, segment.Shaped)
    : Normal room nodes := by
  induction h with
  | nil => exact .nil
  | text _ filled parted _ ih =>
      exact .text filled parted (ih (List.forall_mem_append.mp hshaped).2)
  | leaf meaning _ ih =>
      exact .leaf (writableLeaf_of_leaf meaning) (ih (List.forall_mem_cons.mp hshaped).2)
  | block opens _ _ _ inside tail =>
      simp only [List.cons_append, List.forall_mem_cons, List.forall_mem_append] at hshaped
      obtain ⟨hopener, hwithin, -, hsegments⟩ := hshaped
      exact .block (writable_of_opener opens hopener) (absurd rfl) (inside hwithin) .nil
        (tail hsegments)
  | branches forked opens _ _ _ _ _ inside apart tail =>
      simp only [List.cons_append, List.append_assoc, List.forall_mem_cons,
        List.forall_mem_append] at hshaped
      obtain ⟨hopener, hwithin, -, hbeyond, -, hsegments⟩ := hshaped
      exact .block (writable_of_opener opens hopener) (fun _ => forked) (inside hwithin)
        (apart hbeyond) (tail hsegments)

/-- The tree of any template, well-formed or not, is in normal form. -/
theorem normal_ofText (text : Text) : Normal deepestNesting (ofText text).nodes :=
  (spelling_ofText text).normal (shaped_segments text)

end LeasePapers.Template
