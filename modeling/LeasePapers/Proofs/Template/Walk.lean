import LeasePapers.Template.Survey

/-! The nodes of a directive tree one by one, those inside of blocks included. What is asked of
every node of a tree, however deep it stands, is asked of these.
-/

namespace LeasePapers.Template

mutual

/-- A node and then the nodes of its branches. -/
def Node.visited : Node → List Node
  | .text content => [.text content]
  | .variable name => [.variable name]
  | .helper helper field => [.helper helper field]
  | .block header body otherwise =>
      .block header body otherwise :: (visitedIn body ++ visitedIn otherwise)

/-- All nodes of a tree. -/
def visitedIn : List Node → List Node
  | [] => []
  | node :: rest => node.visited ++ visitedIn rest

end

/-- A node without branches. -/
def Node.IsLeaf (node : Node) : Prop :=
  ∀ header body otherwise, node ≠ .block header body otherwise

/-- Induction along a tree, node by node and into both branches of a block. -/
theorem nodes_induction {motive : List Node → Prop} (nil : motive [])
    (leaf : ∀ node rest, node.IsLeaf → motive rest → motive (node :: rest))
    (block : ∀ header body otherwise rest,
      motive body → motive otherwise → motive rest → motive (.block header body otherwise :: rest))
    (nodes : List Node)
    : motive nodes :=
  match nodes with
  | [] => nil
  | .text content :: rest => leaf (.text content) rest nofun (nodes_induction nil leaf block rest)
  | .variable name :: rest => leaf (.variable name) rest nofun (nodes_induction nil leaf block rest)
  | .helper helper field :: rest =>
      leaf (.helper helper field) rest nofun (nodes_induction nil leaf block rest)
  | .block header body otherwise :: rest =>
      block header body otherwise rest (nodes_induction nil leaf block body)
        (nodes_induction nil leaf block otherwise) (nodes_induction nil leaf block rest)

/-- A leaf is visited by itself. -/
theorem visited_leaf {node : Node} (h : node.IsLeaf) : node.visited = [node] := by
  cases node with
  | block header body otherwise => exact absurd rfl (h header body otherwise)
  | _ => rw [Node.visited]

/-- What holds of all nodes holds of a leaf and of those behind it. -/
theorem forall_visitedIn_leaf {P : Node → Prop} {node : Node} {rest : List Node} (h : node.IsLeaf)
    : (∀ other ∈ visitedIn (node :: rest), P other)
      ↔ P node ∧ ∀ other ∈ visitedIn rest, P other := by
  rw [visitedIn, visited_leaf h, List.singleton_append, List.forall_mem_cons]

/-- What holds of all nodes holds of a block, of those in its branches and of those behind it. -/
theorem forall_visitedIn_block {P : Node → Prop} {header : Header} {body otherwise rest : List Node}
    : (∀ node ∈ visitedIn (.block header body otherwise :: rest), P node)
      ↔ P (.block header body otherwise) ∧ (∀ node ∈ visitedIn body, P node)
        ∧ (∀ node ∈ visitedIn otherwise, P node) ∧ ∀ node ∈ visitedIn rest, P node := by
  simp only [visitedIn, Node.visited, List.cons_append, List.append_assoc, List.forall_mem_cons,
    List.forall_mem_append]

/-- What a node mentions, the whole tree mentions, by induction on the nodes. -/
theorem mentions_of_visited (nodes : List Node)
    : ∀ node ∈ visitedIn nodes, ∀ name ∈ node.mentions, name ∈ mentionsIn nodes := by
  induction nodes using nodes_induction with
  | nil => exact fun _ hmem => absurd hmem List.not_mem_nil
  | leaf node rest hleaf ih =>
      rw [forall_visitedIn_leaf hleaf]
      simp only [mentionsIn, List.mem_append]
      exact ⟨fun _ => Or.inl, fun other hother name hname => Or.inr (ih other hother name hname)⟩
  | block header body otherwise rest inside apart ih =>
      rw [forall_visitedIn_block]
      simp only [mentionsIn, Node.mentions, List.mem_append]
      refine ⟨fun _ => Or.inl, fun node hnode name hname => ?_, fun node hnode name hname => ?_,
        fun node hnode name hname => ?_⟩
      · exact Or.inl (Or.inl (Or.inr (inside node hnode name hname)))
      · exact Or.inl (Or.inr (apart node hnode name hname))
      · exact Or.inr (ih node hnode name hname)

end LeasePapers.Template
