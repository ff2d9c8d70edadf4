import LeasePapers.Proofs.Template.Tag
import LeasePapers.Template.Node

/-! Canonical trees and how they are written. In a canonical tree every directive can be written as
a tag that is read again, literal text holds no tag, and no two texts stand side by side, so the
text of the tree falls into segments in only one way.
-/

namespace LeasePapers.Template

/-- A tree that can be written and read again, with so much room for blocks inside each other.
`followed` says whether anything is written behind it.
-/
inductive Canonical : Nat → Bool → List Node → Prop
  | nil {room : Nat} {followed : Bool} : Canonical room followed []
  | text {room : Nat} {followed : Bool} {content : Text} {rest : List Node}
      (filled : content ≠ []) (unmarked : ¬HasPair openMark content)
      (parted : ∀ more, rest.head? ≠ some (.text more))
      (closed : rest ≠ [] ∨ followed = true → content.getLast? ≠ some openMark)
      (tail : Canonical room followed rest)
    : Canonical room followed (.text content :: rest)
  | leaf {room : Nat} {followed : Bool} {node : Node} {rest : List Node}
      (writable : node.WritableLeaf) (tail : Canonical room followed rest)
    : Canonical room followed (node :: rest)
  | block {room : Nat} {followed : Bool} {header : Header} {body otherwise rest : List Node}
      (writable : header.Writable) (forked : otherwise ≠ [] → header.kind.hasElse = true)
      (inside : Canonical room true body) (apart : Canonical room true otherwise)
      (tail : Canonical (room + 1) followed rest)
    : Canonical (room + 1) followed (.block header body otherwise :: rest)

mutual

/-- The segments that a node is written as. -/
def Node.segments : Node → List Segment
  | .text content => [.text content]
  | .variable name => [.tag name]
  | .helper helper field => [.tag (helper.call field)]
  | .block header body otherwise =>
      .tag header.opener :: segmentsOf body
        ++ (if otherwise.isEmpty then [] else .tag elseMark :: segmentsOf otherwise)
        ++ [.tag header.kind.closer]

/-- The segments that nodes are written as. -/
def segmentsOf : List Node → List Segment
  | [] => []
  | node :: rest => node.segments ++ segmentsOf rest

end

/-- The text of nodes. -/
def write (nodes : List Node) : Text :=
  (segmentsOf nodes).flatMap Segment.raw

/-- A writable leaf is one tag, which is read as the leaf. -/
theorem segments_leaf {node : Node} (h : node.WritableLeaf)
    : ∃ inner, node.segments = [.tag inner] ∧ Complete inner ∧ Tag.ofInner inner = .leaf node := by
  cases node with
  | text content => exact h.elim
  | «variable» name =>
      obtain ⟨hname, helse⟩ := h
      exact ⟨name, by rw [Node.segments], complete_of_isPath hname, ofInner_variable hname helse⟩
  | helper helper field =>
      exact ⟨helper.call field, by rw [Node.segments], complete_call h, ofInner_call h⟩
  | block header body otherwise => exact h.elim

/-- A block without an else branch is its opener, its body and its closer. -/
theorem segmentsOf_block_single (header : Header) (body rest : List Node)
    : segmentsOf (.block header body [] :: rest)
      = .tag header.opener :: (segmentsOf body ++ .tag header.kind.closer :: segmentsOf rest) := by
  simp [segmentsOf, Node.segments]

/-- A block with an else branch has its tag in front of it. -/
theorem segmentsOf_block_forked (header : Header) (body rest : List Node) {otherwise : List Node}
    (h : otherwise ≠ [])
    : segmentsOf (.block header body otherwise :: rest)
      = .tag header.opener :: (segmentsOf body
          ++ .tag elseMark :: (segmentsOf otherwise
            ++ .tag header.kind.closer :: segmentsOf rest)) := by
  simp [segmentsOf, Node.segments, h]

namespace Canonical

variable {room : Nat} {followed : Bool} {nodes : List Node}

/-- What is written without literal text in front begins with a tag. -/
theorem head?_segments (h : Canonical room followed nodes)
    (hhead : ∀ content, nodes.head? ≠ some (.text content))
    : ∀ next ∈ (segmentsOf nodes).head?, ∃ inner, next = .tag inner := by
  intro next hnext
  cases h with
  | nil => simp [segmentsOf] at hnext
  | text => exact absurd rfl (hhead _)
  | leaf writable =>
      obtain ⟨inner, hsegments, -⟩ := segments_leaf writable
      rw [segmentsOf, hsegments, List.singleton_append, List.head?_cons] at hnext
      exact ⟨inner, (Option.mem_some.mp hnext).symm⟩
  | @block _ _ header =>
      rw [segmentsOf, Node.segments] at hnext
      exact ⟨header.opener, (Option.mem_some.mp hnext).symm⟩

/-- Every segment of a canonical tree is shaped, and none is unterminated, by induction on the tree.
-/
theorem shaped (h : Canonical room followed nodes)
    : ∀ segment ∈ segmentsOf nodes, segment.Shaped ∧ ∀ raw, segment ≠ .unterminated raw := by
  have htag : ∀ inner, Complete inner
      → (Segment.tag inner).Shaped ∧ ∀ raw, Segment.tag inner ≠ .unterminated raw :=
    fun inner hinner => ⟨hinner, fun raw => by simp⟩
  induction h with
  | nil => simp [segmentsOf]
  | text filled unmarked _ _ _ ih =>
      rw [segmentsOf, Node.segments, List.singleton_append, List.forall_mem_cons]
      exact ⟨⟨⟨filled, unmarked⟩, fun raw => by simp⟩, ih⟩
  | leaf writable _ ih =>
      obtain ⟨inner, hsegments, hinner, -⟩ := segments_leaf writable
      rw [segmentsOf, hsegments, List.singleton_append, List.forall_mem_cons]
      exact ⟨htag inner hinner, ih⟩
  | @block _ _ header body otherwise rest writable _ _ _ _ inside apart tail =>
      have hopener := htag _ (complete_opener writable)
      have hcloser := htag _ (complete_closer header.kind)
      by_cases hempty : otherwise = []
      · rw [hempty, segmentsOf_block_single]
        simp only [List.forall_mem_cons, List.forall_mem_append]
        exact ⟨hopener, inside, hcloser, tail⟩
      · rw [segmentsOf_block_forked header body rest hempty]
        simp only [List.forall_mem_cons, List.forall_mem_append]
        exact ⟨hopener, inside, htag _ complete_elseMark, apart, hcloser, tail⟩

/-- Neighbouring segments of a canonical tree are parted, and so is what follows it, by induction on
the tree.
-/
theorem isChain {after : List Segment} (h : Canonical room followed nodes)
    (hafter : after.IsChain Parted) (hfollowed : after ≠ [] → followed = true)
    (hhead : ∀ next ∈ after.head?, ∀ content, next ≠ .text content)
    : (segmentsOf nodes ++ after).IsChain Parted := by
  have hbehind : ∀ (inner : Text) (more : List Segment), more.IsChain Parted
      → (Segment.tag inner :: more).IsChain Parted :=
    fun inner more hmore => hmore.cons (fun next _ => parted_tag inner next)
  induction h generalizing after with
  | nil => exact hafter
  | @text _ _ content rest filled _ parted closed tail ih =>
      rw [segmentsOf, Node.segments, List.append_assoc, List.singleton_append]
      refine (ih hafter hfollowed hhead).cons ?_
      rintro next hnext _ ⟨⟩
      by_cases hrest : segmentsOf rest = []
      · rw [hrest, List.nil_append] at hnext
        have hne : after ≠ [] := by
          rintro rfl
          simp at hnext
        exact ⟨closed (Or.inr (hfollowed hne)), hhead next hnext⟩
      · rw [List.head?_append_of_ne_nil _ hrest] at hnext
        obtain ⟨inner, rfl⟩ := tail.head?_segments parted next hnext
        have hne : rest ≠ [] := by
          rintro rfl
          exact hrest (by rw [segmentsOf])
        exact ⟨closed (Or.inl hne), by simp⟩
  | leaf writable _ ih =>
      obtain ⟨inner, hsegments, -⟩ := segments_leaf writable
      rw [segmentsOf, hsegments, List.append_assoc, List.singleton_append]
      exact hbehind _ _ (ih hafter hfollowed hhead)
  | @block _ _ header body otherwise rest _ _ _ _ _ inside apart tail =>
      have htail := hbehind header.kind.closer _ (tail hafter hfollowed hhead)
      by_cases hempty : otherwise = []
      · rw [hempty, segmentsOf_block_single]
        simp only [List.cons_append, List.append_assoc]
        exact hbehind _ _ (inside htail (fun _ => rfl) (by simp))
      · rw [segmentsOf_block_forked header body rest hempty]
        simp only [List.cons_append, List.append_assoc]
        have hapart := hbehind elseMark _ (apart htail (fun _ => rfl) (by simp))
        exact hbehind _ _ (inside hapart (fun _ => rfl) (by simp))

/-- The text of a canonical tree falls into the segments of the tree. -/
theorem segments_write (h : Canonical room followed nodes)
    : segments (write nodes) = segmentsOf nodes := by
  have hchain := h.isChain .nil (fun hne => absurd rfl hne) (by simp)
  rw [List.append_nil] at hchain
  exact segments_raw (fun segment hmem => (h.shaped segment hmem).1) hchain
    (fun raw hmem => (h.shaped _ hmem).2 raw rfl)

end Canonical

end LeasePapers.Template
