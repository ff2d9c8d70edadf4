import LeasePapers.Proofs.Template.Building

/-! No source text is lost, doubled or moved. Every directive of the tree has its own tags in the
template, and the literal text and the tags, written out in the order of the tree, are the template.
-/

namespace LeasePapers.Template

/-- A text is what nodes write when literal text stands for itself, a leaf for a tag that is read as
that leaf, and a block for tags around its branches: an opener that is read as its header, a closer
that names its kind, and an else tag where the kind may have one. A block without an else tag has an
empty else branch.
-/
inductive Written : List Node → Text → Prop
  | nil : Written [] []
  | text {content after : Text} {rest : List Node} (tail : Written rest after)
    : Written (.text content :: rest) (content ++ after)
  | leaf {node : Node} {inner after : Text} {rest : List Node} (complete : Complete inner)
      (meaning : Tag.ofInner inner = .leaf node) (tail : Written rest after)
    : Written (node :: rest) (tagText inner ++ after)
  | block {header : Header} {body rest : List Node} {opener closer inside after : Text}
      (completeOpener : Complete opener) (opens : Tag.ofInner opener = .opener header)
      (completeCloser : Complete closer)
      (closes : Tag.ofInner closer = .closer header.kind.name)
      (body_written : Written body inside) (tail : Written rest after)
    : Written (.block header body [] :: rest)
        (tagText opener ++ inside ++ tagText closer ++ after)
  | branches {header : Header} {body otherwise rest : List Node}
      {opener middle closer inside apart after : Text} (forked : header.kind.hasElse = true)
      (completeOpener : Complete opener) (opens : Tag.ofInner opener = .opener header)
      (completeMiddle : Complete middle) (parts : Tag.ofInner middle = .otherwise)
      (completeCloser : Complete closer)
      (closes : Tag.ofInner closer = .closer header.kind.name)
      (body_written : Written body inside) (otherwise_written : Written otherwise apart)
      (tail : Written rest after)
    : Written (.block header body otherwise :: rest)
        (tagText opener ++ inside ++ tagText middle ++ apart ++ tagText closer ++ after)

/-- Nodes are written by the segments that spell them, by induction on the spelling. -/
theorem Spelling.written {literal : Segment → Prop} {room : Nat} {nodes : List Node}
    {segments : List Segment} (h : Spelling literal room nodes segments)
    (hshaped : ∀ segment ∈ segments, segment.Shaped)
    : Written nodes (segments.flatMap Segment.raw) := by
  induction h with
  | nil => exact .nil
  | text stay filled parted tail ih =>
      rw [List.flatMap_append]
      exact .text (ih (fun segment hmem => hshaped segment (List.mem_append_right _ hmem)))
  | leaf meaning tail ih =>
      rw [List.forall_mem_cons] at hshaped
      exact .leaf hshaped.1 meaning (ih hshaped.2)
  | block opens closes inside tail ihInside ihTail =>
      simp only [List.cons_append, List.forall_mem_cons, List.forall_mem_append] at hshaped
      obtain ⟨hopener, hwithin, hcloser, hsegments⟩ := hshaped
      have hwritten := Written.block hopener opens hcloser closes (ihInside hwithin)
        (ihTail hsegments)
      simpa [Segment.raw] using hwritten
  | branches forked opens parts closes inside apart tail ihInside ihApart ihTail =>
      simp only [List.cons_append, List.append_assoc, List.forall_mem_cons,
        List.forall_mem_append] at hshaped
      obtain ⟨hopener, hwithin, hmiddle, hbeyond, hcloser, hsegments⟩ := hshaped
      have hwritten := Written.branches forked hopener opens hmiddle parts hcloser closes
        (ihInside hwithin) (ihApart hbeyond) (ihTail hsegments)
      simpa [Segment.raw] using hwritten

/-- The tree of any template, well-formed or not, writes that template. -/
theorem written_ofText (text : Text) : Written (ofText text).nodes text := by
  have hwritten := (spelling_ofText text).written (shaped_segments text)
  rwa [raw_segments] at hwritten

end LeasePapers.Template
