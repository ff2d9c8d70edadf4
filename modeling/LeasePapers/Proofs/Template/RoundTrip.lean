import LeasePapers.Proofs.Template.Building
import LeasePapers.Proofs.Template.Canonical

/-! A canonical tree is written and read again without any problem, and a template without problems
has a canonical tree. So the canonical trees are exactly the trees of well-formed templates.
-/

namespace LeasePapers.Template

-----------------------------------------------------------------------------------------
-- Adding nodes one by one
-----------------------------------------------------------------------------------------

/-- Literal text is added as a node of its own where none stands before it, by induction on the
nodes. -/
theorem addText_eq_append {nodes : List Node} {content : Text} (hfilled : content ≠ [])
    (hlast : ∀ before, nodes.getLast? ≠ some (.text before))
    : addText nodes content = nodes ++ [.text content] := by
  induction nodes with
  | nil => rw [addText, if_neg hfilled, List.nil_append]
  | cons node rest ih =>
      cases rest with
      | nil =>
          have hnode : node.IsDirective := fun before he => hlast before (by simp [he])
          rw [addText_directive hnode, addText, if_neg hfilled, List.singleton_append]
      | cons next rest =>
          have hrest := ih (fun before he => hlast before (by rw [List.getLast?_cons_cons, he]))
          have hcons : addText (node :: next :: rest) content
              = node :: addText (next :: rest) content := by
            cases node <;> rfl
          rw [hcons, hrest]
          rfl

/-- A writable leaf is a directive. -/
theorem directive_of_writableLeaf {node : Node} (h : node.WritableLeaf) : node.IsDirective := by
  rintro content rfl
  exact h

/-- Canonical nodes are added as they are, by induction on them; nothing is merged. -/
theorem Canonical.addNodes_eq {room : Nat} {followed : Bool} {nodes more : List Node}
    (h : Canonical room followed more)
    (hparted : ∀ before, nodes.getLast? = some (.text before)
      → ∀ content, more.head? ≠ some (.text content))
    : addNodes nodes more = nodes ++ more := by
  have hbehind : ∀ {node : Node} {nodes rest : List Node}, node.IsDirective
      → addNodes (nodes ++ [node]) rest = (nodes ++ [node]) ++ rest
      → addNodes nodes (node :: rest) = nodes ++ node :: rest := by
    intro node nodes rest hnode hrest
    rw [addNodes_cons, addNode_directive hnode, hrest, List.append_assoc, List.singleton_append]
  induction h generalizing nodes with
  | nil => simp [addNodes]
  | @text _ _ content rest filled _ parted _ _ ih =>
      have hlast : ∀ before, nodes.getLast? ≠ some (.text before) :=
        fun before he => hparted before he content rfl
      rw [addNodes_cons, addNode, addText_eq_append filled hlast, ih (fun _ _ => parted),
        List.append_assoc, List.singleton_append]
  | @leaf _ _ node rest writable _ ih =>
      have hnode := directive_of_writableLeaf writable
      exact hbehind hnode (ih (fun before he => absurd (by simpa using he) (hnode before)))
  | block _ _ _ _ _ _ _ ih =>
      exact hbehind (directive_block _ _ _) (ih (by simp))

/-- Canonical nodes are added to nothing as they are. -/
theorem Canonical.addNodes_nil {room : Nat} {followed : Bool} {nodes : List Node}
    (h : Canonical room followed nodes)
    : addNodes [] nodes = nodes :=
  h.addNodes_eq (by simp)

-----------------------------------------------------------------------------------------
-- The run over the segments of a canonical tree
-----------------------------------------------------------------------------------------

namespace Builder

/-- The builder further on, with so many more blocks opened and closed. -/
def counted (b : Builder) (count position : Nat) : Builder :=
  { b with opened := b.opened + count, closed := b.closed + count, position }

/-- Nodes are added together or one part after the other. -/
theorem addNodes_append (nodes first second : List Node)
    : addNodes nodes (first ++ second) = addNodes (addNodes nodes first) second :=
  List.foldl_append

/-- Nodes are added to a builder together or one part after the other. -/
theorem add_append (b : Builder) (first second : List Node)
    : b.add (first ++ second) = (b.add first).add second := by
  obtain ⟨root, frames, tooDeep, issues, opened, closed, position⟩ := b
  cases frames with
  | nil => simp only [add, addNodes_append]
  | cons frame rest =>
      obtain ⟨header, opener, place, body, otherwise⟩ := frame
      cases otherwise <;> simp only [add, Frame.add, addNodes_append]

/-- Adding no nodes changes nothing. -/
theorem add_nil (b : Builder) : b.add [] = b := by
  obtain ⟨root, frames, tooDeep, issues, opened, closed, position⟩ := b
  cases frames with
  | nil => rfl
  | cons frame rest =>
      obtain ⟨header, opener, place, body, otherwise⟩ := frame
      cases otherwise <;> rfl

/-- Adding nodes keeps the open blocks. -/
@[simp] theorem length_frames_add (b : Builder) (nodes : List Node)
    : (b.add nodes).frames.length = b.frames.length := by
  have h := congrArg List.length (headers_add b nodes)
  rwa [List.length_map, List.length_map] at h

/-- Nodes are added before or after blocks are counted. -/
theorem counted_add (b : Builder) (nodes : List Node) (count position : Nat)
    : (b.counted count position).add nodes = (b.add nodes).counted count position := by
  obtain ⟨root, frames, tooDeep, issues, opened, closed, place⟩ := b
  cases frames <;> rfl

/-- Blocks are counted together or one part after the other. -/
theorem counted_counted (b : Builder) (count more position next : Nat)
    : (b.counted count position).counted more next = b.counted (count + more) next := by
  simp [counted, Nat.add_assoc]

/-- A tag is taken in as what it means unless it opens a block too deep. -/
theorem step_tag {b : Builder} {inner : Text} {tag : Tag} (hmeaning : Tag.ofInner inner = tag)
    (hdeep : b.tooDeep = [])
    (hroom : ∀ header, tag = .opener header → b.frames.length < deepestNesting)
    : ∃ position, b.step (.tag inner) = (b.apply (tagText inner) tag).counted 0 position := by
  refine ⟨b.position + (tagText inner).byteSize, ?_⟩
  have htake : b.take (.tag inner) = b.apply (tagText inner) tag := by
    simp only [take, hmeaning]
    split
    · rename_i hlimit
      cases tag with
      | opener header =>
          have hlt := hroom header rfl
          simp only [isAtLimit, hdeep, Bool.or_eq_true, decide_eq_true_eq] at hlimit
          rcases hlimit with hlimit | hlimit
          · exact absurd rfl hlimit
          · omega
      | closer name => rw [applyAtLimit, hdeep]
      | otherwise => rw [applyAtLimit, if_pos hdeep]
      | _ => rfl
    · rfl
  rw [step, htake]
  rfl

/-- The closer of the innermost block closes that block. -/
theorem close_top {b : Builder} {frame : Frame} {rest : List Frame} (raw : Text)
    (hframes : b.frames = frame :: rest)
    : b.close frame.header.kind.name raw = b.closeTop := by
  unfold close
  split
  · simp_all
  · rename_i top others htop
    obtain ⟨rfl, rfl⟩ := List.cons.inj (hframes.symm.trans htop)
    simp [hframes, List.findIdx?_cons, unwindMany]

end Builder

/-- Reading segments adds nodes wherever there is room for them, and nothing else changes but the
position and equally many blocks opened and closed.
-/
def Adds (room : Nat) (segments : List Segment) (nodes : List Node) : Prop :=
  ∀ b : Builder, b.tooDeep = [] → room + b.frames.length ≤ deepestNesting →
    ∃ count position, segments.foldl Builder.step b = (b.add nodes).counted count position

namespace Adds

variable {room : Nat} {first second : List Segment} {nodes more : List Node}

/-- No segments add no nodes. -/
theorem nil : Adds room [] [] := by
  intro b _ _
  exact ⟨0, b.position, by rw [List.foldl_nil, b.add_nil]; rfl⟩

/-- Segments add their nodes one part after the other. -/
theorem append (hfirst : Adds room first nodes) (hsecond : Adds room second more)
    : Adds room (first ++ second) (nodes ++ more) := by
  intro b hdeep hroom
  obtain ⟨count, position, h⟩ := hfirst b hdeep hroom
  have hdeep' : ((b.add nodes).counted count position).tooDeep = [] := by
    rw [← hdeep]
    exact b.tooDeep_add nodes
  have hroom' : room + ((b.add nodes).counted count position).frames.length ≤ deepestNesting := by
    rw [← b.length_frames_add nodes] at hroom
    exact hroom
  obtain ⟨count', position', h'⟩ := hsecond _ hdeep' hroom'
  refine ⟨count + count', position', ?_⟩
  rw [List.foldl_append, h, h', Builder.counted_add, Builder.counted_counted, ← Builder.add_append]

/-- Literal text adds itself. -/
theorem text (content : Text) : Adds room [.text content] [.text content] := by
  intro b _ _
  exact ⟨0, _, rfl⟩

/-- The tag of a leaf adds the leaf. -/
theorem leaf {inner : Text} {node : Node} (hmeaning : Tag.ofInner inner = .leaf node)
    : Adds room [.tag inner] [node] := by
  intro b hdeep _
  obtain ⟨position, h⟩ := Builder.step_tag hmeaning hdeep (by simp)
  exact ⟨0, position, h⟩

end Adds

/-- Reading segments inside an open block changes that block, and nothing else but the position and
equally many blocks opened and closed.
-/
def Fills (room : Nat) (segments : List Segment) (frame filled : Frame) : Prop :=
  ∀ b : Builder, b.tooDeep = [] → room + 1 + b.frames.length ≤ deepestNesting →
    ∃ count position,
      segments.foldl Builder.step { b with frames := frame :: b.frames }
        = ({ b with frames := filled :: b.frames } : Builder).counted count position

namespace Fills

variable {room : Nat} {first second : List Segment} {frame filled complete : Frame}

/-- Segments change an open block one part after the other. -/
theorem append (hfirst : Fills room first frame filled) (hsecond : Fills room second filled complete)
    : Fills room (first ++ second) frame complete := by
  intro b hdeep hroom
  obtain ⟨count, position, h⟩ := hfirst b hdeep hroom
  obtain ⟨count', position', h'⟩ := hsecond (b.counted count position) hdeep hroom
  refine ⟨count + count', position', ?_⟩
  rw [List.foldl_append, h]
  exact h'.trans (Builder.counted_counted { b with frames := complete :: b.frames } _ _ _ _)

/-- Segments that add nodes add them to an open block. -/
theorem add {segments : List Segment} {nodes : List Node} (h : Adds room segments nodes)
    (frame : Frame)
    : Fills room segments frame (frame.add nodes) := by
  intro b hdeep hroom
  exact h { b with frames := frame :: b.frames } hdeep (by simp only [List.length_cons]; omega)

/-- An else tag begins the else branch of an open block. -/
theorem otherwise {inner : Text} (hmeaning : Tag.ofInner inner = .otherwise) {header : Header}
    (hforked : header.kind.hasElse = true) (opener : Text) (place : Nat) (body : List Node)
    : Fills room [.tag inner] ⟨header, opener, place, body, none⟩
        ⟨header, opener, place, body, some (tagText inner, [])⟩ := by
  intro b hdeep _
  obtain ⟨position, h⟩ :=
    @Builder.step_tag { b with frames := ⟨header, opener, place, body, none⟩ :: b.frames } _ _
      hmeaning hdeep (by simp)
  refine ⟨0, position, ?_⟩
  rw [List.foldl_cons, List.foldl_nil, h]
  simp [Builder.apply, Builder.beginElse, hforked]

/-- A block that is opened, filled and closed is one node. -/
theorem block {header : Header} {opener closer : Text}
    (hopener : Tag.ofInner opener = .opener header)
    (hcloser : Tag.ofInner closer = .closer header.kind.name) {node : Node}
    (h : ∀ place, ∃ filled : Frame, filled.header = header ∧ filled.node = node
      ∧ Fills room first ⟨header, tagText opener, place, [], none⟩ filled)
    : Adds (room + 1) (.tag opener :: (first ++ [.tag closer])) [node] := by
  intro b hdeep hroom
  obtain ⟨start, hopen⟩ := Builder.step_tag hopener hdeep (fun _ _ => by omega)
  obtain ⟨filled, rfl, rfl, hfills⟩ := h b.position
  obtain ⟨count, position, hinside⟩ :=
    hfills { b with opened := b.opened + 1, position := start } hdeep hroom
  obtain ⟨stop, hclose⟩ := @Builder.step_tag
    (({ b with opened := b.opened + 1, position := start, frames := filled :: b.frames }
      : Builder).counted count position) _ _ hcloser hdeep (by simp)
  refine ⟨count + 1, stop, ?_⟩
  have hopened : b.step (.tag opener) = { b with
      opened := b.opened + 1, position := start
      frames := ⟨filled.header, tagText opener, b.position, [], none⟩ :: b.frames } := hopen
  rw [List.foldl_cons, hopened, List.foldl_append, hinside, List.foldl_cons, List.foldl_nil, hclose,
    Builder.apply, Builder.close_top (tagText closer) rfl]
  have hcount : ({ b with
      opened := b.opened + 1 + count, closed := b.closed + count + 1, position } : Builder).counted 0 stop
      = b.counted (count + 1) stop := by
    simp only [Builder.counted, Nat.add_zero, Nat.add_assoc, Nat.add_comm 1 count]
  rw [← Builder.counted_add, ← hcount, Builder.counted_add]
  rfl

end Fills

/-- A canonical tree is read from its segments wherever there is room for it, by induction on the
tree.
-/
theorem Canonical.adds {room : Nat} {followed : Bool} {nodes : List Node}
    (h : Canonical room followed nodes)
    : Adds room (segmentsOf nodes) nodes := by
  induction h with
  | nil => exact .nil
  | @text _ _ content _ _ _ _ _ _ ih => exact (Adds.text content).append ih
  | leaf writable _ ih =>
      obtain ⟨inner, hsegments, -, hmeaning⟩ := segments_leaf writable
      rw [segmentsOf, hsegments]
      exact (Adds.leaf hmeaning).append ih
  | @block room _ header body otherwise rest writable forked inside apart _ ihInside ihApart ihTail =>
      have hopener := ofInner_opener writable
      have hcloser := ofInner_closer header.kind
      have hbody : ∀ place, Fills room (segmentsOf body)
          ⟨header, tagText header.opener, place, [], none⟩
          ⟨header, tagText header.opener, place, body, none⟩ := by
        intro place
        have hadd := Fills.add ihInside ⟨header, tagText header.opener, place, [], none⟩
        rwa [Frame.add, inside.addNodes_nil] at hadd
      by_cases hempty : otherwise = []
      · subst hempty
        have hblock : Adds (room + 1) _ [.block header body []] := Fills.block hopener hcloser
          (fun place => ⟨⟨header, tagText header.opener, place, body, none⟩, rfl, rfl, hbody place⟩)
        rw [segmentsOf_block_single]
        simpa using hblock.append ihTail
      · have hboth : ∀ place, Fills room
            (segmentsOf body ++ ([.tag elseMark] ++ segmentsOf otherwise))
            ⟨header, tagText header.opener, place, [], none⟩
            ⟨header, tagText header.opener, place, body, some (tagText elseMark, otherwise)⟩ := by
          intro place
          have helse := @Fills.otherwise room _ ofInner_elseMark _ (forked hempty)
            (tagText header.opener) place body
          have hadd := Fills.add ihApart
            ⟨header, tagText header.opener, place, body, some (tagText elseMark, [])⟩
          rw [Frame.add] at hadd
          simp only [apart.addNodes_nil] at hadd
          exact (hbody place).append (helse.append hadd)
        have hblock : Adds (room + 1) _ [.block header body otherwise] :=
          Fills.block hopener hcloser (fun place =>
            ⟨⟨header, tagText header.opener, place, body, some (tagText elseMark, otherwise)⟩,
              rfl, rfl, hboth place⟩)
        rw [segmentsOf_block_forked header body rest hempty]
        simpa using hblock.append ihTail

/-- A canonical tree is read from its text, and nothing is wrong with it. -/
theorem Canonical.ofText_write {nodes : List Node} (h : Canonical deepestNesting false nodes)
    : ofText (write nodes) = ⟨nodes, []⟩ := by
  obtain ⟨count, position, hrun⟩ := h.adds Builder.start rfl (Nat.le_refl _)
  have hadd : (Builder.start.add nodes).counted count position
      = ⟨nodes, [], [], [], 0 + count, 0 + count, position⟩ := by
    simp only [Builder.start, Builder.add, Builder.counted, h.addNodes_nil]
  rw [ofText, h.segments_write, ofSegments, hrun, hadd]
  simp [Builder.finish, Builder.unwindMany]

-----------------------------------------------------------------------------------------
-- The tree of a template without problems
-----------------------------------------------------------------------------------------

/-- Literal pieces side by side are one segment. -/
theorem eq_singleton_of_isChain {pieces : List Segment}
    (hstay : ∀ piece ∈ pieces, ∃ content, piece = .text content)
    (hfilled : pieces.flatMap Segment.raw ≠ []) (hchain : pieces.IsChain Parted)
    : ∃ content, pieces = [.text content] := by
  match pieces with
  | [] => exact absurd rfl hfilled
  | [piece] =>
      obtain ⟨content, rfl⟩ := hstay piece (by simp)
      exact ⟨content, rfl⟩
  | piece :: next :: rest =>
      obtain ⟨content, rfl⟩ := hstay piece (by simp)
      obtain ⟨more, rfl⟩ := hstay next (by simp)
      obtain ⟨-, hnext⟩ := (List.isChain_cons_cons.mp hchain).1 content rfl
      exact absurd rfl (hnext more)

/-- A tree spelled by segments of which only literal text stays literal is canonical, by induction
on the spelling. What follows the tree among the segments must be parted from it.
-/
theorem Spelling.canonical {room : Nat} {followed : Bool} {nodes : List Node}
    {segments after : List Segment}
    (h : Spelling (fun segment => ∃ content, segment = .text content) room nodes segments)
    (hshaped : ∀ segment ∈ segments, segment.Shaped)
    (hchain : (segments ++ after).IsChain Parted) (hfollowed : followed = true → after ≠ [])
    : Canonical room followed nodes := by
  induction h generalizing followed after with
  | nil => exact .nil
  | @text _ rest pieces segments stay filled parted tail ih =>
      rw [List.append_assoc] at hchain
      obtain ⟨content, rfl⟩ := eq_singleton_of_isChain stay filled hchain.left_of_append
      rw [List.forall_mem_append, List.forall_mem_singleton] at hshaped
      obtain ⟨⟨hne, hunmarked⟩, hshaped⟩ := hshaped
      have hraw : [Segment.text content].flatMap Segment.raw = content := by simp [Segment.raw]
      rw [hraw]
      refine .text hne hunmarked parted ?_ (ih hshaped hchain.right_of_append hfollowed)
      intro hmore
      have hnext : segments ++ after ≠ [] := by
        rw [Ne, List.append_eq_nil_iff]
        rintro ⟨hsegments, hafter⟩
        rcases hmore with hrest | htrue
        · exact tail.ne_nil hrest hsegments
        · exact hfollowed htrue hafter
      obtain ⟨next, others, hcons⟩ := List.exists_cons_of_ne_nil hnext
      rw [hcons, List.singleton_append] at hchain
      exact ((List.isChain_cons_cons.mp hchain).1 content rfl).1
  | leaf meaning _ ih =>
      rw [List.forall_mem_cons] at hshaped
      exact .leaf (writableLeaf_of_leaf meaning) (ih hshaped.2 hchain.tail hfollowed)
  | @block _ _ _ _ _ closer within segments opens _ _ _ inside tail =>
      simp only [List.cons_append, List.forall_mem_cons, List.forall_mem_append,
        List.append_assoc] at hshaped hchain
      obtain ⟨hopener, hwithin, -, hsegments⟩ := hshaped
      exact .block (writable_of_opener opens hopener) (fun hne => absurd rfl hne)
        (inside hwithin hchain.tail (by simp)) .nil
        (tail hsegments hchain.tail.right_of_append.tail hfollowed)
  | @branches _ _ _ _ _ _ _ _ within beyond segments forked opens _ _ _ _ _ inside apart tail =>
      simp only [List.cons_append, List.forall_mem_cons, List.forall_mem_append,
        List.append_assoc] at hshaped hchain
      obtain ⟨hopener, hwithin, -, hbeyond, -, hsegments⟩ := hshaped
      have hrest := hchain.tail.right_of_append.tail
      exact .block (writable_of_opener opens hopener) (fun _ => forked)
        (inside hwithin hchain.tail (by simp)) (apart hbeyond hrest (by simp))
        (tail hsegments hrest.right_of_append.tail hfollowed)

/-- The tree of a template without problems is canonical. -/
theorem canonical_ofText {text : Text} (h : (ofText text).issues = [])
    : Canonical deepestNesting false (ofText text).nodes := by
  have hspelling := (spelling_ofText text).mono
    (fun segment hliteral => hliteral.resolve_right (not_not_intro h)) (Nat.le_refl _)
  have hchain : (segments text ++ []).IsChain Parted := by
    rw [List.append_nil]
    exact isChain_segments text
  exact hspelling.canonical (shaped_segments text) hchain (by simp)

/-- Canonical trees are read back from their text, and well-formed templates have canonical trees,
which are therefore read back as well.
-/
theorem roundTrip_canonical
    : (∀ nodes, Canonical deepestNesting false nodes → ofText (write nodes) = ⟨nodes, []⟩)
      ∧ ∀ text, (ofText text).issues = [] →
          Canonical deepestNesting false (ofText text).nodes
          ∧ ofText (write (ofText text).nodes) = ofText text := by
  refine ⟨fun nodes h => h.ofText_write, fun text h => ?_⟩
  have hcanonical := canonical_ofText h
  refine ⟨hcanonical, ?_⟩
  rw [hcanonical.ofText_write, ← h]

/-- A choice inside of a choice is written and read back. -/
theorem roundTrip_choice
    : let tree : List Node :=
        [.text "Sr. ", .block (.equal "tipo" "pai d'água") [.variable "nome"] [.text "?"]]
      ofText (write tree) = ⟨tree, []⟩
      ∧ ofText (write (ofText (write tree)).nodes) = ofText (write tree) := by
  intro tree
  have hwritable : (Header.equal "tipo" "pai d'água").Writable :=
    ⟨by decide +kernel, not_hasPair_of_not_mem (by decide), not_hasPair_of_not_mem (by decide),
      Or.inl (by decide)⟩
  have hleaf : (Node.variable "nome").WritableLeaf := ⟨by decide +kernel, by decide⟩
  have htext : Canonical 63 true [.text "?"] :=
    .text (by decide) (not_hasPair_of_not_mem (by decide)) (by simp) (by decide) .nil
  have htree : Canonical deepestNesting false tree :=
    .text (by decide) (not_hasPair_of_not_mem (by decide)) (by simp) (by decide)
      (.block hwritable (fun _ => rfl) (.leaf hleaf .nil) htext .nil)
  have hread := roundTrip_canonical.1 tree htree
  exact ⟨hread, (roundTrip_canonical.2 (write tree) (by rw [hread])).2⟩

end LeasePapers.Template
