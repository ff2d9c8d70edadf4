import LeasePapers.Proofs.Template.Behind
import LeasePapers.Proofs.Template.Validity
import LeasePapers.Proofs.Text.Map
import LeasePapers.Template.Render
import LeasePapers.Template.Survey

/-! Templates one after the other. Behind a template without problems another one is read as it
would be read by itself: its nodes are added to the tree, and only its positions and its counts of
blocks move on by what the first template takes.
-/

namespace LeasePapers.Template

-----------------------------------------------------------------------------------------
-- The segments of two texts
-----------------------------------------------------------------------------------------

/-- Two texts make no pair of marks where they meet. -/
def Apart (mark : Char) (first second : Text) : Prop :=
  ¬(first.getLast? = some mark ∧ second.head? = some mark)

/-- Without a pair before it and where the texts meet, the first pair is that of the second text. -/
theorem cutAtPair_append_left {mark : Char} {first second : Text} (hfirst : ¬HasPair mark first)
    (hapart : Apart mark first second)
    : cutAtPair mark (first ++ second)
      = (cutAtPair mark second).map (fun (before, after) => (first ++ before, after)) := by
  induction first with
  | nil => simp
  | cons c rest ih =>
      rw [hasPair_cons, not_or] at hfirst
      have hrest : Apart mark rest second := by
        rintro ⟨hlast, hhead⟩
        cases rest with
        | nil => cases hlast
        | cons d rest => exact hapart ⟨hlast, hhead⟩
      have hpair : ¬(c = mark ∧ (rest ++ second).head? = some mark) := by
        rintro ⟨rfl, hhead⟩
        cases rest with
        | nil => exact hapart ⟨rfl, hhead⟩
        | cons d rest => exact hfirst.1 ⟨rfl, hhead⟩
      rw [List.cons_append, cutAtPair, if_neg hpair, ih hfirst.2 hrest, Option.map_map]
      rfl

/-- The segments of two texts, of which the first leaves no tag unterminated, are the segments of
both, but literal text at the end of the first and at the beginning of the second is one segment.
-/
theorem segments_append {first second : Text}
    (hterminated : ∀ raw, .unterminated raw ∉ segments first)
    (hapart : Apart openMark first second)
    : ∃ front last lead more,
        segments first = front ++ Segment.ofText last
        ∧ segments second = Segment.ofText lead ++ more
        ∧ segments (first ++ second) = front ++ (Segment.ofText (last ++ lead) ++ more) := by
  induction first using segments.induct with
  | case1 first hopen =>
      have hcut := cutAtPair_append_left (cutAtPair_eq_none_iff.mp hopen) hapart
      cases hsecond : cutAtPair openMark second with
      | none =>
          rw [hsecond] at hcut
          refine ⟨[], first, second, [], ?_, ?_, ?_⟩
          · rw [segments_of_none hopen, List.nil_append]
          · rw [segments_of_none hsecond, List.append_nil]
          · rw [segments_of_none hcut, List.append_nil, List.nil_append]
      | some parts =>
          obtain ⟨lead, after⟩ := parts
          rw [hsecond] at hcut
          cases hclose : cutAtPair closeMark after with
          | none =>
              refine ⟨[], first, lead, [.unterminated (twice openMark ++ after)], ?_, ?_, ?_⟩
              · rw [segments_of_none hopen, List.nil_append]
              · exact segments_of_unterminated hsecond hclose
              · exact segments_of_unterminated hcut hclose
          | some pieces =>
              obtain ⟨inner, rest⟩ := pieces
              refine ⟨[], first, lead, tagSegments inner ++ segments rest, ?_, ?_, ?_⟩
              · rw [segments_of_none hopen, List.nil_append]
              · exact segments_of_tag hsecond hclose
              · exact segments_of_tag hcut hclose
  | case2 first before after hopen ih =>
      cases hclose : cutAtPair closeMark after with
      | none =>
          rw [segments_of_unterminated hopen hclose] at hterminated
          exact absurd (by simp) (hterminated (twice openMark ++ after))
      | some parts =>
          obtain ⟨inner, rest⟩ := parts
          have hopen' : cutAtPair openMark (first ++ second) = some (before, after ++ second) := by
            rw [eq_append_of_cutAtPair hopen, List.append_assoc]
            exact cutAtPair_append _ (not_hasPair_of_cutAtPair hopen)
          have hclose' : cutAtPair closeMark (after ++ second) = some (inner, rest ++ second) := by
            rw [eq_append_of_cutAtPair hclose, List.append_assoc]
            exact cutAtPair_append _ (not_hasPair_of_cutAtPair hclose)
          have hapart' : Apart openMark rest second := by
            rintro ⟨hlast, hhead⟩
            refine hapart ⟨?_, hhead⟩
            rw [eq_append_of_cutAtPair hopen, eq_append_of_cutAtPair hclose, ← List.append_assoc,
              List.getLast?_append, hlast]
            rfl
          rw [segments_of_tag hopen hclose] at hterminated
          obtain ⟨front, last, lead, more, hfirst, hsecond, hboth⟩ :=
            ih inner rest hclose (fun raw hmem => hterminated raw (by simp [hmem])) hapart'
          refine ⟨Segment.ofText before ++ (tagSegments inner ++ front), last, lead, more, ?_,
            hsecond, ?_⟩
          · rw [segments_of_tag hopen hclose, hfirst]
            simp only [List.append_assoc]
          · rw [segments_of_tag hopen' hclose', hboth]
            simp only [List.append_assoc]

-----------------------------------------------------------------------------------------
-- Reading two templates
-----------------------------------------------------------------------------------------

namespace Builder

/-- Adding nodes depends on what they add to others alone. -/
theorem add_congr (b : Builder) {more others : List Node}
    (h : ∀ nodes, addNodes nodes more = addNodes nodes others)
    : b.add more = b.add others := by
  obtain ⟨root, frames, tooDeep, issues, opened, closed, position⟩ := b
  cases frames with
  | nil => simp only [add, h]
  | cons frame rest =>
      obtain ⟨header, opener, place, body, otherwise⟩ := frame
      cases otherwise <;> simp only [add, Frame.add, h]

/-- Literal text is built together or one part after the other. -/
theorem literal_append (b : Builder) (before after : Text)
    : b.literal (before ++ after) = (b.literal before).literal after := by
  rw [literal, literal, literal, ← add_append]
  exact b.add_congr (fun nodes => (addText_addText nodes before after).symm)

/-- Adding nodes does not depend on the position. -/
theorem add_moved (b : Builder) (position : Nat) (nodes : List Node)
    : ({ b with position } : Builder).add nodes = { b.add nodes with position } := by
  obtain ⟨root, frames, tooDeep, issues, opened, closed, place⟩ := b
  cases frames <;> rfl

/-- Building literal text does not depend on the position. -/
theorem literal_moved (b : Builder) (position : Nat) (raw : Text)
    : ({ b with position } : Builder).literal raw = { b.literal raw with position } :=
  b.add_moved position [.text raw]

/-- Literal text that is read in two pieces is read like one piece. -/
theorem foldl_ofText_append (b : Builder) (before after : Text)
    : (Segment.ofText (before ++ after)).foldl step b
      = (Segment.ofText after).foldl step ((Segment.ofText before).foldl step b) := by
  by_cases hbefore : before = []
  · rw [hbefore]
    rfl
  · by_cases hafter : after = []
    · rw [hafter, List.append_nil]
      rfl
    · rw [Segment.ofText, Segment.ofText, Segment.ofText, if_neg hbefore, if_neg hafter,
        if_neg (by simp [hbefore])]
      simp only [List.foldl_cons, List.foldl_nil, step, take, Segment.raw, Text.byteSize_append,
        literal_append, literal_moved, Nat.add_assoc]

/-- Reading segments moves a builder by their size, by induction on the segments. -/
theorem position_run (b : Builder) (segments : List Segment)
    : (segments.foldl step b).position
      = b.position + Text.byteSize (segments.flatMap Segment.raw) := by
  induction segments generalizing b with
  | nil => rfl
  | cons segment rest ih =>
      rw [List.foldl_cons, ih, List.flatMap_cons, Text.byteSize_append, ← Nat.add_assoc]
      rfl

end Builder

/-- A template without problems leaves no tag unterminated, by induction on how it is spelled. -/
theorem Spelling.terminated {room : Nat} {nodes : List Node} {segments : List Segment}
    (h : Spelling (fun segment => ∃ content, segment = .text content) room nodes segments)
    : ∀ raw, .unterminated raw ∉ segments := by
  intro raw
  induction h with
  | nil => exact List.not_mem_nil
  | text stay _ _ _ ih =>
      rw [List.mem_append, not_or]
      refine ⟨fun hmem => ?_, ih⟩
      obtain ⟨content, he⟩ := stay _ hmem
      cases he
  | leaf _ _ ih => simpa using ih
  | block _ _ _ _ ihInside ihTail => simpa using ⟨ihInside, ihTail⟩
  | branches _ _ _ _ _ _ _ ihInside ihApart ihTail => simpa using ⟨ihInside, ihApart, ihTail⟩

/-- After a template without problems the builder holds its tree and stands behind it; nothing else
is left over from it.
-/
theorem run_valid {text : Text} (hvalid : (ofText text).issues = [])
    : (segments text).foldl Builder.step Builder.start
      = Builder.start.behind (ofText text).nodes (Text.byteSize text)
          (blocksIn (ofText text).nodes) := by
  rcases clean_or_shown text with ⟨b, hrun, hclean, hframes, hread⟩ | ⟨⟨problem, position, hmem⟩, -⟩
  · have hposition := Builder.position_run Builder.start (segments text)
    rw [raw_segments, hrun] at hposition
    rw [hrun, hread]
    obtain ⟨root, frames, tooDeep, issues, opened, closed, position⟩ := b
    obtain rfl : frames = [] := hframes
    obtain rfl : issues = [] := hclean.issues
    obtain rfl : tooDeep = [] := hclean.tooDeep
    obtain rfl : opened = closed := hclean.opened
    obtain rfl : blocksIn root = opened := hclean.blocks
    obtain rfl : position = 0 + Text.byteSize text := hposition
    simp [Builder.behind, Builder.start, addNodes]
  · rw [hvalid] at hmem
    cases hmem

/-- Behind a template without problems, another one adds its nodes to the tree and its issues, moved
behind the first template.
-/
theorem ofText_append {first second : Text} (hvalid : (ofText first).issues = [])
    (hapart : Apart openMark first second)
    : ofText (first ++ second)
      = ⟨addNodes (ofText first).nodes (ofText second).nodes,
          (ofText second).issues.map
            (Issue.moved (Text.byteSize first) (blocksIn (ofText first).nodes))⟩ := by
  have hterminated := ((spelling_ofText first).mono
    (fun segment hliteral => hliteral.resolve_right (not_not_intro hvalid))
    (Nat.le_refl _)).terminated
  obtain ⟨front, last, lead, more, hfirst, hsecond, hboth⟩ := segments_append hterminated hapart
  have hrun : (segments (first ++ second)).foldl Builder.step Builder.start
      = (segments second).foldl Builder.step
          ((segments first).foldl Builder.step Builder.start) := by
    rw [hboth, hfirst, hsecond]
    simp only [List.foldl_append, Builder.foldl_ofText_append]
  have hread : ofText (first ++ second) = ofSegments (segments (first ++ second)) := rfl
  rw [hread, ofSegments, hrun, run_valid hvalid, Builder.behind_run,
    Builder.behind_finish]
  rfl

-----------------------------------------------------------------------------------------
-- What the tree of both writes and mentions
-----------------------------------------------------------------------------------------

/-- Rendering puts together what the nodes show. -/
theorem additive_renderNodes (context : Context)
    : Additive (· ++ ·) [] (renderNodes context) where
  nil := rfl
  cons := by simp [renderNodes]
  empty := rfl
  text := by simp [renderNodes, renderNode]

/-- The mentions of nodes are put together. -/
theorem additive_mentionsIn : Additive (· ++ ·) [] mentionsIn where
  nil := rfl
  cons := by simp [mentionsIn]
  empty := rfl
  text := by simp [mentionsIn, Node.mentions]

/-- The fields of a template are the names that it mentions and that are fields. -/
theorem mem_fieldNames {template : Template} {name : Text}
    : name ∈ template.fieldNames ↔ name ∈ mentionsIn template.nodes ∧ namesField name = true := by
  rw [fieldNames, TextMap.mem_keys_ofList, List.map_map]
  simp

/-- Templates compose. Behind a template without problems any other template, well-formed or not,
writes what it writes by itself, mentions the fields that it mentions by itself, and has the issues
that it has by itself, moved by the bytes and the blocks before it.
-/
theorem append_of_valid {first second : Text} (hvalid : (ofText first).issues = [])
    (hborder : ¬(first.getLast? = some openMark ∧ second.head? = some openMark))
    : (∀ fields settings,
        render (ofText (first ++ second)) fields settings
          = render (ofText first) fields settings ++ render (ofText second) fields settings)
      ∧ (∀ name, name ∈ (ofText (first ++ second)).fieldNames
          ↔ name ∈ (ofText first).fieldNames ∨ name ∈ (ofText second).fieldNames)
      ∧ (ofText (first ++ second)).issues
        = (ofText second).issues.map
            (Issue.moved (Text.byteSize first) (blocksIn (ofText first).nodes)) := by
  rw [ofText_append hvalid hborder]
  refine ⟨fun fields settings => ?_, fun name => ?_, rfl⟩
  · exact (additive_renderNodes _).addNodes _ _
  · rw [mem_fieldNames, mem_fieldNames, mem_fieldNames, ← or_and_right]
    simp only [additive_mentionsIn.addNodes, List.mem_append]

/-- A template behind another one keeps its stray closer and its count, moved by that one. -/
theorem append_strayCloser
    : (ofText ("\x7b\x7b#if a\x7d\x7dx\x7b\x7b/if\x7d\x7d\x7b" : Text)).issues = []
      ∧ (ofText ("a\x7d\x7d \x7b\x7b/if\x7d\x7d" : Text)).issues
        = [.problem (.strayCloser "if") 4, .countMismatch 0 1]
      ∧ (ofText (("\x7b\x7b#if a\x7d\x7dx\x7b\x7b/if\x7d\x7d\x7b" : Text)
          ++ ("a\x7d\x7d \x7b\x7b/if\x7d\x7d" : Text))).issues
        = [.problem (.strayCloser "if") 22, .countMismatch 1 2] := by
  refine ⟨by decide +kernel, by decide +kernel, ?_⟩
  rw [(append_of_valid (by decide +kernel) (by decide)).2.2]
  decide +kernel

end LeasePapers.Template
