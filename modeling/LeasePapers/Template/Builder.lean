import LeasePapers.Template.Segment
import LeasePapers.Template.Tag

/-! The tree of a template, built segment by segment. Building never fails: whatever is no
well-formed directive stays literal text and is reported. A block that is never closed turns back
into its opener and its contents, which stay what they are; blocks beyond the deepest nesting stay
literal together with their closers.
-/

namespace LeasePapers.Template

/-- A block that is still open: its header, its opener as it was written and where, its body so
far, and its else branch so far with the tag that began it. -/
structure Frame where
  header : Header
  opener : Text
  position : Nat
  body : List Node
  otherwise : Option (Text × List Node)

namespace Frame

/-- Adds nodes to the branch that is being read. -/
def add (frame : Frame) (nodes : List Node) : Frame :=
  match frame.otherwise with
  | none => { frame with body := addNodes frame.body nodes }
  | some (tag, branch) => { frame with otherwise := some (tag, addNodes branch nodes) }

/-- The block, once it is closed. -/
def node (frame : Frame) : Node :=
  .block frame.header frame.body ((frame.otherwise.map (·.2)).getD [])

/-- The frame as literal text around its contents. -/
def literal (frame : Frame) : List Node :=
  let opened := addNodes [.text frame.opener] frame.body
  match frame.otherwise with
  | none => opened
  | some (tag, branch) => addNodes (addText opened tag) branch

end Frame

/-- A template that has been read up to a position: the tree outside all open blocks, the open
blocks with the innermost first, the kinds of blocks opened beyond the deepest nesting with the
innermost first, what was found wrong, and how many blocks were opened and closed. -/
structure Builder where
  root : List Node
  frames : List Frame
  tooDeep : List Kind
  issues : List Issue
  opened : Nat
  closed : Nat
  position : Nat

namespace Builder

/-- Nothing has been read. -/
def start : Builder := ⟨[], [], [], [], 0, 0, 0⟩

/-- Adds nodes where the template is being read. -/
def add (b : Builder) (nodes : List Node) : Builder :=
  match b.frames with
  | [] => { b with root := addNodes b.root nodes }
  | frame :: rest => { b with frames := frame.add nodes :: rest }

/-- Adds literal text. -/
def literal (b : Builder) (raw : Text) : Builder :=
  b.add [.text raw]

/-- Reports a problem with a tag at a position. -/
def report (b : Builder) (problem : Problem) (position : Nat) : Builder :=
  { b with issues := b.issues ++ [.problem problem position] }

/-- Reports a problem with the present tag, which stays literal. -/
def refuse (b : Builder) (problem : Problem) (raw : Text) : Builder :=
  (b.report problem b.position).literal raw

/-- Opens a block. -/
def openBlock (b : Builder) (header : Header) (raw : Text) : Builder :=
  { b with
    frames := ⟨header, raw, b.position, [], none⟩ :: b.frames
    opened := b.opened + 1 }

/-- Keeps an opener beyond the deepest nesting as literal text. -/
def refuseDeep (b : Builder) (kind : Kind) (raw : Text) : Builder :=
  { b.refuse (.nestingTooDeep kind) raw with tooDeep := kind :: b.tooDeep }

/-- Begins the else branch of the innermost block, if that may have one and has none yet. -/
def beginElse (b : Builder) (raw : Text) : Builder :=
  match b.frames with
  | frame :: rest =>
      if frame.header.kind.hasElse && frame.otherwise.isNone then
        { b with frames := { frame with otherwise := some (raw, []) } :: rest }
      else b.refuse .strayElse raw
  | [] => b.refuse .strayElse raw

/-- Gives the innermost open block up: it was never closed. -/
def unwind (b : Builder) : Builder :=
  match b.frames with
  | [] => b
  | frame :: rest =>
      ({ b with frames := rest }.report (.unclosedBlock frame.header.kind) frame.position).add
        frame.literal

/-- Gives the innermost open blocks up, so many of them. -/
def unwindMany : Nat → Builder → Builder
  | 0, b => b
  | count + 1, b => unwindMany count b.unwind

/-- Closes the innermost open block. -/
def closeTop (b : Builder) : Builder :=
  match b.frames with
  | [] => b
  | frame :: rest => { b with frames := rest }.add [frame.node]

/-- Closes the innermost block of the closer's name. Blocks opened inside it were never closed; a
closer without such a block stays literal. -/
def close (b : Builder) (name raw : Text) : Builder :=
  match b.frames with
  | [] => b.refuse (.strayCloser name) raw
  | top :: _ =>
      let kind := top.header.kind
      let b := if kind.name = name then b else b.report (.mismatchedCloser kind name) b.position
      match b.frames.findIdx? (fun frame => frame.header.kind.name = name) with
      | none => b.literal raw
      | some depth => (b.unwindMany depth).closeTop

/-- Takes in a tag, outside of blocks that are nested too deep. -/
def apply (b : Builder) (raw : Text) : Tag → Builder
  | .leaf node => b.add [node]
  | .literal problem => b.refuse problem raw
  | .opener header => b.openBlock header raw
  | .otherwise => b.beginElse raw
  | .closer name => { b with closed := b.closed + 1 }.close name raw

/-- Whether another block would be nested too deep, or the template is inside such a block. -/
def isAtLimit (b : Builder) : Bool :=
  b.tooDeep ≠ [] || deepestNesting ≤ b.frames.length

/-- Takes in a tag at the deepest nesting: openers, their closers and their else tags stay
literal. -/
def applyAtLimit (b : Builder) (raw : Text) : Tag → Builder
  | .opener header => b.refuseDeep header.kind raw
  | .closer name =>
      match b.tooDeep with
      | kind :: rest =>
          if kind.name = name then { b with tooDeep := rest }.literal raw
          else b.apply raw (.closer name)
      | [] => b.apply raw (.closer name)
  | .otherwise => if b.tooDeep = [] then b.apply raw .otherwise else b.literal raw
  | tag => b.apply raw tag

/-- Takes in a segment, without moving on. -/
def take (b : Builder) : Segment → Builder
  | .text content => b.literal content
  | .unterminated raw => b.refuse .unterminatedTag raw
  | .tag inner =>
      let tag := Tag.ofInner inner
      if b.isAtLimit then b.applyAtLimit (tagText inner) tag else b.apply (tagText inner) tag

/-- Takes in a segment and moves on past it. -/
def step (b : Builder) (segment : Segment) : Builder :=
  { b.take segment with position := b.position + segment.raw.byteSize }

/-- Gives all open blocks up and compares the counts. -/
def finish (b : Builder) : Builder :=
  let b := b.unwindMany b.frames.length
  if b.opened = b.closed then b
  else { b with issues := b.issues ++ [.countMismatch b.opened b.closed] }

end Builder

end LeasePapers.Template
