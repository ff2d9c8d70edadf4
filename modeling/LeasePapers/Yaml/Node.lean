import LeasePapers.Text.Basic

/-! The nodes of YAML documents: trees, as they are written, with marks and aliases, and nodes, as
they are read, where an alias stands for what it names.
-/

namespace LeasePapers.Yaml

/-- How a scalar is written: plain, as a literal block, or otherwise, quoted or folded. -/
inductive Form where
  | plain
  | literal
  | other
  deriving DecidableEq, Repr

/-- A tag as it is written: a suffix behind a handle, or a whole tag without one. -/
structure Tag where
  handle : Text
  suffix : Text
  deriving DecidableEq, Repr

/-- What may stand in front of a node: an anchor, by which aliases name it, and a tag. -/
structure Marks where
  anchor : Option Text
  tag : Option Tag
  deriving DecidableEq, Repr

/-- A tree of a document. A mapping keeps its members in order, repeated keys included. -/
inductive Tree where
  | scalar (text : Text) (form : Form)
  | sequence (items : List Tree)
  | mapping (members : List (Tree × Tree))
  | alias (name : Text)
  | marked (marks : Marks) (tree : Tree)

/-- What stands where a tree is left out. -/
def Tree.absent : Tree := .scalar [] .plain

/-- A node of a document. An alias inside of what it names stands for a node without an end. -/
inductive Node where
  | scalar (text : Text) (form : Form) (tag : Option Text)
  | sequence (items : List Node)
  | mapping (members : List (Node × Node))
  | endless

namespace Marks

/-- No marks. -/
def none : Marks := ⟨.none, .none⟩

/-- Whether there are no marks. -/
def isNone (marks : Marks) : Bool :=
  marks.anchor.isNone && marks.tag.isNone

/-- The marks together, unless there are two of a kind. -/
def join? (first second : Marks) : Option Marks :=
  if (first.anchor.isSome && second.anchor.isSome) || (first.tag.isSome && second.tag.isSome) then
    .none
  else some ⟨first.anchor.or second.anchor, first.tag.or second.tag⟩

/-- A tree behind marks. An alias takes none. -/
def on? (marks : Marks) (tree : Tree) : Option Tree :=
  if marks.isNone then some tree
  else
    match tree with
    | .alias _ => .none
    | tree => some (.marked marks tree)

end Marks

end LeasePapers.Yaml
