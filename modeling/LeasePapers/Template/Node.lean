import LeasePapers.Text.Basic

/-! The directive tree of a template: literal text, fields to fill in, and blocks that repeat or
choose. Literal text is kept in as few nodes as possible.
-/

namespace LeasePapers.Template

/-- A way of writing a field's value. -/
inductive Helper where
  | currency
  | number
  | upper
  | lower
  deriving DecidableEq, Repr

namespace Helper

/-- The name by which a tag calls a helper. -/
def name : Helper → Text
  | .currency => "currency"
  | .number => "number"
  | .upper => "upper"
  | .lower => "lower"

/-- The helper with a name. -/
def ofName? (name : Text) : Option Helper :=
  [currency, number, upper, lower].find? (fun helper => helper.name = name)

end Helper

/-- The four kinds of block. -/
inductive Kind where
  | each
  | equal
  | present
  | absent
  deriving DecidableEq, Repr

namespace Kind

/-- The name of a kind in openers and closers. -/
def name : Kind → Text
  | .each => "each"
  | .equal => "eq"
  | .present => "if"
  | .absent => "unless"

/-- The kind with a name. -/
def ofName? (name : Text) : Option Kind :=
  [each, equal, present, absent].find? (fun kind => kind.name = name)

/-- Whether blocks of a kind may have an else branch. -/
def hasElse : Kind → Bool
  | .equal | .present => true
  | .each | .absent => false

end Kind

/-- What a block depends on. -/
inductive Header where
  | each (list : Text)
  | equal (field literal : Text)
  | present (field : Text)
  | absent (field : Text)
  deriving DecidableEq, Repr

/-- The kind of a block. -/
def Header.kind : Header → Kind
  | .each _ => .each
  | .equal _ _ => .equal
  | .present _ => .present
  | .absent _ => .absent

/-- A node of a directive tree. A block has a body and an else branch; the else branch is empty
where the kind of the block has none. -/
inductive Node where
  | text (content : Text)
  | variable (name : Text)
  | helper (helper : Helper) (field : Text)
  | block (header : Header) (body otherwise : List Node)

/-- Adds literal text at the end, to the last node if that is text already. -/
def addText : List Node → Text → List Node
  | [], content => if content = [] then [] else [.text content]
  | [.text before], content => [.text (before ++ content)]
  | node :: rest, content => node :: addText rest content

/-- Adds a node at the end. -/
def addNode (nodes : List Node) : Node → List Node
  | .text content => addText nodes content
  | node => nodes ++ [node]

/-- Adds nodes at the end, one after the other. -/
def addNodes (nodes more : List Node) : List Node :=
  more.foldl addNode nodes

end LeasePapers.Template
