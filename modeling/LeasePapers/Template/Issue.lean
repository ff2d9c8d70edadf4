import LeasePapers.Template.Node
import LeasePapers.Number.Digits

/-! What can be wrong with a template. A problem belongs to one tag and has the position of that
tag; only the disagreement between openers and closers belongs to the template as a whole.
-/

namespace LeasePapers.Template

/-- How deep blocks may nest. -/
def deepestNesting : Nat := 64

/-- What is wrong with a tag. -/
inductive Problem where
  | unterminatedTag
  | unknownBlock (name : Text)
  | malformedHeader (kind : Kind)
  | malformedTag (content : Text)
  | unknownHelper (name : Text)
  | unclosedBlock (kind : Kind)
  | strayCloser (name : Text)
  | mismatchedCloser (expected : Kind) (found : Text)
  | strayElse
  | nestingTooDeep (kind : Kind)
  deriving DecidableEq, Repr

/-- What is wrong with a template: a problem at a byte position, or different numbers of blocks
opened and closed. -/
inductive Issue where
  | problem (found : Problem) (position : Nat)
  | countMismatch (opened closed : Nat)
  deriving DecidableEq, Repr

/-- The words for a problem at a position. -/
def Problem.message (position : Text) : Problem → Text
  | .unterminatedTag => "unterminated '\x7b\x7b' at position " ++ position
  | .unknownBlock name => "unknown block '#" ++ name ++ "' at position " ++ position
  | .malformedHeader kind =>
      "malformed '#" ++ kind.name ++ "' header at position " ++ position
  | .malformedTag content => "malformed tag '" ++ content ++ "' at position " ++ position
  | .unknownHelper name => "unknown helper '" ++ name ++ "' at position " ++ position
  | .unclosedBlock kind =>
      "block '#" ++ kind.name ++ "' at position " ++ position ++ " is never closed"
  | .strayCloser name => "'/" ++ name ++ "' at position " ++ position ++ " closes no open block"
  | .mismatchedCloser expected found =>
      "'/" ++ found ++ "' at position " ++ position ++ " does not match open block '#"
        ++ expected.name ++ "'"
  | .strayElse => "'else' at position " ++ position ++ " is outside an if/eq block"
  | .nestingTooDeep kind =>
      "block '#" ++ kind.name ++ "' at position " ++ position ++ " is nested deeper than "
        ++ Number.digits deepestNesting ++ " levels"

/-- The words for an issue. -/
def Issue.message : Issue → Text
  | .problem found position => found.message (Number.digits position)
  | .countMismatch opened closed =>
      Number.digits opened ++ " block opener(s) but " ++ Number.digits closed ++ " closer(s)"

end LeasePapers.Template
