import LeasePapers.Template.Builder

/-! Templates: a tree of directives, and what was found wrong on the way to it.
-/

namespace LeasePapers

/-- A template that has been read. -/
structure Template where
  nodes : List Template.Node
  issues : List Template.Issue

namespace Template

/-- The template of segments. -/
def ofSegments (segments : List Segment) : Template :=
  let finished := (segments.foldl Builder.step Builder.start).finish
  ⟨finished.root, finished.issues⟩

/-- Reads a template. -/
def ofText (text : Text) : Template :=
  ofSegments (segments text)

/-- Whether nothing is wrong with a template. -/
def isValid (template : Template) : Bool :=
  template.issues.isEmpty

/-- What is wrong with a template, in words. -/
def messages (template : Template) : List Text :=
  template.issues.map Issue.message

end Template

end LeasePapers
