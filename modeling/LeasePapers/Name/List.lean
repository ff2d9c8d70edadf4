import LeasePapers.Name.Token

/-! Lists of names, read from free text and written back. A list is written with commas and with
`e` before its last name, and may mark each name with an emphasis tag.
-/

namespace LeasePapers.Name

/-- The word that joins the last two names of a list. -/
def conjunction : Text := " e "

/-- What joins the names before the last one. -/
def comma : Text := ", "

/-- The groups of words between separators, empty groups included, where `group` holds the words
read since the last separator. -/
def groupsAfter (group : List Text) : List Token → List (List Text)
  | [] => [group]
  | .word word :: rest => groupsAfter (group ++ [word]) rest
  | .separator _ :: rest => group :: groupsAfter [] rest

/-- The names in a free text, each with single spaces between its words. -/
def split (text : Text) : List Text :=
  ((groupsAfter [] (tokenize text)).filter (· ≠ [])).map (Text.join [' '])

/-- Whether a free text names more than one person. -/
def namesSeveral (text : Text) : Bool :=
  (split text).length > 1

/-- The names with `e` before the last one and commas before the others. -/
def joinAll : List Text → Text
  | [] => []
  | [only] => only
  | first :: rest =>
      Text.join comma (first :: rest.dropLast) ++ conjunction ++ rest.getLastD []

/-- A name between an opening and a closing tag. -/
def emphasize (tag name : Text) : Text :=
  ['<'] ++ tag ++ ['>'] ++ name ++ ['<', '/'] ++ tag ++ ['>']

/-- The names joined, each of them marked with the tag; the empty tag marks none. -/
def joinEmphasized (tag : Text) (names : List Text) : Text :=
  if tag = [] then joinAll names else joinAll (names.map (emphasize tag))

end LeasePapers.Name
