import LeasePapers.Template.Node
import LeasePapers.Template.Issue
import LeasePapers.Text.Blank
import LeasePapers.Text.WordChar

/-! What a single tag means, before blocks are matched: a block's opener or closer, an else, a leaf
of the tree, or nothing well-formed.
-/

namespace LeasePapers.Template

/-- An argument of a tag: a name, or a literal that stood in quotes. -/
inductive Argument where
  | path (name : Text)
  | literal (content : Text)
  deriving DecidableEq, Repr

/-- Whether a character may begin a name. -/
def beginsPath (c : Char) : Bool :=
  Text.isAlphabetic c || c == '_'

/-- Whether a character may stand inside a name. -/
def continuesPath (c : Char) : Bool :=
  Text.isAlphanumeric c || c == '_' || c == '.' || c == '-'

/-- The name of the running number of a repetition. -/
def indexName : Text := "@index"

/-- The name of the current element of a repetition. -/
def elementName : Text := "this"

/-- Whether a word is a name: of a field, of the current element or of its number. -/
def isPath (word : Text) : Bool :=
  word == indexName ||
    match word with
    | [] => false
    | c :: rest => beginsPath c && rest.all continuesPath

/-- What the reader of arguments is in the middle of. -/
inductive ArgumentReading where
  | between
  | quoted (mark : Char) (read : Text)
  | word (read : Text)

/-- The arguments in a text that is read on from somewhere. Blanks part words; a quoted argument
ends with its closing quote. A quote left open, or a word that is no name, spoils all. -/
def argumentsFrom? : ArgumentReading → Text → Option (List Argument)
  | .between, [] => some []
  | .between, c :: rest =>
      if Text.isBlank c then argumentsFrom? .between rest
      else if c = '"' ∨ c = '\'' then argumentsFrom? (.quoted c []) rest
      else argumentsFrom? (.word [c]) rest
  | .quoted _ _, [] => none
  | .quoted mark read, c :: rest =>
      if c = mark then (argumentsFrom? .between rest).map (.literal read :: ·)
      else argumentsFrom? (.quoted mark (read ++ [c])) rest
  | .word read, [] => if isPath read then some [.path read] else none
  | .word read, c :: rest =>
      if Text.isBlank c then
        if isPath read then (argumentsFrom? .between rest).map (.path read :: ·) else none
      else argumentsFrom? (.word (read ++ [c])) rest

/-- The arguments in a text. -/
def arguments? (text : Text) : Option (List Argument) :=
  argumentsFrom? .between text

/-- What a tag means. -/
inductive Tag where
  | opener (header : Header)
  | otherwise
  | closer (name : Text)
  | leaf (node : Node)
  | literal (problem : Problem)

/-- The name of the else tag. -/
def elseName : Text := "else"

/-- The header of a block with that name and those arguments. -/
def header? (kind : Kind) (arguments : List Argument) : Option Header :=
  match kind, arguments with
  | .each, [.path list] => some (.each list)
  | .equal, [.path field, .literal literal] => some (.equal field literal)
  | .equal, [.path field, .path literal] => some (.equal field literal)
  | .present, [.path field] => some (.present field)
  | .absent, [.path field] => some (.absent field)
  | _, _ => none

/-- The meaning of a tag that begins with the block mark, from what follows the mark. -/
def openerTag (text : Text) : Tag :=
  let name := text.takeWhile (fun c => !Text.isBlank c)
  let rest := text.dropWhile (fun c => !Text.isBlank c)
  if name = elseName ∧ Text.isAllBlank rest then .otherwise
  else
    match Kind.ofName? name with
    | none => .literal (.unknownBlock name)
    | some kind =>
        match (arguments? rest).bind (header? kind) with
        | some header => .opener header
        | none => .literal (.malformedHeader kind)

/-- The meaning of a tag without a mark. -/
def leafTag (text : Text) : Tag :=
  match arguments? text with
  | some [.path name] => .leaf (.variable name)
  | some [.path name, .path field] =>
      match Helper.ofName? name with
      | some helper => .leaf (.helper helper field)
      | none => .literal (.unknownHelper name)
  | _ => .literal (.malformedTag text)

/-- The meaning of a tag, from what stands between its marks. -/
def Tag.ofInner (inner : Text) : Tag :=
  match Text.trim inner with
  | '#' :: rest => openerTag rest
  | '/' :: rest => .closer (Text.trim rest)
  | text => if text = elseName then .otherwise else leafTag text

end LeasePapers.Template
