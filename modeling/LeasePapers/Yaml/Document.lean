import LeasePapers.Yaml.Alias
import LeasePapers.Yaml.Reader

/-! YAML documents: what directives declare, and the root between the marks of a document. A text
with more than one document is refused, and so is a document that does not end with its root.
-/

namespace LeasePapers.Yaml

/-- What the directives in front of a document declare: whether a version, and handles of tags. -/
structure Directives where
  version : Bool
  handles : List (Text × Text)

namespace Directives

/-- Nothing is declared. -/
def none : Directives := ⟨false, []⟩

/-- All handles of tags that are known, the declared ones first. -/
def known (directives : Directives) : List (Text × Text) :=
  directives.handles ++ [(['!'], ['!']), (['!', '!'], "tag:yaml.org,2002:")]

/-- Reads a part of a version number. -/
def versionPart? (text : Text) : Option (Nat × Text) :=
  let digits := text.takeWhile Char.isDigit
  if digits = [] ∨ 9 < digits.length then .none
  else some (Number.ofDigits digits, text.drop digits.length)

/-- Declares the version, which must be 1.1 or 1.2, and reads what follows. -/
def addVersion? (directives : Directives) (text : Text) : Option (Directives × Text) := do
  let (major, rest) ← versionPart? text
  let (minor, rest) ←
    match rest with
    | '.' :: rest => versionPart? rest
    | _ => .none
  if major = 1 ∧ (minor = 1 ∨ minor = 2) ∧ directives.version = false then
    some ({ directives with version := true }, rest)
  else .none

/-- Declares a handle, which must be a new one, with what it stands for, and reads what follows. -/
def addHandle? (directives : Directives) (text : Text) : Option (Directives × Text) :=
  match text with
  | '!' :: rest =>
      let word := rest.takeWhile isNameChar
      let (handle, rest) :=
        match rest.drop word.length with
        | '!' :: rest => ('!' :: (word ++ ['!']), rest)
        | rest => ('!' :: word, rest)
      let isHandle := word = [] || handle.getLast? == some '!'
      if isHandle && rest.head?.any isGap && !directives.handles.any (fun entry => entry.1 = handle)
      then
        ((someOctets? true (rest.dropWhile isGap)).filter (fun read => isCut read.2)).map
          (fun (start, rest) =>
            ({ directives with handles := directives.handles ++ [(handle, start)] }, rest))
      else .none
  | _ => .none

/-- Reads a directive, and goes on to the next token. There are two of them. -/
def add? (directives : Directives) (cursor : Cursor) : Option (Directives × Cursor) := do
  let name := cursor.rest.tail.takeWhile isNameChar
  let rest := cursor.rest.tail.drop name.length
  let inside := rest.dropWhile isGap
  let (directives, rest) ←
    if !isCut rest then .none
    else if name = ("YAML" : Text) then directives.addVersion? inside
    else if name = ("TAG" : Text) then directives.addHandle? inside
    else .none
  let rest ← afterLine? rest
  some (directives, Cursor.toToken false ⟨rest, cursor.line + 1, 0, false⟩)

/-- Whether a directive begins here. -/
def beginHere (cursor : Cursor) : Bool :=
  cursor.column == 0 && cursor.rest.head? == some '%'

/-- Reads the directives from here on. -/
def from? (directives : Directives) (cursor : Cursor) : Nat → Option (Directives × Cursor)
  | 0 => .none
  | fuel + 1 =>
      if beginHere cursor then
        (directives.add? cursor).bind (fun (directives, after) => directives.from? after fuel)
      else some (directives, cursor)

end Directives

/-- Passes over the marks that end a document. -/
def pastEndMarks : Nat → Cursor → Cursor
  | 0, cursor => cursor
  | fuel + 1, cursor =>
      if Cursor.isMark '.' cursor.column cursor.rest then
        pastEndMarks fuel ((cursor.past 3 false).toToken false)
      else cursor

/-- The root of a document that begins here and has nothing after it. A document may be no more than
its opening mark, which must be there behind directives. -/
def rootAt? (fuel : Nat) (declared : Bool) (cursor : Cursor) : Option Tree := do
  let (root, after) ←
    if Cursor.isMark '-' cursor.column cursor.rest then
      blockPlace? fuel 0 false .none (cursor.past 3 false)
    else if declared || cursor.isDone then none
    else blockPlace? fuel 0 false .none cursor
  if (pastEndMarks fuel after).rest = [] then some root else none

/-- The text without a byte order mark at its beginning. -/
def withoutOrderMark (text : Text) : Text :=
  (Text.dropLead? ['\uFEFF'] text).getD text

/-- The root of the only document of a text, which is absent if the text has no document. -/
def ofText? (text : Text) : Option Node :=
  let text := withoutOrderMark text
  if text.all isAllowed then
    let cursor := (Cursor.start (withPlainBreaks text)).toToken false
    if cursor.rest = [] then some (.scalar [] .plain none)
    else do
      let (directives, after) ← Directives.none.from? cursor (text.length + 1)
      let root ← rootAt? (4 * text.length + 4) (Directives.beginHere cursor) after
      let (node, _) ← Node.ofTree? directives.known none [] root
      some node
  else none

end LeasePapers.Yaml
