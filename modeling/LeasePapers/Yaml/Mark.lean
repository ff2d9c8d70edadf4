import LeasePapers.Yaml.Cursor
import LeasePapers.Yaml.Node
import LeasePapers.Yaml.Scalar

/-! The marks in front of nodes, and aliases. A tag is a string of octets: a character of it that is
written by its hexadecimal number stands for as many octets as UTF-8 gives it.
-/

namespace LeasePapers.Yaml

/-- Whether a character may stand in the name of an anchor, of a handle or of a directive. -/
def isNameChar (c : Char) : Bool :=
  Text.isAsciiAlphanumeric c || c == '_' || c == '-'

/-- Whether the name of an anchor or of an alias ends here. -/
def endsName : Text → Bool
  | [] => true
  | c :: _ =>
      isGap c || isBreak c || ['?', ':', ',', ']', '\x7d', '%', '@', '\x60'].contains c

/-- Reads the name of an anchor or of an alias, from the sign in front of it. -/
def name? (cursor : Cursor) : Option (Text × Cursor) :=
  let name := cursor.rest.tail.takeWhile isNameChar
  let after := cursor.past (name.length + 1) false
  if name ≠ [] && endsName after.rest then some (name, after) else none

/-- Whether a character may stand in a tag. -/
def isTagChar (c : Char) : Bool :=
  isNameChar c
    || [';', '/', '?', ':', '@', '&', '=', '+', '$', '.', '!', '~', '*', '\'', '(', ')'].contains c

/-- How many octets follow the first one of a character. -/
def furtherOctets? (octet : Nat) : Option Nat :=
  if octet < 0x80 then some 0
  else if octet < 0xC0 then none
  else if octet < 0xE0 then some 1
  else if octet < 0xF0 then some 2
  else if octet < 0xF8 then some 3
  else none

/-- Reads the octets of a tag, where so many are missing to the character that has been begun. A
`whole` tag may hold signs of flow collections. -/
def octetsFrom (whole : Bool) (missing : Nat) : Text → Option (Text × Text)
  | [] => if missing = 0 then some ([], []) else none
  | '%' :: high :: low :: rest =>
      (hexNumber? [high, low]).bind (fun octet =>
        let missing? :=
          if missing = 0 then furtherOctets? octet
          else if octet / 0x40 = 2 then some (missing - 1)
          else none
        missing?.bind (fun missing =>
          (octetsFrom whole missing rest).map (fun (octets, after) =>
            (Char.ofNat octet :: octets, after))))
  | c :: rest =>
      if missing ≠ 0 then none
      else if isTagChar c || (whole && [',', '[', ']'].contains c) then
        (octetsFrom whole 0 rest).map (fun (octets, after) => (c :: octets, after))
      else some ([], c :: rest)

/-- Reads octets of which there must be some. -/
def someOctets? (whole : Bool) (text : Text) : Option (Text × Text) :=
  (octetsFrom whole 0 text).filter (fun read => read.1 ≠ [])

/-- Reads a tag, and what follows it. -/
def tagText? : Text → Option (Tag × Text)
  | '!' :: '<' :: rest =>
      (someOctets? true rest).bind (fun (suffix, after) =>
        match after with
        | '>' :: after => some (⟨[], suffix⟩, after)
        | _ => none)
  | '!' :: rest =>
      let word := rest.takeWhile isNameChar
      match rest.drop word.length with
      | '!' :: after =>
          (someOctets? false after).map (fun (suffix, after) =>
            (⟨'!' :: (word ++ ['!']), suffix⟩, after))
      | _ =>
          (octetsFrom false 0 rest).map (fun (suffix, after) =>
            (if suffix = [] then ⟨[], ['!']⟩ else ⟨['!'], suffix⟩, after))
  | _ => none

/-- Reads a tag. A blank or a line break follows it, or a comma inside a flow collection. -/
def tag? (inFlow : Bool) (cursor : Cursor) : Option (Tag × Cursor) :=
  (tagText? cursor.rest).bind (fun (tag, after) =>
    if isCut after || (inFlow && after.head? = some ',') then
      some (tag, cursor.past (cursor.rest.length - after.length) false)
    else none)

/-- Whether a mark begins here. -/
def beginsMark (cursor : Cursor) : Bool :=
  cursor.rest.head? == some '&' || cursor.rest.head? == some '!'

/-- Reads a mark. -/
def mark? (inFlow : Bool) (cursor : Cursor) : Option (Marks × Cursor) :=
  if cursor.rest.head? = some '&' then
    (name? cursor).map (fun (name, after) => (⟨some name, none⟩, after))
  else (tag? inFlow cursor).map (fun (tag, after) => (⟨none, some tag⟩, after))

/-- Reads further marks up to the next token that is none, or to the end of the line in a block. The
third one repeats another. -/
def marksFrom? (inFlow : Bool) (marks : Marks) (cursor : Cursor) : Nat → Option (Marks × Cursor)
  | 0 => none
  | more + 1 =>
      if !beginsMark cursor then some (marks, cursor)
      else do
        let (mark, after) ← mark? inFlow cursor
        let marks ← marks.join? mark
        let next := after.toToken inFlow
        if inFlow || next.line = cursor.line then marksFrom? inFlow marks next more
        else some (marks, next)

/-- Reads the marks that begin here, if there are any, and goes on to the next token. -/
def marks? (inFlow : Bool) (cursor : Cursor) : Option (Marks × Cursor) :=
  marksFrom? inFlow .none cursor 3

end LeasePapers.Yaml
