import LeasePapers.Yaml.BlockScalar
import LeasePapers.Yaml.Mark

/-! The trees of YAML, read by descent. A block collection goes on as long as the next token stands
in its column; whoever called its reader sees to the rest. The readers of trees call each other no
deeper than `fuel`, and a few calls for every character of the text suffice.
-/

namespace LeasePapers.Yaml

/-- Reads a quoted scalar, if one begins here. -/
def quoted? (cursor : Cursor) : Option (Tree × Cursor) :=
  let read? :=
    match cursor.rest with
    | '\'' :: rest => singleFrom .empty cursor.line (cursor.column + 1) rest
    | '"' :: rest => doubleFrom .empty none cursor.line (cursor.column + 1) rest
    | _ => none
  read?.map (fun (text, after) => (.scalar text .other, after))

/-- Reads a plain scalar, if one begins here. -/
def plainTree? (inFlow : Bool) (indent : Nat) (cursor : Cursor) : Option (Tree × Cursor) :=
  if beginsPlain inFlow cursor.rest then
    (plain? inFlow indent cursor).map (fun (text, after) => (.scalar text .plain, after))
  else none

/-- Reads a scalar that is no block. -/
def scalar? (inFlow : Bool) (indent : Nat) (cursor : Cursor) : Option (Tree × Cursor) :=
  (quoted? cursor).or (plainTree? inFlow indent cursor)

/-- Reads a block scalar. -/
def blockScalar? (indent : Nat) (cursor : Cursor) : Option (Tree × Cursor) :=
  (block? indent cursor).map (fun (text, after) =>
    (.scalar text (if cursor.rest.head? = some '|' then .literal else .other), after))

/-- Whether an entry of a flow collection ends here. -/
def endsEntry (close : Char) (cursor : Cursor) : Bool :=
  cursor.rest.head? == some ',' || cursor.rest.head? == some close

/-- Whether a key or a value is left out here inside a flow collection. -/
def isLeftOut (close : Char) (cursor : Cursor) : Bool :=
  endsEntry close cursor || cursor.rest.head? == some ':'

/-- An entry of a flow sequence as an item. A pair is a mapping with one member. -/
def itemOfEntry : Tree × Option Tree → Tree
  | (key, some value) => .mapping [(key, value)]
  | (item, none) => item

/-- An entry of a flow mapping as a member. -/
def memberOfEntry (entry : Tree × Option Tree) : Tree × Tree :=
  (entry.1, entry.2.getD .absent)

/-- A tree that has been read, behind marks. -/
def behind? (marks : Marks) (tree : Tree) (after : Cursor) : Option (Tree × Cursor) :=
  (marks.on? tree).map (fun tree => (tree, after))

mutual

/-- Reads a tree without marks that is no block: a flow collection, an alias or a scalar. -/
def flowTree? (fuel : Nat) (inFlow : Bool) (indent : Nat) (cursor : Cursor)
    : Option (Tree × Cursor) :=
  match fuel with
  | 0 => none
  | fuel + 1 =>
      let inside := (cursor.past 1 true).toToken true
      match cursor.rest with
      | '[' :: _ =>
          (flowEntries? fuel ']' indent inside).map (fun (entries, after) =>
            (.sequence (entries.map itemOfEntry), after))
      | '\x7b' :: _ =>
          (flowEntries? fuel '\x7d' indent inside).map (fun (entries, after) =>
            (.mapping (entries.map memberOfEntry), after))
      | '*' :: _ => (name? cursor).map (fun (name, after) => (.alias name, after))
      | _ => if inFlow && cursor.isDone then none else scalar? inFlow indent cursor

/-- Reads a tree with its marks inside a flow collection, and goes on to the next token. Behind
marks it may be left out. -/
def flowPlace? (fuel : Nat) (close : Char) (indent : Nat) (cursor : Cursor)
    : Option (Tree × Cursor) :=
  match fuel with
  | 0 => none
  | fuel + 1 => do
      let (marks, inside) ← marks? true cursor
      let (tree, after) ←
        if !marks.isNone && isLeftOut close inside then some (.absent, inside)
        else flowTree? fuel true indent inside
      behind? marks tree (after.toToken true)

/-- Reads the entries of a flow collection up to its closing mark: single trees, and pairs. -/
def flowEntries? (fuel : Nat) (close : Char) (indent : Nat) (cursor : Cursor)
    : Option (List (Tree × Option Tree) × Cursor) :=
  match fuel with
  | 0 => none
  | fuel + 1 =>
      if cursor.rest.head? = some close then some ([], cursor.past 1 false)
      else do
        let (entry, after) ← flowEntry? fuel close indent cursor
        let (entries, last) ←
          match after.rest with
          | ',' :: _ => flowEntries? fuel close indent ((after.past 1 true).toToken true)
          | _ => if after.rest.head? = some close then some ([], after.past 1 false) else none
        some (entry :: entries, last)

/-- Reads an entry of a flow collection. A key that is marked as one may be left out, and may go
over several lines. -/
def flowEntry? (fuel : Nat) (close : Char) (indent : Nat) (cursor : Cursor)
    : Option ((Tree × Option Tree) × Cursor) :=
  match fuel with
  | 0 => none
  | fuel + 1 =>
      if cursor.rest.head? = some '?' then do
        let inside := (cursor.past 1 false).toToken true
        let (key, after) ←
          if isLeftOut close inside then some (.absent, inside)
          else flowPlace? fuel close indent inside
        let (value, after) ←
          if after.rest.head? = some ':' then flowValue? fuel close indent after
          else some (.absent, after)
        some ((key, some value), after)
      else do
        let (tree, after) ← flowPlace? fuel close indent cursor
        if after.rest.head? = some ':' then
          if cursor.canBeKey after then
            (flowValue? fuel close indent after).map (fun (value, after) =>
              ((tree, some value), after))
          else none
        else some ((tree, none), after)

/-- Reads the value of a pair in a flow collection, from its colon. -/
def flowValue? (fuel : Nat) (close : Char) (indent : Nat) (cursor : Cursor)
    : Option (Tree × Cursor) :=
  match fuel with
  | 0 => none
  | fuel + 1 =>
      let cursor := (cursor.past 1 false).toToken true
      if endsEntry close cursor then some (.absent, cursor)
      else flowPlace? fuel close indent cursor

end

mutual

/-- Reads the tree in a place of a block, which may be left out there. It stands at least at the
column `indent`, except that a block scalar may stand one column before it, and so may a sequence if
it may be `flush` with the block around it. `far` are the marks on lines before. -/
def blockPlace? (fuel : Nat) (indent : Nat) (flush : Bool) (far : Marks) (cursor : Cursor)
    : Option (Tree × Cursor) :=
  match fuel with
  | 0 => none
  | fuel + 1 =>
      let cursor := cursor.toToken false
      if cursor.isDone then behind? far .absent cursor
      else if indent ≤ cursor.column then blockTree? fuel indent flush far cursor
      else if cursor.column + 1 = indent && flush && cursor.isItem then do
        let (items, after) ← blockItems? fuel cursor.column cursor
        behind? far (.sequence items) after
      else if cursor.column + 1 = indent && beginsBlock cursor then do
        let (tree, after) ← blockScalar? indent cursor
        behind? far tree (after.toToken false)
      else behind? far .absent cursor

/-- Reads a tree that stands in a block, with the marks on its line. Marks in front of a key belong
to the key, and those on lines before to the mapping; further lines of a plain scalar stand at least
at the column `indent`. -/
def blockTree? (fuel : Nat) (indent : Nat) (flush : Bool) (far : Marks) (cursor : Cursor)
    : Option (Tree × Cursor) :=
  match fuel with
  | 0 => none
  | fuel + 1 =>
      if cursor.isItem then
        if cursor.fresh then do
          let (items, after) ← blockItems? fuel cursor.column cursor
          behind? far (.sequence items) after
        else none
      else if cursor.isQuery then
        if cursor.fresh then do
          let (members, after) ← blockMembers? fuel cursor.column cursor
          behind? far (.mapping members) after
        else none
      else do
        let (near, inside) ← marks? false cursor
        if !near.isNone && (inside.isDone || inside.line ≠ cursor.line) then
          (far.join? near).bind (fun marks => blockPlace? fuel indent flush marks inside)
        else if beginsBlock inside then
          let (tree, after) ← blockScalar? indent inside
          behind? (← far.join? near) tree (after.toToken false)
        else
          let (tree, after) ← lineTree? fuel indent near inside
          if after.isColon && cursor.fresh && cursor.canBeKey after then
            let key ← near.on? tree
            let (value, after) ←
              blockPlace? fuel (cursor.column + 1) true .none (after.past 1 false)
            let (members, after) ← blockMembers? fuel cursor.column after
            behind? far (.mapping ((key, value) :: members)) after
          else behind? (← far.join? near) tree after

/-- Reads a tree that may be a key, behind the marks on its line, and goes on to the next token.
Behind marks a key may be left out. -/
def lineTree? (fuel : Nat) (indent : Nat) (near : Marks) (cursor : Cursor)
    : Option (Tree × Cursor) :=
  match fuel with
  | 0 => none
  | fuel + 1 =>
      if !near.isNone && cursor.isColon then some (.absent, cursor)
      else
        (flowTree? fuel false indent cursor).map (fun (tree, after) => (tree, after.toToken false))

/-- Reads the items of a block sequence that stands in a column, from a hyphen. -/
def blockItems? (fuel : Nat) (column : Nat) (cursor : Cursor) : Option (List Tree × Cursor) :=
  match fuel with
  | 0 => none
  | fuel + 1 => do
      let (item, after) ← blockPlace? fuel (column + 1) false .none (cursor.past 1 true)
      if !after.isDone && after.column = column && after.isItem then
        let (items, after) ← blockItems? fuel column after
        some (item :: items, after)
      else some ([item], after)

/-- Reads the members of the block mapping that stands in a column, as far as there are any. -/
def blockMembers? (fuel : Nat) (column : Nat) (cursor : Cursor)
    : Option (List (Tree × Tree) × Cursor) :=
  match fuel with
  | 0 => none
  | fuel + 1 =>
      if cursor.isDone || cursor.column ≠ column then some ([], cursor)
      else do
        let (member, after) ← blockMember? fuel column cursor
        let (members, after) ← blockMembers? fuel column after
        some (member :: members, after)

/-- Reads a member of the block mapping that stands in a column. A key that is marked as one may be
any tree, or left out, and so may its value, on the line behind it. -/
def blockMember? (fuel : Nat) (column : Nat) (cursor : Cursor)
    : Option ((Tree × Tree) × Cursor) :=
  match fuel with
  | 0 => none
  | fuel + 1 =>
      if cursor.isQuery then do
        let (key, after) ← blockPlace? fuel (column + 1) true .none (cursor.past 1 true)
        let (value, after) ←
          if !after.isDone && after.column = column && after.isColon then
            blockPlace? fuel (column + 1) true .none (after.past 1 true)
          else some (.absent, after)
        some ((key, value), after)
      else do
        let (near, inside) ← marks? false cursor
        let (tree, after) ← lineTree? fuel (column + 1) near inside
        let key ← near.on? tree
        if after.isColon && cursor.canBeKey after then
          (blockPlace? fuel (column + 1) true .none (after.past 1 false)).map
            (fun (value, after) => ((key, value), after))
        else none

end

end LeasePapers.Yaml
