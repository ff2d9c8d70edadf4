import LeasePapers.Yaml.Node

/-! From trees to nodes. An alias stands for the last node before it with that anchor, and the
handle of a tag for what has been declared for it.
-/

namespace LeasePapers.Yaml

/-- The anchors that have come so far, in their order; the nodes are missing of those that have not
come to their end. -/
abbrev Anchors := List (Text × Option Node)

/-- The node that an alias stands for, if an anchor of that name has come. -/
def Anchors.find? (anchors : Anchors) (name : Text) : Option Node :=
  (anchors.reverse.find? (fun entry => entry.1 = name)).map (fun entry => entry.2.getD .endless)

/-- What a tag stands for, if its handle is declared. -/
def Tag.whole? (handles : List (Text × Text)) (tag : Tag) : Option Text :=
  if tag.handle = [] then some tag.suffix
  else (handles.find? (fun entry => entry.1 = tag.handle)).map (fun entry => entry.2 ++ tag.suffix)

mutual

/-- The node that a tree stands for, behind a tag if it has one, and the anchors after it. -/
def Node.ofTree? (handles : List (Text × Text)) (tag : Option Text) (anchors : Anchors)
    : Tree → Option (Node × Anchors)
  | .scalar text form => some (.scalar text form tag, anchors)
  | .sequence items =>
      (Node.ofItems? handles anchors items).map (fun (items, anchors) =>
        (.sequence items, anchors))
  | .mapping members =>
      (Node.ofMembers? handles anchors members).map (fun (members, anchors) =>
        (.mapping members, anchors))
  | .alias name => (anchors.find? name).map (fun node => (node, anchors))
  | .marked marks tree => do
      let tag ←
        match marks.tag with
        | none => some none
        | some tag => (tag.whole? handles).map some
      match marks.anchor with
      | none => Node.ofTree? handles tag anchors tree
      | some name =>
          let (node, later) ← Node.ofTree? handles tag (anchors ++ [(name, none)]) tree
          some (node, later.set anchors.length (name, some node))

/-- The nodes that the items of a sequence stand for. -/
def Node.ofItems? (handles : List (Text × Text)) (anchors : Anchors)
    : List Tree → Option (List Node × Anchors)
  | [] => some ([], anchors)
  | item :: rest => do
      let (item, anchors) ← Node.ofTree? handles none anchors item
      let (rest, anchors) ← Node.ofItems? handles anchors rest
      some (item :: rest, anchors)

/-- The nodes that the members of a mapping stand for. -/
def Node.ofMembers? (handles : List (Text × Text)) (anchors : Anchors)
    : List (Tree × Tree) → Option (List (Node × Node) × Anchors)
  | [] => some ([], anchors)
  | (key, value) :: rest => do
      let (key, anchors) ← Node.ofTree? handles none anchors key
      let (value, anchors) ← Node.ofTree? handles none anchors value
      let (rest, anchors) ← Node.ofMembers? handles anchors rest
      some ((key, value) :: rest, anchors)

end

end LeasePapers.Yaml
