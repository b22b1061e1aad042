import Offside.Fault
import Offside.Json.Writer
import Offside.Tree.Fold

/-!
# Trees as data

A tree is written back as tree data that load again: every node with its kind and all its fields,
with its place in lines and columns if its line is known, and with its offsets if its end is
known.  Columns count from zero there.
-/

namespace Offside

/-- One less than a number. -/
def oneLess (d : Data) : Data :=
  match d with
  | .scalar s => .scalar (s.pred?.getD s)
  | d => d

/-- The line and column of a place. -/
def placeData (line column : Data) : Data := .dict [("line", line), ("column", oneLess column)]

/-- The entries that tell where a node stands.  A missing end is taken from the beginning. -/
def locationEntries (loc : Location) : List (Text × Data) :=
  let endLine := if loc.endLine.isNull then loc.line else loc.endLine
  let endColumn := if loc.endColumn.truthy then loc.endColumn else loc.column
  let place : List (Text × Data) :=
    if loc.line.truthy then
      [("loc", .dict [("start", placeData loc.line loc.column),
        ("end", placeData endLine endColumn)])]
    else []
  let span : List (Text × Data) :=
    if loc.endOffset.truthy then [("range", .list [loc.offset, loc.endOffset])] else []
  place ++ span

/-- The key under which tree data keep a field. -/
def keyOf (name : Text) : Text :=
  if name = "superclass" then "superClass" else if name = "source_type" then "sourceType" else name

/-- What each part of a tree is written as. -/
def encodeFolder : Folder Data where
  scalar := Data.scalar
  list := Data.list
  node n parts :=
    let place := match n.location? with
      | some loc => locationEntries loc
      | none => []
    let head : List (Text × Data) := [("type", .text n.kindName)]
    .dict (head ++ parts.map (fun (name, d) => (keyOf name, d)) ++ place)

/-- A tree as data. -/
def Node.toData (n : Node) : Data := n.fold encodeFolder

/-- A tree as a JSON document, if nothing in it stands against that. -/
def Node.toJson (layout : Json.Layout) (n : Node) : Except Fault Text :=
  match Json.obstacle? n.toData with
  | none => .ok (Json.write layout n.toData)
  | some .object => .error (.misuse .type)
  | some .longInteger => .error (.outOfRange .integerWritten)

end Offside
