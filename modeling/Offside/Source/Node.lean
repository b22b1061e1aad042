import Offside.Interchange.Data

/-!
# Nodes of a parsed tree

The parser answers with tree data, so that a parsed text and a tree that is handed over take the
same way from there on.  A node is an object with a kind, the fields of that kind, and its place
as lines with columns from zero and as offsets.

This file reads and builds such objects.  It also tells how a finished expression is read as a
pattern: the left side of an assignment and the parameters of an arrow are known to be patterns
only after they have been parsed as expressions.
-/

namespace Offside

namespace Source

/-- A place that a node can begin or end at. -/
structure Marker where
  offset : Nat
  line : Nat
  column : Int

/-- A marker as a line with a column. -/
def Marker.data (m : Marker) : Data :=
  .object .attributes [("line", .int m.line), ("column", .int m.column)]

/-- Entries of a node, with their keys as text. -/
def entries (fields : List (String × Data)) : List (Text × Data) :=
  fields.map fun (key, d) => (Text.ofString key, d)

/-- A node without a place. -/
def placelessNode (kind : String) (fields : List (String × Data)) : Data :=
  .object .attributes (("type", .text kind) :: entries fields)

/-- A node between two places. -/
def nodeBetween (start stop : Marker) (kind : String) (fields : List (String × Data)) : Data :=
  placelessNode kind (fields ++
    [("range", .list [.int start.offset, .int stop.offset]),
      ("loc", .object .attributes (entries [("start", start.data), ("end", stop.data)]))])

/-- The kind that the entries of a node name. -/
def kindAmong (fields : List (Text × Data)) : Text :=
  match fields.lookup (Text.ofString "type") with
  | some (.scalar (.text kind)) => kind
  | _ => []

/-- The node is of the given kind. -/
def isKind (kind : String) : Data → Bool
  | .object _ fields => kindAmong fields == Text.ofString kind
  | _ => false

/-- The text that a node keeps under a key. -/
def textUnder (key : String) (d : Data) : Text :=
  match d.entry key with
  | .scalar (.text t) => t
  | _ => []

/-- The nodes that a node keeps in a list under a key. -/
def nodesUnder (key : String) (d : Data) : List Data :=
  match d.entry key with
  | .list items => items
  | _ => []

/-- The name of a node that is an identifier. -/
def identifierName? (d : Data) : Option Text :=
  if isKind "Identifier" d then some (textUnder "name" d) else none

/-- The property key is the given name, as an identifier or as a string. -/
def isPropertyKey (name : String) (key : Data) : Bool :=
  identifierName? key == some (Text.ofString name)
    || (isKind "Literal" key && (key.entry "value").eqv (.text name))

/-! ## Expressions read as patterns -/

/-- The kind of a pattern that an expression of a kind is read as. -/
def patternKind (kind : Text) : Text :=
  if kind = "SpreadElement" then "RestElement"
  else if kind = "ArrayExpression" then "ArrayPattern"
  else if kind = "ObjectExpression" then "ObjectPattern"
  else if kind = "AssignmentExpression" then "AssignmentPattern"
  else kind

/-- The field in which a node of a kind keeps what is a pattern when the node is one. -/
def patternField? (kind : Text) : Option Text :=
  if kind = "SpreadElement" then some "argument"
  else if kind = "ArrayExpression" then some "elements"
  else if kind = "ObjectExpression" then some "properties"
  else if kind = "Property" then some "value"
  else if kind = "AssignmentExpression" then some "left"
  else none

mutual

/-- An expression read as a pattern. -/
def asPattern : Data → Data
  | .scalar s => .scalar s
  | .list items => .list (asPatterns items)
  | .object shape fields => .object shape (asPatternFields (kindAmong fields) fields)

/-- Expressions read as patterns. -/
def asPatterns : List Data → List Data
  | [] => []
  | d :: rest => asPattern d :: asPatterns rest

/-- The fields of an expression of a kind that is read as a pattern. -/
def asPatternFields (kind : Text) : List (Text × Data) → List (Text × Data)
  | [] => []
  | (key, d) :: rest =>
    let d' :=
      if key = "type" then .text (patternKind kind)
      else if patternField? kind = some key then asPattern d
      else d
    (key, d') :: asPatternFields kind rest

end

/-- The field in which a pattern of a kind keeps the patterns inside it. -/
def innerField? (kind : Text) : Option Text :=
  if kind = "RestElement" then some "argument"
  else if kind = "AssignmentPattern" then some "left"
  else if kind = "ArrayPattern" then some "elements"
  else if kind = "ObjectPattern" then some "properties"
  else if kind = "Property" then some "value"
  else none

mutual

/-- The names that a pattern binds, in order. -/
def boundNames : Data → List Text
  | .scalar _ => []
  | .list items => boundNamesOfAll items
  | .object _ fields => boundNamesOfFields (kindAmong fields) fields

/-- The names that patterns bind, in order. -/
def boundNamesOfAll : List Data → List Text
  | [] => []
  | d :: rest => boundNames d ++ boundNamesOfAll rest

/-- The names that the fields of a pattern of a kind bind. -/
def boundNamesOfFields (kind : Text) : List (Text × Data) → List Text
  | [] => []
  | (key, d) :: rest =>
    let names :=
      if kind = "Identifier" ∧ key = "name" then
        match d with
        | .scalar (.text name) => [name]
        | _ => []
      else if innerField? kind = some key then boundNames d
      else []
    names ++ boundNamesOfFields kind rest

end

end Source

end Offside
