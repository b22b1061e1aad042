import Offside.Tree.Kind
import Offside.Tree.Location

/-!
# Nodes

A tree is a node whose fields hold primitive values, other nodes or lists.  The loader checks
that the fields of a node are there, not what they hold, so that every field holds a `Value`; a
list has null where an item is missing.

The text of a literal is the one field that the loader does check.  A node of a foreign kind
cannot be loaded; it stands for what others hand to the renderer.
-/

namespace Offside

mutual

/-- A node of a tree. -/
inductive Node where
  | program (loc : Location) (body sourceType : Value)
  | identifier (loc : Location) (name : Value)
  | literal (loc : Location) (raw : Text) (value : Scalar)
  | arrayExpression (loc : Location) (elements : Value)
  | arrayPattern (loc : Location) (elements : Value)
  | binaryExpression (loc : Location) (operator left right : Value)
  | memberExpression (loc : Location) (object property computed : Value)
  | callExpression (loc : Location) (callee arguments : Value)
  | assignmentExpression (loc : Location) (operator left right : Value)
  | updateExpression (loc : Location) (operator argument inFront : Value)
  | expressionStatement (loc : Location) (expression : Value)
  | blockStatement (loc : Location) (body : Value)
  | classDeclaration (loc : Location) (id superclass body : Value)
  | classBody (loc : Location) (body : Value)
  | ifStatement (loc : Location) (test consequent alternate : Value)
  | forStatement (loc : Location) (init test update body : Value)
  | variableDeclaration (loc : Location) (kind declarations : Value)
  | variableDeclarator (loc : Location) (id init : Value)
  | foreign (kind : Text) (loc : Option Location)

/-- What a field of a node holds. -/
inductive Value where
  | scalar (s : Scalar)
  | node (n : Node)
  | list (items : List Value)

end

namespace Value

/-- The null value. -/
abbrev null : Value := .scalar .null

/-- A text as a value. -/
abbrev text (t : Text) : Value := .scalar (.text t)

instance : Inhabited Value := ⟨null⟩

/-- The null value. -/
def isNull : Value → Bool
  | .scalar .null => true
  | _ => false

/-- An empty list does not hold, and of the primitive values the empty ones; a node does. -/
def truthy : Value → Bool
  | .scalar s => s.truthy
  | .node _ => true
  | .list items => !items.isEmpty

end Value

namespace Node

instance : Inhabited Node := ⟨.foreign [] none⟩

/-- The name of the kind of a node. -/
def kindName : Node → Text
  | program .. => Kind.program.name
  | identifier .. => Kind.identifier.name
  | literal .. => Kind.literal.name
  | arrayExpression .. => Kind.arrayExpression.name
  | arrayPattern .. => Kind.arrayPattern.name
  | binaryExpression .. => Kind.binaryExpression.name
  | memberExpression .. => Kind.memberExpression.name
  | callExpression .. => Kind.callExpression.name
  | assignmentExpression .. => Kind.assignmentExpression.name
  | updateExpression .. => Kind.updateExpression.name
  | expressionStatement .. => Kind.expressionStatement.name
  | blockStatement .. => Kind.blockStatement.name
  | classDeclaration .. => Kind.classDeclaration.name
  | classBody .. => Kind.classBody.name
  | ifStatement .. => Kind.ifStatement.name
  | forStatement .. => Kind.forStatement.name
  | variableDeclaration .. => Kind.variableDeclaration.name
  | variableDeclarator .. => Kind.variableDeclarator.name
  | foreign kind _ => kind

/-- The location of a node; only a foreign one may lack it. -/
def location? : Node → Option Location
  | program loc .. | identifier loc .. | literal loc .. | arrayExpression loc ..
  | arrayPattern loc .. | binaryExpression loc .. | memberExpression loc ..
  | callExpression loc .. | assignmentExpression loc .. | updateExpression loc ..
  | expressionStatement loc .. | blockStatement loc .. | classDeclaration loc ..
  | classBody loc .. | ifStatement loc .. | forStatement loc .. | variableDeclaration loc ..
  | variableDeclarator loc .. => some loc
  | foreign _ loc => loc

/-- The fields of a node, with their names, in the order of its kind. -/
def fields : Node → List (Text × Value)
  | program _ body sourceType => [("body", body), ("source_type", sourceType)]
  | identifier _ name => [("name", name)]
  | literal _ raw value => [("raw", .text raw), ("value", .scalar value)]
  | arrayExpression _ elements => [("elements", elements)]
  | arrayPattern _ elements => [("elements", elements)]
  | binaryExpression _ operator left right =>
    [("operator", operator), ("left", left), ("right", right)]
  | memberExpression _ object property computed =>
    [("object", object), ("property", property), ("computed", computed)]
  | callExpression _ callee arguments => [("callee", callee), ("arguments", arguments)]
  | assignmentExpression _ operator left right =>
    [("operator", operator), ("left", left), ("right", right)]
  | updateExpression _ operator argument inFront =>
    [("operator", operator), ("argument", argument), ("prefix", inFront)]
  | expressionStatement _ expression => [("expression", expression)]
  | blockStatement _ body => [("body", body)]
  | classDeclaration _ id superclass body =>
    [("id", id), ("superclass", superclass), ("body", body)]
  | classBody _ body => [("body", body)]
  | ifStatement _ test consequent alternate =>
    [("test", test), ("consequent", consequent), ("alternate", alternate)]
  | forStatement _ init test update body =>
    [("init", init), ("test", test), ("update", update), ("body", body)]
  | variableDeclaration _ kind declarations => [("kind", kind), ("declarations", declarations)]
  | variableDeclarator _ id init => [("id", id), ("init", init)]
  | foreign _ _ => []

/-- The node of a kind whose fields are given by name.  None for a literal whose text is no text;
its value is dropped if it is no primitive value. -/
def ofFields? (kind : Kind) (loc : Location) (get : String → Value) : Option Node :=
  match kind with
  | .program => some (.program loc (get "body") (get "source_type"))
  | .identifier => some (.identifier loc (get "name"))
  | .literal =>
    match get "raw", get "value" with
    | .scalar (.text raw), .scalar value => some (.literal loc raw value)
    | .scalar (.text raw), _ => some (.literal loc raw .null)
    | _, _ => none
  | .arrayExpression => some (.arrayExpression loc (get "elements"))
  | .arrayPattern => some (.arrayPattern loc (get "elements"))
  | .binaryExpression => some (.binaryExpression loc (get "operator") (get "left") (get "right"))
  | .memberExpression =>
    some (.memberExpression loc (get "object") (get "property") (get "computed"))
  | .callExpression => some (.callExpression loc (get "callee") (get "arguments"))
  | .assignmentExpression =>
    some (.assignmentExpression loc (get "operator") (get "left") (get "right"))
  | .updateExpression =>
    some (.updateExpression loc (get "operator") (get "argument") (get "prefix"))
  | .expressionStatement => some (.expressionStatement loc (get "expression"))
  | .blockStatement => some (.blockStatement loc (get "body"))
  | .classDeclaration => some (.classDeclaration loc (get "id") (get "superclass") (get "body"))
  | .classBody => some (.classBody loc (get "body"))
  | .ifStatement => some (.ifStatement loc (get "test") (get "consequent") (get "alternate"))
  | .forStatement =>
    some (.forStatement loc (get "init") (get "test") (get "update") (get "body"))
  | .variableDeclaration => some (.variableDeclaration loc (get "kind") (get "declarations"))
  | .variableDeclarator => some (.variableDeclarator loc (get "id") (get "init"))

end Node

end Offside
