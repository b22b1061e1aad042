import Offside.Tree.Node

/-!
# Folding a tree

Whatever is computed from a tree bottom up, with no regard to the kinds of its nodes, is a fold:
it says what a primitive value gives, what a list gives from its items, and what a node gives
from its fields.  The form in which messages show a node is such a fold, and so are the test
whether a value can change and the form in which two trees are compared.
-/

namespace Offside

/-- What a fold does with each part of a tree. -/
structure Folder (α : Type) where
  scalar : Scalar → α
  list : List α → α
  /-- The node itself is at hand, together with what its fields give. -/
  node : Node → List (Text × α) → α

mutual

/-- Fold a node. -/
def Node.fold {α : Type} (f : Folder α) : Node → α
  | .program loc body sourceType =>
    f.node (.program loc body sourceType)
      [("body", body.fold f), ("source_type", sourceType.fold f)]
  | .identifier loc name => f.node (.identifier loc name) [("name", name.fold f)]
  | .literal loc raw value =>
    f.node (.literal loc raw value) [("raw", f.scalar (.text raw)), ("value", f.scalar value)]
  | .arrayExpression loc elements =>
    f.node (.arrayExpression loc elements) [("elements", elements.fold f)]
  | .arrayPattern loc elements =>
    f.node (.arrayPattern loc elements) [("elements", elements.fold f)]
  | .binaryExpression loc operator left right =>
    f.node (.binaryExpression loc operator left right)
      [("operator", operator.fold f), ("left", left.fold f), ("right", right.fold f)]
  | .memberExpression loc object property computed =>
    f.node (.memberExpression loc object property computed)
      [("object", object.fold f), ("property", property.fold f), ("computed", computed.fold f)]
  | .callExpression loc callee arguments =>
    f.node (.callExpression loc callee arguments)
      [("callee", callee.fold f), ("arguments", arguments.fold f)]
  | .assignmentExpression loc operator left right =>
    f.node (.assignmentExpression loc operator left right)
      [("operator", operator.fold f), ("left", left.fold f), ("right", right.fold f)]
  | .updateExpression loc operator argument inFront =>
    f.node (.updateExpression loc operator argument inFront)
      [("operator", operator.fold f), ("argument", argument.fold f), ("prefix", inFront.fold f)]
  | .expressionStatement loc expression =>
    f.node (.expressionStatement loc expression) [("expression", expression.fold f)]
  | .blockStatement loc body => f.node (.blockStatement loc body) [("body", body.fold f)]
  | .classDeclaration loc id superclass body =>
    f.node (.classDeclaration loc id superclass body)
      [("id", id.fold f), ("superclass", superclass.fold f), ("body", body.fold f)]
  | .classBody loc body => f.node (.classBody loc body) [("body", body.fold f)]
  | .ifStatement loc test consequent alternate =>
    f.node (.ifStatement loc test consequent alternate)
      [("test", test.fold f), ("consequent", consequent.fold f), ("alternate", alternate.fold f)]
  | .forStatement loc init test update body =>
    f.node (.forStatement loc init test update body)
      [("init", init.fold f), ("test", test.fold f), ("update", update.fold f),
        ("body", body.fold f)]
  | .variableDeclaration loc kind declarations =>
    f.node (.variableDeclaration loc kind declarations)
      [("kind", kind.fold f), ("declarations", declarations.fold f)]
  | .variableDeclarator loc id init =>
    f.node (.variableDeclarator loc id init) [("id", id.fold f), ("init", init.fold f)]
  | .foreign kind loc => f.node (.foreign kind loc) []

/-- Fold what a field holds. -/
def Value.fold {α : Type} (f : Folder α) : Value → α
  | .scalar s => f.scalar s
  | .node n => n.fold f
  | .list items => f.list (Value.foldItems f items)

/-- Fold the items of a list. -/
def Value.foldItems {α : Type} (f : Folder α) : List Value → List α
  | [] => []
  | v :: rest => v.fold f :: Value.foldItems f rest

end

/-- A fold sees the fields of a node as `Node.fields` lists them. -/
theorem Node.fold_eq_node_fields {α : Type} (f : Folder α) (n : Node) :
    n.fold f = f.node n (n.fields.map fun (name, v) => (name, v.fold f)) := by
  cases n <;> rfl

/-- The items of a list are folded one by one. -/
theorem Value.foldItems_eq_map {α : Type} (f : Folder α) (items : List Value) :
    Value.foldItems f items = items.map (Value.fold f) := by
  induction items with
  | nil => rfl
  | cons v rest ih => rw [Value.foldItems, ih, List.map_cons]

/-! ## Showing a tree -/

/-- Items between parentheses; a single item keeps a comma behind it. -/
def displayTuple : List Text → Text
  | [t] => "(" ++ t ++ ",)"
  | ts => "(" ++ Text.join ", " ts ++ ")"

/-- The form in which messages show the parts of a tree. -/
def displayFolder : Folder Text where
  scalar := Scalar.display
  list := displayTuple
  node n shown :=
    let place := match n.location? with
      | some loc => loc.display
      | none => Scalar.null.display
    n.kindName ++ "("
      ++ Text.join ", " (("location=" ++ place) :: shown.map fun (name, t) => name ++ "=" ++ t)
      ++ ")"

/-- A value as messages show it. -/
def Value.display (v : Value) : Text := v.fold displayFolder

/-- A value as it is written into running text: text as it is, all else as messages show it. -/
def Value.plain : Value → Text
  | .scalar s => s.plain
  | v => v.display

/-! ## Constant values -/

/-- Tree data that cannot change; lists and dictionaries can. -/
def Data.isConstant : Data → Bool
  | .scalar _ => true
  | .list _ | .object .dict _ => false
  | .object _ _ => true

/-- A tree is constant if all its parts are, the locations of its nodes included. -/
def constantFolder : Folder Bool where
  scalar _ := true
  list items := items.all id
  node n parts :=
    n.location?.all (fun loc => loc.fields.all fun (_, d) => d.isConstant)
      && parts.all fun (_, isConstant) => isConstant

/-- A value that cannot change, so that it may be looked for in a set. -/
def Value.isConstant (v : Value) : Bool := v.fold constantFolder

/-! ## Comparing trees -/

/-- All that is known of a node as tree data, its location included. -/
def recordFolder : Folder Data where
  scalar := Data.scalar
  list := Data.list
  node n parts :=
    let place := match n.location? with
      | some loc => Data.dict loc.fields
      | none => .null
    .dict (("type", .text n.kindName) :: ("location", place) :: parts)

/-- Equality of trees, locations included, with numbers compared by size. -/
def Node.eqv (a b : Node) : Bool := (a.fold recordFolder).eqv (b.fold recordFolder)

end Offside
