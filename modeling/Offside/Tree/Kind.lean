import Offside.Interchange.Data

/-!
# Kinds of nodes

The trees that can be rendered are made of eighteen kinds of nodes.  Each kind has a name and a
list of fields.  A field has a name of its own, a key under which tree data keep it, and a
default if it may be left out.
-/

namespace Offside

/-- A field of a kind of nodes. -/
structure Field where
  name : Text
  /-- The key of the field in tree data. -/
  key : Text
  /-- The value of the field when it is left out. -/
  fallback : Option Scalar
deriving DecidableEq

/-- The kinds of nodes that a tree may have. -/
inductive Kind where
  | program
  | identifier
  | literal
  | arrayExpression
  | arrayPattern
  | binaryExpression
  | memberExpression
  | callExpression
  | assignmentExpression
  | updateExpression
  | expressionStatement
  | blockStatement
  | classDeclaration
  | classBody
  | ifStatement
  | forStatement
  | variableDeclaration
  | variableDeclarator
deriving DecidableEq

namespace Kind

/-- All kinds. -/
def all : List Kind :=
  [program, identifier, literal, arrayExpression, arrayPattern, binaryExpression,
    memberExpression, callExpression, assignmentExpression, updateExpression,
    expressionStatement, blockStatement, classDeclaration, classBody, ifStatement, forStatement,
    variableDeclaration, variableDeclarator]

/-- The name of a kind. -/
def name : Kind → Text
  | program => "Program"
  | identifier => "Identifier"
  | literal => "Literal"
  | arrayExpression => "ArrayExpression"
  | arrayPattern => "ArrayPattern"
  | binaryExpression => "BinaryExpression"
  | memberExpression => "MemberExpression"
  | callExpression => "CallExpression"
  | assignmentExpression => "AssignmentExpression"
  | updateExpression => "UpdateExpression"
  | expressionStatement => "ExpressionStatement"
  | blockStatement => "BlockStatement"
  | classDeclaration => "ClassDeclaration"
  | classBody => "ClassBody"
  | ifStatement => "IfStatement"
  | forStatement => "ForStatement"
  | variableDeclaration => "VariableDeclaration"
  | variableDeclarator => "VariableDeclarator"

/-- The kind with a name. -/
def ofName? (t : Text) : Option Kind := all.find? fun k => k.name = t

/-- The names of all kinds. -/
def names : List Text := all.map name

/-- A field that must be given. -/
def needed (name : String) : Field := ⟨name, name, none⟩

/-- A field that may be left out. -/
def optional (name : String) (fallback : Scalar) : Field := ⟨name, name, some fallback⟩

/-- The fields of a kind, in the order in which they are loaded. -/
def fields : Kind → List Field
  | program => [needed "body", ⟨"source_type", "sourceType", some (.text "script")⟩]
  | identifier => [needed "name"]
  | literal => [needed "raw", optional "value" .null]
  | arrayExpression => [needed "elements"]
  | arrayPattern => [needed "elements"]
  | binaryExpression => [needed "operator", needed "left", needed "right"]
  | memberExpression => [needed "object", needed "property", optional "computed" (.bool false)]
  | callExpression => [needed "callee", needed "arguments"]
  | assignmentExpression => [needed "operator", needed "left", needed "right"]
  | updateExpression => [needed "operator", needed "argument", optional "prefix" (.bool false)]
  | expressionStatement => [needed "expression"]
  | blockStatement => [needed "body"]
  | classDeclaration => [needed "id", ⟨"superclass", "superClass", none⟩, needed "body"]
  | classBody => [needed "body"]
  | ifStatement => [needed "test", needed "consequent", optional "alternate" .null]
  | forStatement => [needed "init", needed "test", needed "update", needed "body"]
  | variableDeclaration => [needed "kind", needed "declarations"]
  | variableDeclarator => [needed "id", optional "init" .null]

end Kind

end Offside
