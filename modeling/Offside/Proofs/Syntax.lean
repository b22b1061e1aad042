import Offside.Convert
import Offside.Proofs.Loops

/-!
# Well-typed trees

The fields of a node may hold any value, and the renderer has an answer for all of them.  The
trees that come from a source text are of a narrower sort: an operand is an expression, a body is
a list of statements, a name is a text.  This file gives these trees types of their own, one for
each sort, so that a tree with a field of a wrong sort cannot be built.  `toNode` takes a
well-typed tree to the tree that is rendered.

An expression and a pattern share identifiers and member access; only a pattern is assigned to.
Elements of arrays may be missing.  A declaration declares something.  A loop may lack any of its
clauses, and its first clause is a declaration or an expression.
-/

namespace Offside

namespace Syntax

/-! ## Expressions -/

/-- The operator of a step. -/
inductive StepOperator where
  | increment
  | decrement
deriving DecidableEq

/-- How the operator of a step is spelled. -/
def StepOperator.spelling : StepOperator → Text
  | .increment => "++"
  | .decrement => "--"

mutual

/-- A well-typed expression. -/
inductive Expression where
  | identifier (loc : Location) (name : Text)
  | literal (loc : Location) (raw : Text) (value : Scalar)
  | array (loc : Location) (elements : List (Option Expression))
  | binary (loc : Location) (operator : Text) (left right : Expression)
  | member (loc : Location) (object property : Expression) (computed : Bool)
  | call (loc : Location) (callee : Expression) (arguments : List Expression)
  | assignment (loc : Location) (operator : Text) (target : Pattern) (value : Expression)
  | step (loc : Location) (operator : StepOperator) (argument : Expression) (inFront : Bool)

/-- A well-typed pattern. -/
inductive Pattern where
  | identifier (loc : Location) (name : Text)
  | array (loc : Location) (elements : List (Option Pattern))
  | member (loc : Location) (object property : Expression) (computed : Bool)

end

mutual

/-- An expression as a node. -/
def Expression.toNode : Expression → Node
  | .identifier loc name => .identifier loc (.text name)
  | .literal loc raw value => .literal loc raw value
  | .array loc elements => .arrayExpression loc (.list (elementsToValues elements))
  | .binary loc operator left right =>
    .binaryExpression loc (.text operator) (.node left.toNode) (.node right.toNode)
  | .member loc object property computed =>
    .memberExpression loc (.node object.toNode) (.node property.toNode) (.scalar (.bool computed))
  | .call loc callee arguments =>
    .callExpression loc (.node callee.toNode) (.list (argumentsToValues arguments))
  | .assignment loc operator target value =>
    .assignmentExpression loc (.text operator) (.node target.toNode) (.node value.toNode)
  | .step loc operator argument inFront =>
    .updateExpression loc (.text operator.spelling) (.node argument.toNode)
      (.scalar (.bool inFront))

/-- A pattern as a node. -/
def Pattern.toNode : Pattern → Node
  | .identifier loc name => .identifier loc (.text name)
  | .array loc elements => .arrayPattern loc (.list (targetsToValues elements))
  | .member loc object property computed =>
    .memberExpression loc (.node object.toNode) (.node property.toNode) (.scalar (.bool computed))

/-- The elements of an array; a missing one is null. -/
def elementsToValues : List (Option Expression) → List Value
  | [] => []
  | none :: rest => .null :: elementsToValues rest
  | some e :: rest => .node e.toNode :: elementsToValues rest

/-- The elements of an array pattern; a missing one is null. -/
def targetsToValues : List (Option Pattern) → List Value
  | [] => []
  | none :: rest => .null :: targetsToValues rest
  | some p :: rest => .node p.toNode :: targetsToValues rest

/-- The arguments of a call. -/
def argumentsToValues : List Expression → List Value
  | [] => []
  | e :: rest => .node e.toNode :: argumentsToValues rest

end

/-- An expression that may be missing, as what a field holds. -/
def Expression.toValue : Option Expression → Value
  | none => .null
  | some e => .node e.toNode

/-! ## Statements -/

/-- The words that declare variables. -/
inductive DeclarationKind where
  | var
  | lexical
  | constant
deriving DecidableEq

/-- How a word that declares variables is spelled. -/
def DeclarationKind.spelling : DeclarationKind → Text
  | .var => "var"
  | .lexical => "let"
  | .constant => "const"

/-- A variable with its value, if it has one. -/
structure Declarator where
  loc : Location
  target : Pattern
  value : Option Expression

/-- A declarator as a node. -/
def Declarator.toNode (d : Declarator) : Node :=
  .variableDeclarator d.loc (.node d.target.toNode) (Expression.toValue d.value)

/-- A declaration of variables, of which there is at least one. -/
structure Declaration where
  loc : Location
  kind : DeclarationKind
  first : Declarator
  more : List Declarator

/-- The variables of a declaration. -/
def Declaration.declarators (d : Declaration) : List Declarator := d.first :: d.more

/-- A declaration as a node. -/
def Declaration.toNode (d : Declaration) : Node :=
  .variableDeclaration d.loc (.text d.kind.spelling)
    (.list (d.declarators.map fun x => .node x.toNode))

/-- The first clause of a loop. -/
inductive Opening where
  | declaration (d : Declaration)
  | expression (e : Expression)

/-- The first clause of a loop, which may be missing, as what a field holds. -/
def Opening.toValue : Option Opening → Value
  | none => .null
  | some (.declaration d) => .node d.toNode
  | some (.expression e) => .node e.toNode

/-- A well-typed statement. -/
inductive Statement where
  | expression (loc : Location) (e : Expression)
  | block (loc : Location) (body : List Statement)
  | classDeclaration (loc idLoc : Location) (name : Text) (base : Option Expression)
    (bodyLoc : Location) (body : List Statement)
  | conditional (loc : Location) (test : Expression) (yes : Statement) (no : Option Statement)
  | loop (loc : Location) (init : Option Opening) (test update : Option Expression)
    (body : Statement)
  | declaration (d : Declaration)

mutual

/-- A statement as a node. -/
def Statement.toNode : Statement → Node
  | .expression loc e => .expressionStatement loc (.node e.toNode)
  | .block loc body => .blockStatement loc (.list (statementsToValues body))
  | .classDeclaration loc idLoc name base bodyLoc body =>
    .classDeclaration loc (.node (.identifier idLoc (.text name))) (Expression.toValue base)
      (.node (.classBody bodyLoc (.list (statementsToValues body))))
  | .conditional loc test yes none =>
    .ifStatement loc (.node test.toNode) (.node yes.toNode) .null
  | .conditional loc test yes (some no) =>
    .ifStatement loc (.node test.toNode) (.node yes.toNode) (.node no.toNode)
  | .loop loc init test update body =>
    .forStatement loc (Opening.toValue init) (Expression.toValue test) (Expression.toValue update)
      (.node body.toNode)
  | .declaration d => d.toNode

/-- The statements of a body. -/
def statementsToValues : List Statement → List Value
  | [] => []
  | s :: rest => .node s.toNode :: statementsToValues rest

end

/-- A well-typed program. -/
structure Program where
  loc : Location
  body : List Statement
  sourceType : Source.SourceType

/-- A program as a node. -/
def Program.toNode (p : Program) : Node :=
  .program p.loc (.list (statementsToValues p.body)) (.text p.sourceType.word)

/-- What is written as lines: a statement or a program. -/
inductive Passage where
  | statement (s : Statement)
  | program (p : Program)

/-- A statement or a program as a node. -/
def Passage.toNode : Passage → Node
  | statement s => s.toNode
  | program p => p.toNode

/-! ## Statements inside statements -/

mutual

/-- A statement and all statements inside it. -/
def Statement.parts : Statement → List Statement
  | .expression loc e => [.expression loc e]
  | .block loc body => .block loc body :: partsOfAll body
  | .classDeclaration loc idLoc name base bodyLoc body =>
    .classDeclaration loc idLoc name base bodyLoc body :: partsOfAll body
  | .conditional loc test yes none => .conditional loc test yes none :: yes.parts
  | .conditional loc test yes (some no) =>
    .conditional loc test yes (some no) :: (yes.parts ++ no.parts)
  | .loop loc init test update body => .loop loc init test update body :: body.parts
  | .declaration d => [.declaration d]

/-- The statements of a body and all statements inside them. -/
def partsOfAll : List Statement → List Statement
  | [] => []
  | s :: rest => s.parts ++ partsOfAll rest

end

/-- All statements of a program. -/
def Program.parts (p : Program) : List Statement := partsOfAll p.body

end Syntax

end Offside
