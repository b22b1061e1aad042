import Offside.Source.Parse

/-!
# Productions that occur inside each other

The grammar is recursive: an expression may hold a function, whose body holds statements, which
hold expressions.  Each production is written over a record of those that it needs further in,
and the record is closed at the end by counting the depth.
-/

namespace Offside

namespace Source

/-- What a name is bound by. -/
inductive Binder where
  | parameter
  | variable
  /-- A declaration by `let` or `const`. -/
  | lexical
deriving DecidableEq

/-- The productions that others hold. -/
structure Productions where
  /-- An expression without a comma on its top level. -/
  assignment : Parse Data
  /-- An operand of a binary operator. -/
  operand : Parse Data
  /-- An expression that an operator stands in front of, or none. -/
  unary : Parse Data
  /-- An expression with calls and members. -/
  chain : Parse Data
  /-- What follows the word `new`, with that word. -/
  construction : Parse Data
  /-- A pattern, with the tokens of the names that it binds. -/
  pattern : Binder → Parse (Data × List Token)
  statement : Parse Data
  /-- A statement or a declaration. -/
  item : Parse Data

/-- The data of a list of nodes, some of which may be missing. -/
def holes (nodes : List (Option Data)) : Data := .list (nodes.map fun d => d.getD .null)

namespace Productions

open Parse

/-- A comma separated sequence of expressions that began with the given token, the first of them
already parsed. -/
def sequenceFrom (g : Productions) (t : Token) (first : Data) : Parse Data := do
  if ← sees "," then
    let rest ← afterEach "," (isolated g.assignment)
    finish (markerOf t 0) "SequenceExpression" [("expressions", .list (first :: rest))]
  else return first

/-- An expression. -/
def expression (g : Productions) : Parse Data := do
  let t := (← get).lookahead
  g.sequenceFrom t (← isolated g.assignment)

/-- An expression in parentheses. -/
def condition (g : Productions) : Parse Data := do
  expect "("
  let test ← g.expression
  expect ")"
  return test

end Productions

end Source

end Offside
