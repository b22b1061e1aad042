import Offside.Logging
import Offside.Margin
import Offside.Portable

/-!
# Rendering

The renderer writes a tree as the text of a language whose blocks are told by their indentation.
An expression gives one piece of text; a statement gives lines, each behind the margin that the
statement stands at.  A block inside a statement stands one margin further in.

A loop with three clauses is a count if it declares one name with a value, tests it by a binary
operator and steps it by `++`; any other loop is unfolded into its first clause, a `while` and
its last clause.  A step may stand as a statement and as the last clause of a loop, and nowhere
else.

Literals and operators are forwarded as they are.  One that is not portable is refused in strict
mode, and told in a warning otherwise.
-/

namespace Offside

namespace Render

/-! ## Pieces -/

/-- What is written for a value that is missing. -/
def uninitialized : Text := "None"

/-- What is written for an element of a pattern that is missing. -/
def ignored : Text := "_"

/-- What is written for a block without statements. -/
def placeholder : Text := "pass"

/-- Join pieces with a separator; a piece that is no text does not allow it. -/
def joined (separator : Text) (pieces : List Value) : Logged Text :=
  match pieces.mapM fun v => match v with
    | .scalar (.text t) => some t
    | _ => none
  with
  | some ts => pure (Text.join separator ts)
  | none => .fail (.misuse .type)

/-- A literal. -/
def literal (strict : Bool) (loc : Location) (raw : Text) : Logged Text :=
  if Portable.isPortableLiteral raw then pure raw
  else if strict then
    .fail (.unsupported ⟨Kind.literal.name, [], some loc,
      some (raw ++ " has no identical Python spelling")⟩)
  else do
    Logged.tell (.literal raw loc)
    return raw

/-- A value that is a portable operator. -/
def isPortable : Value → Bool
  | .scalar (.text t) => Portable.isPortableOperator t
  | _ => false

/-- The operator of a node of a kind.  Only a constant can be looked for among the portable
ones. -/
def operator (strict : Bool) (kind : Kind) (loc : Location) (op : Value) : Logged Text :=
  if isPortable op then pure op.plain
  else if !op.isConstant then .fail (.misuse .type)
  else if strict then
    .fail (.unsupported ⟨kind.name, [], some loc,
      some ("operator " ++ op.display ++ " has no identical Python spelling")⟩)
  else do
    Logged.tell (.operator op.display loc)
    return op.plain

/-- An operand that is itself a binary expression is put in parentheses. -/
def wrapped (operand : Value) (t : Text) : Text :=
  match operand with
  | .node (.binaryExpression ..) => "(" ++ t ++ ")"
  | _ => t

/-- The operator of a step as a statement. -/
def stepOperator (op : Value) : Text :=
  match op with
  | .scalar (.text t) => if t = "++" then "+=" else "-="
  | _ => "-="

/-! ## Counting loops -/

/-- The value is an identifier. -/
def isIdentifier : Value → Bool
  | .node (.identifier ..) => true
  | _ => false

/-- The value is a binary expression. -/
def isBinary : Value → Bool
  | .node (.binaryExpression ..) => true
  | _ => false

/-- The value is a step by `++`. -/
def isIncrement : Value → Bool
  | .node (.updateExpression _ (.scalar (.text t)) _ _) => t = "++"
  | _ => false

/-- Something declares a name with a value.  What has no name does not allow to ask. -/
def declaresName : Value → Except Misuse Bool
  | .node (.variableDeclarator _ id init) => .ok (isIdentifier id && !init.isNull)
  | .node (.classDeclaration _ id _ _) => if isIdentifier id then .error .property else .ok false
  | _ => .error .property

/-- A loop with the given clauses is a count. -/
def isCount (init test update : Value) : Except Misuse Bool :=
  match init with
  | .node (.variableDeclaration _ _ (.list [d])) => do
    return (← declaresName d) && isBinary test && isIncrement update
  | .node (.variableDeclaration _ _ (.list _)) => .ok false
  | .node (.variableDeclaration _ _ (.scalar (.text t))) =>
    if t.length = 1 then .error .property else .ok false
  | .node (.variableDeclaration ..) => .error .type
  | _ => .ok false

/-- The first clause of a loop that carries its own margin. -/
def isDeclaration : Value → Bool
  | .node (.variableDeclaration ..) => true
  | _ => false

/-! ## Nodes -/

mutual

/-- Render a node at a margin. -/
def node (strict : Bool) (m : Margin) : Node → Logged Value
  | .identifier _ name => pure name
  | .literal loc raw _ => .text <$> literal strict loc raw
  | .arrayExpression _ elements => do
    let pieces ← parts strict m (some uninitialized) elements
    return .text ("[ " ++ (← joined ", " pieces) ++ " ]")
  | .arrayPattern _ elements => do
    let pieces ← parts strict m (some ignored) elements
    return .text ("[ " ++ (← joined ", " pieces) ++ " ]")
  | .binaryExpression loc op left right => do
    let l ← value strict m left
    let r ← value strict m right
    let o ← operator strict .binaryExpression loc op
    return .text (wrapped left l.plain ++ " " ++ o ++ " " ++ wrapped right r.plain)
  | .memberExpression _ object property _ => do
    let o ← value strict m object
    let p ← value strict m property
    return .text (o.plain ++ "." ++ p.plain)
  | .callExpression _ callee arguments => do
    let args ← joined ", " (← parts strict m none arguments)
    let f ← value strict m callee
    return .text (f.plain ++ "(" ++ args ++ ")")
  | .assignmentExpression loc op left right => do
    let o ← operator strict .assignmentExpression loc op
    let l ← value strict m left
    let r ← value strict m right
    return .text (l.plain ++ " " ++ o ++ " " ++ r.plain)
  | .updateExpression loc _ _ _ =>
    .fail (.unsupported ⟨Kind.updateExpression.name, [], some loc,
      some "only valid as a statement"⟩)
  | .variableDeclarator _ id init => do
    let i ← if init.isNull then pure (.text uninitialized) else value strict m init
    let n ← value strict m id
    return .text (n.plain ++ " = " ++ i.plain)
  | .program _ body _ => do
    return .text (← joined "\n" (← parts strict m none body))
  | .blockStatement _ body => block strict m body
  | .classBody _ body => block strict m body
  | .expressionStatement _ expression => do
    let t ← step strict m expression
    return .text (m.indent t.plain)
  | .variableDeclaration _ _ declarations => do
    let pieces ← parts strict m none declarations
    return .text (Text.join "\n" (pieces.map fun v => m.indent v.plain))
  | .classDeclaration _ id superclass body => do
    let base : Text ←
      if superclass.isNull then pure []
      else do
        let s ← value strict m superclass
        pure ("(" ++ s.plain ++ ")")
    let n ← value strict m id
    let header := m.indent ("class " ++ n.plain ++ base ++ ":")
    let b ← value strict m.enter body
    return .text (header ++ "\n" ++ b.plain)
  | .ifStatement _ test consequent alternate => do
    let t ← value strict m test
    let yes ← value strict m.enter consequent
    let header := Value.text (m.indent ("if " ++ t.plain ++ ":"))
    if alternate.isNull then return .text (← joined "\n" [header, yes])
    else
      let no ← value strict m.enter alternate
      return .text (← joined "\n" [header, yes, .text (m.indent "else:"), no])
  | .forStatement loc init test update body => do
    if ← .ofExcept ((isCount init test update).mapError .misuse) then
      match init, test with
      | .node (.variableDeclaration _ _
            (.list [.node (.variableDeclarator _ (.node (.identifier _ name)) first)])),
          .node (.binaryExpression _ _ _ last) => do
        let low ← value strict m first
        let high ← value strict m last
        let header : Text :=
          "for " ++ name.plain ++ " in range(" ++ low.plain ++ ", " ++ high.plain ++ "):"
        Logged.tell (.countingLoop name.plain loc)
        let b ← value strict m.enter body
        return .text (m.indent header ++ "\n" ++ b.plain)
      | _, _ => .fail (.misuse .property)
    else
      let first ←
        if init.isNull then pure []
        else do
          let i ← value strict m init
          pure [if isDeclaration init then i else .text (m.indent i.plain)]
      let t ← if test.isNull then pure (.text "True") else value strict m test
      let header := Value.text (m.indent ("while " ++ t.plain ++ ":"))
      let b ← value strict m.enter body
      let last ←
        if update.isNull then pure []
        else do
          let u ← step strict m update
          pure [Value.text (m.next ++ u.plain)]
      return .text (← joined "\n" (first ++ [header, b] ++ last))
  | .foreign kind loc => .fail (.unsupported ⟨kind, Kind.names, loc, none⟩)

/-- Render what a field holds; null gives no text. -/
def value (strict : Bool) (m : Margin) : Value → Logged Value
  | .scalar .null => pure (.text [])
  | .scalar s => .fail (.malformed (.notNode s.display))
  | .node n => node strict m n
  | .list items => .fail (.malformed (.notNode (Value.list items).display))

/-- Render an expression where a step may stand. -/
def step (strict : Bool) (m : Margin) : Value → Logged Value
  | .scalar .null => pure (.text [])
  | .scalar s => .fail (.malformed (.notNode s.display))
  | .node (.updateExpression _ op argument _) => do
    let a ← value strict m argument
    return .text (a.plain ++ " " ++ stepOperator op ++ " 1")
  | .node n => node strict m n
  | .list items => .fail (.malformed (.notNode (Value.list items).display))

/-- Render the statements of a block. -/
def block (strict : Bool) (m : Margin) : Value → Logged Value
  | .list [] => pure (.text (m.indent placeholder))
  | .list (v :: rest) => do
    return .text (← joined "\n" (← items strict m none (v :: rest)))
  | .scalar s =>
    if !s.truthy then pure (.text (m.indent placeholder))
    else match s with
      | .text (c :: _) => .fail (.malformed (.notNode (Text.quoted [c])))
      | _ => .fail (.misuse .type)
  | .node _ => .fail (.misuse .type)

/-- Render the items of a field, with something written in place of a missing one.  A text has
its characters for items, which are no nodes. -/
def parts (strict : Bool) (m : Margin) (hole : Option Text) : Value → Logged (List Value)
  | .list vs => items strict m hole vs
  | .scalar (.text []) => pure []
  | .scalar (.text (c :: _)) => .fail (.malformed (.notNode (Text.quoted [c])))
  | .scalar _ => .fail (.misuse .type)
  | .node _ => .fail (.misuse .type)

/-- Render items in order. -/
def items (strict : Bool) (m : Margin) (hole : Option Text) : List Value → Logged (List Value)
  | [] => pure []
  | v :: rest => do
    let piece ← match hole, v with
      | some t, .scalar .null => pure (.text t)
      | _, v => value strict m v
    return piece :: (← items strict m hole rest)

end

end Render

/-- Render a node at a margin. -/
def Node.render (strict : Bool) (m : Margin) (n : Node) : Logged Value := Render.node strict m n

end Offside
