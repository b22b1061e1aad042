import Offside.Source.Productions

/-!
# Names, patterns and parameters

A pattern binds names: one of its own, or those in a list or an object that is taken apart.  The
parameters of a function are patterns as well.  Which of their names are refused depends on
strict mode, and a function may switch to it only in its body; so a parameter list keeps the
first name that strict mode would refuse, and whether it is simple enough for the switch.
-/

namespace Offside

namespace Source

namespace Binding

open Parse

/-- A name where a variable is meant. -/
def identifier (binder : Binder) : Parse Data := do
  let start ← here
  let t ← advance
  let c ← ask id
  if t.isKeyword "yield" then
    if c.strict then refuseToken t (some .strictReserved)
    else if !c.allowYield then unexpected t
  else if t.kind ≠ .identifier then
    if c.strict && t.kind == .keyword && strictReserved.contains t.text then
      refuseToken t (some .strictReserved)
    else if c.strict || t.text != Text.ofString "let" || binder ≠ .variable then unexpected t
  else if (c.isModule || c.await) && t.isName "await" then unexpected t
  finish start "Identifier" [("name", .text t.text)]

/-- A name, which may be a reserved word. -/
def anyName : Parse Data := do
  let start ← here
  let t ← advance
  if t.kind = .identifier ∨ t.kind = .keyword ∨ t.kind = .boolean ∨ t.kind = .null then
    finish start "Identifier" [("name", .text t.text)]
  else unexpected t

/-- The key of a property: a name, a string, a number, or an expression in brackets. -/
def propertyKey (g : Productions) : Parse Data := do
  let start ← here
  let t ← advance
  match t.kind with
  | .string | .number =>
    if t.octal && (← ask (·.strict)) then refuseToken t (some .strictOctal)
    finish start "Literal" [("value", .scalar t.value), ("raw", .text t.raw)]
  | .identifier | .boolean | .null | .keyword =>
    finish start "Identifier" [("name", .text t.text)]
  | .punctuator =>
    if t.isPunctuator "[" then
      let key ← isolated g.assignment
      expect "]"
      return key
    else unexpected t
  | _ => unexpected t

/-- The key of a property can begin with the token. -/
def startsKey (t : Token) : Bool :=
  match t.kind with
  | .identifier | .string | .boolean | .null | .number | .keyword => true
  | .punctuator => t.isPunctuator "["
  | _ => false

/-- A pattern that may have a default value. -/
def withDefault (g : Productions) (binder : Binder) : Parse (Data × List Token) := do
  let t := (← get).lookahead
  let (pattern, names) ← g.pattern binder
  if ← accept "=" then
    let right ← allowingYield true (isolated g.assignment)
    return (← finish (markerOf t 0) "AssignmentPattern" [("left", pattern), ("right", right)], names)
  else return (pattern, names)

/-- The last element of a list pattern, which takes what is left. -/
def restOfList (g : Productions) (binder : Binder) : Parse (Data × List Token) := do
  let start ← here
  expect "..."
  let (argument, names) ← g.pattern binder
  return (← finish start "RestElement" [("argument", argument)], names)

/-- The elements of a list pattern, up to its closing bracket. -/
def listElements (g : Productions) (binder : Binder) : Nat → Parse (List (Option Data) × List Token)
  | 0 => refuseLast .unexpectedEnd
  | fuel + 1 => do
    if ← sees "]" then return ([], [])
    else if ← accept "," then
      let (rest, names) ← listElements g binder fuel
      return (none :: rest, names)
    else if ← sees "..." then
      let (d, names) ← restOfList g binder
      return ([some d], names)
    else
      let (d, names) ← withDefault g binder
      if !(← sees "]") then expect ","
      let (rest, more) ← listElements g binder fuel
      return (some d :: rest, names ++ more)

/-- A pattern that takes a list apart. -/
def listPattern (g : Productions) (binder : Binder) : Parse (Data × List Token) := do
  let start ← here
  expect "["
  let (elements, names) ← listElements g binder (← bound)
  expect "]"
  return (← finish start "ArrayPattern" [("elements", holes elements)], names)

/-- The last property of an object pattern, which takes what is left. -/
def restOfObject (g : Productions) : Parse (Data × List Token) := do
  let start ← here
  expect "..."
  let (argument, names) ← g.pattern .parameter
  if ← sees "=" then refuseLast .restDefault
  if !(← sees "\x7d") then refuseLast .misplaced
  return (← finish start "RestElement" [("argument", argument)], names)

/-- A property of an object pattern. -/
def propertyPattern (g : Productions) (binder : Binder) : Parse (Data × List Token) := do
  let start ← here
  let t := (← get).lookahead
  let (value, names) ←
    if t.kind = .identifier then
      discard (identifier .parameter)
      let name ← finish start "Identifier" [("name", .text t.text)]
      if ← accept "=" then
        let right ← g.assignment
        pure (← finish (markerOf t 0) "AssignmentPattern" [("left", name), ("right", right)], [t])
      else if ← accept ":" then withDefault g binder
      else pure (name, [t])
    else
      discard (propertyKey g)
      expect ":"
      withDefault g binder
  return (← finish start "Property" [("value", value)], names)

/-- A pattern that takes an object apart. -/
def objectPattern (g : Productions) (binder : Binder) : Parse (Data × List Token) := do
  let start ← here
  expect "\x7b"
  let parts ← upTo "\x7d" do
    let part ← if ← sees "..." then restOfObject g else propertyPattern g binder
    if !(← sees "\x7d") then expect ","
    return part
  expect "\x7d"
  let node ← finish start "ObjectPattern" [("properties", .list (parts.map (·.1)))]
  return (node, parts.flatMap (·.2))

/-- A pattern. -/
def pattern (g : Productions) (binder : Binder) : Parse (Data × List Token) := do
  if ← sees "[" then listPattern g binder
  else if ← sees "\x7b" then objectPattern g binder
  else
    let t := (← get).lookahead
    if t.isKeyword "let" && binder == .lexical then refuseToken t (some .lexicalLet)
    return (← identifier binder, [t])

/-! ## Parameters -/

/-- What a parameter list is refused for: a token, or a node that has none. -/
inductive Culprit where
  | token (t : Token)
  | node

/-- Refuse the text because of a culprit. -/
def refuseCulprit {α : Type} (who : Culprit) (problem : Problem) : Parse α :=
  match who with
  | .token t => refuseToken t (some problem)
  | .node => refuseLast problem

/-- The parameters of a function. -/
structure Parameters where
  nodes : List Data
  /-- All parameters are plain names. -/
  simple : Bool
  names : List Text
  /-- What strict mode refuses. -/
  culprit : Option Culprit
  /-- What is refused if the function is strict from its head on, or binds a name twice. -/
  repeated : Option Culprit
  problem : Option Problem

/-- No parameters. -/
def Parameters.empty : Parameters := ⟨[], true, [], none, none, none⟩

/-- The problem of a name of a function or parameter that strict mode refuses. -/
def strictProblem? (restrictedName : Problem) (name : Text) : Option Problem :=
  if restricted.contains name then some restrictedName
  else if strictReserved.contains name then some .strictReserved
  else none

/-- One more name among the parameters. -/
def Parameters.bind (strict : Bool) (who : Culprit) (name : Text) (ps : Parameters) : Parameters :=
  let again := ps.names.contains name
  let checked :=
    if strict then
      if again then { ps with repeated := some who, problem := some .strictParameterTwice }
      else if restricted.contains name then
        { ps with repeated := some who, problem := some .strictParameterName }
      else ps
    else if ps.culprit.isSome then ps
    else match strictProblem? .strictParameterName name with
      | some problem => { ps with culprit := some who, problem := some problem }
      | none =>
        if again then { ps with repeated := some who, problem := some .strictParameterTwice } else ps
  { checked with names := name :: ps.names }

/-- In strict mode, refuse parameters that are not allowed there. -/
def Parameters.check (ps : Parameters) : Parse Unit := do
  if ← ask (·.strict) then
    match ps.culprit <|> ps.repeated with
    | some who => refuseCulprit who (ps.problem.getD .illegal)
    | none => return

/-- The last parameter, which takes what is left. -/
def restParameter (g : Productions) : Parse (Data × List Token) := do
  let start ← here
  expect "..."
  let (argument, names) ← g.pattern .parameter
  if ← sees "=" then refuseLast .restDefault
  if !(← sees ")") then refuseLast .restNotLast
  return (← finish start "RestElement" [("argument", argument)], names)

/-- One more parameter. -/
def parameter (g : Productions) (ps : Parameters) : Parse Parameters := do
  let (d, names) ← if ← sees "..." then restParameter g else withDefault g .parameter
  let strict ← ask (·.strict)
  let ps := names.foldl (fun ps t => ps.bind strict (.token t) t.text) ps
  return { ps with simple := ps.simple && isKind "Identifier" d, nodes := ps.nodes ++ [d] }

/-- The parameters up to the closing parenthesis. -/
def parametersRest (g : Productions) : Nat → Parameters → Parse Parameters
  | 0, _ => refuseLast .unexpectedEnd
  | fuel + 1, ps => do
    if ← seesKind .endOfText then return ps
    else
      let ps ← parameter g ps
      if ← sees ")" then return ps
      else
        expect ","
        if ← sees ")" then return ps else parametersRest g fuel ps

/-- The parameters of a function in parentheses, after what its name has been refused for. -/
def parameters (g : Productions) (ps : Parameters) : Parse Parameters := do
  expect "("
  let ps ← if ← sees ")" then pure ps else parametersRest g (← bound) ps
  expect ")"
  return ps

end Binding

end Source

end Offside
