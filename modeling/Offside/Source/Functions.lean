import Offside.Source.Binding

/-!
# Functions

A function has a name in most places, a list of parameters and a body.  The body begins with
directives: string literals that stand as statements of their own.  The directive `use strict`
switches the rest of the function to strict mode, and what was parsed of its head is then
checked again.
-/

namespace Offside

namespace Source

namespace Functions

open Parse Binding

/-! ## Bodies -/

/-- A statement that may be a directive, with the directive if it is one. -/
def directive (g : Productions) : Parse (Data × Text) := do
  let t := (← get).lookahead
  let start ← here
  let expression ← g.expression
  let text := if isKind "Literal" expression then (t.raw.drop 1).dropLast else []
  endStatement
  return (← finish start "ExpressionStatement" [("expression", expression)], text)

/-- The directives at the beginning of a body; `octal` is the first of them with an octal
escape. -/
def directives (g : Productions) : Nat → Option Token → Parse (List Data)
  | 0, _ => refuseLast .unexpectedEnd
  | fuel + 1, octal => do
    let t := (← get).lookahead
    if t.kind ≠ .string then return []
    let (d, text) ← directive g
    if text.isEmpty then return [d]
    else if text = "use strict" then
      change fun c => { c with strict := true }
      if let some t := octal then refuseToken t (some .strictOctal)
      if !(← ask (·.allowStrictDirective)) then refuseToken t (some .strictDirective)
      return d :: (← directives g fuel octal)
    else return d :: (← directives g fuel (octal <|> if t.octal then some t else none))

/-- The body of a function. -/
def body (g : Productions) : Parse Data := do
  let start ← here
  expect "\x7b"
  let first ← directives g (← bound) none
  within
    (fun c => { c with labels := [], inLoop := false, inSwitch := false, inFunction := true })
    (fun before c => { c with
      labels := before.labels, inLoop := before.inLoop, inSwitch := before.inSwitch
      inFunction := before.inFunction })
    do
      let stop : Parse Bool := do return (← sees "\x7d") || (← seesKind .endOfText)
      let rest ← untilStop stop g.item (← bound)
      expect "\x7d"
      finish start "BlockStatement" [("body", .list (first ++ rest))]

/-- The body of a function after its parameters, which are checked again if the function is
strict.  A function is as strict as its surroundings where it ends. -/
def bodyAfter (parse : Parse Data) (ps : Parameters) : Parse Data :=
  within (fun c => { c with allowStrictDirective := ps.simple })
    (fun before c => { c with
      strict := before.strict, allowStrictDirective := before.allowStrictDirective })
    do
      let d ← parse
      ps.check
      return d

/-! ## Named functions -/

/-- The name of a function, and what it is refused for in strict mode. -/
def nameWith (name : Parse Data) : Parse (Data × Parameters) := do
  let t := (← get).lookahead
  let d ← name
  let strict ← ask (·.strict)
  if strict then
    if restricted.contains t.text then refuseToken t (some .strictFunctionName)
    return (d, .empty)
  else match strictProblem? .strictFunctionName t.text with
    | some problem =>
      return (d, { Parameters.empty with culprit := some (.token t), problem := some problem })
    | none => return (d, .empty)

/-- Parse a part inside a function, where `await` and `yield` have the meaning that the function
gives them. -/
def inside {α : Type} (isAsync isGenerator : Bool) (p : Parse α) : Parse α :=
  within (fun c => { c with await := isAsync, allowYield := !isGenerator })
    (fun before c => { c with await := before.await, allowYield := before.allowYield }) p

/-- A finished function. -/
def finishFunction (start : Marker) (kind : String) (name : Data) (ps : Parameters) (d : Data)
    (isAsync isGenerator : Bool) : Parse Data :=
  finish start kind
    [("id", name), ("params", .list ps.nodes), ("body", d), ("generator", .bool isGenerator),
      ("expression", .bool false), ("async", .bool isAsync)]

/-- The words and marks in front of the name of a function: whether it is asynchronous and
whether it is a generator. -/
def functionHead : Parse (Bool × Bool) := do
  let isAsync ← seesName "async"
  if isAsync then discard advance
  expectKeyword "function"
  let isGenerator ← if isAsync then pure false else accept "*"
  return (isAsync, isGenerator)

/-- A declaration of a function. -/
def declaration (g : Productions) (nameIsOptional : Bool) : Parse Data := do
  let start ← here
  let (isAsync, isGenerator) ← functionHead
  let (name, ps) ←
    if nameIsOptional && (← sees "(") then pure (Data.null, Parameters.empty)
    else nameWith (identifier .parameter)
  let (ps, d) ← inside isAsync isGenerator do
    let ps ← parameters g ps
    return (ps, ← bodyAfter (body g) ps)
  finishFunction start "FunctionDeclaration" name ps d isAsync isGenerator

/-- A function as an expression. -/
def functionExpression (g : Productions) : Parse Data := do
  let start ← here
  let (isAsync, isGenerator) ← functionHead
  let (name, ps, d) ← inside isAsync isGenerator do
    let (name, ps) ←
      if ← sees "(" then pure (Data.null, Parameters.empty)
      else if !isGenerator && !(← ask (·.strict)) && (← seesKeyword "yield") then nameWith anyName
      else nameWith (identifier .parameter)
    let ps ← parameters g ps
    return (name, ps, ← bodyAfter (body g) ps)
  finishFunction start "FunctionExpression" name ps d isAsync isGenerator

/-! ## Methods -/

/-- The body of a method after its parameters. -/
def methodBody (g : Productions) (ps : Parameters) : Parse Data := do
  settle
  bodyAfter (isolated (body g)) ps

/-- A method. -/
def method (g : Productions) (isAsync : Bool) : Parse Data := do
  let start ← here
  let await ← ask (·.await)
  let (ps, d) ←
    within (fun c => { c with await := isAsync || await, allowYield := !isAsync })
      (fun before c => { c with await := before.await, allowYield := before.allowYield })
      do
        let ps ← parameters g .empty
        return (ps, ← methodBody g ps)
  finishFunction start "FunctionExpression" .null ps d isAsync false

/-- A method that is a generator. -/
def generatorMethod (g : Productions) : Parse Data := do
  let start ← here
  let (ps, d) ← allowingYield true do
    let ps ← parameters g .empty
    change fun c => { c with allowYield := false }
    return (ps, ← methodBody g ps)
  finishFunction start "FunctionExpression" .null ps d false true

/-- A method whose parameters are checked before its body. -/
def accessor (g : Productions) (check : Parameters → Parse Unit) : Parse Data := do
  let start ← here
  let (ps, d) ← allowingYield true do
    let ps ← parameters g .empty
    check ps
    return (ps, ← methodBody g ps)
  finishFunction start "FunctionExpression" .null ps d false false

/-- A method that reads a property. -/
def getter (g : Productions) : Parse Data :=
  accessor g fun ps => do
    if !ps.nodes.isEmpty then refuseAhead .getterArity

/-- A method that writes a property. -/
def setter (g : Productions) : Parse Data :=
  accessor g fun ps => do
    match ps.nodes with
    | [d] => if isKind "RestElement" d then refuseAhead .setterRest
    | _ => refuseAhead .setterArity

end Functions

end Source

end Offside
