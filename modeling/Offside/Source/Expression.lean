import Offside.Source.Classes

/-!
# Expressions

Expressions are built from primary ones by members and calls, by operators in front and behind,
by binary operators of eleven ranks, by conditions, and by assignments and arrows.  Binary
operators of one rank are grouped from the left; exponentiation is grouped from the right.
-/

namespace Offside

namespace Source

namespace Expression

open Parse Binding Functions Classes

/-! ## Literals and brackets -/

/-- A template with the expressions in it. -/
def templateRest (g : Productions) : Nat → Parse Unit
  | 0 => refuseLast .unexpectedEnd
  | fuel + 1 => do
    discard g.expression
    if !(← seesKind .template) then refuseLast .illegal
    if !(← advance).closes then templateRest g fuel

/-- A template. -/
def template (g : Productions) : Parse Data := do
  let start ← here
  if !(← advance).closes then templateRest g (← bound)
  finish start "TemplateLiteral" []

/-- An element that spreads a list or object. -/
def spread (g : Productions) : Parse Data := do
  let start ← here
  expect "..."
  let argument ← inherited g.assignment
  finish start "SpreadElement" [("argument", argument)]

/-- An element of a list; none for a hole. -/
def listElement (g : Productions) : Parse (Option Data) := do
  if ← accept "," then return none
  else if ← sees "..." then
    let d ← spread g
    if !(← sees "]") then
      settle
      expect ","
    return some d
  else
    let d ← inherited g.assignment
    if !(← sees "]") then expect ","
    return some d

/-- A list. -/
def list (g : Productions) : Parse Data := do
  let start ← here
  expect "["
  let elements ← upTo "]" (listElement g)
  expect "]"
  finish start "ArrayExpression" [("elements", holes elements)]

/-- The key of a property and whether it is that of an asynchronous method; none before a
generator's mark. -/
def keyOfProperty (g : Productions) : Parse (Option Data × Bool) := do
  let start ← here
  let t := (← get).lookahead
  if t.kind = .identifier then
    discard advance
    let s ← get
    let isAsync := t.isName "async" && !s.newline
      && !([":", "(", "*", ","].any s.lookahead.isPunctuator)
    if isAsync then return (some (← propertyKey g), true)
    else return (some (← finish start "Identifier" [("name", .text t.text)]), false)
  else if ← accept "*" then return (none, false)
  else return (some (← propertyKey g), false)

/-- The value of a property that has its key alone, with a default if it is in a pattern. -/
def shorthand (g : Productions) (start : Marker) (t : Token) : Parse Data := do
  let name ← finish start "Identifier" [("name", .text t.text)]
  let ahead := (← get).lookahead
  if ← accept "=" then
    change fun c => { c with patternOnly := some ahead }
    let right ← isolated g.assignment
    -- The default tells that the whole must be a pattern.
    finish start "AssignmentPattern" [("left", name), ("right", right)]
  else return name

/-- A property of an object, and whether it sets the object's prototype; `known` tells that the
object has such a property already. -/
def property (g : Productions) (known : Bool) : Parse (Data × Bool) := do
  let start ← here
  let t := (← get).lookahead
  let computed := t.kind ≠ .identifier && (← sees "[")
  let (key, isAsync) ← keyOfProperty g
  let keyFollows := startsKey (← get).lookahead
  let (value, isProto) ←
    if keyFollows && !isAsync && t.isName "get" then
      discard (propertyKey g)
      change fun c => { c with allowYield := false }
      pure (← getter g, false)
    else if keyFollows && !isAsync && t.isName "set" then
      discard (propertyKey g)
      pure (← setter g, false)
    else if keyFollows && t.isPunctuator "*" then
      discard (propertyKey g)
      pure (← generatorMethod g, false)
    else match key with
      | none => unexpectedAhead
      | some key =>
        if !isAsync && (← sees ":") then
          let isProto := !computed && isPropertyKey "__proto__" key
          if isProto && known then refuseAhead .repeatedProto
          discard advance
          pure (← inherited g.assignment, isProto)
        else if ← sees "(" then pure (← method g isAsync, false)
        else if t.kind = .identifier then pure (← shorthand g start t, false)
        else unexpected (← advance)
  return (← finish start "Property" [("value", value)], isProto)

/-- The properties of an object up to its closing brace. -/
def properties (g : Productions) : Nat → Bool → Parse (List Data)
  | 0, _ => refuseLast .unexpectedEnd
  | fuel + 1, known => do
    if ← sees "\x7d" then return []
    else
      let (d, isProto) ← if ← sees "..." then pure (← spread g, false) else property g known
      if !(← sees "\x7d") then expect ","
      return d :: (← properties g fuel (known || isProto))

/-- An object. -/
def object (g : Productions) : Parse Data := do
  let start ← here
  expect "\x7b"
  let ds ← properties g (← bound) false
  expect "\x7d"
  finish start "ObjectExpression" [("properties", .list ds)]

/-! ## Parentheses -/

/-- Parameters of an arrow that have been parsed as expressions.  They have no place. -/
def arrowHead (parameters : List Data) (isAsync : Bool) : Data :=
  placelessNode "ArrowParameterPlaceHolder"
    [("params", .list parameters), ("async", .bool isAsync)]

/-- Refuse what is ahead unless it is the arrow. -/
def needArrow : Parse Unit := do
  if !(← sees "=>") then expect "=>"

/-- The parts of a group behind the first, after the commas: the parts, and whether they are the
parameters of an arrow, which ends the group. -/
def groupRest (g : Productions) : Nat → Parse (List Data × Bool)
  | 0 => refuseLast .unexpectedEnd
  | fuel + 1 => do
    if !(← sees ",") || (← seesKind .endOfText) then return ([], false)
    discard advance
    if ← accept ")" then return ([], true)
    else if ← sees "..." then
      if !(← ask (·.isBinding)) then unexpectedAhead
      let (d, _) ← restParameter g
      expect ")"
      needArrow
      change fun c => { c with isBinding := false }
      return ([d], true)
    else
      let d ← inherited g.assignment
      let (rest, isHead) ← groupRest g fuel
      return (d :: rest, isHead)

/-- A parenthesised expression or the parameters of an arrow, up to the closing parenthesis. -/
def groupEnd (parts : List Data) (whole : Data) : Parse Data := do
  expect ")"
  let result ←
    if ← sees "=>" then
      if identifierName? whole == some (Text.ofString "yield") then pure (arrowHead [whole] false)
      else
        if !(← ask (·.isBinding)) then unexpectedAhead
        pure (arrowHead (asPatterns parts) false)
    else pure whole
  change fun c => { c with isBinding := false }
  return result

/-- A group: an expression in parentheses, or the parameters of an arrow. -/
def group (g : Productions) : Parse Data := do
  expect "("
  if ← accept ")" then
    needArrow
    return arrowHead [] false
  let t := (← get).lookahead
  if ← sees "..." then
    let (d, _) ← restParameter g
    expect ")"
    needArrow
    return arrowHead [d] false
  change fun c => { c with isBinding := true }
  let first ← inherited g.assignment
  if ← sees "," then
    change fun c => { c with isTarget := false }
    let (rest, isHead) ← groupRest g (← bound)
    let parts := first :: rest
    if isHead then return arrowHead (asPatterns parts) false
    groupEnd parts (← finish (markerOf t 0) "SequenceExpression" [("expressions", .list parts)])
  else if isKind "SequenceExpression" first then groupEnd (nodesUnder "expressions" first) first
  else groupEnd [first] first

/-! ## Primary expressions -/

/-- A literal. -/
def literal : Parse Data := do
  let start ← here
  let s ← get
  let t := s.lookahead
  if t.octal && s.context.strict then refuseToken t (some .strictOctal)
  settle
  discard advance
  finish start "Literal" [("value", .scalar t.value), ("raw", .text t.raw)]

/-- A regular expression. -/
def pattern : Parse Data := do
  let start ← here
  settle
  let t ← advancePattern
  finish start "Literal" [("value", .null), ("raw", .text t.raw)]

/-- A primary expression that begins with a keyword. -/
def keywordExpression (g : Productions) : Parse Data := do
  let start ← here
  let c ← ask id
  if !c.strict && c.allowYield && (← seesKeyword "yield") then anyName
  else if !c.strict && (← seesKeyword "let") then
    discard advance
    finish start "Identifier" [("name", .text "let")]
  else
    settle
    if ← seesKeyword "function" then functionExpression g
    else if ← seesKeyword "this" then
      discard advance
      finish start "ThisExpression" []
    else if ← seesKeyword "class" then classOf g "ClassExpression" true
    else if ← seesImportCall then
      discard advance
      finish start "Import" []
    else unexpected (← advance)

/-- A primary expression. -/
def primary (g : Productions) : Parse Data := do
  let start ← here
  let s ← get
  let t := s.lookahead
  match t.kind with
  | .identifier =>
    if (s.context.isModule || s.context.await) && t.isName "await" then unexpected t
    if ← seesAsyncFunction then functionExpression g
    else
      discard advance
      finish start "Identifier" [("name", .text t.text)]
  | .number | .string | .boolean | .null => literal
  | .template => template g
  | .punctuator =>
    if t.isPunctuator "(" then
      change fun c => { c with isBinding := false }
      inherited (group g)
    else if t.isPunctuator "[" then inherited (list g)
    else if t.isPunctuator "\x7b" then inherited (object g)
    else if t.isPunctuator "/" || t.isPunctuator "/=" then pattern
    else unexpected (← advance)
  | .keyword => keywordExpression g
  | _ => unexpected (← advance)

/-! ## Members and calls -/

/-- Arguments in parentheses, each parsed by `argument` unless it spreads a list. -/
def argumentsBy (g : Productions) (argument : Parse Data) : Nat → Parse (List Data)
  | 0 => refuseLast .unexpectedEnd
  | fuel + 1 => do
    if ← sees ")" then return []
    else
      let d ← if ← sees "..." then spread g else isolated argument
      if ← sees ")" then return [d]
      else
        expect ","
        return d :: (← argumentsBy g argument fuel)

/-- The arguments of a call; in those of an asynchronous arrow a default may stand. -/
def arguments (g : Productions) (maybeArrow : Bool) : Parse (List Data) := do
  expect "("
  let argument :=
    if maybeArrow then do
      let d ← g.assignment
      change fun c => { c with patternOnly := none }
      return d
    else g.assignment
  let ds ← argumentsBy g argument (← bound)
  expect ")"
  return ds

/-- The word `new` and what is constructed. -/
def construction (g : Productions) (callee : Parse Data) : Parse Data := do
  let start ← here
  let word ← anyName
  if ← accept "." then
    if (← seesName "target") && (← ask (·.inFunction)) then
      let name ← anyName
      finish start "MetaProperty" [("meta", word), ("property", name)]
    else unexpectedAhead
  else if ← seesKeyword "import" then unexpectedAhead
  else
    let d ← isolated callee
    let ds ← if ← sees "(" then arguments g false else pure []
    settle
    finish start "NewExpression" [("callee", d), ("arguments", .list ds)]

/-- A primary expression or a construction. -/
def head (g : Productions) : Parse Data := do
  inherited (if ← seesKeyword "new" then g.construction else primary g)

/-- A member of an expression behind a point or in brackets, or a template behind it; none if
none of these is ahead. -/
def member? (g : Productions) (start : Marker) (d : Data) : Parse (Option Data) := do
  let asMember : Parse Unit := change fun c => { c with isBinding := false, isTarget := true }
  if ← sees "." then
    asMember
    expect "."
    let property ← anyName
    return some (← finish start "MemberExpression"
      [("computed", .bool false), ("object", d), ("property", property)])
  else if ← sees "[" then
    asMember
    expect "["
    let property ← isolated g.expression
    expect "]"
    return some (← finish start "MemberExpression"
      [("computed", .bool true), ("object", d), ("property", property)])
  else if (← get).lookahead.opens then
    discard (template g)
    return some (← finish start "TaggedTemplateExpression" [("tag", d)])
  else return none

/-- The members behind an expression. -/
def members (g : Productions) (start : Marker) : Nat → Data → Parse Data
  | 0, _ => refuseLast .unexpectedEnd
  | fuel + 1, d => do
    match ← member? g start d with
    | some d => members g start fuel d
    | none => return d

/-- The word `super`; one of the marks must follow. -/
def superWith (marks : List String) : Parse Data := do
  let start ← here
  discard advance
  let d ← finish start "Super" []
  let t := (← get).lookahead
  if !(marks.any t.isPunctuator) then unexpected t
  return d

/-- An expression with members, but without calls. -/
def callee (g : Productions) : Parse Data := do
  let start := markerOf (← get).lookahead 0
  let d ←
    if (← seesKeyword "super") && (← ask (·.inFunction)) then superWith ["[", "."] else head g
  members g start (← bound) d

/-- The members and calls behind an expression that began with `t`. -/
def links (g : Productions) (t : Token) : Nat → Data → Parse Data
  | 0, _ => refuseLast .unexpectedEnd
  | fuel + 1, d => do
    if ← sees "(" then
      let maybeArrow := t.isName "async" && t.line == (← get).lookahead.line
      settle
      let ds ← arguments g maybeArrow
      if isKind "Import" d && ds.length != 1 then refuseAhead .misplaced
      let call ← finish (markerOf t 0) "CallExpression" [("callee", d), ("arguments", .list ds)]
      if maybeArrow && (← sees "=>") then links g t fuel (arrowHead (asPatterns ds) true)
      else links g t fuel call
    else match ← member? g (markerOf t 0) d with
      | some d => links g t fuel d
      | none => return d

/-- An expression with members and calls. -/
def chain (g : Productions) : Parse Data := do
  let t := (← get).lookahead
  allowingIn true do
    let d ←
      if (← seesKeyword "super") && (← ask (·.inFunction)) then superWith ["(", ".", "["]
      else head g
    links g t (← bound) d

/-! ## Operators -/

/-- The operand of `++` or `--` may not be a name that strict mode refuses to assign, and must be
a target. -/
def checkStepped (d : Data) (problem : Problem) : Parse Unit := do
  let c ← ask id
  if c.strict && (identifierName? d).any restricted.contains then refuseAhead problem
  if !c.isTarget then refuseAhead .assignmentTarget

/-- An expression with `++` or `--` in front or behind, or without. -/
def stepped (g : Productions) : Parse Data := do
  let t := (← get).lookahead
  let finishStep (operator : Token) (d : Data) (inFront : Bool) : Parse Data :=
    finish (markerOf t 0) "UpdateExpression"
      [("operator", .text operator.text), ("argument", d), ("prefix", .bool inFront)]
  if (← sees "++") || (← sees "--") then
    let operator ← advance
    let d ← inherited g.unary
    checkStepped d .strictPrefix
    let result ← finishStep operator d true
    settle
    return result
  else
    let d ← inherited (chain g)
    if !(← get).newline && ((← sees "++") || (← sees "--")) then
      checkStepped d .strictPostfix
      settle
      finishStep (← advance) d false
    else return d

/-- An expression with an operator in front, or without. -/
def unary (g : Productions) : Parse Data := do
  let t := (← get).lookahead
  if ["+", "-", "~", "!"].any t.isPunctuator || ["delete", "void", "typeof"].any t.isKeyword then
    let start := markerOf t 0
    discard advance
    let d ← inherited g.unary
    let result ← finish start "UnaryExpression"
      [("operator", .text t.text), ("argument", d), ("prefix", .bool true)]
    if t.isKeyword "delete" && isKind "Identifier" d && (← ask (·.strict)) then
      refuseAhead .strictDelete
    settle
    return result
  else if (← ask (·.await)) && t.isName "await" then
    let start ← here
    discard advance
    let d ← g.unary
    finish start "AwaitExpression" [("argument", d)]
  else stepped g

/-- An operand of a binary operator: a power, or an expression with operators in front. -/
def operand (g : Productions) : Parse Data := do
  let t := (← get).lookahead
  let d ← inherited (unary g)
  if !isKind "UnaryExpression" d && (← sees "**") then
    discard advance
    settle
    let right ← isolated g.operand
    finish (markerOf t 0) "BinaryExpression"
      [("operator", .text "**"), ("left", d), ("right", right)]
  else return d

/-- The punctuators that are binary operators, with their ranks. -/
def ranks : List (Text × Nat) :=
  [("||", 1), ("&&", 2), ("|", 3), ("^", 4), ("&", 5), ("==", 6), ("!=", 6), ("===", 6),
    ("!==", 6), ("<", 7), (">", 7), ("<=", 7), (">=", 7), ("<<", 8), (">>", 8), (">>>", 8),
    ("+", 9), ("-", 9), ("*", 11), ("/", 11), ("%", 11)]

/-- The rank of a token as a binary operator; none if it is no operator. -/
def rank? (allowIn : Bool) (t : Token) : Option Nat :=
  if t.kind = .punctuator then ranks.lookup t.text
  else if t.isKeyword "instanceof" || (allowIn && t.isKeyword "in") then some 7
  else none

/-- An operand that waits for its right neighbour: where it began, the operator behind it and
the rank of that. -/
structure Waiting where
  first : Token
  operand : Data
  operator : Text
  rank : Nat

/-- The node of an operator between two operands. -/
def binaryNode (start : Marker) (operator : Text) (left right : Data) : Parse Data :=
  let logical := operator == Text.ofString "||" || operator == Text.ofString "&&"
  finish start (if logical then "LogicalExpression" else "BinaryExpression")
    [("operator", .text operator), ("left", left), ("right", right)]

/-- Join the operands that wait for one before an operator of a rank: those behind an operator
of at least that rank. -/
def reduce (rank : Nat) : List Waiting → Token → Data → Parse (List Waiting × Token × Data)
  | [], t, right => return ([], t, right)
  | w :: rest, t, right => do
    if w.rank < rank then return (w :: rest, t, right)
    else
      let d ← binaryNode (markerOf w.first 0) w.operator w.operand right
      reduce rank rest w.first d

/-- Join all operands that wait, the last ones first; `t` begins the last operand. -/
def reduceAll : List Waiting → Token → Data → Parse Data
  | [], _, right => return right
  | w :: rest, t, right => do
    let d ← binaryNode (markerOf w.first t.lineStart) w.operator w.operand right
    reduceAll rest w.first d

/-- The operators and operands behind an operand that begins with `t`. -/
def operands (g : Productions) : Nat → List Waiting → Token → Data → Parse Data
  | 0, _, _, _ => refuseLast .unexpectedEnd
  | fuel + 1, waiting, t, d => do
    let s ← get
    match rank? s.context.allowIn s.lookahead with
    | none => reduceAll waiting t d
    | some rank =>
      let (waiting, t, d) ← reduce rank waiting t d
      let operator ← advance
      settle
      let next := (← get).lookahead
      let right ← isolated g.operand
      operands g fuel (⟨t, d, operator.text, rank⟩ :: waiting) next right

/-- An expression with binary operators. -/
def binary (g : Productions) : Parse Data := do
  let t := (← get).lookahead
  let d ← inherited (operand g)
  operands g (← bound) [] t d

/-- A choice by a condition, or an expression without. -/
def conditional (g : Productions) : Parse Data := do
  let t := (← get).lookahead
  let d ← inherited (binary g)
  if ← accept "?" then
    let yes ← allowingIn true (isolated g.assignment)
    expect ":"
    let no ← isolated g.assignment
    let result ← finish (markerOf t 0) "ConditionalExpression"
      [("test", d), ("consequent", yes), ("alternate", no)]
    settle
    return result
  else return d

/-! ## Arrows and assignments -/

/-- The word `yield` and its operand, where it is an operator. -/
def yieldExpression (g : Productions) : Parse Data := do
  let start ← here
  expectKeyword "yield"
  let argument ←
    if (← get).newline then pure Data.null
    else
      allowingYield false do
        let t := (← get).lookahead
        let begins := match t.kind with
          | .punctuator => ["[", "(", "\x7b", "+", "-", "!", "~", "++", "--", "/", "/="].any
              t.isPunctuator
          | .keyword => ["class", "delete", "function", "let", "new", "super", "this", "typeof",
              "void", "yield"].any t.isKeyword
          | _ => true
        if ← accept "*" then g.assignment
        else if begins then g.assignment
        else pure Data.null
  finish start "YieldExpression" [("argument", argument)]

/-- The parameters of an arrow, from what has been parsed in front of it; none if that is no
parameter list. -/
def arrowParameters? (d : Data) : Parse (Option Parameters) := do
  let isHead := isKind "ArrowParameterPlaceHolder" d
  if !isHead && !isKind "Identifier" d then return none
  let nodes := if isHead then nodesUnder "params" d else [d]
  let isAsync := (d.entry "async").truthy
  let c ← ask id
  let step (ps : Parameters) (p : Data) : Parse Parameters := do
    if isKind "AssignmentPattern" p then
      let right := p.entry "right"
      if isKind "YieldExpression" right && !(right.entry "argument").isNull then unexpectedAhead
    else if isAsync && identifierName? p == some (Text.ofString "await") then unexpectedAhead
    let ps := (boundNames p).foldl (fun ps name => ps.bind c.strict .node name) ps
    return { ps with simple := ps.simple && isKind "Identifier" p }
  let ps ← nodes.foldlM step Parameters.empty
  if (c.strict || !c.allowYield) && nodes.any (isKind "YieldExpression") then unexpectedAhead
  if ps.problem = some .strictParameterTwice then refuseLast .strictParameterTwice
  return some { ps with nodes }

/-- The arrow and the body behind its parameters. -/
def arrow (g : Productions) (t : Token) (ps : Parameters) (isAsync : Bool) : Parse Data := do
  if (← get).newline then unexpectedAhead
  change fun c => { c with patternOnly := none }
  within (fun c => { c with
      allowStrictDirective := ps.simple, allowYield := true, await := isAsync })
    (fun before c => { c with
      strict := before.strict, allowStrictDirective := before.allowStrictDirective
      allowYield := before.allowYield, await := before.await })
    do
      expect "=>"
      let d ← if ← sees "\x7b" then allowingIn true (body g) else isolated g.assignment
      ps.check
      finish (markerOf t 0) "ArrowFunctionExpression" [("params", .list ps.nodes), ("body", d)]

/-- The target of an assignment, which strict mode restricts. -/
def checkTarget (t : Token) (d : Data) : Parse Unit := do
  let c ← ask id
  if !c.isTarget then refuseAhead .assignmentTarget
  if c.strict then
    if let some name := identifierName? d then
      if restricted.contains name then refuseToken t (some .strictAssignment)
      if strictReserved.contains name then refuseToken t (some .strictReserved)

/-- An assignment to an expression that began with `t`, or the expression alone. -/
def assigned (g : Productions) (t : Token) (d : Data) : Parse Data := do
  let operator := (← get).lookahead
  if operator.kind = .punctuator ∧ assignmentOperators.contains operator.text then
    checkTarget t d
    let isPlain := operator.isPunctuator "="
    let target := if isPlain then asPattern d else d
    if !isPlain then settle
    discard advance
    let right ← isolated g.assignment
    let result ← finish (markerOf t 0) "AssignmentExpression"
      [("operator", .text operator.text), ("left", target), ("right", right)]
    change fun c => { c with patternOnly := none }
    return result
  else return d

/-- The single parameter of an asynchronous arrow, if a name stands behind the word `async`. -/
def asyncParameter (g : Productions) (t : Token) (d : Data) : Parse Data := do
  let ahead := (← get).lookahead
  if t.isName "async" && t.line == ahead.line
      && (ahead.kind == .identifier || ahead.isKeyword "yield") then
    return arrowHead [asPattern (← primary g)] true
  else return d

/-- An expression without a comma on its top level. -/
def assignment (g : Productions) : Parse Data := do
  if !(← ask (·.allowYield)) && (← seesKeyword "yield") then yieldExpression g
  else
    let t := (← get).lookahead
    let d ← asyncParameter g t (← conditional g)
    if isKind "ArrowParameterPlaceHolder" d || (← sees "=>") then
      settle
      match ← arrowParameters? d with
      | some ps => arrow g t ps (d.entry "async").truthy
      | none => return d
    else assigned g t d

end Expression

end Source

end Offside
