import Offside.Source.Expression

/-!
# Statements

A statement ends with a semicolon, which may be left out at the end of a line.  Inside a function
or a loop more statements are allowed than outside.
-/

namespace Offside

namespace Source

namespace Statement

open Parse Binding Functions Classes

/-! ## Declarations -/

/-- In strict mode, refuse to bind a restricted name. -/
def checkBound (d : Data) (problem : Problem) : Parse Unit := do
  if (← ask (·.strict)) && (identifierName? d).any restricted.contains then refuseAhead problem

/-- A name or pattern that is declared, and its value. -/
def declarator (g : Productions) (binder : Binder) (value : Data → Parse Data) : Parse Data := do
  let start ← here
  let (d, _) ← g.pattern binder
  checkBound d .strictVariableName
  let init ← value d
  finish start "VariableDeclarator" [("id", d), ("init", init)]

/-- A name or pattern declared by `let` or `const`. -/
def lexicalDeclarator (g : Productions) (isConst inFor : Bool) : Parse Data :=
  declarator g .lexical fun d => do
    if isConst then
      if (← seesKeyword "in") || (← seesName "of") then return .null
      else if ← accept "=" then isolated g.assignment
      else refuseLast .missingInitializer
    else if (!inFor && !isKind "Identifier" d) || (← sees "=") then
      expect "="
      isolated g.assignment
    else return .null

/-- A name or pattern declared by `var`. -/
def variableDeclarator (g : Productions) (inFor : Bool) : Parse Data :=
  declarator g .variable fun d => do
    if ← accept "=" then isolated g.assignment
    else
      if !inFor && !isKind "Identifier" d then expect "="
      return .null

/-- One part, and more behind commas. -/
def commaSeparated (part : Parse Data) : Parse (List Data) := do
  let first ← part
  return first :: (← afterEach "," part)

/-- The fields of a declaration. -/
def declarationFields (kind : Text) (declarators : List Data) : List (String × Data) :=
  [("declarations", .list declarators), ("kind", .text kind)]

/-- A declaration by `let` or `const`. -/
def lexicalDeclaration (g : Productions) : Parse Data := do
  let start ← here
  let t ← advance
  let declarators ← commaSeparated (lexicalDeclarator g (t.isKeyword "const") false)
  endStatement
  finish start "VariableDeclaration" (declarationFields t.text declarators)

/-- A declaration by `var`. -/
def variableDeclaration (g : Productions) : Parse Data := do
  let start ← here
  expectKeyword "var"
  let declarators ← commaSeparated (variableDeclarator g false)
  endStatement
  finish start "VariableDeclaration" (declarationFields "var" declarators)

/-- The word `let` is ahead and begins a declaration. -/
def seesLexicalLet : Parse Bool := do
  if ← seesKeyword "let" then
    let t ← peekBehind
    return t.kind == .identifier || t.isPunctuator "[" || t.isPunctuator "\x7b"
      || t.isKeyword "let" || t.isKeyword "yield"
  else return false

/-! ## Simple statements -/

/-- A block. -/
def block (g : Productions) : Parse Data := do
  let start ← here
  expect "\x7b"
  let ds ← upTo "\x7d" g.item
  expect "\x7d"
  finish start "BlockStatement" [("body", .list ds)]

/-- The empty statement. -/
def emptyStatement : Parse Data := do
  let start ← here
  expect ";"
  finish start "EmptyStatement" []

/-- An expression as a statement. -/
def expressionStatement (g : Productions) : Parse Data := do
  let start ← here
  let d ← g.expression
  endStatement
  finish start "ExpressionStatement" [("expression", d)]

/-- The word `debugger`. -/
def debuggerStatement : Parse Data := do
  let start ← here
  expectKeyword "debugger"
  endStatement
  finish start "DebuggerStatement" []

/-- A branch of a condition. -/
def branch (g : Productions) : Parse Data := do
  if (← ask (·.strict)) && (← seesKeyword "function") then refuseAhead .strictFunction
  g.statement

/-- A condition. -/
def ifStatement (g : Productions) : Parse Data := do
  let start ← here
  expectKeyword "if"
  let test ← g.condition
  let yes ← branch g
  let no ←
    if ← seesKeyword "else" then
      discard advance
      branch g
    else pure .null
  finish start "IfStatement" [("test", test), ("consequent", yes), ("alternate", no)]

/-! ## Loops -/

/-- The body of a loop. -/
def loopBody (p : Parse Data) : Parse Data :=
  within (fun c => { c with inLoop := true }) (fun before c => { c with inLoop := before.inLoop }) p

/-- A loop with its test behind the body. -/
def doStatement (g : Productions) : Parse Data := do
  let start ← here
  expectKeyword "do"
  let d ← loopBody g.statement
  expectKeyword "while"
  let test ← g.condition
  discard (accept ";")
  finish start "DoWhileStatement" [("body", d), ("test", test)]

/-- A loop with its test in front of the body. -/
def whileStatement (g : Productions) : Parse Data := do
  let start ← here
  expectKeyword "while"
  let test ← g.condition
  let d ← loopBody g.statement
  finish start "WhileStatement" [("test", test), ("body", d)]

/-- What stands between `for (` and the body. -/
inductive ForHead where
  /-- The part in front of the first semicolon, which is taken. -/
  | clauses (init : Data)
  /-- A loop over the keys of an object, before the object. -/
  | keys (target : Data)
  /-- A loop over elements, before what has them. -/
  | elements (target : Data)

/-- The declaration in the head of a loop from its word on, if it runs over keys or elements. -/
def declaredTarget? (start : Marker) (kind : Text) (ds : List Data) (initialKeys : Bool) :
    Parse (Option ForHead) := do
  let isPlain := ds.length = 1 && ds.all fun d => (d.entry "init").isNull
  if ((ds.length = 1 && initialKeys) || isPlain) && (← seesKeyword "in") then
    let d ← finish start "VariableDeclaration" (declarationFields kind ds)
    discard advance
    return some (.keys d)
  else if isPlain && (← seesName "of") then
    let d ← finish start "VariableDeclaration" (declarationFields kind ds)
    discard advance
    return some (.elements d)
  else return none

/-- The head of a loop that declares by `var`. -/
def forVariable (g : Productions) : Parse ForHead := do
  let start ← here
  discard advance
  let ds ← allowingIn false (commaSeparated (variableDeclarator g true))
  if ← seesKeyword "in" then
    if let [d] := ds then
      let id := d.entry "id"
      if !(d.entry "init").isNull
          && (isKind "ArrayPattern" id || isKind "ObjectPattern" id || (← ask (·.strict))) then
        refuseAhead .forInInitializer
  match ← declaredTarget? start "var" ds true with
  | some head => return head
  | none =>
    let d ← finish start "VariableDeclaration" (declarationFields "var" ds)
    expect ";"
    return .clauses d

/-- The head of a loop that declares by `let` or `const`. -/
def forLexical (g : Productions) : Parse ForHead := do
  let start ← here
  let t ← advance
  if !(← ask (·.strict)) && (← get).lookahead.text == Text.ofString "in" then
    let d ← finish start "Identifier" [("name", .text t.text)]
    discard advance
    return .keys d
  else
    let ds ← allowingIn false (commaSeparated (lexicalDeclarator g (t.isKeyword "const") true))
    match ← declaredTarget? start t.text ds false with
    | some head => return head
    | none =>
      endStatement
      return .clauses (← finish start "VariableDeclaration" (declarationFields t.text ds))

/-- The head of a loop that declares nothing. -/
def forExpression (g : Productions) : Parse ForHead := do
  let t := (← get).lookahead
  let d ← allowingIn false (inherited g.assignment)
  let checkTarget (problem : Problem) : Parse Unit := do
    if !(← ask (·.isTarget)) || isKind "AssignmentExpression" d then refuseAhead problem
  if ← seesKeyword "in" then
    checkTarget .forInTarget
    discard advance
    return .keys (asPattern d)
  else if ← seesName "of" then
    checkTarget .forOfTarget
    discard advance
    return .elements (asPattern d)
  else
    let init ← g.sequenceFrom t d
    expect ";"
    return .clauses init

/-- The head of a loop. -/
def forHead (g : Productions) : Parse ForHead := do
  if ← accept ";" then return .clauses .null
  else if ← seesKeyword "var" then forVariable g
  else if (← seesKeyword "const") || (← seesKeyword "let") then forLexical g
  else forExpression g

/-- A loop with three clauses, or over keys or elements. -/
def forStatement (g : Productions) : Parse Data := do
  let start ← here
  expectKeyword "for"
  expect "("
  let (kind, fields) ← match ← forHead g with
    | .clauses init => do
      let test ← if ← sees ";" then pure .null else g.expression
      expect ";"
      let update ← if ← sees ")" then pure .null else g.expression
      pure ("ForStatement", [("init", init), ("test", test), ("update", update)])
    | .keys target => do
      pure ("ForInStatement", [("left", target), ("right", ← g.expression)])
    | .elements target => do
      pure ("ForOfStatement", [("left", target), ("right", ← g.assignment)])
  expect ")"
  let d ← loopBody (isolated g.statement)
  finish start kind (fields ++ [("body", d)])

/-! ## Jumps -/

/-- The label that a jump goes to, if it names one. -/
def jumpLabel : Parse (Option Data) := do
  let s ← get
  if s.lookahead.kind = .identifier && !s.newline then
    let d ← identifier .parameter
    let name := textUnder "name" d
    if !(← ask (·.labels)).contains name then refuseLast (.unknownLabel name)
    return some d
  else return none

/-- A jump by a word, which without a label is refused unless the context allows it. -/
def jump (word kind : String) (allowed : Context → Bool) (problem : Problem) : Parse Data := do
  let start ← here
  expectKeyword word
  let label ← jumpLabel
  endStatement
  if label.isNone && !(← ask allowed) then refuseLast problem
  finish start kind [("label", label.getD .null)]

/-- A return from a function. -/
def returnStatement (g : Productions) : Parse Data := do
  if !(← ask (·.inFunction)) then refuseAhead .illegalReturn
  let start ← here
  expectKeyword "return"
  let s ← get
  let ends := s.lookahead.isPunctuator ";" || s.lookahead.isPunctuator "\x7d" || s.newline
    || s.lookahead.kind == .endOfText
  let quoted := s.lookahead.kind == .string || s.lookahead.kind == .template
  let argument ← if !ends || quoted then g.expression else pure .null
  endStatement
  finish start "ReturnStatement" [("argument", argument)]

/-- The throw of an exception. -/
def throwStatement (g : Productions) : Parse Data := do
  let start ← here
  expectKeyword "throw"
  if (← get).newline then refuseLast .newlineAfterThrow
  let argument ← g.expression
  endStatement
  finish start "ThrowStatement" [("argument", argument)]

/-! ## Compound statements -/

/-- A statement with an object whose members are names. -/
def withStatement (g : Productions) : Parse Data := do
  if ← ask (·.strict) then refuseAhead .strictWith
  let start ← here
  expectKeyword "with"
  let object ← g.condition
  let d ← g.statement
  finish start "WithStatement" [("object", object), ("body", d)]

/-- A case of a switch, and whether it is the default. -/
def switchCase (g : Productions) : Parse (Data × Bool) := do
  let start ← here
  let isDefault ← seesKeyword "default"
  let test ←
    if isDefault then
      discard advance
      pure .null
    else
      expectKeyword "case"
      g.expression
  expect ":"
  let stop : Parse Bool := do
    return (← sees "\x7d") || (← seesKeyword "default") || (← seesKeyword "case")
  let ds ← untilStop stop g.item (← bound)
  return (← finish start "SwitchCase" [("test", test), ("consequent", .list ds)], isDefault)

/-- The cases of a switch up to its closing brace. -/
def switchCases (g : Productions) : Nat → Bool → Parse (List Data)
  | 0, _ => refuseLast .unexpectedEnd
  | fuel + 1, known => do
    if ← sees "\x7d" then return []
    else
      let (d, isDefault) ← switchCase g
      if isDefault && known then refuseLast .repeatedDefault
      return d :: (← switchCases g fuel (known || isDefault))

/-- A choice between cases. -/
def switchStatement (g : Productions) : Parse Data := do
  let start ← here
  expectKeyword "switch"
  let d ← g.condition
  let cases ←
    within (fun c => { c with inSwitch := true })
      (fun before c => { c with inSwitch := before.inSwitch })
      do
        expect "\x7b"
        let cases ← switchCases g (← bound) false
        expect "\x7d"
        return cases
  finish start "SwitchStatement" [("discriminant", d), ("cases", .list cases)]

/-- Refuse a name that a pattern binds twice. -/
def checkDistinct : List Token → List Text → Parse Unit
  | [], _ => return
  | t :: rest, seen => do
    if seen.contains t.text then refuseAhead (.repeatedBinding t.text)
    checkDistinct rest (t.text :: seen)

/-- The part that catches an exception. -/
def catchClause (g : Productions) : Parse Data := do
  let start ← here
  expectKeyword "catch"
  expect "("
  if ← sees ")" then unexpectedAhead
  let (d, names) ← g.pattern .parameter
  checkDistinct names []
  checkBound d .strictCatchName
  expect ")"
  let body ← block g
  finish start "CatchClause" [("param", d), ("body", body)]

/-- A block with parts that catch and finish. -/
def tryStatement (g : Productions) : Parse Data := do
  let start ← here
  expectKeyword "try"
  let d ← block g
  let handler ← if ← seesKeyword "catch" then catchClause g else pure .null
  let finalizer ←
    if ← seesKeyword "finally" then
      discard advance
      block g
    else pure .null
  if handler.isNull && finalizer.isNull then refuseLast .bareTry
  finish start "TryStatement" [("block", d), ("handler", handler), ("finalizer", finalizer)]

/-- The statement behind a label. -/
def labelled (g : Productions) : Parse Data := do
  let t := (← get).lookahead
  if t.isKeyword "class" then unexpected t
  else if t.isKeyword "function" then
    let d ← declaration g false
    if ← ask (·.strict) then refuseToken t (some .strictFunction)
    if (d.entry "generator").truthy then refuseToken t (some .legacyGenerator)
    return d
  else g.statement

/-- A statement with a label, or an expression as a statement. -/
def labelledStatement (g : Productions) : Parse Data := do
  let start ← here
  let d ← g.expression
  match identifierName? d, ← sees ":" with
  | some name, true =>
    discard advance
    if (← ask (·.labels)).contains name then refuseLast (.repeatedLabel name)
    let body ←
      within (fun c => { c with labels := name :: c.labels })
        (fun before c => { c with labels := before.labels }) (labelled g)
    finish start "LabeledStatement" [("label", d), ("body", body)]
  | _, _ =>
    endStatement
    finish start "ExpressionStatement" [("expression", d)]

/-! ## All statements -/

/-- The statements that begin with a keyword of their own. -/
def keywordStatements (g : Productions) : List (Text × Parse Data) :=
  [("break", jump "break" "BreakStatement" (fun c => c.inLoop || c.inSwitch) .illegalBreak),
    ("continue", jump "continue" "ContinueStatement" (·.inLoop) .illegalContinue),
    ("debugger", debuggerStatement),
    ("do", doStatement g),
    ("for", forStatement g),
    ("function", declaration g false),
    ("if", ifStatement g),
    ("return", returnStatement g),
    ("switch", switchStatement g),
    ("throw", throwStatement g),
    ("try", tryStatement g),
    ("var", variableDeclaration g),
    ("while", whileStatement g),
    ("with", withStatement g)]

/-- A statement. -/
def statement (g : Productions) : Parse Data := do
  let t := (← get).lookahead
  match t.kind with
  | .punctuator =>
    if t.isPunctuator "\x7b" then block g
    else if t.isPunctuator ";" then emptyStatement
    else expressionStatement g
  | .identifier => if ← seesAsyncFunction then declaration g false else labelledStatement g
  | .keyword => ((keywordStatements g).lookup t.text).getD (expressionStatement g)
  | .endOfText => unexpected t
  | _ => expressionStatement g

end Statement

end Source

end Offside
