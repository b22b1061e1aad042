import Offside.Source.Statement

/-!
# Imports, exports and items

An item is a statement or a declaration.  The items of a module may also import and export
names.
-/

namespace Offside

namespace Source

namespace Items

open Parse Binding Functions Classes Expression Statement

/-- Refuse the token ahead for its text, if it has one. -/
def refuseText {α : Type} : Parse α := do
  let t := (← get).lookahead
  let text := if t.kind = .number then t.value.plain else t.text
  let isEmpty := text.isEmpty || (t.kind == .number && !t.value.truthy)
  refuseLast (if isEmpty then .misplaced else .unexpected text)

/-- The name of the module that names come from. -/
def specifier : Parse Data := do
  let start ← here
  if !(← seesKind .string) then refuseLast .misplaced
  let t ← advance
  finish start "Literal" [("value", .scalar t.value), ("raw", .text t.raw)]

/-- The word `from` and the name of a module. -/
def origin : Parse Data := do
  if !(← seesName "from") then refuseText
  discard advance
  specifier

/-! ## Imports -/

/-- A name that is imported, with another name for it if wanted. -/
def importedName : Parse Data := do
  let start ← here
  let isName ← seesKind .identifier
  discard (if isName then identifier .parameter else anyName)
  if ← seesName "as" then
    discard advance
    discard (identifier .parameter)
  else if !isName then unexpected (← advance)
  finish start "ImportSpecifier" []

/-- The names that are imported, in braces. -/
def importedNames : Parse (List Data) := do
  expect "\x7b"
  let ds ← upTo "\x7d" do
    let d ← importedName
    if !(← sees "\x7d") then expect ","
    return d
  expect "\x7d"
  return ds

/-- The name for all of a module. -/
def importedNamespace : Parse Data := do
  let start ← here
  expect "*"
  if !(← seesName "as") then refuseLast .misplaced
  discard advance
  discard anyName
  finish start "ImportNamespaceSpecifier" []

/-- The name for the default of a module, and what is imported besides. -/
def importedDefault : Parse (List Data) := do
  let start ← here
  discard anyName
  let d ← finish start "ImportDefaultSpecifier" []
  if ← accept "," then
    if ← sees "*" then return [d, ← importedNamespace]
    else if ← sees "\x7b" then return d :: (← importedNames)
    else unexpectedAhead
  else return [d]

/-- An import. -/
def importDeclaration : Parse Data := do
  if ← ask (·.inFunction) then refuseLast .misplaced
  let start ← here
  expectKeyword "import"
  let t := (← get).lookahead
  let (ds, source) ←
    if t.kind = .string then pure ([], ← specifier)
    else
      let ds ←
        if t.isPunctuator "\x7b" then importedNames
        else if t.isPunctuator "*" then pure [← importedNamespace]
        else if (t.kind == .identifier || t.kind == .keyword || t.kind == .boolean
            || t.kind == .null) && !t.isKeyword "default" then importedDefault
        else unexpected (← advance)
      pure (ds, ← origin)
  endStatement
  finish start "ImportDeclaration" [("specifiers", .list ds), ("source", source)]

/-! ## Exports -/

/-- A name that is exported, with another name for it if wanted. -/
def exportedName : Parse Data := do
  let start ← here
  discard anyName
  if ← seesName "as" then
    discard advance
    discard anyName
  finish start "ExportSpecifier" []

/-- The names that are exported, in braces; some of them may come from another module, and
`default` can only come from one. -/
def exportNames (start : Marker) : Parse Data := do
  expect "\x7b"
  let ds ← upTo "\x7d" do
    let isDefault ← seesKeyword "default"
    let d ← exportedName
    if !(← sees "\x7d") then expect ","
    return (d, isDefault)
  expect "\x7d"
  if ← seesName "from" then discard origin
  else if ds.any (·.2) then refuseText
  endStatement
  finish start "ExportNamedDeclaration" [("specifiers", .list (ds.map (·.1)))]

/-- What is exported as the default of a module, behind the words for it. -/
def exportedDefault (g : Productions) : Parse Data := do
  if ← seesKeyword "function" then declaration g true
  else if ← seesKeyword "class" then classOf g "ClassDeclaration" true
  else if ← seesName "async" then
    if ← seesAsyncFunction then declaration g true else g.assignment
  else
    if ← seesName "from" then refuseText
    let d ←
      if ← sees "\x7b" then object g
      else if ← sees "[" then list g
      else g.assignment
    endStatement
    return d

/-- A declaration that is exported. -/
def exportedDeclaration (g : Productions) : Parse Data := do
  let t := (← get).lookahead
  if t.isKeyword "let" || t.isKeyword "const" then lexicalDeclaration g
  else if ["var", "class", "function"].any t.isKeyword then g.item
  else unexpected t

/-- An export. -/
def exportDeclaration (g : Productions) : Parse Data := do
  if ← ask (·.inFunction) then refuseLast .misplaced
  let start ← here
  expectKeyword "export"
  if ← seesKeyword "default" then
    discard advance
    let d ← exportedDefault g
    finish start "ExportDefaultDeclaration" [("declaration", d)]
  else if ← accept "*" then
    let source ← origin
    endStatement
    finish start "ExportAllDeclaration" [("source", source)]
  else if ← seesKind .keyword then
    let d ← exportedDeclaration g
    finish start "ExportNamedDeclaration" [("declaration", d)]
  else if ← seesAsyncFunction then
    let d ← declaration g false
    finish start "ExportNamedDeclaration" [("declaration", d)]
  else exportNames start

/-! ## Items -/

/-- Refuse the token ahead unless the text is a module. -/
def needModule : Parse Unit := do
  if !(← ask (·.isModule)) then refuseToken (← get).lookahead (some .misplaced)

/-- A statement or a declaration. -/
def item (g : Productions) : Parse Data := do
  change fun c => { c with isTarget := true, isBinding := true }
  if ← seesKeyword "export" then
    needModule
    exportDeclaration g
  else if ← seesKeyword "import" then
    if ← seesImportCall then expressionStatement g
    else
      needModule
      importDeclaration
  else if ← seesKeyword "const" then lexicalDeclaration g
  else if ← seesKeyword "function" then declaration g false
  else if ← seesKeyword "class" then classOf g "ClassDeclaration" false
  else if ← seesLexicalLet then lexicalDeclaration g
  else statement g

end Items

end Source

end Offside
