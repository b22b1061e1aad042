import Offside.Source.Functions

/-!
# Classes

A class has a name in most places, a base class if wanted, and a list of methods.  All of a class
is strict.
-/

namespace Offside

namespace Source

namespace Classes

open Parse Binding Functions

/-- What has been parsed of a method: the token that decides about its kind, and its key unless
a generator's mark stands in place of it. -/
structure MemberHead where
  token : Token
  key : Option Data
  computed : Bool
  isStatic : Bool
  isAsync : Bool

/-- The words in front of a method, and its key. -/
def memberHead (g : Productions) : Parse MemberHead := do
  let t := (← get).lookahead
  if ← accept "*" then return ⟨t, none, false, false, false⟩
  let computed ← sees "["
  let key ← propertyKey g
  let ahead := (← get).lookahead
  let isStatic := identifierName? key == some (Text.ofString "static")
    && (startsKey ahead || ahead.isPunctuator "*")
  let head : MemberHead ←
    if isStatic then
      let computed ← sees "["
      if ← accept "*" then pure ⟨ahead, some key, computed, true, false⟩
      else pure ⟨ahead, some (← propertyKey g), computed, true, false⟩
    else pure ⟨t, some key, computed, false, false⟩
  let s ← get
  if head.token.isName "async" && !s.newline
      && !([":", "(", "*"].any (s.lookahead.text == Text.ofString ·)) then
    let key ← propertyKey g
    if s.lookahead.isName "constructor" then refuseToken s.lookahead (some .asyncConstructor)
    return { head with token := s.lookahead, key := some key, isAsync := true }
  else return head

/-- A method of a class, and whether it is the constructor; `known` tells that the class has
one already. -/
def member (g : Productions) (known : Bool) : Parse (Data × Bool) := do
  let start ← here
  let head ← memberHead g
  let t := head.token
  let keyFollows := startsKey (← get).lookahead
  let (computed, key, value, isMethod) ←
    if keyFollows && t.isName "get" then
      let computed ← sees "["
      let key ← propertyKey g
      change fun c => { c with allowYield := false }
      pure (computed, key, ← getter g, false)
    else if keyFollows && t.isName "set" then
      let computed ← sees "["
      let key ← propertyKey g
      pure (computed, key, ← setter g, false)
    else if keyFollows && t.isPunctuator "*" then
      let computed ← sees "["
      let key ← propertyKey g
      pure (computed, key, ← generatorMethod g, true)
    else match head.key with
      | some key =>
        if ← sees "(" then pure (head.computed, key, ← method g head.isAsync, true)
        else unexpectedAhead
      | none => unexpectedAhead
  let isConstructor := !computed && !head.isStatic && isPropertyKey "constructor" key
  if !computed && head.isStatic && isPropertyKey "prototype" key then
    refuseToken t (some .staticPrototype)
  if isConstructor then
    if !isMethod || (value.entry "generator").truthy then refuseToken t (some .specialConstructor)
    if known then refuseToken t (some .repeatedConstructor)
  return (← finish start "MethodDefinition" [("key", key), ("value", value)], isConstructor)

/-- The methods of a class up to its closing brace. -/
def members (g : Productions) : Nat → Bool → Parse (List Data)
  | 0, _ => refuseLast .unexpectedEnd
  | fuel + 1, known => do
    if ← sees "\x7d" then return []
    else if ← accept ";" then members g fuel known
    else
      let (d, isConstructor) ← member g known
      return d :: (← members g fuel (known || isConstructor))

/-- The body of a class. -/
def classBody (g : Productions) : Parse Data := do
  let start ← here
  expect "\x7b"
  let ds ← members g (← bound) false
  expect "\x7d"
  finish start "ClassBody" [("body", .list ds)]

/-- A class of a kind; its name may be missing if no name is ahead. -/
def classOf (g : Productions) (kind : String) (nameIsOptional : Bool) : Parse Data := do
  let start ← here
  let (name, base, d) ←
    within (fun c => { c with strict := true }) (fun before c => { c with strict := before.strict })
      do
        expectKeyword "class"
        let name ←
          if nameIsOptional && !(← seesKind .identifier) then pure .null
          else identifier .parameter
        let base ←
          if ← seesKeyword "extends" then
            discard advance
            isolated g.chain
          else pure .null
        return (name, base, ← classBody g)
  finish start kind [("id", name), ("superClass", base), ("body", d)]

end Classes

end Source

end Offside
