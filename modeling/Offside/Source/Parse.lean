import Offside.Source.Node
import Offside.Source.Scanner

/-!
# The state of a parser

A parser sees one token ahead.  It remembers where that token begins, where the one before it
ended, and whether a line ended between the two.  The rest of its state is the context: what the
enclosing productions allow, and what they have learned about the expression at hand.

An expression may turn out to be a pattern.  While one is parsed, the context tells whether it
can still be the target of an assignment or an element of a binding, and which token would be
in the way if it is an expression after all.  `isolated` parses a part that is an expression on
its own, `inherited` one that decides about the whole as well.
-/

namespace Offside

namespace Source

/-- What the enclosing productions allow and know. -/
structure Context where
  isModule : Bool
  /-- The word `await` is an operator. -/
  await : Bool
  /-- The word `in` is an operator. -/
  allowIn : Bool
  /-- The function at hand may switch to strict mode. -/
  allowStrictDirective : Bool
  /-- The word `yield` is a name. -/
  allowYield : Bool
  /-- The first token that only a pattern may have. -/
  patternOnly : Option Token
  isTarget : Bool
  isBinding : Bool
  inFunction : Bool
  inLoop : Bool
  inSwitch : Bool
  labels : List Text
  strict : Bool

/-- The state of a parser. -/
structure ParseState where
  scanner : Scanner
  /-- The token ahead. -/
  lookahead : Token
  /-- A line ended before the token ahead. -/
  newline : Bool
  /-- Where the token ahead begins. -/
  start : Marker
  /-- Where the token before it ended. -/
  last : Marker
  context : Context

/-- A parser: it takes tokens and answers, or finds a fault. -/
abbrev Parse := StateT ParseState (Except Fault)

namespace Parse

/-- The current place of a scanner as a marker. -/
def markerAt (p : Place) : Marker := ⟨p.offset, p.line, (p.offset : Int) - p.lineStart⟩

/-! ## Reading and changing the context -/

/-- A property of the context. -/
def ask {α : Type} (f : Context → α) : Parse α := return f (← get).context

/-- Change the context. -/
def change (f : Context → Context) : Parse Unit :=
  modify fun s => { s with context := f s.context }

/-- Parse a part in a changed context, and put back what `restore` takes from the context
before. -/
def within {α : Type} (enter : Context → Context) (restore : Context → Context → Context)
    (p : Parse α) : Parse α := do
  let before ← ask id
  change enter
  let result ← p
  change (restore before)
  return result

/-- The expression at hand is neither a target nor a binding. -/
def settle : Parse Unit := change fun c => { c with isTarget := false, isBinding := false }

/-! ## Faults -/

/-- Refuse the text because of a token: without a problem of its own, the token itself is the
problem.  The column counts from the beginning of the line on which the last token ended. -/
def refuseToken {α : Type} (t : Token) (problem : Option Problem) : Parse α := do
  let s ← get
  throw ⟨problem.getD (t.problem s.context.strict), t.line,
    (t.first : Int) - ((s.last.offset : Int) - s.last.column) + 1⟩

/-- Refuse the text because of a token that may not stand here. -/
def unexpected {α : Type} (t : Token) : Parse α := refuseToken t none

/-- Refuse the text because of the token ahead. -/
def unexpectedAhead {α : Type} : Parse α := do unexpected (← get).lookahead

/-- Refuse the text where the last token ended. -/
def refuseLast {α : Type} (problem : Problem) : Parse α := do
  let s ← get
  throw ⟨problem, s.last.line, s.last.column + 1⟩

/-- Refuse the text on the line of the token ahead, in the column where the last one ended. -/
def refuseAhead {α : Type} (problem : Problem) : Parse α := do
  let s ← get
  throw ⟨problem, s.scanner.place.line, s.last.column + 1⟩

/-! ## Tokens -/

/-- Lift a step of the scanner. -/
def scan {α : Type} (step : Except Fault α) : Parse α := StateT.lift step

/-- A name that strict mode reserves is a keyword there. -/
def reserve (strict : Bool) (t : Token) : Token :=
  if strict && t.kind == .identifier && strictReserved.contains t.text then
    { t with kind := .keyword }
  else t

/-- Look at the token behind `t`. -/
def prime (t : Token) : Parse Unit := do
  let s ← get
  let here ← scan (s.scanner.skipBlanks (!s.context.isModule))
  let (next, after) ← scan here.next
  set { s with
    scanner := after, lookahead := reserve s.context.strict next
    newline := t.line != next.line
    start := markerAt here.place, last := markerAt s.scanner.place }

/-- Take the token ahead. -/
def advance : Parse Token := do
  let t := (← get).lookahead
  prime t
  return t

/-- The token behind the one ahead, which stays where it is; braces that it opens or closes
count all the same. -/
def peekBehind : Parse Token := do
  let s ← get
  let here ← scan (s.scanner.skipBlanks (!s.context.isModule))
  let (next, after) ← scan here.next
  set { s with scanner := { s.scanner with braces := after.braces } }
  return next

/-- Take the regular expression that the token ahead begins. -/
def advancePattern : Parse Token := do
  let s ← get
  let p := s.scanner.place
  let back := { p with rest := (s.lookahead.raw ++ p.rest), offset := s.start.offset }
  let (t, after) ← scan ({ s.scanner with place := back } : Scanner).pattern
  set { s with scanner := after }
  prime t
  return t

/-- The token ahead is the given punctuator. -/
def sees (s : String) : Parse Bool := return (← get).lookahead.isPunctuator s

/-- The token ahead is the given keyword. -/
def seesKeyword (s : String) : Parse Bool := return (← get).lookahead.isKeyword s

/-- The token ahead is the given name. -/
def seesName (s : String) : Parse Bool := return (← get).lookahead.isName s

/-- The token ahead is of the given kind. -/
def seesKind (kind : TokenKind) : Parse Bool := return (← get).lookahead.kind == kind

/-- Take the given punctuator, or refuse what stands in its place. -/
def expect (s : String) : Parse Unit := do
  let t ← advance
  if !t.isPunctuator s then unexpected t

/-- Take the given keyword, or refuse what stands in its place. -/
def expectKeyword (s : String) : Parse Unit := do
  let t ← advance
  if !t.isKeyword s then unexpected t

/-- Take the given punctuator if it is ahead. -/
def accept (s : String) : Parse Bool := do
  if ← sees s then
    discard advance
    return true
  else return false

/-- Take the end of a statement: a semicolon, or nothing before a closing brace, at the end of
the text or behind a line end. -/
def endStatement : Parse Unit := do
  if ← accept ";" then return
  else if (← get).newline then return
  else
    if !(← seesKind .endOfText) && !(← sees "\x7d") then unexpectedAhead
    modify fun s => { s with last := s.start }

/-- The token ahead and the one behind it are `async function` on one line. -/
def seesAsyncFunction : Parse Bool := do
  if ← seesName "async" then
    let line := (← get).scanner.place.line
    let next ← peekBehind
    return line == next.line && next.isKeyword "function"
  else return false

/-- The token ahead and the one behind it are `import (`. -/
def seesImportCall : Parse Bool := do
  if ← seesKeyword "import" then return (← peekBehind).isPunctuator "("
  else return false

/-! ## Nodes -/

/-- Where a node begins that begins with the token ahead. -/
def here : Parse Marker := return (← get).start

/-- Where a node begins that begins with a token.  A token over several lines counts its column
from the line of a later token, if one is known. -/
def markerOf (t : Token) (laterLineStart : Nat) : Marker :=
  let column := (t.first : Int) - t.lineStart
  if column < 0 then ⟨t.first, t.line - 1, column + laterLineStart⟩ else ⟨t.first, t.line, column⟩

/-- The node from a place to the end of the last token. -/
def finish (start : Marker) (kind : String) (fields : List (String × Data)) : Parse Data :=
  return nodeBetween start (← get).last kind fields

/-! ## Repetition -/

/-- Parse parts until the next token tells to stop.  A part takes at least one token, so that
what is left of the text bounds their number. -/
def untilStop {α : Type} (stop : Parse Bool) (part : Parse α) : Nat → Parse (List α)
  | 0 => refuseLast .unexpectedEnd
  | fuel + 1 => do
    if ← stop then return []
    else
      let first ← part
      return first :: (← untilStop stop part fuel)

/-- More parts than are left. -/
def bound : Parse Nat := return (← get).scanner.place.rest.length + 3

/-- Parse parts until the given punctuator is ahead. -/
def upTo {α : Type} (s : String) (part : Parse α) : Parse (List α) := do
  untilStop (sees s) part (← bound)

/-- Parse parts as long as the given punctuator is ahead, which is taken before each. -/
def afterEach {α : Type} (s : String) (part : Parse α) : Parse (List α) := do
  untilStop (do return !(← sees s)) (do discard advance; part) (← bound)

/-! ## Expressions that may be patterns -/

/-- Parse a part with nothing known about it. -/
def afresh {α : Type} (restore : Context → Context → Context) (p : Parse α) : Parse α :=
  within (fun c => { c with isTarget := true, isBinding := true, patternOnly := none }) restore p

/-- Parse a part that is an expression on its own. -/
def isolated {α : Type} (p : Parse α) : Parse α :=
  afresh
    (fun before c => { c with
      isTarget := before.isTarget, isBinding := before.isBinding
      patternOnly := before.patternOnly })
    do
      let result ← p
      match ← ask (·.patternOnly) with
      | some t => unexpected t
      | none => return result

/-- Parse a part that decides about the whole as well. -/
def inherited {α : Type} (p : Parse α) : Parse α :=
  afresh
    (fun before c => { c with
      isTarget := c.isTarget && before.isTarget, isBinding := c.isBinding && before.isBinding
      patternOnly := before.patternOnly <|> c.patternOnly })
    p

/-- Parse a part with the word `in` as an operator or not. -/
def allowingIn {α : Type} (allow : Bool) (p : Parse α) : Parse α :=
  within (fun c => { c with allowIn := allow }) (fun before c => { c with allowIn := before.allowIn })
    p

/-- Parse a part with the word `yield` as a name or not. -/
def allowingYield {α : Type} (allow : Bool) (p : Parse α) : Parse α :=
  within (fun c => { c with allowYield := allow })
    (fun before c => { c with allowYield := before.allowYield }) p

end Parse

end Source

end Offside
