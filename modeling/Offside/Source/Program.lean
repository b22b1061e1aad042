import Offside.Source.Items

/-!
# Programs

A program is a sequence of items behind directives.  `parseProgram` takes a source text to the
tree of its program, or to the first fault in it.

The productions refer to each other, and each round through them takes at least one code point.
`productions` closes them up to a depth, and the number of code points times the number of
productions is deep enough for any text.
-/

namespace Offside

namespace Source

/-- Whether a text is a script, or a module with imports and exports. -/
inductive SourceType where
  | script
  | module
deriving DecidableEq

/-- The word for a source type. -/
def SourceType.word : SourceType → Text
  | .script => "script"
  | .module => "module"

/-- The productions down to a depth. -/
def productions : Nat → Productions
  | 0 =>
    { assignment := Parse.refuseLast .unexpectedEnd
      operand := Parse.refuseLast .unexpectedEnd
      unary := Parse.refuseLast .unexpectedEnd
      chain := Parse.refuseLast .unexpectedEnd
      construction := Parse.refuseLast .unexpectedEnd
      pattern := fun _ => Parse.refuseLast .unexpectedEnd
      statement := Parse.refuseLast .unexpectedEnd
      item := Parse.refuseLast .unexpectedEnd }
  | depth + 1 =>
    -- Each production asks for the next level only when it is run.
    { assignment := fun s => Expression.assignment (productions depth) s
      operand := fun s => Expression.operand (productions depth) s
      unary := fun s => Expression.unary (productions depth) s
      chain := fun s => Expression.chain (productions depth) s
      construction := fun s =>
        let g := productions depth
        Expression.construction g (Expression.callee g) s
      pattern := fun binder s => Binding.pattern (productions depth) binder s
      statement := fun s => Statement.statement (productions depth) s
      item := fun s => Items.item (productions depth) s }

/-- The context at the beginning of a program. -/
def startContext : Context :=
  { isModule := false, await := false, allowIn := true, allowStrictDirective := true
    allowYield := true, patternOnly := none, isTarget := false, isBinding := false
    inFunction := false, inLoop := false, inSwitch := false, labels := [], strict := false }

/-- The state before the first token has been seen. -/
def startState (source : Text) : ParseState :=
  let p := Place.start source
  { scanner := ⟨p, []⟩, lookahead := .between p p .endOfText [] .null, newline := false
    start := Parse.markerAt p, last := Parse.markerAt p, context := startContext }

/-- The program that the whole text is. -/
def program (sourceType : SourceType) (g : Productions) : Parse Data := do
  discard Parse.advance
  modify fun s => { s with last := Parse.markerAt s.scanner.place }
  -- The first token is always seen with the eyes of a script.
  if sourceType = .module then Parse.change fun c => { c with isModule := true, strict := true }
  let start ← Parse.here
  let first ← Functions.directives g (← Parse.bound) none
  let rest ← Parse.untilStop (Parse.seesKind .endOfText) g.item (← Parse.bound)
  Parse.finish start "Program"
    [("body", .list (first ++ rest)), ("sourceType", .text sourceType.word)]

/-- The tree of the program that a source text is. -/
def parseProgram (sourceType : SourceType) (source : Text) : Except Fault Data :=
  (program sourceType (productions (8 * (source.length + 2)))).run' (startState source)

end Source

end Offside
