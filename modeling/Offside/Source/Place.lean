import Offside.Source.Fault
import Offside.Text.Letter

/-!
# Places in a source text

A place is the text that is left, its offset, and the line with the offset where the line
begins.  All offsets count code points.  Five sequences end a line: line feed, carriage return,
the two together, and the Unicode line and paragraph separators.

Blank text between tokens is white space, line ends and comments.  A script knows two more
forms of comment: one that begins with `<!--`, and one that begins with `-->` where nothing but
blanks and comments precedes it on its line.
-/

namespace Offside

namespace CodePoint

/-- A code point that ends a line. -/
def isLineEnd (c : CodePoint) : Bool :=
  c == '\n' || c == '\r' || c.val == 0x2028 || c.val == 0x2029

/-- White space that ends no line. -/
def isSpace (c : CodePoint) : Bool :=
  c == ' ' || c == '\t' || c.val == 0x0B || c.val == 0x0C || c.val == 0xA0 || c.val == 0x1680
    || c.val == 0x180E || (0x2000 ≤ c.val && c.val ≤ 0x200A) || c.val == 0x202F
    || c.val == 0x205F || c.val == 0x3000 || c.val == 0xFEFF

/-- The code point is one of the characters of a string. -/
def among (s : String) (c : CodePoint) : Bool := (Text.ofString s).contains c

end CodePoint

namespace Source

/-- A place in a source text. -/
structure Place where
  rest : Text
  offset : Nat
  line : Nat
  lineStart : Nat

namespace Place

/-- The beginning of a text; an empty text begins on line zero. -/
def start (source : Text) : Place := ⟨source, 0, if source.isEmpty then 0 else 1, 0⟩

/-- The code point at a place; past the end it counts as the null character. -/
def peek (p : Place) : CodePoint := p.rest.headD (CodePoint.ofNat 0)

/-- The text goes on with the given one. -/
def sees (p : Place) (t : Text) : Bool := t.isPrefixOf p.rest

/-- Nothing is left. -/
def atEnd (p : Place) : Bool := p.rest.isEmpty

/-- The place `n` code points further on, on the same line. -/
def advance (p : Place) (n : Nat) : Place := { p with rest := p.rest.drop n, offset := p.offset + n }

/-- The place after the line end that stands here. -/
def endLine (p : Place) : Place :=
  let q := p.advance (if p.sees "\r\n" then 2 else 1)
  { q with line := q.line + 1, lineStart := q.offset }

/-- The fault that a problem makes here. -/
def fault (p : Place) (problem : Problem) : Fault :=
  ⟨problem, p.line, (p.offset : Int) - p.lineStart + 1⟩

/-- Refuse the text because of a problem here. -/
def fail {α : Type} (p : Place) (problem : Problem) : Except Fault α := .error (p.fault problem)

/-! ## Comments -/

/-- The place after a comment that ends with its line. -/
def skipLine : Nat → Place → Place
  | 0, p => p
  | fuel + 1, p =>
    if p.atEnd then p
    else if p.peek.isLineEnd then p.endLine
    else skipLine fuel (p.advance 1)

/-- The place after a comment that ends with `*/`. -/
def skipBlock : Nat → Place → Except Fault Place
  | 0, p => p.fail .illegal
  | fuel + 1, p =>
    if p.atEnd then p.fail .illegal
    else if p.peek.isLineEnd then skipBlock fuel p.endLine
    else if p.sees "*/" then .ok (p.advance 2)
    else skipBlock fuel (p.advance 1)

/-- The place of the next token.  `fresh` tells that only blanks and comments precede on the
line, `script` that comments opened by `<!--` are known. -/
def skipBlanks (script : Bool) : Nat → Bool → Place → Except Fault Place
  | 0, _, p => .ok p
  | fuel + 1, fresh, p =>
    if p.atEnd then .ok p
    else if p.peek.isSpace then skipBlanks script fuel fresh (p.advance 1)
    else if p.peek.isLineEnd then skipBlanks script fuel true p.endLine
    else if p.sees "//" then skipBlanks script fuel true (skipLine fuel (p.advance 2))
    else if p.sees "/*" then
      match skipBlock (fuel + 1) (p.advance 2) with
      | .ok q => skipBlanks script fuel fresh q
      | .error fault => .error fault
    else if fresh && p.sees "-->" then skipBlanks script fuel fresh (skipLine fuel (p.advance 3))
    else if script && p.sees "<!--" then skipBlanks script fuel fresh (skipLine fuel (p.advance 4))
    else .ok p

end Place

end Source

end Offside
