import Offside.Source.Numeral
import Offside.Source.Pattern
import Offside.Source.Punctuator
import Offside.Source.Quotation

/-!
# The scanner

The scanner cuts a source text into tokens, one at a time.  A closing brace may end a block or
go on with a template; which of them is told by the braces that are open.  Whether a slash
begins a regular expression is known to the grammar alone, which then asks for one.
-/

namespace Offside

namespace Source

/-- What an open brace encloses. -/
inductive Brace where
  | block
  | template
deriving DecidableEq

/-- A place and the braces that are open there, the innermost first. -/
structure Scanner where
  place : Place
  braces : List Brace

namespace Scanner

/-- The open braces after a token. -/
def bracesAfter (braces : List Brace) (t : Token) : List Brace :=
  if t.kind = .template then
    if t.opens then if t.closes then braces else .template :: braces
    else if t.closes then braces.drop 1 else braces
  else if t.isPunctuator "\x7b" then .block :: braces
  else if t.isPunctuator "\x7d" then braces.drop 1
  else braces

/-- The token at a place, with the given braces open. -/
def scanToken (braces : List Brace) (p : Place) : Except Fault (Token × Place) :=
  let c := p.peek
  if p.atEnd then .ok (.between p p .endOfText [] .null, p)
  else if c.isNameStart then scanName p
  else if c == '\'' || c == '"' then scanString p
  else if c.isDigit || (c == '.' && (p.advance 1).peek.isDigit) then scanNumeral p
  else if c == '`' || (c == '\x7d' && braces.head? == some .template) then scanTemplate p
  else scanPunctuator p

/-- The next token; blanks have been skipped. -/
def next (s : Scanner) : Except Fault (Token × Scanner) :=
  match scanToken s.braces s.place with
  | .ok (t, q) => .ok (t, ⟨q, bracesAfter s.braces t⟩)
  | .error fault => .error fault

/-- The regular expression that stands here. -/
def pattern (s : Scanner) : Except Fault (Token × Scanner) :=
  match scanPattern s.place with
  | .ok (t, q) => .ok (t, { s with place := q })
  | .error fault => .error fault

/-- The scanner at the next token; `script` tells that comments opened by `<!--` are known. -/
def skipBlanks (script : Bool) (s : Scanner) : Except Fault Scanner :=
  let p := s.place
  match p.skipBlanks script (p.rest.length + 1) (p.offset == 0) with
  | .ok q => .ok { s with place := q }
  | .error fault => .error fault

end Scanner

end Source

end Offside
