import Offside.Source.Name

/-!
# Quoted text in a source

A string stands between two single or two double quotes on one line, and a template between
backquotes, over any number of lines.  A template is cut into pieces by the expressions in it:
a piece begins at a backquote or at the brace that closes an expression, and it ends at a
backquote or at the `$` and brace that open one.

Both know escapes behind a backslash.  In a string, one to three octal digits name a code
point; a template has no such escape, and it leaves a broken `\u` escape alone.
-/

namespace Offside

namespace Source

/-- The control character that a letter stands for behind a backslash. -/
def controlEscape? (c : CodePoint) : Option CodePoint :=
  if c == 'n' then some '\n'
  else if c == 'r' then some '\r'
  else if c == 't' then some '\t'
  else if c == 'b' then some (CodePoint.ofNat 8)
  else if c == 'f' then some (CodePoint.ofNat 12)
  else if c == 'v' then some (CodePoint.ofNat 11)
  else none

/-- The digits of an octal escape: three if the first is at most three, else two. -/
def octalDigits (t : Text) : Text :=
  let digits := (t.take 3).takeWhile CodePoint.isOctalDigit
  if (digits.headD '0').val ≤ '3'.toNat then digits else digits.take 2

/-- A code point written by two hexadecimal digits. -/
def byteEscape (p : Place) : Except Fault (CodePoint × Place) :=
  match hexEscape 2 p with
  | (some c, q) => .ok (c, q)
  | (none, q) => q.fail .hexEscape

/-- What an escape in a string adds, from behind the backslash on. -/
structure Escape where
  text : Text
  octal : Bool
  place : Place

/-- An escape in a string, from behind the backslash on. -/
def stringEscape (p : Place) : Except Fault Escape := do
  let c := p.peek
  let q := p.advance 1
  if c.isLineEnd then .ok ⟨[], false, p.endLine⟩
  else if c == 'u' then
    if q.peek == '\x7b' then
      let (x, r) ← bracedEscape (q.advance 1)
      .ok ⟨[x], false, r⟩
    else match hexEscape 4 q with
      | (some x, r) => .ok ⟨[x], false, r⟩
      | (none, r) => r.fail .illegal
  else if c == 'x' then
    let (x, r) ← byteEscape q
    .ok ⟨[x], false, r⟩
  else if c == '8' || c == '9' then q.fail .illegal
  else if c.isOctalDigit then
    let digits := octalDigits p.rest
    .ok ⟨[CodePoint.ofNat (Text.numeral 8 digits)], digits != Text.ofString "0", p.advance digits.length⟩
  else .ok ⟨[(controlEscape? c).getD c], false, q⟩

/-- The rest of a string that began at `start`, after the given code points. -/
def stringRest (start : Place) (quote : CodePoint) :
    Nat → Place → Text → Bool → Except Fault (Token × Place)
  | 0, p, _, _ => p.fail .illegal
  | fuel + 1, p, acc, octal =>
    -- A string without an end is refused where it begins.
    let unclosed : Place := { p with offset := start.offset }
    if p.atEnd then unclosed.fail .illegal
    else if p.peek == quote then
      let q := p.advance 1
      let value := acc.reverse
      .ok ({ Token.between start q .string value (.text value) with octal := octal }, q)
    else if p.peek == '\\' then
      match stringEscape (p.advance 1) with
      | .ok e => stringRest start quote fuel e.place (e.text.reverse ++ acc) (octal || e.octal)
      | .error fault => .error fault
    else if p.peek.isLineEnd then unclosed.fail .illegal
    else stringRest start quote fuel (p.advance 1) (p.peek :: acc) octal

/-- The string that stands here. -/
def scanString (p : Place) : Except Fault (Token × Place) :=
  stringRest p p.peek (p.rest.length + 1) (p.advance 1) [] false

/-- The place after an escape in a template, from behind the backslash on. -/
def templateEscape (p : Place) : Except Fault Place := do
  let c := p.peek
  let q := p.advance 1
  if c.isLineEnd then .ok p.endLine
  else if c == 'u' then
    if q.peek == '\x7b' then
      let (_, r) ← bracedEscape (q.advance 1)
      .ok r
    else match hexEscape 4 q with
      | (some _, r) => .ok r
      | (none, _) => .ok q
  else if c == 'x' then
    let (_, r) ← byteEscape q
    .ok r
  else if c == '0' then if q.peek.isDigit then q.fail .templateOctal else .ok q
  else if c.isOctalDigit then q.fail .templateOctal
  else .ok q

/-- A piece of a template between two places, without the marks at its ends. -/
def templatePiece (p q : Place) (closes : Bool) : Token :=
  let marks := if closes then 1 else 2
  let text := (p.rest.take (q.offset - p.offset - marks)).drop 1
  { Token.between p q .template text .null with opens := p.peek == '`', closes := closes }

/-- The rest of a piece of a template that began at `start`. -/
def templateRest (start : Place) : Nat → Place → Except Fault (Token × Place)
  | 0, p => p.fail .illegal
  | fuel + 1, p =>
    if p.atEnd then p.fail .illegal
    else if p.peek == '`' then
      let q := p.advance 1
      .ok (templatePiece start q true, q)
    else if p.sees "$\x7b" then
      let q := p.advance 2
      .ok (templatePiece start q false, q)
    else if p.peek == '\\' then
      match templateEscape (p.advance 1) with
      | .ok q => templateRest start fuel q
      | .error fault => .error fault
    else if p.peek.isLineEnd then templateRest start fuel p.endLine
    else templateRest start fuel (p.advance 1)

/-- The piece of a template that stands here. -/
def scanTemplate (p : Place) : Except Fault (Token × Place) :=
  templateRest p (p.rest.length + 1) (p.advance 1)

end Source

end Offside
