import Offside.Source.Token

/-!
# Names

A name is a run of name characters, some of which may be written as escapes: `\u` with four
hexadecimal digits, or `\u` with the number of a code point in braces.  Keywords and the words
for the literal constants are names as well, and may not be written with escapes.
-/

namespace Offside

namespace Source

/-- A code point written by exactly `n` hexadecimal digits, and the place after the digits; if
there are fewer of them, none and the place after those. -/
def hexEscape (n : Nat) (p : Place) : Option CodePoint × Place :=
  let digits := (p.rest.take n).takeWhile CodePoint.isHexDigit
  let q := p.advance digits.length
  (if digits.length = n then some (CodePoint.ofNat (Text.numeral 16 digits)) else none, q)

/-- A code point written by hexadecimal digits in braces, from behind the opening brace on. -/
def bracedEscape (p : Place) : Except Fault (CodePoint × Place) :=
  let digits := p.rest.takeWhile CodePoint.isHexDigit
  let q := p.advance digits.length
  if digits.isEmpty && q.peek == '\x7d' then p.fail .illegal
  else if q.atEnd then q.fail .illegal
  else
    let code := Text.numeral 16 digits
    if q.peek == '\x7d' && code ≤ 0x10FFFF then .ok (CodePoint.ofNat code, q.advance 1)
    else (q.advance 1).fail .illegal

/-- A code point of a name written as an escape, from behind the backslash on. -/
def nameEscape (allowed : CodePoint → Bool) (p : Place) : Except Fault (CodePoint × Place) :=
  if p.peek != CodePoint.ofChar 'u' then p.fail .illegal
  else
    let p := p.advance 1
    if p.peek == '\x7b' then bracedEscape (p.advance 1)
    else match hexEscape 4 p with
      | (some c, q) => if c != CodePoint.ofChar '\\' && allowed c then .ok (c, q) else q.fail .illegal
      | (none, q) => q.fail .illegal

/-- The rest of a name in which escapes may occur, after the given code points. -/
def nameRest : Nat → Place → Text → Except Fault (Text × Place)
  | 0, p, acc => .ok (acc.reverse, p)
  | fuel + 1, p, acc =>
    if p.atEnd || !p.peek.isNamePart then .ok (acc.reverse, p)
    else if p.peek == '\\' then
      match nameEscape CodePoint.isNamePart (p.advance 1) with
      | .ok (c, q) => nameRest fuel q (c :: acc)
      | .error fault => .error fault
    else nameRest fuel (p.advance 1) (p.peek :: acc)

/-- The code points of a name, with its escapes resolved. -/
def nameText (p : Place) : Except Fault (Text × Place) :=
  let plain := p.rest.takeWhile fun c => c.isNamePart && c != CodePoint.ofChar '\\'
  let q := p.advance plain.length
  if q.peek != CodePoint.ofChar '\\' then .ok (plain, q)
  else
    let fuel := p.rest.length
    if p.peek == '\\' then
      match nameEscape CodePoint.isNameStart (p.advance 1) with
      | .ok (c, q) => nameRest fuel q [c]
      | .error fault => .error fault
    else nameRest fuel q plain.reverse

/-- The kind of token that a name is; a single code point is never reserved. -/
def nameKind (name : Text) : TokenKind :=
  if name.length = 1 then .identifier
  else if keywords.contains name then .keyword
  else if name = "null" then .null
  else if name = "true" ∨ name = "false" then .boolean
  else .identifier

/-- The name or reserved word that stands here. -/
def scanName (p : Place) : Except Fault (Token × Place) := do
  let (name, q) ← nameText p
  let kind := nameKind name
  if kind ≠ .identifier ∧ p.offset + name.length ≠ q.offset then p.fail .escapedKeyword
  else
    let value : Scalar := if kind = .boolean then .bool (name = "true") else .null
    .ok (.between p q kind name value, q)

end Source

end Offside
