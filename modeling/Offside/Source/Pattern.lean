import Offside.Source.Name
import Offside.Source.Pattern.Grammar

/-!
# Regular expressions

A regular expression literal is a body between slashes and its flags.  It is refused if its body
is no pattern, once the escapes that name code points by number are resolved.
-/

namespace Offside

namespace Source

/-- The code points that the escapes in a pattern stand for, before it is checked: one above
`U+FFFF` counts as `U+FFFF`.  None if an escape names no code point. -/
def unescapePattern : Nat → Text → Option Text
  | 0, _ => some []
  | _, [] => some []
  | fuel + 1, c :: rest =>
    let plain := (unescapePattern fuel rest).map (c :: ·)
    let resolved (code : Nat) (rest : Text) : Option Text :=
      if 0x10FFFF < code then none
      else (unescapePattern fuel rest).map (CodePoint.ofNat (min code 0xFFFF) :: ·)
    if c == '\\' && rest.head? == some (CodePoint.ofChar 'u') then
      let after := rest.drop 1
      let braced := (after.drop 1).takeWhile CodePoint.isHexDigit
      let closing := after.drop (1 + braced.length)
      let four := (after.take 4).takeWhile CodePoint.isHexDigit
      if after.head? == some (CodePoint.ofChar '\x7b') && !braced.isEmpty
          && closing.head? == some (CodePoint.ofChar '\x7d') then
        resolved (Text.numeral 16 braced) (closing.drop 1)
      else if four.length = 4 then resolved (Text.numeral 16 four) (after.drop 4)
      else plain
    else plain

/-- A text in which each surrogate pair counts as `U+FFFF`. -/
def withoutPairs : Text → Text
  | [] => []
  | [c] => [c]
  | c :: d :: rest =>
    if c.isHighSurrogate && d.isLowSurrogate then CodePoint.ofNat 0xFFFF :: withoutPairs rest
    else c :: withoutPairs (d :: rest)

/-- The place after the body of a regular expression, from behind its first slash on.  A slash
in brackets does not end the body. -/
def skipPattern : Nat → Bool → Place → Except Fault Place
  | 0, _, p => p.fail .unterminatedPattern
  | fuel + 1, bracketed, p =>
    let q := p.advance 1
    if p.atEnd then p.fail .unterminatedPattern
    else if p.peek == '\\' then
      if q.peek.isLineEnd then (q.advance 1).fail .unterminatedPattern
      else skipPattern fuel bracketed (q.advance 1)
    else if p.peek.isLineEnd then q.fail .unterminatedPattern
    else if bracketed then skipPattern fuel (p.peek != CodePoint.ofChar ']') q
    else if p.peek == '/' then .ok q
    else skipPattern fuel (p.peek == '[') q

/-- The place after the flags of a regular expression, which may not be escaped. -/
def skipFlags (p : Place) : Except Fault Place :=
  let q := p.advance (p.rest.takeWhile fun c => c.isNamePart && c != CodePoint.ofChar '\\').length
  if q.peek == '\\' && q.rest.length != 1 then
    let r := q.advance 1
    if r.peek == 'u' then
      match hexEscape 4 (r.advance 1) with
      | (some _, after) => after.fail .illegal
      | (none, _) => (r.advance 1).fail .illegal
    else r.fail .illegal
  else if q.peek == '\\' then .ok (q.advance 1)
  else .ok q

/-- The regular expression that stands here. -/
def scanPattern (p : Place) : Except Fault (Token × Place) := do
  let q ← skipPattern (p.rest.length + 1) false (p.advance 1)
  let r ← skipFlags q
  let body := (p.rest.take (q.offset - p.offset - 1)).drop 1
  match unescapePattern body.length body with
  | some pattern =>
    if Pattern.isValid (withoutPairs pattern) then .ok (.between p r .pattern [] .null, r)
    else r.fail .brokenPattern
  | none => r.fail .brokenPattern

end Source

end Offside
