import Offside.Source.Token

/-!
# Numerals

A numeral is written in decimal, with a fraction and an exponent if wanted, or in radix sixteen,
eight or two behind `0x`, `0o` or `0b`.  A zero followed by octal digits alone is an octal
numeral too.  A decimal numeral stands for the nearest double, and for an integer if that double
is integral; the other forms stand for the exact integer.
-/

namespace Offside

namespace Source

/-- A numeral must not run into a name. -/
def endNumeral (p q : Place) (value : Scalar) : Except Fault (Token × Place) :=
  if q.peek.isNameStart then q.fail .illegal else .ok (.between p q .number [] value, q)

/-- A numeral whose digits of a radix begin at `q`.  Radix sixteen ends before any digit; in the
others a foreign decimal digit may not follow. -/
def radixNumeral (radix : Nat) (isDigit : CodePoint → Bool) (p q : Place) :
    Except Fault (Token × Place) :=
  let digits := q.rest.takeWhile isDigit
  let after := q.advance digits.length
  if digits.isEmpty then after.fail .illegal
  else if after.peek.isDigit then after.fail .illegal
  else endNumeral p after (.int (Text.numeral radix digits))

/-- The digits from here on are octal up to the first that is no digit of a decimal numeral. -/
def isOctalRun (t : Text) : Bool :=
  match t.dropWhile CodePoint.isOctalDigit with
  | [] => true
  | c :: _ => !c.isDigit

/-- The value of a decimal numeral: an integer if the nearest double is integral. -/
def decimalValue (digits : Text) (exponent : Int) : Scalar :=
  let x := Double.ofDecimal false (Text.numeral 10 digits) exponent
  match x.toInt? with
  | some n => .int n
  | none => .float x

/-- A decimal numeral. -/
def decimalNumeral (p : Place) : Except Fault (Token × Place) :=
  let whole := p.rest.takeWhile CodePoint.isDigit
  let q := p.advance whole.length
  let pointed := q.peek == '.'
  let fraction := if pointed then (q.rest.drop 1).takeWhile CodePoint.isDigit else []
  let q := if pointed then q.advance (1 + fraction.length) else q
  if q.peek == 'e' || q.peek == 'E' then
    let q := q.advance 1
    let negative := q.peek == '-'
    let q := if negative || q.peek == '+' then q.advance 1 else q
    let digits := q.rest.takeWhile CodePoint.isDigit
    if digits.isEmpty then q.fail .illegal
    else
      let e : Int := Text.numeral 10 digits
      endNumeral p (q.advance digits.length)
        (decimalValue (whole ++ fraction) ((if negative then -e else e) - fraction.length))
  else endNumeral p q (decimalValue (whole ++ fraction) (-(fraction.length : Int)))

/-- The numeral that stands here. -/
def scanNumeral (p : Place) : Except Fault (Token × Place) :=
  let q := p.advance 1
  if p.peek != CodePoint.ofChar '0' then decimalNumeral p
  else if q.peek == 'x' || q.peek == 'X' then
    radixNumeral 16 CodePoint.isHexDigit p (q.advance 1)
  else if q.peek == 'b' || q.peek == 'B' then
    radixNumeral 2 CodePoint.isBinaryDigit p (q.advance 1)
  else if q.peek == 'o' || q.peek == 'O' then
    radixNumeral 8 CodePoint.isOctalDigit p (q.advance 1)
  else if q.peek.isOctalDigit && isOctalRun q.rest then do
    let (token, after) ← radixNumeral 8 CodePoint.isOctalDigit p q
    .ok ({ token with octal := true }, after)
  else decimalNumeral p

end Source

end Offside
