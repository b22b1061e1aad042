import Offside.Number.Double

/-!
# The shortest decimal of a double

The reals that round to a positive double form an interval around it; the two ends belong to
the interval if the mantissa is even.  The decimal that stands for the double has the fewest
digits among the decimals in this interval and, among those, lies nearest to the double.  The
search tries one digit, two digits and so on; seventeen always suffice.

A decimal is printed positionally if its leading digit stands for a power of ten from `-4` to
`15`, and with an exponent of at least two digits otherwise.
-/

namespace Offside

/-- A decimal: the number `digits * 10 ^ exponent`. -/
structure Decimal where
  /-- The digits, read as a number. -/
  digits : Nat
  /-- The power of ten of the last digit. -/
  exponent : Int
deriving DecidableEq, Inhabited

namespace Decimal

/-- The same decimal without zeros at its end; `fuel` bounds their number. -/
def trimmed (d : Decimal) : Nat → Decimal
  | 0 => d
  | fuel + 1 => if d.digits % 10 = 0 then trimmed ⟨d.digits / 10, d.exponent + 1⟩ fuel else d

/-- The text of a decimal: positional for moderate sizes, with an exponent otherwise. -/
def toText (d : Decimal) : Text :=
  let digits := Text.ofNat d.digits
  let leading : Int := d.exponent + (digits.length - 1 : Nat)
  if -4 ≤ leading && leading < 16 then
    if leading < 0 then
      "0." ++ List.replicate (-leading - 1).toNat (CodePoint.ofChar '0') ++ digits
    else
      let whole := (leading + 1).toNat
      if digits.length ≤ whole then
        digits ++ List.replicate (whole - digits.length) (CodePoint.ofChar '0') ++ ".0"
      else digits.take whole ++ "." ++ digits.drop whole
  else
    let fraction := match digits.drop 1 with
      | [] => []
      | rest => '.' :: rest
    let magnitude := Text.ofNat leading.natAbs
    digits.take 1 ++ fraction ++ "e" ++ (if leading < 0 then "-" else "+")
      ++ List.replicate (2 - magnitude.length) (CodePoint.ofChar '0') ++ magnitude

end Decimal

namespace Double

/-- A positive finite double with the interval of reals that round to it, all over one
denominator. -/
structure Interval where
  low : Nat
  value : Nat
  high : Nat
  denominator : Nat
  /-- The two ends belong to the interval. -/
  closed : Bool

namespace Interval

/-- The interval of `mantissa * 2 ^ exponent`.  Below a power of two the doubles lie closer, so
that the lower half of the interval is shorter there. -/
def ofParts (mantissa : Nat) (exponent : Int) : Interval :=
  let below := if mantissa = Nat.pow 2 52 ∧ leastExponent < exponent then 1 else 2
  let (num, den) := match exponent with
    | .ofNat e => (Nat.pow 2 e, 4)
    | .negSucc e => (1, 4 * Nat.pow 2 (e + 1))
  ⟨(4 * mantissa - below) * num, 4 * mantissa * num, (4 * mantissa + 2) * num, den,
    mantissa % 2 == 0⟩

/-- The number `num / den` lies in the interval. -/
def contains (i : Interval) (num den : Nat) : Bool :=
  let x := num * i.denominator
  if i.closed then i.low * den ≤ x && x ≤ i.high * den
  else i.low * den < x && x < i.high * den

/-- A power of ten as a ratio. -/
def powerOfTen : Int → Nat × Nat
  | .ofNat e => (Nat.pow 10 e, 1)
  | .negSucc e => (1, Nat.pow 10 (e + 1))

/-- The decimal of the interval with the given power of ten that lies nearest to the value. -/
def onGrid? (i : Interval) (exponent : Int) : Option Decimal :=
  let (num, den) := powerOfTen exponent
  let lower := (i.value * den) / (i.denominator * num)
  let inside (digits : Nat) : Bool := 0 < digits && i.contains (digits * num) den
  -- The distances of the two neighbours, over the common denominator of value and grid.
  let toLower := i.value * den - lower * num * i.denominator
  let toUpper := (lower + 1) * num * i.denominator - i.value * den
  match inside lower, inside (lower + 1) with
  | true, true =>
    if toLower < toUpper || (toLower == toUpper && lower % 2 == 0) then some ⟨lower, exponent⟩
    else some ⟨lower + 1, exponent⟩
  | true, false => some ⟨lower, exponent⟩
  | false, true => some ⟨lower + 1, exponent⟩
  | false, false => none

/-- The first hit on finer and finer grids. -/
def search (i : Interval) (exponent : Int) : Nat → Decimal
  | 0 => ⟨0, 0⟩
  | fuel + 1 => match i.onGrid? exponent with
    | some d => d
    | none => search i (exponent - 1) fuel

/-- A power of ten that is not below the leading digit of the value. -/
def leading (i : Interval) : Int :=
  let bits : Int := (i.value.log2 : Int) - i.denominator.log2 + 1
  if 0 ≤ bits then bits * 30103 / 100000 + 1 else bits * 30102 / 100000 + 1

end Interval

/-- The shortest decimal of a positive finite double. -/
def shortest (mantissa : Nat) (exponent : Int) : Decimal :=
  let i := Interval.ofParts mantissa exponent
  (i.search i.leading 24).trimmed 24

/-- The text of a double. -/
def toText : Double → Text
  | .nan => "nan"
  | .infinite false => "inf"
  | .infinite true => "-inf"
  | .finite negative mantissa exponent =>
    let magnitude : Text := if mantissa = 0 then "0.0" else (shortest mantissa exponent).toText
    if negative then '-' :: magnitude else magnitude

end Double

end Offside
