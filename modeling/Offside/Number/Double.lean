import Offside.Text.Basic

/-!
# Double precision numbers

A finite double is a sign, a mantissa and a power of two.  It is kept in canonical form: the
mantissa has 53 bits, or fewer with the smallest power.  All arithmetic here is exact on natural
numbers and ends in one rounding, `ofRatio`, to the nearest double with ties to the even
mantissa.
-/

namespace Offside

/-- A double precision number: a canonical `mantissa * 2 ^ exponent`, an infinity, or none. -/
inductive Double where
  | nan
  | infinite (negative : Bool)
  | finite (negative : Bool) (mantissa : Nat) (exponent : Int)
deriving DecidableEq, Inhabited

namespace Double

/-- The least power of two. -/
def leastExponent : Int := -1074

/-- The greatest power of two of a finite number. -/
def greatestExponent : Int := 971

/-- Zero with a sign. -/
def zero (negative : Bool) : Double := .finite negative 0 leastExponent

/-- The numerator and denominator of `num / den` over a power of two. -/
def scaled (num den : Nat) (exponent : Int) : Nat × Nat :=
  match exponent with
  | .ofNat e => (num, den * Nat.pow 2 e)
  | .negSucc e => (num * Nat.pow 2 (e + 1), den)

/-- The integer nearest to a ratio; half way, the even one. -/
def nearest (num den : Nat) : Nat :=
  let q := num / den
  let r := num % den
  if 2 * r < den then q else if den < 2 * r then q + 1 else q + q % 2

/-- The power of two at which a positive ratio has a mantissa of 53 bits, or the least power. -/
def exponentOf (num den : Nat) : Int :=
  let estimate : Int := (num.log2 : Int) - den.log2
  let (n, d) := scaled num den estimate
  let log := if d ≤ n then estimate else estimate - 1
  max (log - 52) leastExponent

/-- The double nearest to a ratio with a sign; half way, the one with the even mantissa. -/
def ofRatio (negative : Bool) (num den : Nat) : Double :=
  if num = 0 then zero negative
  else
    let exponent := exponentOf num den
    let (n, d) := scaled num den exponent
    let mantissa := nearest n d
    let (mantissa, exponent) :=
      if mantissa = Nat.pow 2 53 then (Nat.pow 2 52, exponent + 1) else (mantissa, exponent)
    if greatestExponent < exponent then .infinite negative
    else .finite negative mantissa exponent

/-- The double nearest to an integer. -/
def ofInt (n : Int) : Double := ofRatio (n < 0) n.natAbs 1

/-- The double nearest to `digits * 10 ^ exponent`.  Numbers far outside the range are settled
by their number of digits, without computing the power. -/
def ofDecimal (negative : Bool) (digits : Nat) (exponent : Int) : Double :=
  let count := (Text.ofNat digits).length
  if digits = 0 then zero negative
  else if 310 < exponent + count then .infinite negative
  else if exponent + count < -330 then zero negative
  else match exponent with
    | .ofNat e => ofRatio negative (digits * Nat.pow 10 e) 1
    | .negSucc e => ofRatio negative digits (Nat.pow 10 (e + 1))

/-- A finite number as a signed numerator over a positive denominator. -/
def toRatio? : Double → Option (Int × Nat)
  | .finite negative mantissa exponent =>
    let sign : Int := if negative then -1 else 1
    match exponent with
    | .ofNat e => some (sign * (mantissa * Nat.pow 2 e : Nat), 1)
    | .negSucc e => some (sign * mantissa, Nat.pow 2 (e + 1))
  | _ => none

/-- The integer that a number equals, if there is one. -/
def toInt? (x : Double) : Option Int :=
  match x.toRatio? with
  | some (num, den) => if num % den = 0 then some (num / den) else none
  | none => none

/-- The sum of a number and an integer other than zero, rounded once. -/
def addInt (x : Double) (n : Int) : Double :=
  match x.toRatio? with
  | some (num, den) =>
    let sum := num + n * den
    ofRatio (sum < 0) sum.natAbs den
  | none => x

/-- Zero of either sign. -/
def isZero : Double → Bool
  | .finite _ mantissa _ => mantissa == 0
  | _ => false

/-- Numerical equality: the zeros are equal, and a number that is none equals nothing. -/
def eqv : Double → Double → Bool
  | .nan, _ => false
  | x, y => x == y || (x.isZero && y.isZero)

end Double

end Offside
