import Offside.Text.Digit

/-!
# Integers as people write them

An integer is read from a text in which blanks may stand around it, a sign in front of it and
single underscores between its digits, which may belong to any script.
-/

namespace Offside

namespace CodePoint

/-- A blank that may stand around an integer. -/
def isPadding (c : CodePoint) : Bool :=
  (0x09 ≤ c.val && c.val ≤ 0x0D) || c.val == 0x20 || c.val == 0x85 || c.val == 0xA0
    || c.val == 0x1680 || (0x2000 ≤ c.val && c.val ≤ 0x200A) || c.val == 0x2028
    || c.val == 0x2029 || c.val == 0x202F || c.val == 0x205F || c.val == 0x3000

end CodePoint

namespace Text

/-- A text without the padding at both ends. -/
def trimPadding (t : Text) : Text :=
  ((t.dropWhile CodePoint.isPadding).reverse.dropWhile CodePoint.isPadding).reverse

/-- The digits of a numeral, which may have single underscores between them. -/
def digits? : Text → Option (List Nat)
  | [] => none
  | [c] => c.decimal?.map ([·])
  | c :: d :: rest => do
    let first ← c.decimal?
    let others ← if d == '_' then digits? rest else digits? (d :: rest)
    return first :: others

/-- The greatest number of digits that is read. -/
def maxDigits : Nat := 4300

/-- The natural number that a numeral stands for. -/
def toNat? (t : Text) : Option Nat := do
  let digits ← digits? t
  if digits.length ≤ maxDigits then return digits.foldl (fun n d => 10 * n + d) 0 else none

/-- The integer that a text stands for. -/
def toInt? (t : Text) : Option Int :=
  match trimPadding t with
  | [] => none
  | c :: rest =>
    if c == '-' then (toNat? rest).map fun n => -(n : Int)
    else if c == '+' then (toNat? rest).map Int.ofNat
    else (toNat? (c :: rest)).map Int.ofNat

end Text

end Offside
