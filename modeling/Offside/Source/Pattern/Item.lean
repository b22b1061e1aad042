import Offside.Number.Integer
import Offside.Source.Pattern.Walk
import Offside.Text.CharacterName

/-!
# Items of patterns

An item is the least part of a regular expression that can be repeated: a code point, a class in
brackets, an escape, an anchor or a group.  This file reads all of them but the groups.
-/

namespace Offside

namespace Source

namespace Pattern

/-- What an item matches: one code point that is known, a place between code points, or anything
of a width. -/
inductive Item where
  | point (n : Nat)
  | anchor
  | repeated (width : Width)
  | other (width : Width)

/-- The width of what an item matches. -/
def Item.width : Item → Width
  | .point _ => Width.one
  | .anchor => Width.none
  | .repeated w => w
  | .other w => w

/-! ## Escapes -/

/-- An escape of exactly `n` hexadecimal digits. -/
def hexadecimal (n : Nat) : Check Item := do
  let digits ← takeUpTo n CodePoint.isHexDigit
  let value := Text.numeral 16 digits
  if digits.length = n ∧ value ≤ 0x10FFFF then return .point value else failure

/-- An escape of octal digits, which names one of 256 code points. -/
def octal (digits : Text) : Check Item := do
  let value := Text.numeral 8 digits
  if value ≤ 0xFF then return .point value else failure

/-- An escape by the name of a code point, which stands in braces. -/
def named : Check Item := do
  expect "\x7b"
  match CharacterName.find? (← takeName '\x7d') with
  | some n => return .point n
  | none => failure

/-- The control characters that escapes name. -/
def control? (c : CodePoint) : Option Nat :=
  if c == 'a' then some 7
  else if c == 'f' then some 12
  else if c == 'n' then some 10
  else if c == 'r' then some 13
  else if c == 't' then some 9
  else if c == 'v' then some 11
  else none

/-- An escape that means the same inside and outside of brackets. -/
def commonEscape (c : CodePoint) : Check Item := do
  match control? c with
  | some n => return .point n
  | none =>
    if c.among "dDsSwW" then return .other Width.one
    else if c == 'x' then hexadecimal 2
    else if c == 'u' then hexadecimal 4
    else if c == 'U' then hexadecimal 8
    else if c == 'N' then named
    else if c.isAsciiLetter then failure
    else return .point c.val

/-- What the group with a number matched is matched again. -/
def reference (n : Nat) : Check Item := do
  let w ← groupWidth n
  refuseInside n
  return .other w

/-- An escape by decimal digits: a code point if the digits are three octal ones, else the
number of a group. -/
def numberedEscape (first : CodePoint) : Check Item := do
  let digits := first :: (← takeUpTo 1 CodePoint.isDigit)
  let third := ((← get).rest.take 1).takeWhile CodePoint.isOctalDigit
  if digits.length = 2 ∧ digits.all CodePoint.isOctalDigit ∧ third ≠ [] then
    discard take
    octal (digits ++ third)
  else reference (Text.numeral 10 digits)

/-- An escape outside of brackets. -/
def escape (c : CodePoint) : Check Item := do
  if c.among "AbBZ" then return .anchor
  else if c == '0' then octal (← takeUpTo 2 CodePoint.isOctalDigit)
  else if c.isDigit then numberedEscape c
  else commonEscape c

/-- An escape inside of brackets. -/
def classEscape (c : CodePoint) : Check Item := do
  if c == 'b' then return .point 8
  else if c.isOctalDigit then octal (c :: (← takeUpTo 2 CodePoint.isOctalDigit))
  else if c.isDigit then failure
  else commonEscape c

/-! ## Classes -/

/-- A member of a class. -/
def classMember : Mark → Check Item
  | .plain c => return .point c.val
  | .escaped c => classEscape c

/-- The mark closes a class. -/
def Mark.closesClass : Mark → Bool
  | .plain c => c == ']'
  | .escaped _ => false

/-- The members of a class up to its closing bracket, which does not close an empty class. -/
def classRest : Nat → Bool → Check Unit
  | 0, _ => failure
  | fuel + 1, isEmpty => do
    let m ← take
    if m.closesClass && !isEmpty then return
    else
      let low ← classMember m
      if ← accept "-" then
        let m ← take
        if m.closesClass then return
        else match low, ← classMember m with
          | .point a, .point b => if a ≤ b then classRest fuel false else failure
          | _, _ => failure
      else classRest fuel false

/-- A class, after its opening bracket. -/
def bracketed : Check Item := do
  discard (accept "^")
  classRest ((← get).rest.length + 1) true
  return .other Width.one

/-! ## Repetition -/

/-- No number of repetitions reaches this one. -/
def maxRepetitions : Nat := 4294967295

/-- The number of repetitions that digits give; none if there are no digits. -/
def repetitions (digits : Text) : Check (Option Nat) :=
  if digits.isEmpty then return none
  else
    let n := Text.numeral 10 digits
    if digits.length ≤ Text.maxDigits ∧ n < maxRepetitions then return some n else failure

/-- The bounds between braces, after the opening one; none if the brace stands for itself. -/
def bounds? : Check (Option Repetition) := do
  let s ← get
  if s.rest.head? == some (CodePoint.ofChar '\x7d') then return none
  let low ← takeWhile CodePoint.isDigit
  let high ← if ← accept "," then takeWhile CodePoint.isDigit else pure low
  if ← accept "\x7d" then
    let least := (← repetitions low).getD 0
    let greatest ← repetitions high
    if greatest.any (· < least) then failure
    return some ⟨least, greatest⟩
  else
    set s
    return none

/-- How often the item before `c` is repeated; none if `c` stands for itself. -/
def repetition? (c : CodePoint) : Check (Option Repetition) :=
  if c == '?' then return some ⟨0, some 1⟩
  else if c == '*' then return some ⟨0, none⟩
  else if c == '+' then return some ⟨1, none⟩
  else bounds?

/-- The item repeated, if it can be.  No item can where the whole pattern is switched to be a
template. -/
def repeatItem (last : Option Item) (r : Repetition) : Check Item := do
  match last with
  | none | some .anchor | some (.repeated _) => failure
  | some item =>
    -- A question mark asks for few repetitions, a plus forbids to give any back.
    if !(← accept "?") then discard (accept "+")
    if ← isSwitched 't' then failure
    return .repeated (item.width.repeated r)

end Pattern

end Source

end Offside
