/-!
# Code points and text

Text is a list of Unicode code points.  Surrogate code points belong to the type, because an
escape such as `\ud800` may name one on its own; the core type `Char` has no room for it.  A
character or string literal is read as a code point or as text wherever one is expected.

Besides the two types, this file fixes the vocabulary that every later file uses: the classes
of ASCII digits, decimal numerals, repetition and joining.
-/

namespace Offside

/-- A Unicode code point, surrogates included. -/
structure CodePoint where
  /-- The number of the code point. -/
  val : Nat
  isLt : val < 0x110000
deriving DecidableEq

namespace CodePoint

/-- The code point of a character. -/
def ofChar (c : Char) : CodePoint :=
  ⟨c.toNat, by
    rcases c.valid with h | h
    · exact Nat.lt_trans h (by decide)
    · exact h.2⟩

instance : Coe Char CodePoint := ⟨ofChar⟩

/-- The code point with the given number, or the replacement character if there is none. -/
def ofNat (n : Nat) : CodePoint :=
  if h : n < 0x110000 then ⟨n, h⟩ else ⟨0xFFFD, by decide⟩

instance : Inhabited CodePoint := ⟨ofNat 0⟩

/-- The code point lies between two characters, both included. -/
def between (lo hi : Char) (c : CodePoint) : Bool :=
  lo.toNat ≤ c.val && c.val ≤ hi.toNat

/-- An ASCII decimal digit. -/
def isDigit (c : CodePoint) : Bool := c.between '0' '9'

/-- An ASCII octal digit. -/
def isOctalDigit (c : CodePoint) : Bool := c.between '0' '7'

/-- A binary digit. -/
def isBinaryDigit (c : CodePoint) : Bool := c.between '0' '1'

/-- An ASCII hexadecimal digit, in either case. -/
def isHexDigit (c : CodePoint) : Bool :=
  c.isDigit || c.between 'a' 'f' || c.between 'A' 'F'

/-- The value of a digit in any radix up to sixteen; other code points count as zero. -/
def digitValue (c : CodePoint) : Nat :=
  if c.isDigit then c.val - '0'.toNat
  else if c.between 'a' 'f' then c.val - 'a'.toNat + 10
  else if c.between 'A' 'F' then c.val - 'A'.toNat + 10
  else 0

/-- A leading surrogate. -/
def isHighSurrogate (c : CodePoint) : Bool := 0xD800 ≤ c.val && c.val ≤ 0xDBFF

/-- A trailing surrogate. -/
def isLowSurrogate (c : CodePoint) : Bool := 0xDC00 ≤ c.val && c.val ≤ 0xDFFF

/-- A surrogate of either kind. -/
def isSurrogate (c : CodePoint) : Bool := c.isHighSurrogate || c.isLowSurrogate

/-- The code point that a surrogate pair stands for. -/
def ofSurrogates (high low : CodePoint) : CodePoint :=
  ofNat (0x10000 + (high.val - 0xD800) * 0x400 + (low.val - 0xDC00))

end CodePoint

/-- A piece of text: a list of code points. -/
abbrev Text := List CodePoint

namespace Text

/-- The text of a string. -/
def ofString (s : String) : Text := s.toList.map CodePoint.ofChar

instance : Coe String Text := ⟨ofString⟩

/-- The string of a text; a surrogate, which is no character, becomes the replacement
character. -/
def toString (t : Text) : String :=
  String.ofList (t.map fun c => if c.isSurrogate then '\uFFFD' else Char.ofNat c.val)

/-- The decimal numeral of a natural number. -/
def ofNat (n : Nat) : Text := (Nat.toDigits 10 n).map CodePoint.ofChar

/-- The decimal numeral of an integer, with a minus sign if it is negative. -/
def ofInt : Int → Text
  | .ofNat n => ofNat n
  | .negSucc n => '-' :: ofNat (n + 1)

/-- The lower-case hexadecimal numeral of a number, padded with zeros to a width. -/
def ofHex (width n : Nat) : Text :=
  let digits := (Nat.toDigits 16 n).map CodePoint.ofChar
  List.replicate (width - digits.length) (CodePoint.ofChar '0') ++ digits

/-- The number written by a list of digits in the given radix. -/
def numeral (radix : Nat) (digits : Text) : Nat :=
  digits.foldl (fun n c => radix * n + c.digitValue) 0

/-- A text repeated a number of times. -/
def times (t : Text) : Nat → Text
  | 0 => []
  | n + 1 => t ++ times t n

/-- The texts in order, with a separator between neighbours. -/
def join (separator : Text) : List Text → Text
  | [] => []
  | [t] => t
  | t :: rest => t ++ separator ++ join separator rest

/-- The order by code point, a prefix coming first. -/
def precedes : Text → Text → Bool
  | [], _ => true
  | _ :: _, [] => false
  | a :: s, b :: t => a.val < b.val || (a == b && precedes s t)

/-- A text without the given code point at its end. -/
def trimEnd (c : CodePoint) (t : Text) : Text := (t.reverse.dropWhile (· == c)).reverse

end Text

end Offside
