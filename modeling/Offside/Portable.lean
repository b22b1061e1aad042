import Offside.Text.Basic

/-!
# Portable literals and operators

A literal or operator is portable if it is spelled and read alike in the language that is
converted and in the one that it is converted to.  The portable numbers are integers without
leading zeros, decimal fractions and integers in radix sixteen, eight or two; the portable
strings stand on one line and use only the escapes that both languages read alike.
-/

namespace Offside

namespace Portable

/-! ## Numbers -/

/-- The text without the digits of a class in front, if there is at least one. -/
def afterDigits? (isDigit : CodePoint → Bool) (t : Text) : Option Text :=
  match t with
  | c :: rest => if isDigit c then some (rest.dropWhile isDigit) else none
  | [] => none

/-- The whole text is one or more digits of a class. -/
def isDigits (isDigit : CodePoint → Bool) (t : Text) : Bool := !t.isEmpty && t.all isDigit

/-- An integer in radix sixteen, eight or two. -/
def isRadixInteger : Text → Bool
  | z :: r :: digits =>
    z == '0' && (((r == 'x' || r == 'X') && isDigits CodePoint.isHexDigit digits)
      || ((r == 'o' || r == 'O') && isDigits CodePoint.isOctalDigit digits)
      || ((r == 'b' || r == 'B') && isDigits CodePoint.isBinaryDigit digits))
  | _ => false

/-- The text without a decimal integer in front; nothing follows a leading zero. -/
def afterInteger? (t : Text) : Option Text :=
  match t with
  | c :: rest =>
    if c == '0' then some rest
    else if c.isDigit then some (rest.dropWhile CodePoint.isDigit)
    else none
  | [] => none

/-- Nothing, or a whole exponent. -/
def isExponent : Text → Bool
  | [] => true
  | e :: rest =>
    let digits := match rest with
      | s :: more => if s == '+' || s == '-' then more else rest
      | [] => []
    (e == 'e' || e == 'E') && isDigits CodePoint.isDigit digits

/-- A decimal number: an integer with or without a fraction, or a fraction alone, with or
without an exponent. -/
def isDecimal (t : Text) : Bool :=
  match afterInteger? t with
  | some (c :: rest) =>
    if c == '.' then isExponent (rest.dropWhile CodePoint.isDigit) else isExponent (c :: rest)
  | some [] => true
  | none =>
    match t with
    | c :: rest => c == '.' && (afterDigits? CodePoint.isDigit rest).any isExponent
    | [] => false

/-! ## Strings -/

/-- The code points that stand for one by themselves behind a backslash. -/
def isPlainEscape (c : CodePoint) : Bool :=
  c == '\\' || c == '\'' || c == '"' || c == 'b' || c == 'f' || c == 'n' || c == 'r' || c == 't'
    || c == 'v'

/-- The text begins with `n` hexadecimal digits. -/
def startsHex (n : Nat) (t : Text) : Bool :=
  (t.take n).length == n && (t.take n).all CodePoint.isHexDigit

/-- The text from behind the opening quote on is the rest of a string.  Each step takes one item
of the string. -/
def isStringRest (quote : CodePoint) : Text → Bool
  | [] => false
  | c :: rest =>
    if c == quote then rest.isEmpty
    else if c == '\n' || c == '\r' then false
    else if c != CodePoint.ofChar '\\' then isStringRest quote rest
    else match rest with
      | [] => false
      | e :: more =>
        if isPlainEscape e then isStringRest quote more
        else if e == '0' then !(more.head?.any CodePoint.isDigit) && isStringRest quote more
        -- The digits of an escape are items of their own as well.
        else if e == 'x' then startsHex 2 more && isStringRest quote more
        else if e == 'u' then startsHex 4 more && isStringRest quote more
        else false

/-- A string between two quotes of one kind. -/
def isString : Text → Bool
  | q :: rest => (q == '"' || q == '\'') && isStringRest q rest
  | [] => false

/-! ## What is portable -/

/-- A literal that both languages read alike. -/
def isPortableLiteral (raw : Text) : Bool := isRadixInteger raw || isDecimal raw || isString raw

/-- The portable operators between operands. -/
def binaryOperators : List Text :=
  ["+", "-", "*", "/", "%", "**", "<", ">", "<=", ">=", "==", "!=", "<<", ">>", "&", "|",
    "^"].map Text.ofString

/-- The portable operators that assign. -/
def assignmentOperators : List Text :=
  ["=", "+=", "-=", "*=", "/=", "%=", "**=", "<<=", ">>=", "&=", "|=", "^="].map Text.ofString

/-- An operator that both languages read alike. -/
def isPortableOperator (operator : Text) : Bool :=
  binaryOperators.contains operator || assignmentOperators.contains operator

end Portable

end Offside
