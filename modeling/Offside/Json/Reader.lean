import Offside.Interchange.Data
import Offside.Json.Fault

/-!
# Reading JSON

The reader turns a document into tree data.  It accepts the three constants `NaN`, `Infinity`
and `-Infinity` besides the standard grammar; a number without fraction and exponent is an
integer, which may have thousands of digits, every other number a double.  If a key occurs twice in an object, the last
value wins and keeps the place of the first.

Reading is a descent over the code points that are left.  Every step of the descent takes at
least one of them, so that their number bounds the depth: it is handed down as fuel.
-/

namespace Offside

namespace Json

/-- A place in a document: the code points that are left and their offset. -/
structure Cursor where
  rest : Text
  offset : Nat

/-- What a part of the reader returns: a result and the place after it, or a fault. -/
abbrev Step (α : Type) := Except Fault (α × Cursor)

namespace Cursor

/-- The place `n` code points further on. -/
def advance (c : Cursor) (n : Nat) : Cursor := ⟨c.rest.drop n, c.offset + n⟩

/-- The fault that a problem makes at this place. -/
def fail {α : Type} (c : Cursor) (problem : Problem) : Except Fault α := .error ⟨problem, c.offset⟩

/-- The code point at this place is the given character. -/
def at? (c : Cursor) (ch : Char) : Bool := c.rest.head? == some (CodePoint.ofChar ch)

end Cursor

/-- Blank code points between the tokens of a document. -/
def isBlank (c : CodePoint) : Bool := c == ' ' || c == '\t' || c == '\n' || c == '\r'

/-- The first place that is not blank. -/
def skipBlanks (c : Cursor) : Cursor :=
  c.advance (c.rest.takeWhile isBlank).length

/-! ## Strings -/

/-- The code point that a short escape stands for. -/
def shortEscape? (c : CodePoint) : Option CodePoint :=
  if c == '"' || c == '\\' || c == '/' then some c
  else if c == 'b' then some (CodePoint.ofNat 8)
  else if c == 'f' then some (CodePoint.ofNat 12)
  else if c == 'n' then some (CodePoint.ofNat 10)
  else if c == 'r' then some (CodePoint.ofNat 13)
  else if c == 't' then some (CodePoint.ofNat 9)
  else none

/-- The code point written by four hexadecimal digits that something follows. -/
def fourDigits? (t : Text) : Option CodePoint :=
  let digits := t.take 4
  if digits.length = 4 && digits.all CodePoint.isHexDigit then
    some (CodePoint.ofNat (Text.numeral 16 digits))
  else none

/-- The second half of a surrogate pair, written as an escape of its own. -/
def pairedEscape (high : CodePoint) (c : Cursor) : Except Fault (Option CodePoint) :=
  -- Something has to follow the escape, or it is left for the next step.
  if high.isHighSurrogate && 6 < c.rest.length && c.at? '\\' && (c.advance 1).at? 'u' then
    match fourDigits? (c.rest.drop 2) with
    | some low => .ok (if low.isLowSurrogate then some (CodePoint.ofSurrogates high low) else none)
    | none => (c.advance 1).fail .brokenUnicodeEscape
  else .ok none

/-- The rest of a string that was opened at the offset `start`. -/
def stringRest (start : Nat) : Nat → Cursor → Text → Step Text
  | 0, _, _ => .error ⟨.unterminatedText, start⟩
  | fuel + 1, c, acc => match c.rest with
    | [] => .error ⟨.unterminatedText, start⟩
    | ch :: rest =>
      if ch == '"' then .ok (acc.reverse, c.advance 1)
      else if ch.val < 0x20 then c.fail .controlCharacter
      else if ch != CodePoint.ofChar '\\' then stringRest start fuel (c.advance 1) (ch :: acc)
      else match rest with
        | [] => .error ⟨.unterminatedText, start⟩
        | e :: digits =>
          if e != CodePoint.ofChar 'u' then
            match shortEscape? e with
            | some x => stringRest start fuel (c.advance 2) (x :: acc)
            | none => c.fail .unknownEscape
          else if digits.length < 5 then (c.advance 1).fail .brokenUnicodeEscape
          else match fourDigits? digits with
            | none => (c.advance 1).fail .brokenUnicodeEscape
            | some x => match pairedEscape x (c.advance 6) with
              | .error fault => .error fault
              | .ok (some pair) => stringRest start fuel (c.advance 12) (pair :: acc)
              | .ok none => stringRest start fuel (c.advance 6) (x :: acc)

/-- A string, from its opening quote on. -/
def string (c : Cursor) : Step Text :=
  stringRest c.offset (c.rest.length + 1) (c.advance 1) []

/-! ## Numbers -/

/-- The digits of an exponent with their sign, and the number of code points they take. -/
def exponent? (t : Text) : Option (Int × Nat) :=
  match t with
  | e :: rest =>
    if e == 'e' || e == 'E' then
      let (sign, signed, digits) := match rest with
        | s :: more =>
          if s == '-' then ((-1 : Int), 1, more) else if s == '+' then (1, 1, more) else (1, 0, rest)
        | [] => (1, 0, [])
      let digits := digits.takeWhile CodePoint.isDigit
      if digits.isEmpty then none
      else some (sign * Text.numeral 10 digits, 1 + signed + digits.length)
    else none
  | [] => none

/-- The digits of a fraction, without the point. -/
def fraction (t : Text) : Text :=
  match t with
  | p :: rest => if p == '.' then rest.takeWhile CodePoint.isDigit else []
  | [] => []

/-- A number, from its sign or first digit on. -/
def number (c : Cursor) : Step Scalar :=
  let negative := c.at? '-'
  let start := if negative then c.advance 1 else c
  let whole := start.rest.takeWhile CodePoint.isDigit
  -- Nothing follows a leading zero.
  let whole := if start.at? '0' then whole.take 1 else whole
  if whole.isEmpty then c.fail .expectingValue
  else
    let afterWhole := start.advance whole.length
    let fraction := fraction afterWhole.rest
    let afterFraction :=
      if fraction.isEmpty then afterWhole else afterWhole.advance (1 + fraction.length)
    match exponent? afterFraction.rest with
    | some (e, taken) =>
      .ok (.float (Double.ofDecimal negative (Text.numeral 10 (whole ++ fraction))
        (e - fraction.length)), afterFraction.advance taken)
    | none =>
      if fraction.isEmpty then
        if Text.maxDigits < whole.length then c.fail (.longInteger whole.length)
        else
        let n : Int := Text.numeral 10 whole
        .ok (.int (if negative then -n else n), afterWhole)
      else
        .ok (.float (Double.ofDecimal negative (Text.numeral 10 (whole ++ fraction))
          (-(fraction.length : Int))), afterFraction)

/-! ## Values -/

/-- The constants and what they stand for. -/
def constants : List (Text × Scalar) :=
  [("null", .null), ("true", .bool true), ("false", .bool false), ("NaN", .float .nan),
    ("Infinity", .float (.infinite false)), ("-Infinity", .float (.infinite true))]

/-- The constant that a text begins with. -/
def constant? (t : Text) : Option (Text × Scalar) :=
  constants.find? fun (word, _) => word.isPrefixOf t

/-- The entries with a key put to a value: an old entry keeps its place. -/
def putEntry (key : Text) (value : Data) : List (Text × Data) → List (Text × Data)
  | [] => [(key, value)]
  | (k, v) :: rest => if k = key then (k, value) :: rest else (k, v) :: putEntry key value rest

mutual

/-- A value. -/
def value : Nat → Cursor → Step Data
  | 0, c => c.fail .expectingValue
  | fuel + 1, c =>
    if c.at? '"' then
      match string c with
      | .ok (t, c) => .ok (.text t, c)
      | .error fault => .error fault
    else if c.at? '\x7b' then
      let c := skipBlanks (c.advance 1)
      if c.at? '\x7d' then .ok (.dict [], c.advance 1) else members fuel c []
    else if c.at? '[' then
      let c := skipBlanks (c.advance 1)
      if c.at? ']' then .ok (.list [], c.advance 1) else elements fuel c []
    else match constant? c.rest with
      | some (word, s) => .ok (.scalar s, c.advance word.length)
      | none => match number c with
        | .ok (s, c) => .ok (.scalar s, c)
        | .error fault => .error fault

/-- The elements of a list from the next one on, after the given ones. -/
def elements : Nat → Cursor → List Data → Step Data
  | 0, c, _ => c.fail .expectingValue
  | fuel + 1, c, acc => match value fuel c with
    | .error fault => .error fault
    | .ok (d, c) =>
      let c := skipBlanks c
      if c.at? ']' then .ok (.list (acc ++ [d]), c.advance 1)
      else if c.at? ',' then elements fuel (skipBlanks (c.advance 1)) (acc ++ [d])
      else c.fail .expectingComma

/-- The members of an object from the next one on, after the given ones. -/
def members : Nat → Cursor → List (Text × Data) → Step Data
  | 0, c, _ => c.fail .expectingValue
  | fuel + 1, c, acc =>
    if !c.at? '"' then c.fail .expectingName
    else match string c with
      | .error fault => .error fault
      | .ok (key, c) =>
        let c := skipBlanks c
        if !c.at? ':' then c.fail .expectingColon
        else match value fuel (skipBlanks (c.advance 1)) with
          | .error fault => .error fault
          | .ok (d, c) =>
            let c := skipBlanks c
            if c.at? '\x7d' then .ok (.dict (putEntry key d acc), c.advance 1)
            else if c.at? ',' then members fuel (skipBlanks (c.advance 1)) (putEntry key d acc)
            else c.fail .expectingComma

end

/-- The value that a document holds. -/
def read (document : Text) : Except Fault Data :=
  if document.head? == some (CodePoint.ofNat 0xFEFF) then .error ⟨.byteOrderMark, 0⟩
  -- An opening bracket takes two steps: one for the value and one for what it holds.
  else match value (2 * document.length + 1) (skipBlanks ⟨document, 0⟩) with
    | .error fault => .error fault
    | .ok (d, c) =>
      let c := skipBlanks c
      if c.rest.isEmpty then .ok d else c.fail .extraData

end Json

end Offside
