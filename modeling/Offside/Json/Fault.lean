import Offside.Number.Integer

/-!
# Faults of JSON documents

A document that is no JSON is refused with the first problem in reading order and the place
where it shows, as line, column and offset.
-/

namespace Offside

namespace Json

/-- What is wrong with a document. -/
inductive Problem where
  | byteOrderMark
  | expectingValue
  | expectingName
  | expectingColon
  | expectingComma
  | unterminatedText
  | controlCharacter
  | unknownEscape
  | brokenUnicodeEscape
  | extraData
  /-- An integer has more digits than are read. -/
  | longInteger (digits : Nat)
deriving DecidableEq

/-- The wording of a problem. -/
def Problem.wording : Problem → Text
  | .byteOrderMark => "Unexpected UTF-8 BOM (decode using utf-8-sig)"
  | .expectingValue => "Expecting value"
  | .expectingName => "Expecting property name enclosed in double quotes"
  | .expectingColon => "Expecting ':' delimiter"
  | .expectingComma => "Expecting ',' delimiter"
  | .unterminatedText => "Unterminated string starting at"
  | .controlCharacter => "Invalid control character at"
  | .unknownEscape => "Invalid \\escape"
  | .brokenUnicodeEscape => "Invalid \\uXXXX escape"
  | .extraData => "Extra data"
  | .longInteger digits =>
    "Exceeds the limit (" ++ Text.ofNat Text.maxDigits
      ++ " digits) for integer string conversion: value has " ++ Text.ofNat digits
      ++ " digits; use sys.set_int_max_str_digits() to increase the limit"

/-- A problem and the offset where it shows. -/
structure Fault where
  problem : Problem
  offset : Nat
deriving DecidableEq

/-- The message about a fault of a document: lines and columns count from one. -/
def Fault.message (document : Text) (fault : Fault) : Text :=
  let before := document.take fault.offset
  let line := before.count (CodePoint.ofChar '\n') + 1
  let column := (before.reverse.takeWhile (· != CodePoint.ofChar '\n')).length + 1
  fault.problem.wording ++ ": line " ++ Text.ofNat line ++ " column " ++ Text.ofNat column
    ++ " (char " ++ Text.ofNat fault.offset ++ ")"

end Json

end Offside
