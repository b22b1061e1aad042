import Offside.Text.Basic

/-!
# UTF-8

Files hold bytes, and a text is kept in a file as UTF-8.  Decoding refuses the first byte
sequence that is no character, and says which bytes they are and what is wrong with them: the
bytes from the one that begins the character up to the one that does not go on with it, which is
not counted.  Encoding refuses surrogates, which are no characters.

The name of a file is bytes too, and need not be a text.  A byte of a name that is no part of a
character is told as a surrogate of its own, and becomes that byte again.

The decoder goes byte by byte.  Between the bytes of a character it keeps what is known of the
character, with the range in which the next byte must lie: the range is narrower after some
first bytes, so that no character has two encodings and none is a surrogate or out of range.
-/

namespace Offside

namespace Utf8

/-! ## Decoding -/

/-- What is wrong with bytes that are no character. -/
inductive Problem where
  /-- No character begins with the byte. -/
  | start
  /-- The character does not go on with the next byte. -/
  | continuation
  /-- The bytes end inside the character. -/
  | truncated
deriving DecidableEq

/-- The wording of a problem. -/
def Problem.wording : Problem → Text
  | .start => "invalid start byte"
  | .continuation => "invalid continuation byte"
  | .truncated => "unexpected end of data"

/-- Bytes that are no character: where they begin, the first of them, and their number. -/
structure DecodeFault where
  position : Nat
  first : UInt8
  length : Nat
  problem : Problem
deriving DecidableEq

/-- The message about bytes that are no character. -/
def DecodeFault.toText (f : DecodeFault) : Text :=
  let bytes : Text :=
    if f.length = 1 then
      "byte 0x" ++ Text.ofHex 2 f.first.toNat ++ " in position " ++ Text.ofNat f.position
    else
      "bytes in position " ++ Text.ofNat f.position ++ "-"
        ++ Text.ofNat (f.position + f.length - 1)
  "'utf-8' codec can't decode " ++ bytes ++ ": " ++ f.problem.wording

/-- A character of which some bytes have been read. -/
structure Begun where
  /-- Where its first byte stands. -/
  position : Nat
  first : UInt8
  /-- The number of bytes that come after the next one. -/
  later : Nat
  /-- The bits that are known. -/
  value : Nat
  /-- The least byte that may be next. -/
  lo : UInt8
  /-- The greatest byte that may be next. -/
  hi : UInt8

/-- The character that begins with a byte; a byte that is a character of its own begins none. -/
def begin? (position : Nat) (b : UInt8) : Option Begun :=
  let begun (later : Nat) (mark lo hi : UInt8) : Option Begun :=
    some ⟨position, b, later, (b - mark).toNat, lo, hi⟩
  if b < 0xC2 then none
  else if b < 0xE0 then begun 0 0xC0 0x80 0xBF
  else if b = 0xE0 then begun 1 0xE0 0xA0 0xBF
  else if b = 0xED then begun 1 0xE0 0x80 0x9F
  else if b < 0xF0 then begun 1 0xE0 0x80 0xBF
  else if b = 0xF0 then begun 2 0xF0 0x90 0xBF
  else if b < 0xF4 then begun 2 0xF0 0x80 0xBF
  else if b = 0xF4 then begun 2 0xF0 0x80 0x8F
  else none

/-- The text that bytes encode which stand at a position, where the bytes in front of them may
have begun a character. -/
def decodeFrom : Option Begun → Nat → List UInt8 → Except DecodeFault Text
  | none, _, [] => .ok []
  | some c, position, [] => .error ⟨c.position, c.first, position - c.position, .truncated⟩
  | none, position, b :: rest =>
    if b < 0x80 then do
      return CodePoint.ofNat b.toNat :: (← decodeFrom none (position + 1) rest)
    else
      match begin? position b with
      | some c => decodeFrom (some c) (position + 1) rest
      | none => .error ⟨position, b, 1, .start⟩
  | some c, position, b :: rest =>
    if c.lo ≤ b ∧ b ≤ c.hi then
      let value := 64 * c.value + (b - 0x80).toNat
      match c.later with
      | 0 => do return CodePoint.ofNat value :: (← decodeFrom none (position + 1) rest)
      | later + 1 =>
        decodeFrom (some ⟨c.position, c.first, later, value, 0x80, 0xBF⟩) (position + 1) rest
    else .error ⟨c.position, c.first, position - c.position, .continuation⟩

/-- The text that bytes encode. -/
def decode (bytes : List UInt8) : Except DecodeFault Text := decodeFrom none 0 bytes

/-! ## Encoding -/

/-- A run of surrogates, which have no encoding: where it begins, the first of them, and their
number. -/
structure EncodeFault where
  position : Nat
  first : CodePoint
  length : Nat
deriving DecidableEq

/-- The message about surrogates that have no encoding. -/
def EncodeFault.toText (f : EncodeFault) : Text :=
  let characters : Text :=
    if f.length = 1 then
      "character '\\u" ++ Text.ofHex 4 f.first.val ++ "' in position " ++ Text.ofNat f.position
    else
      "characters in position " ++ Text.ofNat f.position ++ "-"
        ++ Text.ofNat (f.position + f.length - 1)
  "'utf-8' codec can't encode " ++ characters ++ ": surrogates not allowed"

/-- The bytes of a code point. -/
def bytesOf (c : CodePoint) : List UInt8 :=
  let tail (unit : Nat) : UInt8 := .ofNat (0x80 + c.val / unit % 0x40)
  if c.val < 0x80 then [.ofNat c.val]
  else if c.val < 0x800 then [.ofNat (0xC0 + c.val / 0x40), tail 1]
  else if c.val < 0x10000 then [.ofNat (0xE0 + c.val / 0x1000), tail 0x40, tail 1]
  else [.ofNat (0xF0 + c.val / 0x40000), tail 0x1000, tail 0x40, tail 1]

/-- The first run of surrogates in a text, from the first one of them on that is not spared. -/
def encodeFault? (spared : CodePoint → Bool) (t : Text) : Option EncodeFault :=
  let before := t.takeWhile fun c => !c.isSurrogate || spared c
  match t.drop before.length with
  | [] => none
  | c :: rest => some ⟨before.length, c, (rest.takeWhile CodePoint.isSurrogate).length + 1⟩

/-- The bytes of a text, or its first run of surrogates. -/
def encode (t : Text) : Except EncodeFault (List UInt8) :=
  match encodeFault? (fun _ => false) t with
  | none => .ok (t.flatMap bytesOf)
  | some f => .error f

/-- A surrogate that stands for a byte. -/
def isByte (c : CodePoint) : Bool := 0xDC80 ≤ c.val && c.val ≤ 0xDCFF

/-- The bytes of a code point in the name of a file. -/
def nameBytesOf (c : CodePoint) : List UInt8 :=
  if isByte c then [.ofNat (c.val - 0xDC00)] else bytesOf c

/-- The bytes of the name of a file, or its first run of surrogates that do not stand for bytes. -/
def encodeName (name : Text) : Except EncodeFault (List UInt8) :=
  match encodeFault? isByte name with
  | none => .ok (name.flatMap nameBytesOf)
  | some f => .error f

end Utf8

end Offside
