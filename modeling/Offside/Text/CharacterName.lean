import Offside.Text.CharacterName.Aliases
import Offside.Text.CharacterName.Ancient
import Offside.Text.CharacterName.Glagolitic
import Offside.Text.CharacterName.Hangul
import Offside.Text.CharacterName.Hieroglyphs
import Offside.Text.CharacterName.Latin
import Offside.Text.CharacterName.Myanmar
import Offside.Text.CharacterName.Notations
import Offside.Text.CharacterName.Pictographs
import Offside.Text.CharacterName.Presentation
import Offside.Text.CharacterName.Symbols
import Offside.Text.Ranges

/-!
# Names of code points

A code point is named by the Unicode standard, here in its version 14.  Most names are listed;
syllables of Hangul are spelled, and ideographs are numbered by their code points.  A listed
name is found whatever the case of its letters, while what is spelled or numbered is written in
capitals.
-/

namespace Offside

namespace CharacterName

/-- All listed names. -/
def runs : List Run :=
  latinNames ++ symbolNames ++ myanmarNames ++ glagoliticNames ++ presentationNames
    ++ ancientNames ++ hieroglyphNames ++ notationNames ++ pictographNames ++ aliases

/-- Ideographs and characters that are named by the numeral of their code point. -/
def numberedNames : List (String × Ranges) :=
  [("CJK COMPATIBILITY IDEOGRAPH-", [(0xF900, 0xFA6D), (0xFA70, 0xFAD9), (0x2F800, 0x2FA1D)]),
    ("KHITAN SMALL SCRIPT CHARACTER-", [(0x18B00, 0x18CD5)]),
    ("NUSHU CHARACTER-", [(0x1B170, 0x1B2FB)])]

/-- The unified ideographs. -/
def unifiedIdeographs : Ranges :=
  [(0x3400, 0x4DBF), (0x4E00, 0x9FFF), (0x20000, 0x2A6DF), (0x2A700, 0x2B738),
    (0x2B740, 0x2B81D), (0x2B820, 0x2CEA1), (0x2CEB0, 0x2EBE0), (0x30000, 0x3134A)]

/-- A digit of a numeral in capitals. -/
def isCapitalHexDigit (c : CodePoint) : Bool := c.isDigit || c.between 'A' 'F'

/-- The unified ideograph with the given numeral, which has four or five digits. -/
def unifiedIdeograph? (digits : Text) : Option Nat :=
  let value := Text.numeral 16 digits
  if (digits.length = 4 ∨ digits.length = 5) ∧ digits.all isCapitalHexDigit
      ∧ unifiedIdeographs.contains value then some value
  else none

/-- The code point in one of the ranges with the given numeral, which begins with no zero. -/
def numbered? (ranges : Ranges) (digits : Text) : Option Nat :=
  let value := Text.numeral 16 digits
  if digits.all isCapitalHexDigit ∧ digits.head? ≠ some (CodePoint.ofChar '0')
      ∧ ranges.contains value then some value
  else none

/-- A code point with a small ASCII letter made a capital. -/
def capital (c : CodePoint) : CodePoint :=
  if c.between 'a' 'z' then CodePoint.ofNat (c.val - 32) else c

/-- The code point that has the listed name, in any case. -/
def listed? (name : Text) : Option Nat :=
  let name := name.map capital
  let ofRun := runs.findSome? (Run.find? · name)
  let ofNumeral := numberedNames.findSome? fun (stem, ranges) =>
    (Text.after? stem name).bind (numbered? ranges)
  ofRun.or ofNumeral

/-- The code point that has the name. -/
def find? (name : Text) : Option Nat :=
  match Text.after? "HANGUL SYLLABLE " name, Text.after? "CJK UNIFIED IDEOGRAPH-" name with
  | some spelling, _ => syllable? spelling
  | _, some digits => unifiedIdeograph? digits
  | none, none => listed? name

end CharacterName

end Offside
