import Offside.Text.CharacterName.Run

/-!
# Spelled names

A syllable of Hangul is named by its letters: a leading consonant, which may be silent, a vowel
and a trailing consonant, which may be missing.  Each letter is read as the longest one that
fits.
-/

namespace Offside

namespace CharacterName

/-- The leading consonants. -/
def leadingLetters : List String :=
  ["G", "GG", "N", "D", "DD", "R", "M", "B", "BB", "S", "SS", "", "J", "JJ", "C", "K", "T", "P",
    "H"]

/-- The vowels. -/
def vowelLetters : List String :=
  ["A", "AE", "YA", "YAE", "EO", "E", "YEO", "YE", "O", "WA", "WAE", "OE", "YO", "U", "WEO", "WE",
    "WI", "YU", "EU", "YI", "I"]

/-- The trailing consonants. -/
def trailingLetters : List String :=
  ["", "G", "GG", "GS", "N", "NJ", "NH", "D", "L", "LG", "LM", "LB", "LS", "LT", "LP", "LH", "M",
    "B", "BS", "S", "SS", "NG", "J", "C", "K", "T", "P", "H"]

/-- The place of the longest letter that the text begins with, and the rest of the text. -/
def longestLetter? (letters : List String) (t : Text) : Option (Nat × Text) :=
  letters.zipIdx.foldl
    (fun found (letter, place) =>
      match Text.after? letter t, found with
      | some rest, some (_, other) => if rest.length < other.length then some (place, rest) else found
      | some rest, none => some (place, rest)
      | none, _ => found)
    none

/-- The syllable with the given spelling. -/
def syllable? (spelling : Text) : Option Nat := do
  let (leading, afterLeading) ← longestLetter? leadingLetters spelling
  let (vowel, afterVowel) ← longestLetter? vowelLetters afterLeading
  let (trailing, rest) ← longestLetter? trailingLetters afterVowel
  if rest.isEmpty then
    return 0xAC00 + (leading * vowelLetters.length + vowel) * trailingLetters.length + trailing
  else none

end CharacterName

end Offside
