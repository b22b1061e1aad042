import Offside.Text.Printable

/-!
# Quoted text

Messages show a piece of text between quotes.  The quotes are single ones, unless the text has
a single quote and no double quote.  Inside, the backslash, the quote itself and the three
usual control characters get a backslash escape, and every other unprintable character is
written in hexadecimal with two, four or eight digits.
-/

namespace Offside

namespace Text

/-- The quote that is put around a text. -/
def quoteOf (t : Text) : CodePoint :=
  if t.contains (CodePoint.ofChar '\'') && !t.contains (CodePoint.ofChar '"') then '"' else '\''

/-- A code point as it stands inside a text quoted with `quote`. -/
def quotePoint (quote c : CodePoint) : Text :=
  if c == quote || c == '\\' then ['\\', c]
  else if c == '\t' then "\\t"
  else if c == '\n' then "\\n"
  else if c == '\r' then "\\r"
  else if c.isPrintable then [c]
  else if c.val < 0x100 then "\\x" ++ ofHex 2 c.val
  else if c.val < 0x10000 then "\\u" ++ ofHex 4 c.val
  else "\\U" ++ ofHex 8 c.val

/-- A text between quotes, with escapes. -/
def quoted (t : Text) : Text :=
  let quote := quoteOf t
  quote :: t.flatMap (quotePoint quote) ++ [quote]

end Text

end Offside
