import Offside.Interchange.Data
import Offside.Source.Place

/-!
# Tokens and reserved words

A token keeps its text with escapes resolved, its text as written, the offsets of its two ends,
and the line on which it ends.  A literal token also keeps the value that it stands for.
-/

namespace Offside

namespace Source

/-- The kinds of tokens. -/
inductive TokenKind where
  | identifier
  | keyword
  | null
  | boolean
  | number
  | string
  | template
  | pattern
  | punctuator
  | endOfText
deriving DecidableEq

/-- A token of a source text. -/
structure Token where
  kind : TokenKind
  /-- The text of the token, with escapes resolved. -/
  text : Text
  /-- The value of a literal token. -/
  value : Scalar
  /-- The text of the token as it is written. -/
  raw : Text
  first : Nat
  /-- The line on which the token ends. -/
  line : Nat
  /-- The offset where that line begins. -/
  lineStart : Nat
  /-- A numeral or string with an octal escape, which strict mode refuses. -/
  octal : Bool
  /-- The first piece of a template. -/
  opens : Bool
  /-- The last piece of a template. -/
  closes : Bool
deriving DecidableEq

/-- The token between two places. -/
def Token.between (p q : Place) (kind : TokenKind) (text : Text) (value : Scalar) : Token :=
  { kind, text, value, raw := p.rest.take (q.offset - p.offset), first := p.offset
    line := q.line, lineStart := q.lineStart, octal := false, opens := false, closes := false }

/-- The token is the given punctuator. -/
def Token.isPunctuator (t : Token) (s : String) : Bool :=
  t.kind == .punctuator && t.text == Text.ofString s

/-- The token is the given keyword. -/
def Token.isKeyword (t : Token) (s : String) : Bool :=
  t.kind == .keyword && t.text == Text.ofString s

/-- The token is the given name, which is reserved in some places only. -/
def Token.isName (t : Token) (s : String) : Bool :=
  t.kind == .identifier && t.text == Text.ofString s

/-- The keywords. -/
def keywords : List Text :=
  ["if", "in", "do", "var", "for", "new", "try", "let", "this", "else", "case", "void", "with",
    "enum", "while", "break", "catch", "throw", "const", "yield", "class", "super", "return",
    "typeof", "delete", "switch", "export", "import", "default", "finally", "extends",
    "function", "continue", "debugger", "instanceof"].map Text.ofString

/-- The keywords that no expression may begin with, named as reserved when one does. -/
def futureReserved : List Text := ["enum", "export", "import", "super"].map Text.ofString

/-- The names that are reserved in strict mode. -/
def strictReserved : List Text :=
  ["implements", "interface", "package", "private", "protected", "public", "static", "yield",
    "let"].map Text.ofString

/-- The names that strict mode refuses to bind. -/
def restricted : List Text := ["eval", "arguments"].map Text.ofString

/-- The problem of a token where none of its kind may stand. -/
def Token.problem (t : Token) (strict : Bool) : Problem :=
  match t.kind with
  | .endOfText => .unexpectedEnd
  | .identifier => .unexpectedIdentifier
  | .number => .unexpectedNumber
  | .string => .unexpectedString
  | .template => .unexpectedTemplate t.text
  | .keyword =>
    if futureReserved.contains t.text then .unexpectedReserved
    else if strict && strictReserved.contains t.text then .strictReserved
    else .unexpected t.text
  | _ => .unexpected t.text

end Source

end Offside
