import Offside.Source.Token

/-!
# Punctuators

A punctuator is the longest of the known ones that the text goes on with.
-/

namespace Offside

namespace Source

/-- The punctuators, each before its own beginnings. -/
def punctuators : List Text :=
  [">>>=", "...", "===", "!==", ">>>", "<<=", ">>=", "**=", "&&", "||", "==", "!=", "+=", "-=",
    "*=", "/=", "++", "--", "<<", ">>", "&=", "|=", "^=", "%=", "<=", ">=", "=>", "**", "(", ")",
    ";", ",", "[", "]", ":", "?", "~", "\x7b", "\x7d", ".", "<", ">", "=", "!", "+", "-", "*",
    "%", "&", "|", "^", "/"].map Text.ofString

/-- The punctuator that stands here. -/
def scanPunctuator (p : Place) : Except Fault (Token × Place) :=
  match punctuators.find? p.sees with
  | some text =>
    let q := p.advance text.length
    .ok (.between p q .punctuator text .null, q)
  | none => p.fail .illegal

/-- The operators that assign to their left side. -/
def assignmentOperators : List Text :=
  ["=", "*=", "**=", "/=", "%=", "+=", "-=", "<<=", ">>=", ">>>=", "&=", "^=", "|="].map
    Text.ofString

end Source

end Offside
