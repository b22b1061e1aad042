import Offside.Json.Fault
import Offside.Text.Utf8
import Offside.Tree.Kind
import Offside.Tree.Location

/-!
# Faults

All that can go wrong, by its cause, and the messages about it.  A source text may be no program,
a tree may have a node that is no node or one that has no rendering, a setting may be out of
range, a document may be no JSON, a tree may hold a value of a type that an operation on it does
not allow, and a file may be missing or hold bytes that are no text.  A misuse of a value is told
without a message.
-/

namespace Offside

/-- A source text was refused. -/
structure Refusal where
  message : Text
  line : Data
  column : Data
  file : Data

/-- The message about a refused source text: what is known of the place, then the reason. -/
def Refusal.toText (r : Refusal) : Text :=
  let file : Text := if r.file.truthy then r.file.plain ++ ":" else []
  let column : Text := if r.column.isNull then [] else r.column.plain ++ ":"
  let place : Text := if r.line.isNull then [] else r.line.plain ++ ":" ++ column
  let location := file ++ place
  if location.isEmpty then r.message else location.trimEnd ':' ++ " " ++ r.message

/-- A node, or a literal or operator in it, has no rendering. -/
structure Unsupported where
  kind : Text
  /-- The kinds that do have a rendering, if the message is to list them. -/
  known : List Text
  location : Option Location
  detail : Option Text

/-- The known kinds in the order of the message. -/
def Unsupported.sorted (u : Unsupported) : List Text := u.known.mergeSort Text.precedes

/-- The message about a node without a rendering. -/
def Unsupported.toText (u : Unsupported) : Text :=
  let detail : Text := match u.detail with
    | some t => if t.isEmpty then [] else ": " ++ t
    | none => []
  let location : Text := match u.location with
    | some loc => if loc.line.truthy then " at " ++ loc.toText else []
    | none => []
  let known : Text :=
    if u.known.isEmpty then [] else " (known: " ++ Text.join ", " u.sorted ++ ")"
  "Unsupported construct " ++ Text.quoted u.kind ++ detail ++ location ++ known

/-- What is wrong with something that should be a node. -/
inductive Malformed where
  /-- Tree data without a kind; the data as messages show them. -/
  | noKind (shown : Text)
  /-- A node lacks a field of its kind. -/
  | missing (kind : Text) (location : Location) (key : Text)
  /-- A literal has no text. -/
  | noText (location : Location)
  /-- A tree is no program. -/
  | noProgram (kind : Text)
  /-- Something that is no node was to be rendered; it as messages show it. -/
  | notNode (shown : Text)
  /-- A cause that is given in words. -/
  | worded (message : Text)

/-- The message about something that is no proper node. -/
def Malformed.toText : Malformed → Text
  | noKind shown => "Not an ESTree node (no 'type'): " ++ shown
  | missing kind location key =>
    kind ++ " node at " ++ location.toText ++ " is missing " ++ Text.quoted key
  | noText location => "Literal at " ++ location.toText ++ " has no source text"
  | noProgram kind => "Expected Program, got " ++ kind
  | notNode shown => "Not an AST node: " ++ shown
  | worded message => message

/-- A value that is out of range: a setting, a margin, the name of a file or an integer. -/
inductive OutOfRange where
  /-- The indentation unit is empty or not blank; it as messages show it. -/
  | indentUnit (shown : Text)
  /-- The source type is none of the two; it as messages show it. -/
  | sourceType (shown : Text)
  | negativeDepth (depth : Int)
  | outermostMargin
  /-- The name of a file has the null character in it. -/
  | nullInName
  /-- An integer has more digits than are read. -/
  | integerRead (digits : Nat)
  /-- An integer has more digits than are written. -/
  | integerWritten

/-- The message about a value that is out of range. -/
def OutOfRange.toText : OutOfRange → Text
  | indentUnit shown => "indent_unit must be non-empty whitespace, got " ++ shown
  | sourceType shown => "source_type must be 'script' or 'module', got " ++ shown
  | negativeDepth depth => "Margin depth cannot be negative, got " ++ Text.ofInt depth
  | outermostMargin => "Cannot leave the top-level margin"
  | nullInName => "embedded null byte"
  | integerRead digits => (Json.Problem.longInteger digits).wording
  | integerWritten =>
    "Exceeds the limit (" ++ Text.ofNat Text.maxDigits
      ++ " digits) for integer string conversion; "
      ++ "use sys.set_int_max_str_digits() to increase the limit"

/-- An operation that a value does not allow. -/
inductive Misuse where
  /-- The value has a type that the operation is not made for. -/
  | type
  /-- The value lacks the property that the operation asks for. -/
  | property
  /-- The dictionary lacks the key that the operation asks for. -/
  | key
  /-- There is nothing left to take. -/
  | index
  /-- The value cannot be changed. -/
  | frozen
deriving DecidableEq

/-- Why a file cannot be opened. -/
inductive FileProblem where
  | notFound
  | notDirectory
  | isDirectory
  | nameTooLong
  /-- Any other problem, by its number and in words. -/
  | other (number : Nat) (words : Text)
deriving DecidableEq

/-- The number of a problem with a file. -/
def FileProblem.number : FileProblem → Nat
  | notFound => 2
  | notDirectory => 20
  | isDirectory => 21
  | nameTooLong => 36
  | other n _ => n

/-- A problem with a file in words. -/
def FileProblem.words : FileProblem → Text
  | notFound => "No such file or directory"
  | notDirectory => "Not a directory"
  | isDirectory => "Is a directory"
  | nameTooLong => "File name too long"
  | other _ words => words

/-- A file cannot be opened. -/
structure FileFault where
  problem : FileProblem
  /-- The file as it was asked for. -/
  name : Text
deriving DecidableEq

/-- The message about a file that cannot be opened. -/
def FileFault.toText (f : FileFault) : Text :=
  "[Errno " ++ Text.ofNat f.problem.number ++ "] " ++ f.problem.words ++ ": "
    ++ Text.quoted f.name

/-- A width that no text can have. -/
structure TooWide where
  width : Nat
deriving DecidableEq

/-- The least width that cannot be counted in a machine word. -/
def TooWide.wordLimit : Nat := Nat.pow 2 63

/-- The message about a width that no text can have: there is none if the width is one that can
be counted. -/
def TooWide.toText (w : TooWide) : Text :=
  if w.width < wordLimit then [] else "cannot fit 'int' into an index-sized integer"

/-- What went wrong. -/
inductive Fault where
  | refused (r : Refusal)
  | unsupported (u : Unsupported)
  | malformed (m : Malformed)
  | outOfRange (o : OutOfRange)
  /-- The document with its fault. -/
  | json (document : Text) (f : Json.Fault)
  | misuse (m : Misuse)
  | file (f : FileFault)
  /-- A file holds bytes that are no text. -/
  | undecodable (f : Utf8.DecodeFault)
  /-- A text has surrogates in it, which no file can hold. -/
  | unencodable (f : Utf8.EncodeFault)
  | tooWide (w : TooWide)

/-- The message about a fault; a misuse has none. -/
def Fault.message? : Fault → Option Text
  | refused r => some r.toText
  | unsupported u => some u.toText
  | malformed m => some m.toText
  | outOfRange o => some o.toText
  | json document f => some (f.message document)
  | misuse _ => none
  | file f => some f.toText
  | undecodable f => some f.toText
  | unencodable f => some f.toText
  | tooWide w => some w.toText

end Offside
