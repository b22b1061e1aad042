import Offside.Interchange.Data
import Offside.Number.Integer

/-!
# Writing JSON

The writer uses ASCII only: every other code point is escaped, and one above `U+FFFF` as a
surrogate pair.  Keys are sorted by code point.  A document is written on one line, or with one
item a line under an indentation of the given unit.

Two things have no place in a document: an object that is no dictionary, and an integer with too
many digits.
-/

namespace Offside

namespace Json

/-- A code point as it stands inside a string. -/
def writePoint (c : CodePoint) : Text :=
  if c == '"' then "\\\""
  else if c == '\\' then "\\\\"
  else if c == '\n' then "\\n"
  else if c == '\r' then "\\r"
  else if c == '\t' then "\\t"
  else if c.val == 12 then "\\f"
  else if c.val == 8 then "\\b"
  else if c.between ' ' '~' then [c]
  else if c.val < 0x10000 then "\\u" ++ Text.ofHex 4 c.val
  else
    let rest := c.val - 0x10000
    "\\u" ++ Text.ofHex 4 (0xD800 + rest / 0x400) ++ "\\u" ++ Text.ofHex 4 (0xDC00 + rest % 0x400)

/-- A string with its quotes. -/
def writeText (t : Text) : Text := "\"" ++ t.flatMap writePoint ++ "\""

/-- A double; the numbers that JSON lacks are written as constants. -/
def writeDouble : Double → Text
  | .nan => "NaN"
  | .infinite false => "Infinity"
  | .infinite true => "-Infinity"
  | x => x.toText

/-- A primitive value. -/
def writeScalar : Scalar → Text
  | .null => "null"
  | .bool true => "true"
  | .bool false => "false"
  | .int n => Text.ofInt n
  | .float x => writeDouble x
  | .text t => writeText t

/-- How a document is laid out. -/
inductive Layout where
  /-- All on one line. -/
  | line
  /-- One item a line, under an indentation of the given unit. -/
  | indented (unit : Text)

/-- The break in front of an item at a depth; none on a single line. -/
def Layout.break (layout : Layout) (depth : Nat) : Text :=
  match layout with
  | .line => []
  | .indented unit => '\n' :: Text.times unit depth

/-- The separator between two items at a depth. -/
def Layout.separator (layout : Layout) (depth : Nat) : Text :=
  match layout with
  | .line => ", "
  | .indented unit => "," ++ Layout.break (.indented unit) depth

/-- Written items between two brackets, the items being one deeper than the brackets. -/
def Layout.enclose (layout : Layout) (depth : Nat) (opening closing : Text)
    (items : List Text) : Text :=
  if items.isEmpty then opening ++ closing
  else opening ++ layout.break (depth + 1) ++ Text.join (layout.separator (depth + 1)) items
    ++ layout.break depth ++ closing

/-- Keyed items in the order of their keys. -/
def sortByKey {α : Type} (entries : List (Text × α)) : List (Text × α) :=
  entries.mergeSort fun a b => Text.precedes a.1 b.1

mutual

/-- A piece of tree data whose brackets stand at a depth. -/
def writeAt (layout : Layout) (depth : Nat) : Data → Text
  | .scalar s => writeScalar s
  | .list items => layout.enclose depth "[" "]" (writeItems layout (depth + 1) items)
  | .object _ entries =>
    let written := sortByKey (writeEntries layout (depth + 1) entries)
    layout.enclose depth "\x7b" "\x7d" (written.map fun (key, t) => writeText key ++ ": " ++ t)

/-- The items of a list, each on its own. -/
def writeItems (layout : Layout) (depth : Nat) : List Data → List Text
  | [] => []
  | d :: rest => writeAt layout depth d :: writeItems layout depth rest

/-- The values of an object under their keys. -/
def writeEntries (layout : Layout) (depth : Nat) : List (Text × Data) → List (Text × Text)
  | [] => []
  | (key, d) :: rest => (key, writeAt layout depth d) :: writeEntries layout depth rest

end

/-! ## What cannot be written -/

/-- Why a piece of tree data cannot be written. -/
inductive Obstacle where
  /-- An object that is no dictionary. -/
  | object
  /-- An integer with too many digits. -/
  | longInteger
deriving DecidableEq

/-- The least natural number with too many digits. -/
def leastLong : Nat := Nat.pow 10 Text.maxDigits

mutual

/-- The first obstacle in the order of writing. -/
def obstacle? : Data → Option Obstacle
  | .scalar (.int n) => if leastLong ≤ n.natAbs then some .longInteger else none
  | .scalar _ => none
  | .list items => (obstacles items).findSome? id
  | .object .dict entries => (sortByKey (entryObstacles entries)).findSome? (·.2)
  | .object _ _ => some .object

/-- The first obstacle in each item of a list. -/
def obstacles : List Data → List (Option Obstacle)
  | [] => []
  | d :: rest => obstacle? d :: obstacles rest

/-- The first obstacle in each value of an object, under its key. -/
def entryObstacles : List (Text × Data) → List (Text × Option Obstacle)
  | [] => []
  | (key, d) :: rest => (key, obstacle? d) :: entryObstacles rest

end

/-- The document that holds a piece of tree data. -/
def write (layout : Layout) (d : Data) : Text := writeAt layout 0 d

end Json

end Offside
