import Offside.Interchange.Data

/-!
# Locations

A location tells where in its source a node stands: the line and column of its beginning, both
from one, the offsets of its two ends, the line and column of its end, and the name of the
source.  A location is read from tree data as it comes, so that every field may hold any value.
A beginning on line zero stands for a location that is not known.
-/

namespace Offside

/-- Where a node stands in its source. -/
structure Location where
  line : Data
  column : Data
  offset : Data
  endOffset : Data
  endLine : Data
  endColumn : Data
  file : Data
deriving Inhabited

namespace Location

/-- The location that is not known. -/
def unknown : Location := ⟨.int 0, .int 0, .int 0, .int 0, .null, .null, .null⟩

/-- A location as messages give it: the source if it has a name, the line and the column. -/
def toText (l : Location) : Text :=
  let place := l.line.plain ++ ":" ++ l.column.plain
  if l.file.truthy then l.file.plain ++ ":" ++ place else place

/-- The fields of a location in order, with their names. -/
def fields (l : Location) : List (Text × Data) :=
  [("lineno", l.line), ("col_offset", l.column), ("offset", l.offset),
    ("end_offset", l.endOffset), ("end_lineno", l.endLine), ("end_col_offset", l.endColumn),
    ("source_file", l.file)]

/-- A location with all its fields, as messages show it inside a node. -/
def display (l : Location) : Text :=
  let shown := l.fields.map fun (name, d) => name ++ "=" ++ d.display
  "SourceLocation(" ++ Text.join ", " shown ++ ")"

/-- Equality of locations, with numbers compared by size. -/
def eqv (a b : Location) : Bool :=
  Data.eqvItems (a.fields.map (·.2)) (b.fields.map (·.2))

end Location

end Offside
