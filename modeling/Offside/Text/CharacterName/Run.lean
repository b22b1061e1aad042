import Offside.Text.Basic

/-!
# Runs of named code points

Neighbours have names that begin alike, so that the names are listed in runs: the code points
of a run stand in a row, and their names differ only in how they end.  A name is looked up by
taking its beginning off and finding the place of what is left among the endings.
-/

namespace Offside

/-- What is left of a text after the given beginning. -/
def Text.after? (beginning t : Text) : Option Text :=
  if beginning.isPrefixOf t then some (t.drop beginning.length) else none

namespace CharacterName

/-- Names of code points in a row. -/
structure Run where
  /-- The first code point. -/
  first : Nat
  /-- How all the names begin. -/
  stem : String
  /-- How they end: lines of endings with bars between them.  Where nothing stands, a code point
  has no name. -/
  endings : List String

/-- The code point that has the name. -/
def Run.find? (r : Run) (name : Text) : Option Nat := do
  let ending ← Text.after? r.stem name
  let place ← (r.endings.flatMap (·.splitOn "|")).findIdx? (Text.ofString · == ending)
  if ending.isEmpty then none else return r.first + place

end CharacterName

end Offside
