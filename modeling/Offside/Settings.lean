import Offside.Margin
import Offside.Source.Program

/-!
# Settings

The settings of a conversion: the unit of indentation, whether a source is a script or a module,
whether it is strict about what is not portable, and the name of the source.  The unit must be
blank and not empty, which every value of the type `Settings` keeps as a proof; the last two
settings may hold any value, and strictness is whether its value holds.
-/

namespace Offside

/-- A text that can be a unit of indentation: blanks and tabs, at least one. -/
def isIndentUnit (t : Text) : Bool :=
  !t.isEmpty && t.all fun c => c == ' ' || c == '\t'

/-- The settings of a conversion. -/
structure Settings where
  indentUnit : Text
  sourceType : Source.SourceType
  strict : Data
  file : Data
  isIndentUnit_indentUnit : isIndentUnit indentUnit = true

/-- A number of blanks, at least one, can be a unit of indentation. -/
theorem isIndentUnit_replicate (n : Nat) :
    isIndentUnit (List.replicate (n + 1) (CodePoint.ofChar ' ')) = true := by
  have h : (CodePoint.ofChar ' ' == CodePoint.ofChar ' ') = true := by decide
  simp [isIndentUnit, List.replicate_succ]

namespace Settings

/-- The settings that are used if no others are given. -/
def default : Settings := ⟨Margin.defaultUnit, .script, .bool false, .null, by decide⟩

instance : Inhabited Settings := ⟨default⟩

/-- Literals and operators that are not portable are refused. -/
def isStrict (s : Settings) : Bool := s.strict.truthy

/-- The outermost margin. -/
def margin (s : Settings) : Margin := ⟨s.indentUnit, 0⟩

/-- The same settings for a source with a name. -/
def withFile (s : Settings) (file : Data) : Settings := { s with file }

/-- A unit of indentation. -/
def readIndentUnit (d : Data) : Except Fault { t : Text // isIndentUnit t = true } :=
  match d with
  | .scalar (.text t) =>
    if h : isIndentUnit t = true then .ok ⟨t, h⟩ else .error (.outOfRange (.indentUnit d.display))
  | d =>
    -- Only a text can be asked what it is made of.
    if d.truthy then .error (.misuse .property) else .error (.outOfRange (.indentUnit d.display))

/-- A source type. -/
def readSourceType (d : Data) : Except Fault Source.SourceType :=
  match d with
  | .scalar (.text t) =>
    if t = "script" then .ok .script
    else if t = "module" then .ok .module
    else .error (.outOfRange (.sourceType d.display))
  | d => .error (.outOfRange (.sourceType d.display))

/-- Settings from their values, checked in order. -/
def make (indentUnit sourceType strict file : Data) : Except Fault Settings := do
  let ⟨unit, h⟩ ← readIndentUnit indentUnit
  let type ← readSourceType sourceType
  return ⟨unit, type, strict, file, h⟩

/-- Settings from the entries of a dictionary; what is missing is as usual, and what is unknown
is left alone.  Only a dictionary can be asked for its entries. -/
def ofData : Data → Except Fault Settings
  | .object shape entries =>
    let d := Data.object shape entries
    make ((d.entry? "indent_unit").getD (.text Margin.defaultUnit))
      ((d.entry? "source_type").getD (.text "script"))
      ((d.entry? "strict").getD (.bool false))
      ((d.entry? "source_file").getD .null)
  | _ => .error (.misuse .property)

/-- Settings as entries of a dictionary. -/
def toData (s : Settings) : Data :=
  .dict [("indent_unit", .text s.indentUnit), ("source_type", .text s.sourceType.word),
    ("strict", s.strict), ("source_file", s.file)]

end Settings

end Offside
