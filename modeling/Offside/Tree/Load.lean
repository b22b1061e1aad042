import Offside.Fault
import Offside.Json.Reader
import Offside.Tree.Node

/-!
# Loading a tree

The loader takes tree data to a node.  It checks the kind of every node and that its fields are
there, and it stops at the first fault: first the node itself, then field by field in the order
of its kind, each field with all that is below it.

Every entry of an object is loaded, whether or not the kind asks for it; the faults of entries
that no field asks for, or that the object is not found to have, are never looked at.
-/

namespace Offside

/-! ## Locations -/

/-- A number, or zero for what does not hold. -/
def orZero (d : Data) : Data := if d.truthy then d else .int 0

/-- One more than a number; what is no number does not allow it. -/
def oneMore (d : Data) : Except Misuse Data :=
  match d with
  | .scalar s => match s.succ? with
    | some t => .ok (.scalar t)
    | none => .error .type
  | _ => .error .type

/-- The two ends of a span.  What does not hold or has not two parts is no span; what has no
number of parts does not allow to ask for it. -/
def spanEnds (d : Data) : Except Misuse (Data × Data) :=
  if !d.truthy then .ok (.int 0, .int 0)
  else match d with
    | .list [first, last] => .ok (first, last)
    | .list _ => .ok (.int 0, .int 0)
    | .scalar (.text [first, last]) => .ok (.text [first], .text [last])
    | .scalar (.text _) => .ok (.int 0, .int 0)
    | .object .dict entries =>
      if entries.length = 2 then .error .key else .ok (.int 0, .int 0)
    | _ => .error .type

/-- The location that the data of a node give, in a source with a name or null. -/
def locationOf (file : Data) (raw : Data) : Except Misuse Location := do
  let loc := raw.get "loc"
  let (offset, endOffset) ← spanEnds (raw.get "range")
  if loc.isNull then
    if file.isNull && !endOffset.truthy then return .unknown
    else return ⟨.int 0, .int 0, offset, endOffset, .null, .null, file⟩
  else
    let start := loc.get "start"
    let stop := loc.get "end"
    let column ← oneMore (orZero (start.get "column"))
    let stopColumn := stop.get "column"
    let endColumn ← if stopColumn.isNull then pure .null else oneMore stopColumn
    return ⟨orZero (start.get "line"), column, offset, endOffset, stop.get "line", endColumn,
      file⟩

/-! ## Nodes -/

/-- The values of fields, from the loaded entries of a node. -/
def loadFields (raw : Data) (kind : Kind) (loc : Location)
    (parts : List (Text × Except Fault Value)) : List Field → Except Fault (List (Text × Value))
  | [] => .ok []
  | field :: rest => do
    let value ← if raw.has field.key then (parts.lookup field.key).getD (.ok .null)
      else match field.fallback with
        | some s => pure (.scalar s)
        | none => throw (.malformed (.missing kind.name loc field.key))
    return (field.name, value) :: (← loadFields raw kind loc parts rest)

/-- The node that tree data stand for, once their entries are loaded. -/
def assemble (file raw : Data) (parts : List (Text × Except Fault Value)) :
    Except Fault Node := do
  match raw.get "type" with
  | .scalar (.text name) =>
    let loc ← (locationOf file raw).mapError .misuse
    match Kind.ofName? name with
    | none => throw (.unsupported ⟨name, Kind.names, some loc, none⟩)
    | some kind =>
      let values ← loadFields raw kind loc parts kind.fields
      match Node.ofFields? kind loc fun name => (values.lookup (Text.ofString name)).getD .null with
      | some node => return node
      | none => throw (.malformed (.noText loc))
  | _ => throw (.malformed (.noKind raw.display))

mutual

/-- Load a node; `file` names its source. -/
def load (file : Data) : Data → Except Fault Node
  | .object shape entries => assemble file (.object shape entries) (loadEntries file entries)
  | .scalar s => assemble file (.scalar s) []
  | .list items => assemble file (.list items) []

/-- Load the entries of an object. -/
def loadEntries (file : Data) : List (Text × Data) → List (Text × Except Fault Value)
  | [] => []
  | (key, d) :: rest => (key, loadValue file key d) :: loadEntries file rest

/-- Load what is kept under a key.  An object that is the value of a literal is dropped. -/
def loadValue (file : Data) (key : Text) : Data → Except Fault Value
  | .scalar s => .ok (.scalar s)
  | .list items => (loadItems file items).map .list
  | .object shape entries =>
    if key = "value" then .ok .null
    else (assemble file (.object shape entries) (loadEntries file entries)).map .node

/-- Load the items of a list; null stays where an item is missing. -/
def loadItems (file : Data) : List Data → Except Fault (List Value)
  | [] => .ok []
  | d :: rest =>
    match (if d.isNull then .ok .null else (load file d).map .node) with
    | .ok v => (loadItems file rest).map (v :: ·)
    | .error fault => .error fault

end

/-- Load a program; any other node is refused. -/
def loadProgram (file raw : Data) : Except Fault Node := do
  let node ← load file raw
  match node with
  | .program .. => return node
  | _ => throw (.malformed (.noProgram node.kindName))

/-- Load the program in a JSON document. -/
def loadDocument (file : Data) (document : Text) : Except Fault Node :=
  match Json.read document with
  | .ok raw => loadProgram file raw
  | .error ⟨.longInteger digits, _⟩ => .error (.outOfRange (.integerRead digits))
  | .error f => .error (.json document f)

end Offside
