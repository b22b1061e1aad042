import Offside.Render
import Offside.Settings
import Offside.Tree.Encode
import Offside.Tree.Load

/-!
# Conversion

A source is parsed to a tree and the tree is rendered.  A tree may also be handed over: loaded,
as tree data, or as a JSON document.  All that parses takes its parser as an argument; the library
has one of its own, `Parser.own`, which reads a source as tree data and loads them.

A converter is made of settings and converts any number of sources by them.
-/

namespace Offside

/-! ## Conversions -/

/-- Render a node at the outermost margin. -/
def render (s : Settings) (node : Node) : Logged Value := node.render s.isStrict s.margin

/-- The number of items of a value. -/
def Value.count : Value → Nat
  | .list items => items.length
  | _ => 0

/-- The number of statements on the top level of a program. -/
def Node.statementCount : Node → Nat
  | .program _ body _ => body.count
  | _ => 0

/-- A parser: what becomes of a source of a type, in a file. -/
abbrev Parser := Source.SourceType → Data → Text → Logged Node

/-- A reader takes a source of a type to tree data, or refuses it. -/
abbrev Reader := Source.SourceType → Text → Except Source.Fault Data

/-- The parser that loads what a reader reads. -/
def Reader.parser (reader : Reader) : Parser := fun sourceType file source =>
  match reader sourceType source with
  | .error f => .fail (.refused ⟨f.message, .int f.line, .int f.column, file⟩)
  | .ok tree => do
    Logged.tell (.parsed source.length sourceType)
    .ofExcept (load file tree)

namespace Parser

/-- The parser of the library. -/
def own : Parser := Reader.parser Source.parseProgram

/-- Parse the program that a source is. -/
def parse (parser : Parser) (s : Settings) (source : Text) : Logged Node :=
  parser s.sourceType s.file source

/-- Convert a source. -/
def convert (parser : Parser) (s : Settings) (source : Text) : Logged Value := do
  let program ← parser.parse s source
  Logged.tell (.rendering program.statementCount)
  render s program

end Parser

/-- Parse the program that a source is, with the parser of the library. -/
def parse (s : Settings) (source : Text) : Logged Node := Parser.own.parse s source

/-- Convert a source with the parser of the library. -/
def convert (s : Settings) (source : Text) : Logged Value := Parser.own.convert s source

/-- A tree that is handed over. -/
inductive Tree where
  /-- A JSON document that holds a program. -/
  | document (t : Text)
  | data (d : Data)
  | loaded (n : Node)

/-- Convert a tree. -/
def convertTree (s : Settings) (tree : Tree) : Logged Value := do
  let node ← .ofExcept <| match tree with
    | .document t => loadDocument s.file t
    | .data d => load s.file d
    | .loaded n => .ok n
  render s node

/-- Render something that has not been loaded: nothing gives no text, and all else is no
node. -/
def renderData (d : Data) : Logged Value :=
  if d.isNull then pure (.text []) else .fail (.malformed (.notNode d.display))

/-- A node is a loop that can be rendered as a count; what is no loop does not allow to ask. -/
def Node.isCount : Node → Except Fault Bool
  | .forStatement _ init test update _ => (Render.isCount init test update).mapError .misuse
  | _ => .error (.misuse .property)

/-! ## Converters -/

/-- A converter with settings of its own. -/
structure Converter where
  settings : Settings

namespace Converter

/-- Make a converter of settings, or of the default ones. -/
def make : Option Data → Except Fault Converter
  | some data => Converter.mk <$> Settings.ofData data
  | none => .ok ⟨.default⟩

/-- The settings for a source with a name; an empty name counts as none. -/
def settingsFor (c : Converter) (file : Option Text) : Settings :=
  match file with
  | some t => if t.isEmpty then c.settings else c.settings.withFile (.text t)
  | none => c.settings

/-- Render a node. -/
def render (c : Converter) (node : Node) : Logged Value := Offside.render c.settings node

variable (parser : Parser)

/-- Parse a source. -/
def parse (c : Converter) (source : Text) (file : Option Text) : Logged Node :=
  parser.parse (c.settingsFor file) source

/-- Convert a source. -/
def convert (c : Converter) (source : Text) (file : Option Text) : Logged Value := do
  c.render (← c.parse parser source file)

/-- Convert sources in order, up to the first fault. -/
def convertMany (c : Converter) : List Text → Logged (List Value)
  | [] => pure []
  | source :: rest => do
    let first ← c.convert parser source none
    return first :: (← c.convertMany rest)

end Converter

end Offside
