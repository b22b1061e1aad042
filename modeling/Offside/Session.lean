import Offside.Convert

/-!
# Sessions

A session has current settings, which are used where a conversion is given none.  They can be
set and reset, and they can be changed for a while: entering a block of other settings keeps the
current ones, and leaving it brings back the ones that were kept last, whatever has happened in
between.

A session also keeps the programs and converters that it was told to keep, under names.
-/

namespace Offside

/-- What a session keeps. -/
structure Session where
  /-- The parser of all its conversions. -/
  parser : Parser
  current : Settings
  /-- The settings that are kept by the blocks entered so far, the innermost first. -/
  kept : List Settings
  programs : List (Text × Node)
  converters : List (Text × Converter)

/-- A step of a session; settings come as data and are checked by the step. -/
inductive Step where
  | get
  | set (settings : Data)
  | reset
  | push (settings : Data)
  /-- Leave a block, at its end or by a fault in it. -/
  | pop
  /-- Ask for the settings that another session begins with. -/
  | getElsewhere
  /-- Change a field of the current settings in place. -/
  | assign
  | convert (source : Text) (settings : Option Data) (file : Option Text)
  | convertTree (tree : Except Fault Tree) (settings : Option Data)
  | parse (name source : Text) (settings : Option Data) (file : Option Text)
  | converter (name : Text) (settings : Option Data)
  | call (name source : Text) (file : Option Text)
  | callMany (name : Text) (sources : List Text)
  | callParse (name program source : Text) (file : Option Text)
  | callRender (name program : Text)
  | same (a b : Text)

/-- What a step answers. -/
inductive Answer where
  | settings (s : Settings)
  | value (v : Value)

namespace Session

/-- A session at its beginning. -/
def fresh : Session := ⟨.own, .default, [], [], []⟩

/-- The settings of a conversion: the given ones or the current ones, for a source with a name
if one is given. -/
def settingsFor (s : Session) (settings : Option Data) (file : Option Text) :
    Except Fault Settings := do
  let base ← match settings with
    | some d => Settings.ofData d
    | none => pure s.current
  match file with
  | some t => return base.withFile (.text t)
  | none => return base

/-- Convert a source in a session, with a parser. -/
def convertBy (parser : Parser) (s : Session) (source : Text) (settings : Option Data)
    (file : Option Text) : Logged Value := do
  let used ← .ofExcept (s.settingsFor settings file)
  parser.convert used source

/-- What is kept under a name. -/
def find {α : Type} (kept : List (Text × α)) (name : Text) : Logged α :=
  match kept.lookup name with
  | some a => pure a
  | none => .fail (.misuse .key)

/-- Run a step; a fault changes nothing. -/
def run (s : Session) : Step → Logged (Answer × Session)
  | .get => return (.settings s.current, s)
  | .set settings => do
    let current ← .ofExcept (Settings.ofData settings)
    return (.settings current, { s with current })
  | .reset => return (.settings .default, { s with current := .default })
  | .push settings => do
    let current ← .ofExcept (Settings.ofData settings)
    return (.settings current, { s with current, kept := s.current :: s.kept })
  | .pop =>
    match s.kept with
    | current :: kept => return (.settings current, { s with current, kept })
    | [] => .fail (.misuse .index)
  | .getElsewhere => return (.settings fresh.current, s)
  | .assign => .fail (.misuse .frozen)
  | .convert source settings file => do
    return (.value (← s.convertBy s.parser source settings file), s)
  | .convertTree tree settings => do
    let tree ← .ofExcept tree
    let settings ← .ofExcept (s.settingsFor settings none)
    return (.value (← Offside.convertTree settings tree), s)
  | .parse name source settings file => do
    let settings ← .ofExcept (s.settingsFor settings file)
    keep name (← s.parser.parse settings source)
  | .converter name settings => do
    let c ← .ofExcept (Converter.make settings)
    return (.settings c.settings, { s with converters := (name, c) :: s.converters })
  | .call name source file => do
    let c ← find s.converters name
    return (.value (← c.convert s.parser source file), s)
  | .callMany name sources => do
    let c ← find s.converters name
    return (.value (.list (← c.convertMany s.parser sources)), s)
  | .callParse name program source file => do
    let c ← find s.converters name
    keep program (← c.parse s.parser source file)
  | .callRender name program => do
    let c ← find s.converters name
    let node ← find s.programs program
    return (.value (← c.render node), s)
  | .same a b => do
    let x ← find s.programs a
    let y ← find s.programs b
    return (.value (.scalar (.bool (x.eqv y))), s)
where
  /-- Keep a program, and answer where it stands. -/
  keep (name : Text) (program : Node) : Logged (Answer × Session) :=
    let place := (program.location?.getD .unknown).toText
    return (.value (.text place), { s with programs := (name, program) :: s.programs })

/-- Run steps in order, and tell what each of them answers. -/
def runAll (s : Session) : List Step → List (Logged Answer)
  | [] => []
  | step :: rest =>
    let x := s.run step
    match x.result with
    | .ok (answer, s) => ⟨x.log, .ok answer⟩ :: runAll s rest
    | .error fault => ⟨x.log, .error fault⟩ :: runAll s rest

end Session

end Offside
