import Offside.Number.Integer
import Offside.Text.Quoted

/-!
# The words of a command

A command is called with words.  A word is an option, an operand or the marker `--`, behind which
all words are operands.  An option may be written with the beginning of its long name, if no
other option has a name that begins so; its argument is the next operand, or it is attached to
the name.  Short options that have no argument can be written in one word.

The words are told apart first, and then read from left to right; the first fault that is found
is the one that is told.  Words that have no meaning are collected, and told at the end.
-/

namespace Offside

namespace Command

/-! ## Options -/

/-- The options of the command. -/
inductive Switch where
  | help
  | output
  | indent
  | module
  | strict
  | tree
  | dumpTree
  | debug
  | version
deriving DecidableEq

namespace Switch

/-- The options in the order of their description. -/
def all : List Switch :=
  [help, output, indent, module, strict, tree, dumpTree, debug, version]

/-- The names of an option. -/
def names : Switch → List Text
  | help => [Text.ofString "-h", Text.ofString "--help"]
  | output => [Text.ofString "-o", Text.ofString "--output"]
  | indent => [Text.ofString "--indent"]
  | module => [Text.ofString "--module"]
  | strict => [Text.ofString "--strict"]
  | tree => [Text.ofString "--tree"]
  | dumpTree => [Text.ofString "--dump-ast"]
  | debug => [Text.ofString "--debug"]
  | version => [Text.ofString "-v", Text.ofString "--version"]

/-- The option is followed by an argument. -/
def takesArgument : Switch → Bool
  | output | indent => true
  | _ => false

/-- An option as messages name it. -/
def shown (s : Switch) : Text := Text.join "/" s.names

/-- All names with their options. -/
def table : List (Text × Switch) := all.flatMap fun s => s.names.map fun name => (name, s)

/-- The option with a name. -/
def ofName? (name : Text) : Option Switch := table.lookup name

end Switch

/-! ## Faults -/

/-- What is wrong with the words of a command. -/
inductive Misfit where
  /-- The beginning of several names. -/
  | ambiguous (word : Text) (names : List Text)
  /-- An argument is attached to an option that has none. -/
  | unexpectedArgument (s : Switch) (argument : Text)
  /-- An option has no argument. -/
  | missingArgument (s : Switch)
  /-- The argument of an option is no integer. -/
  | noInteger (s : Switch) (argument : Text)
  /-- Words that have no meaning. -/
  | unrecognized (words : List Text)
  /-- There is no level of indentation without blanks. -/
  | noIndent

/-- The message about words that do not fit. -/
def Misfit.toText : Misfit → Text
  | ambiguous word names => "ambiguous option: " ++ word ++ " could match " ++ Text.join ", " names
  | unexpectedArgument s argument =>
    "argument " ++ s.shown ++ ": ignored explicit argument " ++ Text.quoted argument
  | missingArgument s => "argument " ++ s.shown ++ ": expected one argument"
  | noInteger s argument =>
    "argument " ++ s.shown ++ ": invalid int value: " ++ Text.quoted argument
  | unrecognized words => "unrecognized arguments: " ++ Text.join " " words
  | noIndent => "--indent must be at least 1"

/-! ## Words -/

/-- What is attached to the name of an option. -/
inductive Attached where
  | nothing
  /-- A text behind a short name; an equals sign in front of it may be left out. -/
  | toShort (t : Text)
  /-- A text behind a long name and an equals sign. -/
  | toLong (t : Text)

/-- What a word of a command is. -/
inductive Word where
  /-- The marker behind which all words are operands. -/
  | marker
  | operand (t : Text)
  | switch (s : Switch) (attached : Attached)
  | unknown (t : Text)

namespace Word

/-- The parts of a word in front of the first equals sign and behind it. -/
def splitEquals (t : Text) : Text × Option Text :=
  let name := t.takeWhile (· != CodePoint.ofChar '=')
  match t.drop name.length with
  | [] => (name, none)
  | _ :: argument => (name, some argument)

/-- The name is short: it has one dash. -/
def isShort (name : Text) : Bool := name[1]? != some (CodePoint.ofChar '-')

/-- The options that a word may stand for which is no name of an option, by their names: a long
one if its name goes on from what stands in front of the equals sign, and a short one if the
word begins with its name. -/
def candidates (t : Text) : List (Text × Switch × Attached) :=
  match t with
  | a :: b :: rest =>
    if b == '-' then
      let (name, argument) := splitEquals t
      let attached := argument.elim .nothing .toLong
      Switch.table.filterMap fun (full, s) =>
        if name.isPrefixOf full then some (full, s, attached) else none
    else
      Switch.table.filterMap fun (full, s) =>
        if full = [a, b] then some (full, s, .toShort rest)
        else if t.isPrefixOf full then some (full, s, .nothing)
        else none
  | _ => []

/-- A number with a minus sign: digits, with or without a point in front of the last of them.
One line feed may follow. -/
def isNegativeNumber (t : Text) : Bool :=
  let line : Text := if t.getLast? == some (CodePoint.ofChar '\n') then t.dropLast else t
  match line with
  | sign :: rest =>
    let front := rest.takeWhile CodePoint.isDecimal
    sign == '-' && match rest.drop front.length with
      | [] => !front.isEmpty
      | point :: digits => point == '.' && !digits.isEmpty && digits.all CodePoint.isDecimal
  | [] => false

/-- Tell what a word is that stands in front of the marker. -/
def classify (t : Text) : Except Misfit Word :=
  if t.head? != some (CodePoint.ofChar '-') || t.length = 1 then .ok (.operand t)
  else match Switch.ofName? t with
    | some s => .ok (.switch s .nothing)
    | none =>
      let (name, argument) := splitEquals t
      match Switch.ofName? name, argument with
      | some s, some argument =>
        .ok (.switch s (if isShort name then .toShort argument else .toLong argument))
      | _, _ =>
        match candidates t with
        | [(_, s, attached)] => .ok (.switch s attached)
        | [] =>
          if isNegativeNumber t || t.contains (CodePoint.ofChar ' ') then .ok (.operand t)
          else .ok (.unknown t)
        | several => .error (.ambiguous t (several.map (·.1)))

/-- The marker as it is written. -/
def markerText : Text := "--"

/-- Tell what the words of a command are. -/
def classifyAll : List Text → Except Misfit (List Word)
  | [] => .ok []
  | t :: rest =>
    if t = markerText then .ok (.marker :: rest.map .operand)
    else do
      let word ← classify t
      return word :: (← classifyAll rest)

end Word

/-! ## The options that are read -/

/-- The options of a call. -/
structure Options where
  input : Option Text := none
  output : Option Text := none
  indent : Int := 2
  isModule : Bool := false
  isStrict : Bool := false
  isTree : Bool := false
  dumpsTree : Bool := false
  debugs : Bool := false
  showsVersion : Bool := false

/-- Why reading stops. -/
inductive Stop where
  /-- Help is asked for. -/
  | help
  | misfit (m : Misfit)

/-- An option with its argument; an option that takes none has an empty one. -/
abbrev Setting := Switch × Text

namespace Options

/-- Take an option with its argument. -/
def take (o : Options) : Setting → Except Stop Options
  | (.help, _) => .error .help
  | (.output, argument) => .ok { o with output := some argument }
  | (.indent, argument) =>
    match argument.toInt? with
    | some n => .ok { o with indent := n }
    | none => .error (.misfit (.noInteger .indent argument))
  | (.module, _) => .ok { o with isModule := true }
  | (.strict, _) => .ok { o with isStrict := true }
  | (.tree, _) => .ok { o with isTree := true }
  | (.dumpTree, _) => .ok { o with dumpsTree := true }
  | (.debug, _) => .ok { o with debugs := true }
  | (.version, _) => .ok { o with showsVersion := true }

/-- What the word of an option says: the options in it with their arguments, and the option that
waits for the next word. -/
structure Spelled where
  settings : List Setting := []
  waiting : Option Switch := none

/-- An option to which nothing is attached. -/
def spellBare (s : Switch) : Spelled :=
  if s.takesArgument then ⟨[], some s⟩ else ⟨[(s, [])], none⟩

/-- An option in a word of short options that is followed by more: its argument, or the letters
of further options. -/
def spellCluster (s : Switch) : Text → Except Misfit Spelled
  | [] => .ok (spellBare s)
  | c :: rest =>
    if s.takesArgument then .ok ⟨[(s, c :: rest)], none⟩
    else match Switch.ofName? ['-', c] with
      | some next => do
        let more ← spellCluster next rest
        return { more with settings := (s, []) :: more.settings }
      | none => .error (.unexpectedArgument s (c :: rest))

/-- What the word of an option says. -/
def spell (s : Switch) (attached : Attached) : Except Misfit Spelled :=
  match attached, s.takesArgument with
  | .nothing, _ => .ok (spellBare s)
  | .toShort argument, true | .toLong argument, true => .ok ⟨[(s, argument)], none⟩
  | .toLong argument, false => .error (.unexpectedArgument s argument)
  | .toShort [], false => .error (.unexpectedArgument s [])
  | .toShort (c :: rest), false => spellCluster s (c :: rest)

/-- Read words; with the options come the words that have no meaning.  The first operand is the
input, and a marker directly behind it or before it says nothing more. -/
def readWords (o : Options) (unknown : List Text) : List Word → Except Stop (Options × List Text)
  | [] => .ok (o, unknown)
  | .operand t :: .marker :: rest =>
    match o.input with
    | none => readWords { o with input := some t } unknown rest
    | some _ => readWords o (unknown ++ [t, Word.markerText]) rest
  | .operand t :: rest =>
    match o.input with
    | none => readWords { o with input := some t } unknown rest
    | some _ => readWords o (unknown ++ [t]) rest
  | .marker :: rest =>
    readWords o (if o.input.isNone then unknown else unknown ++ [Word.markerText]) rest
  | .unknown t :: rest => readWords o (unknown ++ [t]) rest
  | .switch s attached :: rest =>
    match spell s attached with
    | .error m => .error (.misfit m)
    | .ok spelled =>
      match spelled.waiting with
      | none => do readWords (← spelled.settings.foldlM take o) unknown rest
      | some s =>
        match rest with
        | .operand t :: rest => do
          readWords (← (spelled.settings ++ [(s, t)]).foldlM take o) unknown rest
        | _ => .error (.misfit (.missingArgument s))

/-- Read the words of a command. -/
def read (words : List Text) : Except Stop Options := do
  let words ← (Word.classifyAll words).mapError .misfit
  let (o, unknown) ← readWords {} [] words
  if unknown.isEmpty then return o else .error (.misfit (.unrecognized unknown))

end Options

end Command

end Offside
