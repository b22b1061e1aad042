import Offside.Command.Files
import Offside.Command.Options
import Offside.Convert

/-!
# The command

The command converts the program in a file, or the one that is typed in, and writes the result to
a file or shows it.  Its options say how the input is read, how it is converted and what is told
about it.

A call is first turned into a plan by its words alone: it ends at once, with help, the version or
a message about its words, or there is a job to do.  The job reads its input and makes the whole
result before it writes any of it, so a call that fails shows no part of a result.  A source or a
tree that is refused and a file that cannot be opened are reported by a message that begins a line
of the standard error; it may go on in further lines, where it tells a name with a line feed in it.
All other faults end the call as they are: a document that is no JSON, bytes that are no text, or
surrogates, which neither a file nor the standard output takes.

A call depends on the system that it runs on (`Command.System`): on its parser, on the width of the
indentation that it has room for, and on the links among its files.  Otherwise neither memory nor
the depth of nesting is limited here.  A call that runs out of them ends by a fault of its own,
which is not told of, and so do a standard output that is closed and a file that may not be opened.
-/

namespace Offside

namespace Command

/-! ## Texts -/

/-- The name of the command. -/
def name : Text := "culebra"

/-- The version of the command. -/
def version : Text := "0.1.0"

/-- How the command is called. -/
def usage : Text :=
  "usage: culebra [-h] [-o OUTPUT] [--indent INDENT] [--module] [--strict]\n" ++
  "               [--tree] [--dump-ast] [--debug] [-v]\n" ++
  "               [input]\n"

/-- The description of the command and its options. -/
def help : Text :=
  usage ++
  "\nconvert JavaScript to Python\n" ++
  "\npositional arguments:\n" ++
  "  input                 the input JavaScript file (stdin if omitted or -)\n" ++
  "\noptions:\n" ++
  "  -h, --help            show this help message and exit\n" ++
  "  -o OUTPUT, --output OUTPUT\n" ++
  "                        the output Python file (stdout if omitted or -)\n" ++
  "  --indent INDENT       spaces per indentation level\n" ++
  "  --module              parse the input as an ES module\n" ++
  "  --strict              reject literals and operators without an identical\n" ++
  "                        Python spelling\n" ++
  "  --tree                the input is an ESTree JSON document instead of\n" ++
  "                        JavaScript\n" ++
  "  --dump-ast            print the parsed tree as JSON instead of converting it\n" ++
  "  --debug               log conversion details to stderr\n" ++
  "  -v, --version         print current version and exit\n"

/-- What is shown about words that do not fit. -/
def complaint (m : Misfit) : Text := usage ++ name ++ ": error: " ++ m.toText ++ "\n"

/-- What is shown about a fault that is reported. -/
def report (message : Text) : Text := name ++ ": " ++ message ++ "\n"

/-! ## Systems -/

/-- What a call depends on besides its words and inputs. -/
structure System where
  parser : Parser
  /-- The least number of blanks for which there is no room. -/
  unitLimit : Nat
  /-- What cannot be counted has no room. -/
  unitLimit_le : unitLimit ≤ TooWide.wordLimit
  links : Links

/-- The system with the parser of the library, a terabyte of room and no links. -/
def System.own : System := ⟨.own, Nat.pow 2 40, by decide, []⟩

/-! ## Plans -/

/-- Where the result of a call goes. -/
inductive Target where
  | stdout
  | file (name : Text)

/-- A conversion that a call asks for. -/
structure Job where
  settings : Settings
  /-- The file to read, if it is not the standard input. -/
  input : Option Text
  output : Target
  /-- The input is a tree and no source. -/
  isTree : Bool
  /-- The tree is wanted and no text. -/
  dumpsTree : Bool
  logging : Logging

/-- How a call ends: with an exit code, or with a fault that is not reported. -/
abbrev Ending := Except Fault Nat

/-- What a call comes to by its words. -/
inductive Plan where
  /-- The call ends at once, with what it shows on the two outputs. -/
  | finish (ending : Ending) (stdout stderr : Text)
  | work (job : Job)

/-- The name that stands for the standard input and output. -/
def dash : Text := "-"

/-- The file to read, if it is not the standard input. -/
def inputOf (given : Option Text) : Option Text := given.filter (· != dash)

/-- Where the result goes. -/
def targetOf : Option Text → Target
  | none => .stdout
  | some name => if name = dash then .stdout else .file name

/-- What a call comes to by its options. -/
def planFor (system : System) (o : Options) : Plan :=
  if o.showsVersion then .finish (.ok 0) (name ++ " " ++ version ++ "\n") []
  else match o.indent with
    | .negSucc _ | .ofNat 0 => .finish (.ok 2) [] (complaint .noIndent)
    | .ofNat (n + 1) =>
      if system.unitLimit ≤ n + 1 then .finish (.error (.tooWide ⟨n + 1⟩)) [] []
      else
        let input := inputOf o.input
        .work
          { settings :=
              { indentUnit := List.replicate (n + 1) (CodePoint.ofChar ' ')
                sourceType := if o.isModule then .module else .script
                strict := .bool o.isStrict
                file := input.elim .null .text
                isIndentUnit_indentUnit := isIndentUnit_replicate n }
            input
            output := targetOf o.output
            isTree := o.isTree
            dumpsTree := o.dumpsTree
            logging := Logging.fresh.configure o.debugs }

/-- What a call comes to. -/
def plan (system : System) (words : List Text) : Plan :=
  match Options.read words with
  | .ok o => planFor system o
  | .error .help => .finish (.ok 0) help []
  | .error (.misfit m) => .finish (.ok 2) [] (complaint m)

/-! ## Jobs -/

/-- The text of a value that is one. -/
def textOf : Value → Except Fault Text
  | .scalar (.text t) => .ok t
  | _ => .error (.misuse .type)

namespace Job

/-- The input of a job. -/
def read (links : Links) (job : Job) (stdin : Text) (files : Files) : Except Fault Text :=
  match job.input with
  | none => .ok stdin.withLineFeeds
  | some name => files.read name links >>= Text.ofBytes

/-- What is made of an input. -/
def result (parser : Parser) (job : Job) (input : Text) : Logged Text :=
  if job.dumpsTree then do
    let program ← if job.isTree then .ofExcept (loadDocument job.settings.file input)
      else parser.parse job.settings input
    .ofExcept (program.toJson (.indented "  "))
  else do
    let value ← if job.isTree then convertTree job.settings (.document input)
      else parser.convert job.settings input
    .ofExcept (textOf value)

/-- Make the text to be written of an input, or of the fault to read it. -/
def perform (parser : Parser) (job : Job) (input : Except Fault Text) : Logged Text := do
  let made ← job.result parser (← .ofExcept input)
  return made ++ "\n"

end Job

/-- Deliver a text: the files afterwards, and what is shown then or what went wrong.  The standard
output shows all of a text, or nothing if it has no encoding. -/
def deliver (links : Links) (files : Files) (t : Text) : Target → Files × Except Fault Text
  | .stdout =>
    match Utf8.encode t with
    | .ok _ => (files, .ok t)
    | .error f => (files, .error (.unencodable f))
  | .file name =>
    let (files, written) := files.write name t links
    (files, written.map fun () => [])

/-- The fault is reported; others end the call as they are. -/
def isReported : Fault → Bool
  | .refused _ | .unsupported _ | .malformed _ | .file _ => true
  | _ => false

/-- How a call ends by a fault, and what it reports. -/
def endingBy (fault : Fault) : Ending × Text :=
  match isReported fault, fault.message? with
  | true, some message => (.ok 1, report message)
  | _, _ => (.error fault, [])

/-! ## Calls -/

/-- What a call leaves. -/
structure Outcome where
  ending : Ending
  stdout : Text
  stderr : Text
  files : Files

namespace Job

/-- Leave what a job has made where it belongs. -/
def leave (links : Links) (job : Job) (made : Logged Text) (files : Files) : Outcome :=
  let told := job.logging.shown made.log
  let (files, shown) := match made.result with
    | .ok t => deliver links files t job.output
    | .error fault => (files, .error fault)
  match shown with
  | .ok t => ⟨.ok 0, t, told, files⟩
  | .error fault =>
    let (ending, reported) := endingBy fault
    ⟨ending, [], told ++ reported, files⟩

/-- Do a job. -/
def run (system : System) (job : Job) (stdin : Text) (files : Files) : Outcome :=
  job.leave system.links (job.perform system.parser (job.read system.links stdin files)) files

end Job

/-- Call the command with words, on a system. -/
def runOn (system : System) (words : List Text) (stdin : Text) (files : Files) : Outcome :=
  match plan system words with
  | .finish ending stdout stderr => ⟨ending, stdout, stderr, files⟩
  | .work job => job.run system stdin files

/-- Call the command with words. -/
def run : List Text → Text → Files → Outcome := runOn .own

end Command

end Offside
