import Offside.Fault
import Offside.Source.Program
import Offside.Tree.Fold

/-!
# Log records

A conversion tells what it does: how much it parsed, how many statements it renders, where it
finds a counting loop, and which literals and operators it forwards although they are not
portable.  What is told comes with the result: `Logged` pairs a log with a result or a fault, and
a fault keeps what was logged before it.

Every record belongs to a logger.  A logger has a level of its own or that of the nearest logger
around it, where dots in a name lead inwards; a record is shown if it reaches the level of its
logger.
-/

namespace Offside

/-! ## Records -/

/-- How much a record matters: a number, with the name that is shown for it. -/
structure Level where
  rank : Int
  name : Text
deriving DecidableEq

namespace Level

/-- What is of use when something is wrong. -/
def debug : Level := ⟨10, "DEBUG"⟩

/-- That all goes as it should. -/
def info : Level := ⟨20, "INFO"⟩

/-- What may be wrong. -/
def warning : Level := ⟨30, "WARNING"⟩

/-- What has failed. -/
def error : Level := ⟨40, "ERROR"⟩

/-- After which nothing can go on. -/
def critical : Level := ⟨50, "CRITICAL"⟩

/-- The usual level with a name. -/
def ofName? (t : Text) : Option Level :=
  [debug, info, warning, error, critical].find? fun l => l.name = t

end Level

/-- What a conversion tells. -/
inductive Notice where
  | parsed (length : Nat) (sourceType : Source.SourceType)
  | rendering (statements : Nat)
  /-- A loop over a name is rendered as a count. -/
  | countingLoop (name : Text) (loc : Location)
  /-- A literal that is not portable is forwarded. -/
  | literal (raw : Text) (loc : Location)
  /-- An operator that is not portable is forwarded; it as messages show it. -/
  | operator (shown : Text) (loc : Location)

namespace Notice

/-- The logger that a notice belongs to. -/
def logger : Notice → Text
  | parsed .. => "culebra.parser"
  | rendering .. => "culebra"
  | _ => "culebra.renderers.python"

/-- The level of a notice: what is forwarded is a warning. -/
def level : Notice → Level
  | literal .. | operator .. => .warning
  | _ => .debug

/-- The text of a notice. -/
def text : Notice → Text
  | parsed length sourceType =>
    "parsed " ++ Text.ofNat length ++ " characters (" ++ sourceType.word ++ ")"
  | rendering statements => "rendering " ++ Text.ofNat statements ++ " top-level statements"
  | countingLoop name loc => "counting loop over " ++ name ++ " at " ++ loc.toText
  | literal raw loc => "Literal " ++ raw ++ " at " ++ loc.toText ++ " forwarded verbatim"
  | operator shown loc => "Operator " ++ shown ++ " at " ++ loc.toText ++ " forwarded verbatim"

/-- A notice that warns. -/
def isWarning (n : Notice) : Bool := n.level = .warning

end Notice

/-! ## Results with a log -/

/-- A result or a fault, with what was told on the way to it. -/
structure Logged (α : Type) where
  log : List Notice
  result : Except Fault α

namespace Logged

/-- A result or a fault without a log. -/
def ofExcept {α : Type} (result : Except Fault α) : Logged α := ⟨[], result⟩

/-- A fault. -/
def fail {α : Type} (fault : Fault) : Logged α := ⟨[], .error fault⟩

/-- Tell something. -/
def tell (n : Notice) : Logged Unit := ⟨[n], .ok ()⟩

/-- Go on with a result; what is told then comes behind what was told before. -/
def andThen {α β : Type} (x : Logged α) (f : α → Logged β) : Logged β :=
  match x.result with
  | .ok a => ⟨x.log ++ (f a).log, (f a).result⟩
  | .error fault => ⟨x.log, .error fault⟩

instance : Monad Logged where
  pure a := ⟨[], .ok a⟩
  bind := andThen

end Logged

/-! ## Loggers -/

/-- The logger around all loggers of the library. -/
def rootLogger : Text := "culebra"

/-- The name of a logger of the library: a name outside its namespace is put into it. -/
def loggerName (name : Text) : Text :=
  if name = rootLogger ∨ (rootLogger ++ ".").isPrefixOf name then name
  else rootLogger ++ "." ++ name

/-- How log records are shown: the number of places to which they are sent, and the loggers that
have a level of their own. -/
structure Logging where
  handlers : Nat
  levels : List (Text × Level)

namespace Logging

/-- Nothing has been set up. -/
def fresh : Logging := ⟨0, []⟩

/-- Send the records of the library to the standard error; with `debug` all of them, else the
warnings.  Where records are already sent somewhere, that is kept. -/
def configure (debug : Bool) (l : Logging) : Logging :=
  { handlers := max l.handlers 1
    levels := (rootLogger, if debug then .debug else .warning)
      :: l.levels.filter (·.1 != rootLogger) }

/-- The names of the loggers around one, from the inside out: what stands in front of each dot. -/
def enclosing : Text → List Text
  | [] => []
  | c :: rest =>
    let inner := (enclosing rest).map (c :: ·)
    if rest.head? == some (CodePoint.ofChar '.') then inner ++ [[c]] else inner

/-- The level that a record of a logger must reach. -/
def level (l : Logging) (name : Text) : Level :=
  ((name :: enclosing name).findSome? fun n => l.levels.lookup n).getD .warning

/-- The name that records show; the outermost logger has none of its own. -/
def shownName (logger : Text) : Text := if logger.isEmpty then "root" else logger

/-- A record as it is sent. -/
def line (logger : Text) (level : Level) (text : Text) : Text :=
  shownName logger ++ ": " ++ level.name ++ ": " ++ text ++ "\n"

/-- What is shown of a record: nothing if it does not reach the level of its logger, and its text
alone if nothing has been set up. -/
def emit (l : Logging) (logger : Text) (level : Level) (text : Text) : Text :=
  if (l.level logger).rank ≤ level.rank then
    if l.handlers = 0 then text ++ "\n" else (line logger level text).times l.handlers
  else []

/-- What is shown of the notices of a conversion. -/
def shown (l : Logging) (notices : List Notice) : Text :=
  notices.flatMap fun n => l.emit n.logger n.level n.text

end Logging

end Offside
