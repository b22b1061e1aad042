import Offside.Fault

/-!
# Files

The command reads its input from a file and writes its result to one.  Files hold bytes and
stand in directories, a directory being what leads to a file; they are asked for by names, which
are followed step by step from the working directory.  A step is made of bytes.  It may be a link,
which is another name of a file or of a directory: so a file is told by the way that is left when
all links have been followed, and has any number of names.

A name leads to a directory, to a file, or to a place in a directory where nothing is.  A file
that is to be read must be there.  A file that is to be written is made or emptied first, and
keeps nothing of what it held before, even if the text has no encoding.

Every file may be read and written here, and devices and pipes are no files.
-/

namespace Offside

/-! ## Places -/

/-- The steps of a way from the working directory.  A way out of it begins with steps to the
directory around, and a way from the root with an empty step. -/
abbrev Way := List (List UInt8)

namespace Way

/-- The byte between the steps of a way. -/
def slash : UInt8 := 0x2F

/-- The step to the same directory. -/
def still : List UInt8 := [0x2E]

/-- The step to the directory around. -/
def outward : List UInt8 := [0x2E, 0x2E]

/-- The way to the directory around. -/
def up (way : Way) : Way :=
  match way.getLast? with
  | none => [outward]
  | some step =>
    if step = outward then way ++ [outward] else if step.isEmpty then way else way.dropLast

/-- The steps that bytes are made of. -/
def ofBytes : List UInt8 → Way
  | [] => [[]]
  | b :: rest =>
    if b = slash then [] :: ofBytes rest
    else match ofBytes rest with
      | [] => [[b]]
      | step :: more => (b :: step) :: more

end Way

/-- The links, with the ways to what they are names of. -/
abbrev Links := List (Way × Way)

/-- The way behind a step: that of the file or directory of which the step is another name, or the
way itself. -/
def Links.behind (links : Links) (way : Way) : Way := (links.lookup way).getD way

/-- The files that can be reached, by the ways to them. -/
structure Files where
  entries : List (Way × List UInt8)

/-- What a name leads to. -/
inductive Spot where
  | directory
  | file (way : Way) (bytes : List UInt8)
  /-- Nothing, in a directory. -/
  | free (way : Way)

namespace Files

/-- The steps that a name is made of. -/
def stepsOf (name : Text) : Way := Way.ofBytes (name.flatMap Utf8.nameBytesOf)

/-- What the file at the end of a way holds. -/
def bytes? (files : Files) (way : Way) : Option (List UInt8) := files.entries.lookup way

/-- A way leads to a directory if it is the beginning of a way to a file. -/
def isDirectory (files : Files) (way : Way) : Bool :=
  files.entries.any fun (other, _) => way.isPrefixOf other && way != other

/-- Put bytes into the file at the end of a way. -/
def put (files : Files) (way : Way) (bytes : List UInt8) : Files :=
  ⟨(way, bytes) :: files.entries.filter (·.1 != way)⟩

/-- The greatest number of bytes in a step. -/
def maxStep : Nat := 255

/-- The number of bytes from which on a name is too long. -/
def nameLimit : Nat := 4096

/-- Follow steps from the directory at the end of a way. -/
def follow (files : Files) (links : Links) (way : Way) : Way → Except FileProblem Spot
  | [] => .ok .directory
  | step :: rest =>
    if step.isEmpty || step = Way.still then follow files links way rest
    else if step = Way.outward then follow files links way.up rest
    else if maxStep < step.length then .error .nameTooLong
    else
      let next := links.behind (way ++ [step])
      if files.isDirectory next then follow files links next rest
      else match files.bytes? next with
        | some bytes => if rest.isEmpty then .ok (.file next bytes) else .error .notDirectory
        | none => if rest.isEmpty then .ok (.free next) else .error .notFound

/-- Follow steps from where the bytes of a name begin. -/
def followFrom (files : Files) (links : Links) (bytes : List UInt8) (steps : Way) :
    Except FileProblem Spot :=
  if bytes.isEmpty then .error .notFound
  else if nameLimit ≤ bytes.length then .error .nameTooLong
  else files.follow links (if bytes.head? = some Way.slash then [[]] else []) steps

/-! ## Reading and writing -/

/-- The bytes of a name.  Some texts are no names: with surrogates that do not stand for bytes, or
with the null character. -/
def checkName (name : Text) : Except Fault (List UInt8) :=
  match Utf8.encodeName name with
  | .error f => .error (.unencodable f)
  | .ok bytes => if bytes.contains 0 then .error (.outOfRange .nullInName) else .ok bytes

/-- The bytes of the file that a name leads to. -/
def read (files : Files) (name : Text) (links : Links := []) : Except Fault (List UInt8) := do
  let bytes ← checkName name
  match files.followFrom links bytes (Way.ofBytes bytes) with
  | .ok (.file _ bytes) => return bytes
  | .ok .directory => .error (.file ⟨.isDirectory, name⟩)
  | .ok (.free _) => .error (.file ⟨.notFound, name⟩)
  | .error problem => .error (.file ⟨problem, name⟩)

/-- The way to the file that a name leads to and that is to be written.  A name with a slash at
its end asks for a directory, whatever is there, if the directory around it is found. -/
def wayTo (files : Files) (name : Text) (links : Links := []) : Except Fault Way := do
  let bytes ← checkName name
  let bare := (bytes.reverse.dropWhile (· == Way.slash)).reverse
  let steps :=
    if bare.length < bytes.length then (Way.ofBytes bare).dropLast ++ [Way.still]
    else Way.ofBytes bytes
  match files.followFrom links bytes steps with
  | .ok (.file way _) | .ok (.free way) => return way
  | .ok .directory => .error (.file ⟨.isDirectory, name⟩)
  | .error problem => .error (.file ⟨problem, name⟩)

/-- Write a text to the file that a name leads to; the files afterwards, and what went wrong. -/
def write (files : Files) (name t : Text) (links : Links := []) : Files × Except Fault Unit :=
  match files.wayTo name links with
  | .error fault => (files, .error fault)
  | .ok way =>
    match Utf8.encode t with
    | .ok bytes => (files.put way bytes, .ok ())
    | .error f => (files.put way [], .error (.unencodable f))

end Files

/-! ## Text in files -/

namespace Text

/-- A text with a line feed at the end of each line, whichever of the three ends of line it
has. -/
def withLineFeeds : Text → Text
  | [] => []
  | [c] => [if c == '\r' then '\n' else c]
  | c :: d :: rest =>
    if c == '\r' then
      if d == '\n' then '\n' :: withLineFeeds rest else '\n' :: withLineFeeds (d :: rest)
    else c :: withLineFeeds (d :: rest)

/-- The text that a file holds. -/
def ofBytes (bytes : List UInt8) : Except Fault Text :=
  match Utf8.decode bytes with
  | .ok t => .ok t.withLineFeeds
  | .error f => .error (.undecodable f)

end Text

end Offside
