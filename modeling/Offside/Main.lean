import Offside.Command

/-!
# The program

The outermost layer: it does what a plan says with the files and the streams of the system, and
decides nothing.
-/

namespace Offside

namespace Program

/-- The rest of a stream, behind what has been read of it. -/
partial def readRest (stream : IO.FS.Stream) (read : ByteArray) : IO ByteArray := do
  let more ← stream.read 65536
  if more.isEmpty then return read else readRest stream (read ++ more)

/-- The number and the words by which the system tells of a problem with a file. -/
def told : IO.Error → UInt32 × String
  | .alreadyExists _ code words | .invalidArgument _ code words
  | .permissionDenied _ code words | .resourceExhausted _ code words
  | .inappropriateType _ code words | .noSuchThing _ code words
  | .noFileOrDirectory _ code words | .interrupted _ code words
  | .otherError code words | .resourceBusy code words | .resourceVanished code words
  | .unsupportedOperation code words | .hardwareFault code words
  | .unsatisfiedConstraints code words | .illegalOperation code words
  | .protocolError code words | .timeExpired code words => (code, words)
  | e => (0, toString e)

/-- The problem with a file that the system tells of.  A number may be told with a minus sign. -/
def problemOf (e : IO.Error) : FileProblem :=
  let (code, words) := told e
  let number := if code < 0x80000000 then code.toNat else (-code).toNat
  ([.notFound, .notDirectory, .isDirectory, .nameTooLong].find? (·.number = number)).getD
    (.other number words.capitalize)

/-- Do something with the file that a name leads to. -/
def withFile {α : Type} (name : Text) (act : String → IO α) : IO (Except Fault α) := do
  match Files.checkName name with
  | .error fault => return .error fault
  | .ok _ =>
    try return .ok (← act name.toString)
    catch e => return .error (.file ⟨problemOf e, name⟩)

/-- Show what a call shows, and end it with its exit code. -/
def finish (ending : Command.Ending) (stdout stderr : Text) : IO UInt32 := do
  (← IO.getStdout).putStr stdout.toString
  (← IO.getStderr).putStr stderr.toString
  match ending with
  | .ok code => return code.toUInt32
  | .error fault =>
    (← IO.getStderr).putStrLn ((fault.message?.getD []).toString)
    return 1

/-- End a call by a fault, behind what was told before. -/
def finishBy (fault : Fault) (told : Text) : IO UInt32 :=
  let (ending, reported) := Command.endingBy fault
  finish ending [] (told ++ reported)

/-- Do a job. -/
def work (job : Command.Job) : IO UInt32 := do
  let bytes ← match job.input with
    | none => Except.ok <$> readRest (← IO.getStdin) .empty
    | some name => withFile name fun path => IO.FS.readBinFile path
  let made := job.perform .own (bytes >>= fun bytes => Text.ofBytes bytes.toList)
  let told := job.logging.shown made.log
  match made.result with
  | .error fault => finishBy fault told
  | .ok t =>
    let encoded := Utf8.encode t
    let written := encoded.toOption.getD []
    let opened ← match job.output with
      | .stdout => pure (.ok t)
      | .file path => do
        let opened ← withFile path fun path => IO.FS.writeBinFile path ⟨written.toArray⟩
        pure (opened.map fun () => [])
    match opened, encoded with
    | .error fault, _ => finishBy fault told
    | .ok _, .error f => finishBy (.unencodable f) told
    | .ok shown, .ok _ => finish (.ok 0) shown told

end Program

end Offside

/-- Call the command with the words that the program is called with. -/
def main (words : List String) : IO UInt32 :=
  match Offside.Command.plan .own (words.map Offside.Text.ofString) with
  | .finish ending stdout stderr => Offside.Program.finish ending stdout stderr
  | .work job => Offside.Program.work job
