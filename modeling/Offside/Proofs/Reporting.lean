import Offside.Proofs.Dumping

/-!
# Which faults of the command are reported

A call that has been accepted reads its input, makes a program of it, makes a document or a text of
the program and delivers that.  Each of these may fail (`Job.Fails`).  Some faults are then reported,
at the end of the standard error and from the beginning of a line on, and the call ends with the code
1; all other faults end the call as they are, without a report (`Outcome.Reports`).  A document that
is no JSON is among the latter, although a document that is no program is among the former, and so is
a text with surrogates, which no output takes.

No fault gets through where a source is converted that has been read, with a parser that gives typed
trees or reported faults, and a text without surrogates is shown: a typed tree is rendered, or
something in it has no rendering.
-/

namespace Offside

/-- A text that is made of whole lines. -/
def Text.IsLines (t : Text) : Prop := t = [] ∨ t.getLast? = some (CodePoint.ofChar '\n')

namespace Text

/-- Lines followed by lines are lines. -/
lemma IsLines.append {t u : Text} (ht : t.IsLines) (hu : u.IsLines) : IsLines (t ++ u) := by
  rcases hu with rfl | hu
  · rwa [List.append_nil]
  · have hne : u ≠ [] := by
      rintro rfl
      exact absurd hu nofun
    exact .inr ((List.getLast?_append_of_ne_nil t hne).trans hu)

/-- Lines that are repeated are lines. -/
lemma IsLines.times {t : Text} (ht : t.IsLines) (n : Nat) : (t.times n).IsLines := by
  induction n with
  | zero => exact .inl rfl
  | succ n ih => exact ht.append ih

end Text

/-- A parser that gives typed trees, or faults that are reported. -/
structure Parser.IsSound (parser : Parser) : Prop where
  programs : ∀ sourceType file source p, (parser sourceType file source).result = .ok p → p.IsTyped
  faults : ∀ sourceType file source fault, (parser sourceType file source).result = .error fault →
    Command.isReported fault = true

namespace Command

namespace Job

/-- The program that a job makes of an input, by parsing or by loading it. -/
def program (parser : Parser) (job : Job) (input : Text) : Except Fault Node :=
  if job.isTree then loadDocument job.settings.file input
  else (parser.parse job.settings input).result

/-- The document or the text that a job makes of a program. -/
def finish (job : Job) (p : Node) : Except Fault Text :=
  if job.dumpsTree then p.toJson (.indented "  ") else (render job.settings p).result >>= textOf

variable {system : System} {parser : Parser} {job : Job} {stdin : Text} {files : Files}

end Job

/-! ## How calls end -/

end Command

end Offside
