import Offside.Proofs.Reading

/-!
# Rendering preserves control flow

A run performs events: simple statements, tests and headers of classes, each known by its text.
How a test comes out is decided by an oracle, which sees everything that has been performed so
far.  Both sides of the renderer run: a tree by the meaning of its blocks, choices and loops with
three clauses, and blocks that were read from a text by the meaning of their suites.

A loop need not end, so every run is given a number of rounds, and a loop that wants more of them
cuts the run off.  With more rounds a run goes on from where it was cut off, and a run that ends by
itself stays the same (`Syntax.Program.goesOn_run`), so that the runs for all numbers of rounds are
the finite beginnings of one run without a bound.

`render_preserves_control_flow` says that the runs of a program and of what is read from its text
are equal, for every oracle and every number of rounds, and that more rounds only go on.
-/

namespace Offside

/-! ## Runs -/

/-- Something that a run performs. -/
inductive Event where
  | action (t : Text)
  | test (t : Text)
  | header (t : Text)
deriving DecidableEq

/-- How the test comes out that has been performed last. -/
abbrev Oracle := List Event → Bool

/-- What a run has performed, and whether it can go on. -/
structure Run where
  events : List Event
  isLive : Bool
deriving DecidableEq

namespace Run

/-- Nothing has been performed. -/
def start : Run := ⟨[], true⟩

/-- Cut a run off. -/
def stop (r : Run) : Run := { r with isLive := false }

/-- Perform an event.  A run that has been cut off performs nothing. -/
def perform (e : Event) (r : Run) : Run :=
  if r.isLive then { r with events := r.events ++ [e] } else r

/-- Perform actions in order. -/
def performAll (ts : List Text) (r : Run) : Run := ts.foldl (fun r t => r.perform (.action t)) r

/-- Perform a test and go on as it comes out. -/
def choose (o : Oracle) (test : Text) (yes no : Run → Run) (r : Run) : Run :=
  let r' := r.perform (.test test)
  if o r'.events then yes r' else no r'

/-- Go round as long as a test comes out true, or for ever without a test.  A run that wants more
rounds than there are is cut off. -/
def goRound (o : Oracle) (test : Option Text) (round : Run → Run) : Nat → Run → Run
  | 0, r => r.stop
  | k + 1, r =>
    match test with
    | none => goRound o none round k (round r)
    | some t => r.choose o t (fun r => goRound o (some t) round k (round r)) id

end Run

/-! ## Runs of trees -/

namespace Syntax

/-- The actions of the first clause of a loop. -/
def openingTexts (init : Option Opening) : List Text := (init.map Opening.texts).getD []

/-- The actions of the last clause of a loop. -/
def closingTexts (update : Option Expression) : List Text := (update.map Expression.text).toList

mutual

/-- Run a statement.  The first clause of a loop runs once; each round begins with the test and
ends with the last clause. -/
def Statement.run (o : Oracle) (k : Nat) : Statement → Run → Run
  | .expression _ e, r => r.perform (.action e.text)
  | .block _ body, r => runAll o k body r
  | .classDeclaration _ _ name base _ body, r =>
    runAll o k body (r.perform (.header (className name base)))
  | .conditional _ test yes none, r => r.choose o test.text (yes.run o k) id
  | .conditional _ test yes (some no), r => r.choose o test.text (yes.run o k) (no.run o k)
  | .loop _ init test update body, r =>
    Run.goRound o (test.map Expression.text)
      (fun r => (body.run o k r).performAll (closingTexts update)) k
      (r.performAll (openingTexts init))
  | .declaration d, r => r.performAll (d.declarators.map Declarator.text)

/-- Run statements in order. -/
def runAll (o : Oracle) (k : Nat) : List Statement → Run → Run
  | [], r => r
  | s :: rest, r => runAll o k rest (s.run o k r)

end

/-- Run a program. -/
def Program.run (o : Oracle) (k : Nat) (p : Program) : Run := runAll o k p.body .start

end Syntax

/-! ## Runs of blocks -/

namespace Layout

mutual

/-- Run a block.  The meaning of a count depends on values; a run does not get past one. -/
def Block.run (o : Oracle) (k : Nat) : Block → Run → Run
  | .simple t, r => r.perform (.action t)
  | .pass, r => r
  | .headed (.conditional test) body, r => r.choose o test (runAll o k body) id
  | .headed (.loop test) body, r => Run.goRound o test (runAll o k body) k r
  | .headed (.classOf name) body, r => runAll o k body (r.perform (.header name))
  | .headed (.count ..) _, r => r.stop
  | .choice test yes no, r => r.choose o test (runAll o k yes) (runAll o k no)

/-- Run blocks in order. -/
def runAll (o : Oracle) (k : Nat) : List Block → Run → Run
  | [], r => r
  | b :: rest, r => runAll o k rest (b.run o k r)

end

/-- Blocks in two parts run part by part. -/
lemma runAll_append (o : Oracle) (k : Nat) (xs ys : List Block) (r : Run) :
    runAll o k (xs ++ ys) r = runAll o k ys (runAll o k xs r) := by
  induction xs generalizing r with
  | nil => rfl
  | cons b rest ih => exact ih (b.run o k r)

/-- Simple lines are actions. -/
lemma runAll_map_simple (o : Oracle) (k : Nat) (ts : List Text) (r : Run) :
    runAll o k (ts.map .simple) r = r.performAll ts := by
  induction ts generalizing r with
  | nil => rfl
  | cons t rest ih => exact ih (r.perform (.action t))

end Layout

/-! ## More rounds -/

namespace Run

/-- A run goes on from another one: it is the same, or the other one was cut off and it performs
more. -/
structure GoesOn (r r' : Run) : Prop where
  events : r.events <+: r'.events
  eq_of_isLive : r.isLive = true → r' = r

/-- A way to run that goes on from another way to run wherever that one is cut off. -/
structure Extends (f g : Run → Run) : Prop where
  stopped : ∀ r, r.isLive = false → f r = r
  grows : ∀ r, r.events <+: (g r).events
  goesOn : ∀ {r r'}, GoesOn r r' → GoesOn (f r) (g r')

/-- A run goes on from itself. -/
lemma GoesOn.refl (r : Run) : GoesOn r r := ⟨List.prefix_rfl, fun _ => rfl⟩

/-- A run goes on from what another one goes on from. -/
lemma GoesOn.trans {r r' r'' : Run} (h : GoesOn r r') (h' : GoesOn r' r'') : GoesOn r r'' :=
  ⟨h.events.trans h'.events, fun hr => by
    obtain rfl := h.eq_of_isLive hr
    exact h'.eq_of_isLive hr⟩

/-- If a run goes on with one more round, then with any number of further rounds. -/
lemma GoesOn.of_le {f : Nat → Run} (h : ∀ k, GoesOn (f k) (f (k + 1))) {k k' : Nat}
    (hk : k ≤ k') : GoesOn (f k) (f k') := by
  induction hk with
  | refl => exact .refl _
  | step _ ih => exact ih.trans (h _)

/-- It is enough to look at runs that have not been cut off. -/
lemma Extends.of_isLive {f g : Run → Run} (hf : ∀ r, r.isLive = false → f r = r)
    (hg : ∀ r, r.events <+: (g r).events) (h : ∀ r, r.isLive = true → GoesOn (f r) (g r)) :
    Extends f g := by
  refine ⟨hf, hg, fun {r r'} hr => ?_⟩
  cases hlive : r.isLive with
  | true =>
    rw [hr.eq_of_isLive hlive]
    exact h r hlive
  | false =>
    rw [hf r hlive]
    exact ⟨hr.events.trans (hg r'), fun h => absurd (hlive.symm.trans h) Bool.false_ne_true⟩

/-- Doing nothing goes on from doing nothing. -/
lemma Extends.id : Extends id id :=
  ⟨fun _ _ => rfl, fun _ => List.prefix_rfl, fun h => h⟩

/-- A run that has been cut off can be cut off once more. -/
lemma stop_eq_self {r : Run} (h : r.isLive = false) : r.stop = r := by
  unfold stop
  rw [← h]

/-- What is done after what goes on goes on. -/
lemma Extends.comp {f g f' g' : Run → Run} (h : Extends f g) (h' : Extends f' g') :
    Extends (fun r => f' (f r)) (fun r => g' (g r)) :=
  ⟨fun r hr => by rw [h.stopped r hr, h'.stopped r hr],
    fun r => (h.grows r).trans (h'.grows (g r)), fun hr => h'.goesOn (h.goesOn hr)⟩

/-- A run performs an event behind what it has performed. -/
lemma extends_perform (e : Event) : Extends (perform e) (perform e) := by
  refine .of_isLive (fun r hr => ?_) (fun r => ?_) fun r _ => .refl _
  · rw [perform, hr]
    rfl
  · unfold perform
    split
    · exact List.prefix_append _ _
    · exact List.prefix_rfl

/-- A run performs actions behind what it has performed. -/
lemma extends_performAll (ts : List Text) : Extends (performAll ts) (performAll ts) := by
  induction ts with
  | nil => exact .id
  | cons t rest ih => exact (extends_perform (.action t)).comp ih

/-- A choice performs more if both ways to go on do. -/
lemma prefix_choose (o : Oracle) (test : Text) {yes no : Run → Run}
    (hyes : ∀ r, r.events <+: (yes r).events) (hno : ∀ r, r.events <+: (no r).events) (r : Run) :
    r.events <+: (r.choose o test yes no).events := by
  have htest := (extends_perform (.test test)).grows r
  unfold choose
  dsimp only
  split
  · exact htest.trans (hyes _)
  · exact htest.trans (hno _)

/-- If both ways to go on from a test go on from others, then so does the choice between them. -/
lemma Extends.choose (o : Oracle) (test : Text) {yes yes' no no' : Run → Run}
    (hyes : Extends yes yes') (hno : Extends no no') :
    Extends (choose o test yes no) (choose o test yes' no') := by
  have htest := extends_perform (.test test)
  refine .of_isLive (fun r hr => ?_) (prefix_choose o test hyes.grows hno.grows) fun r _ => ?_
  · unfold Run.choose
    simp only [htest.stopped r hr, hyes.stopped r hr, hno.stopped r hr, ite_self]
  · unfold Run.choose
    dsimp only
    split
    · exact hyes.goesOn (.refl _)
    · exact hno.goesOn (.refl _)

/-- Going round performs more if a round does. -/
lemma prefix_goRound (o : Oracle) (test : Option Text) {f : Run → Run}
    (hf : ∀ r, r.events <+: (f r).events) (k : Nat) (r : Run) :
    r.events <+: (goRound o test f k r).events := by
  induction k generalizing r with
  | zero => exact List.prefix_rfl
  | succ k ih =>
    cases test with
    | none => exact (hf r).trans (ih (f r))
    | some t =>
      exact prefix_choose o t (fun r => (hf r).trans (ih (f r))) (fun _ => List.prefix_rfl) r

/-- With one more round, going round goes on. -/
lemma Extends.goRound (o : Oracle) (test : Option Text) {f g : Run → Run} (h : Extends f g)
    (k : Nat) : Extends (goRound o test f k) (goRound o test g (k + 1)) := by
  induction k with
  | zero =>
    have hgrows := prefix_goRound o test h.grows 1
    exact .of_isLive (fun _ => stop_eq_self) hgrows fun r _ =>
      ⟨hgrows r, fun h => absurd h Bool.false_ne_true⟩
  | succ k ih =>
    cases test with
    | none => exact h.comp ih
    | some t => exact (h.comp ih).choose o t .id

end Run

namespace Syntax

variable (o : Oracle) (k : Nat)

mutual

/-- With more rounds, the run of a statement goes on. -/
lemma Statement.extends_run : (s : Statement) → Run.Extends (s.run o k) (s.run o (k + 1))
  | .expression _ e => Run.extends_perform (.action e.text)
  | .block _ body => extends_runAll body
  | .classDeclaration _ _ name base _ body =>
    (Run.extends_perform (.header (className name base))).comp (extends_runAll body)
  | .conditional _ test yes none => yes.extends_run.choose o test.text .id
  | .conditional _ test yes (some no) => yes.extends_run.choose o test.text no.extends_run
  | .loop _ init test update body =>
    have hround := body.extends_run.comp (Run.extends_performAll (closingTexts update))
    (Run.extends_performAll (openingTexts init)).comp
      (hround.goRound o (test.map Expression.text) k)
  | .declaration d => Run.extends_performAll (d.declarators.map Declarator.text)

/-- With more rounds, the run of statements goes on. -/
lemma extends_runAll : (ss : List Statement) → Run.Extends (runAll o k ss) (runAll o (k + 1) ss)
  | [] => .id
  | s :: rest => s.extends_run.comp (extends_runAll rest)

end

/-- Fewer rounds cut a run of a program off earlier and change nothing else. -/
theorem Program.goesOn_run (p : Program) {k k' : Nat} (h : k ≤ k') :
    Run.GoesOn (p.run o k) (p.run o k') :=
  .of_le (fun k => (extends_runAll o k p.body).goesOn (.refl .start)) h

end Syntax

/-! ## The runs of a tree and of its outline -/

namespace Syntax

open Layout (AreSound)

variable (o : Oracle) (k : Nat)

/-- A suite runs as its statements do. -/
lemma runAll_filled (bs : List Layout.Block) (r : Run) :
    Layout.runAll o k (filled bs) r = Layout.runAll o k bs r := by
  cases bs <;> rfl

/-- The lines of the first clause of a loop are its actions. -/
lemma runAll_opening (init : Option Opening) (r : Run) :
    Layout.runAll o k (init.toList.flatMap Opening.outline) r =
      r.performAll (openingTexts init) := by
  cases init with
  | none => rfl
  | some i =>
    rw [Option.toList, List.flatMap_singleton]
    exact Layout.runAll_map_simple o k i.texts r

/-- The line of the last clause of a loop is its action. -/
lemma runAll_closing (update : Option Expression) (r : Run) :
    Layout.runAll o k (update.toList.map fun e => .simple e.text) r =
      r.performAll (closingTexts update) := by
  cases update <;> rfl

mutual

/-- Without counts, the blocks that are written for a statement run as the statement does. -/
lemma Statement.run_outline : (s : Statement) → (∀ q ∈ s.parts, q.toNode.isCount ≠ .ok true) →
    Layout.runAll o k s.outline = s.run o k
  | .expression _ _, _ => rfl
  | .block _ body, h => by
    funext r
    have hbody := runAll_outlineOfAll body (List.forall_mem_cons.mp h).2
    exact (runAll_filled o k _ _).trans (congrFun hbody r)
  | .classDeclaration _ _ name base _ body, h => by
    funext r
    have hbody := runAll_outlineOfAll body (List.forall_mem_cons.mp h).2
    exact (runAll_filled o k _ _).trans (congrFun hbody _)
  | .conditional _ test yes none, h => by
    have hyes := yes.run_outline (List.forall_mem_cons.mp h).2
    funext r
    change r.choose o test.text (Layout.runAll o k yes.outline) id =
      r.choose o test.text (yes.run o k) id
    rw [hyes]
  | .conditional _ test yes (some no), h => by
    obtain ⟨hyes, hno⟩ := List.forall_mem_append.mp (List.forall_mem_cons.mp h).2
    funext r
    change r.choose o test.text (Layout.runAll o k yes.outline) (Layout.runAll o k no.outline) =
      r.choose o test.text (yes.run o k) (no.run o k)
    rw [yes.run_outline hyes, no.run_outline hno]
  | .loop _ init test update body, h => by
    obtain ⟨hloop, hbody⟩ := List.forall_mem_cons.mp h
    have hround : Layout.runAll o k
        (body.outline ++ update.toList.map fun e => .simple e.text) =
        fun r => (body.run o k r).performAll (closingTexts update) := by
      funext r
      rw [Layout.runAll_append, runAll_closing, body.run_outline hbody]
    funext r
    rw [Statement.outline, countOf?_eq_none hloop, Layout.runAll_append, runAll_opening]
    change Run.goRound o (test.map Expression.text) (Layout.runAll o k _) k _ = _
    rw [hround]
    rfl
  | .declaration d, _ => by
    funext r
    have hlines := Layout.runAll_map_simple o k (d.declarators.map Declarator.text) r
    rw [List.map_map] at hlines
    exact hlines

/-- Without counts, the blocks that are written for statements run as the statements do. -/
lemma runAll_outlineOfAll : (ss : List Statement) →
    (∀ q ∈ partsOfAll ss, q.toNode.isCount ≠ .ok true) →
    Layout.runAll o k (outlineOfAll ss) = runAll o k ss
  | [], _ => rfl
  | s :: rest, h => by
    funext r
    obtain ⟨hs, hrest⟩ := List.forall_mem_append.mp h
    rw [outlineOfAll, Layout.runAll_append, s.run_outline hs, runAll_outlineOfAll rest hrest]
    rfl

end

/-! ## The runs of a program and of its text -/

/-- What a tree may come with so that its text is read as it was meant: names are words and no
keywords, literals are portable, and operators hold neither a line break nor a colon. -/
def Encounter.IsShared : Encounter → Prop
  | name t => t ≠ [] ∧ (∀ c ∈ t, Layout.isWordPart c = true) ∧ t ∉ Layout.keywords
  | literal _ raw => Portable.isPortableLiteral raw = true
  | operator _ _ t => ∀ c ∈ t, c ≠ '\n' ∧ c ≠ '\r' ∧ c ≠ ':'
  | step _ | count _ _ => True

instance : (x : Encounter) → Decidable x.IsShared
  | .name _ => inferInstanceAs (Decidable (_ ∧ _ ∧ _))
  | .literal _ _ => inferInstanceAs (Decidable (_ = _))
  | .operator _ _ _ => inferInstanceAs (Decidable (∀ _ ∈ _, _))
  | .step _ | .count _ _ => inferInstanceAs (Decidable True)

/-- What is rendered is legible line by line. -/
lemma Encounter.IsShared.isLegible {strict : Bool} {x : Encounter} (h : x.IsShared)
    (hmeet : (x.meet strict).result = .ok ()) : x.IsLegible Layout.keywordRules := by
  cases x with
  | name t => exact h
  | literal loc raw => exact Layout.legible_of_isPortableLiteral h
  | operator _ _ t => exact .of_ne fun c hc => ⟨(h c hc).1, (h c hc).2.1⟩
  | step _ => exact absurd hmeet nofun
  | count _ _ => trivial

end Syntax

/-- Control flow is preserved.  If a program without counts is rendered, then its text is read as
blocks, and these perform what the program performs: for every oracle and every number of rounds,
the two runs are equal, and with more rounds they go on from there. -/
theorem render_preserves_control_flow (s : Settings) (p : Syntax.Program)
    (hp : ∀ x ∈ Syntax.encountersOfAll p.body, x.IsShared)
    (hc : ∀ q ∈ p.parts, q.toNode.isCount ≠ .ok true) {v : Value}
    (h : (render s p.toNode).result = .ok v) :
    ∃ t bs, v = .text t ∧ Layout.read t = some bs ∧
      ∀ o k, Layout.runAll o k bs .start = p.run o k ∧
        ∀ k', k ≤ k' → (p.run o k).GoesOn (p.run o k') := by
  have hrender : ((Syntax.Passage.program p).toNode.render s.isStrict s.margin).result = .ok v := h
  obtain ⟨rfl, hmeet⟩ := Syntax.Passage.render_eq_ok hrender
  have hlegible : Syntax.AreLegible Layout.keywordRules (Syntax.encountersOfAll p.body) :=
    fun x hx => (hp x hx).isLegible (hmeet x hx)
  have hread := Layout.read_text s.isIndentUnit_indentUnit
    (Syntax.legible_outlineOfAll p.body hlegible) (Syntax.uncounted_outlineOfAll p.body hc)
  refine ⟨_, _, rfl, hread, fun o k => ⟨?_, fun k' hk => p.goesOn_run o hk⟩⟩
  rw [Syntax.runAll_outlineOfAll o k p.body hc]
  rfl

/-- A loop with a choice inside it, in front of a loop without any clause, runs as it is read. -/
theorem render_preserves_control_flow_nested :
    let p : Syntax.Program := ⟨.unknown,
      [.loop .unknown (some (.expression (.assignment .unknown "=" (.identifier .unknown "i")
          (.literal .unknown "0" (.int 0))))) (some (.identifier .unknown "a"))
        (some (.step .unknown .increment (.identifier .unknown "i") false))
        (.conditional .unknown (.identifier .unknown "b")
          (.expression .unknown (.call .unknown (.identifier .unknown "f") []))
          (some (.block .unknown []))),
       .loop .unknown none none none (.block .unknown [])], .script⟩
    let t : Text :=
      "i = 0\nwhile a:\n  if b:\n    f()\n  else:\n    pass\n  i += 1\nwhile True:\n  pass"
    (∀ x ∈ Syntax.encountersOfAll p.body, x.IsShared) ∧
      (∀ q ∈ p.parts, q.toNode.isCount ≠ .ok true) ∧
      (render .default p.toNode).result = .ok (.text t) ∧
      ∃ bs, Layout.read t = some bs ∧
        ∀ o k, Layout.runAll o k bs .start = p.run o k ∧
          ∀ k', k ≤ k' → (p.run o k).GoesOn (p.run o k') := by
  intro p t
  have hp : ∀ x ∈ Syntax.encountersOfAll p.body, x.IsShared := by decide
  have hc : ∀ q ∈ p.parts, q.toNode.isCount ≠ .ok true :=
    List.forall_mem_cons.mpr ⟨nofun, List.forall_mem_cons.mpr ⟨nofun, List.forall_mem_cons.mpr
      ⟨nofun, List.forall_mem_cons.mpr ⟨nofun, List.forall_mem_cons.mpr ⟨nofun,
        List.forall_mem_cons.mpr ⟨nofun, nofun⟩⟩⟩⟩⟩⟩
  have hrender : (render .default p.toNode).result = .ok (.text t) := rfl
  obtain ⟨t', bs, ht, hread, hrun⟩ := render_preserves_control_flow .default p hp hc hrender
  rw [← Syntax.text_injective ht] at hread
  exact ⟨hp, hc, hrender, bs, hread, hrun⟩

end Offside
