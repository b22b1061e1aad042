import Offside.Command
import Offside.Proofs.Converters
import Offside.Proofs.Echo
import Offside.Proofs.Interchange

/-!
# Dumping a tree and converting the dump

Instead of converting a source, one may have its tree written as a document and convert the
document.  This comes to the same, although locations may be lost on the way and numbers with a
fraction may change: a typed tree loads from its document retouched, and rendering does not look at
what has been retouched.

On every system whose parser gives typed programs, a call that converts what another call has dumped
ends like a call that converts the source, and shows the same (`Command.convert_dumped`).
-/

namespace Offside

/-! ## Programs and their documents -/

/-- A typed program with its locations in numbers, and without surrogates in its texts. -/
structure Node.IsProgram (p : Node) : Prop where
  kind : p.kind? = some .program
  typed : p.IsTyped
  numbered : ∀ loc ∈ p.locations, loc.IsNumbered
  unicode : p.isUnicode = true

section

variable {p : Node} (hp : p.IsProgram) {layout : Json.Layout} (hlayout : layout.IsBlank)
  {document : Text} (hdocument : p.toJson layout = .ok document)
  {blanks : Text} (hblanks : ∀ c ∈ blanks, Json.isBlank c = true)

include hp hlayout hdocument hblanks

/-- A program loads from its document retouched. -/
theorem exists_loadDocument (file : Data) :
    ∃ r, loadDocument file (document ++ blanks) = .ok (p.retouch r) := by
  have hloadable := isLoadable_of_isTyped.1 p hp.typed
  have hspelled := isSpelled_toData.1 p hloadable
    (fun loc hloc => (hp.numbered loc hloc).isSpelled) hp.unicode
  obtain ⟨float, hload⟩ := exists_loadDocument_toJson hp.kind hloadable hspelled
    (fun _ loc hloc => (hp.numbered loc hloc).keeps _) hlayout hdocument hblanks file
  exact ⟨_, hload⟩

/-- Rendering a program and converting its document end alike. -/
theorem echoes_convertTree (s : Settings) :
    Logged.Echoes Render.IsText (render s p) (convertTree s (.document (document ++ blanks))) := by
  obtain ⟨r, hload⟩ := exists_loadDocument hp hlayout hdocument hblanks s.file
  have hconvert : convertTree s (.document (document ++ blanks)) = render s (p.retouch r) := by
    change Logged.ofExcept (loadDocument s.file (document ++ blanks)) >>= _ = _
    rw [hload]
    exact pure_bind _ _
  rw [hconvert]
  exact Render.echoes_node s.isStrict r s.margin p hp.typed

end

/-! ## Any parser -/

namespace Parser

/-- What the parser gives are programs. -/
def GivesPrograms (parser : Parser) : Prop :=
  ∀ sourceType file source p, (parser sourceType file source).result = .ok p → p.IsProgram

end Parser

namespace Command

/-! ## What jobs leave -/

/-- No fault ends a call as if all had gone well. -/
lemma endingBy_ne_ok_zero (fault : Fault) : (endingBy fault).1 ≠ .ok 0 := by
  unfold endingBy
  split
  · simp
  · exact nofun

namespace Job

variable {links : Links} {job : Job} {made : Logged Text} {files : Files}

/-- A job that has made no text ends by the fault, and leaves all files. -/
lemma leave_of_error {fault : Fault} (h : made.result = .error fault) :
    job.leave links made files = ⟨(endingBy fault).1, [],
      job.logging.shown made.log ++ (endingBy fault).2, files⟩ := by
  rw [leave, h]

/-- A job that has made a text ends as delivering the text does. -/
lemma leave_of_ok {t : Text} (h : made.result = .ok t) :
    job.leave links made files =
      let (files, shown) := deliver links files t job.output
      match shown with
      | .ok shown => ⟨.ok 0, shown, job.logging.shown made.log, files⟩
      | .error fault => ⟨(endingBy fault).1, [],
          job.logging.shown made.log ++ (endingBy fault).2, files⟩ := by
  unfold leave
  rcases hdeliver : deliver links files t job.output with ⟨after, shown⟩
  cases shown <;> simp only [h, hdeliver]

section

variable (houtput : job.output = .stdout)

include houtput

/-- A job that ends well has made what it shows. -/
lemma result_of_ending (h : (job.leave links made files).ending = .ok 0) :
    made.result = .ok (job.leave links made files).stdout := by
  cases hmade : made.result with
  | error fault =>
    rw [leave_of_error hmade] at h
    exact absurd h (endingBy_ne_ok_zero fault)
  | ok t =>
    rw [leave_of_ok hmade, houtput, deliver] at h ⊢
    cases hencode : Utf8.encode t with
    | ok bytes => rfl
    | error f =>
      rw [hencode] at h
      exact absurd h (endingBy_ne_ok_zero (.unencodable f))

/-- A job that has made a text with an encoding ends well. -/
lemma ending_of_encode {t : Text} {bytes : List UInt8} (h : made.result = .ok t)
    (hencode : Utf8.encode t = .ok bytes) : (job.leave links made files).ending = .ok 0 := by
  rw [leave_of_ok h, houtput, deliver, hencode]

/-- Two jobs that have ended alike leave the same. -/
lemma leave_eq_of_echoes {other : Job} (hother : other.output = .stdout) {P : Text → Prop}
    {x y : Logged Text} (h : Logged.Echoes P x y) (files others : Files) :
    (other.leave links y others).ending = (job.leave links x files).ending ∧
      (other.leave links y others).stdout = (job.leave links x files).stdout := by
  cases h with
  | ok t _ left right =>
    rw [leave_of_ok left, leave_of_ok right, houtput, hother, deliver, deliver]
    cases Utf8.encode t <;> exact ⟨rfl, rfl⟩
  | unsupported u v _ _ left right =>
    rw [leave_of_error left, leave_of_error right]
    exact ⟨rfl, rfl⟩

end

end Job

/-! ## Jobs for options -/

/-- The job that options ask for, with a number of blanks. -/
def jobFor (o : Options) (n : Nat) : Job where
  settings :=
    { indentUnit := List.replicate (n + 1) (CodePoint.ofChar ' ')
      sourceType := if o.isModule then .module else .script
      strict := .bool o.isStrict
      file := (inputOf o.input).elim .null .text
      isIndentUnit_indentUnit := isIndentUnit_replicate n }
  input := inputOf o.input
  output := targetOf o.output
  isTree := o.isTree
  dumpsTree := o.dumpsTree
  logging := Logging.fresh.configure o.debugs

/-- Whether there is a job to do is a matter of the indentation: without one, or without room for it,
the call fails and shows nothing. -/
lemma planFor_cases (system : System) (indent : Int) :
    (∃ n, ∀ o : Options, o.showsVersion = false → o.indent = indent →
      planFor system o = .work (jobFor o n)) ∨
    ∃ ending stderr, ending ≠ .ok 0 ∧ ∀ o : Options, o.showsVersion = false → o.indent = indent →
      planFor system o = .finish ending [] stderr := by
  obtain (_ | n) | n := indent
  · refine .inr ⟨.ok 2, complaint .noIndent, by simp, fun o hversion hindent => ?_⟩
    simp only [planFor, hversion, hindent, Bool.false_eq_true, if_false]
  · by_cases hwide : system.unitLimit ≤ n + 1
    · refine .inr ⟨.error (.tooWide ⟨n + 1⟩), [], nofun, fun o hversion hindent => ?_⟩
      simp only [planFor, hversion, hindent, Bool.false_eq_true, if_false, if_pos hwide]
    · refine .inl ⟨n, fun o hversion hindent => ?_⟩
      simp only [planFor, hversion, hindent, Bool.false_eq_true, if_false, if_neg hwide, jobFor]
  · refine .inr ⟨.ok 2, complaint .noIndent, by simp, fun o hversion hindent => ?_⟩
    simp only [planFor, hversion, hindent, Bool.false_eq_true, if_false]

/-! ## Converting what has been dumped -/

/-- Three calls, all of which show what they make: one dumps the tree of a source, one converts the
source, and one converts a tree with the same indentation and strictness. -/
structure Options.Redoes (dump direct tree : Options) : Prop where
  input : dump.input = direct.input
  isModule : dump.isModule = direct.isModule
  indent : tree.indent = direct.indent
  isStrict : tree.isStrict = direct.isStrict
  isDump : dump.isTree = false ∧ dump.dumpsTree = true
  isDirect : direct.isTree = false ∧ direct.dumpsTree = false
  isTree : tree.isTree = true ∧ tree.dumpsTree = false
  shows : ∀ o ∈ [dump, direct, tree], o.showsVersion = false ∧ targetOf o.output = .stdout

/-- A call with an input finds a text there: it is typed in, or it is what a file holds. -/
inductive Finds (links : Links) (t : Text) : Option Text → Text → Files → Prop
  | stdin (files : Files) : Finds links t none t files
  | file {name : Text} {bytes : List UInt8} {files : Files} (stdin : Text)
    (written : Utf8.encode t = .ok bytes) (read : files.read name links = .ok bytes) :
    Finds links t (some name) stdin files

/-- A text of plain code points is read as it is found. -/
lemma Job.read_of_finds {links : Links} {job : Job} {t stdin : Text} {files : Files}
    (ht : ∀ c ∈ t, c.IsPlain) (h : Finds links t job.input stdin files) :
    job.read links stdin files = .ok t := by
  unfold read
  generalize job.input = input at h ⊢
  cases h with
  | stdin => exact congrArg Except.ok (Text.withLineFeeds_eq_self fun c hc => (ht c hc).2)
  | file _ written hread =>
    dsimp only
    rw [hread]
    exact Text.ofBytes_of_isPlain ht written

/-- The document of a tree is made of plain code points. -/
lemma isPlain_of_toJson {p : Node} {document : Text}
    (h : p.toJson (.indented "  ") = .ok document) : ∀ c ∈ document, c.IsPlain := by
  obtain ⟨-, rfl⟩ := Node.toJson_eq_ok.mp h
  have hunit : ∀ c ∈ Text.ofString "  ", c.isGraphic = true := by decide
  exact Json.forall_mem_writeAt (fun c hc => c.isPlain_of_isGraphic hc)
    (Json.Layout.forall_mem_break (by decide) fun c hc => c.isPlain_of_isGraphic (hunit c hc)) _ 0

section

variable {parser : Parser} {job other : Job}

/-- A job that dumps a tree has read its input, parsed a program and made a document of it. -/
lemma Job.exists_of_dump (hisTree : job.isTree = false) (hdumps : job.dumpsTree = true)
    {input : Except Fault Text} {t : Text} (h : (job.perform parser input).result = .ok t) :
    ∃ source p document, input = .ok source ∧
      (parser.parse job.settings source).result = .ok p ∧
      p.toJson (.indented "  ") = .ok document ∧ t = document ++ "\n" := by
  rw [perform] at h
  obtain ⟨source, hsource, h⟩ := Logged.bind_result_eq_ok h
  obtain ⟨document, h, ht⟩ := Logged.bind_result_eq_ok h
  rw [result, hisTree, hdumps] at h
  obtain ⟨p, hp, hdocument⟩ := Logged.bind_result_eq_ok h
  exact ⟨source, p, document, hsource, hp, hdocument, (Except.ok.inj ht).symm⟩

/-- A job that converts a source and one that converts the document of its program end alike. -/
lemma Job.echoes_perform (hdirect : job.isTree = false ∧ job.dumpsTree = false)
    (htree : other.isTree = true ∧ other.dumpsTree = false)
    (hrender : ∀ p, render other.settings p = render job.settings p) {source document : Text}
    {p : Node} (hp : p.IsProgram) (hparse : (parser.parse job.settings source).result = .ok p)
    (hdocument : p.toJson (.indented "  ") = .ok document) :
    Logged.Echoes (fun _ => True) (job.perform parser (.ok source))
      (other.perform parser (.ok (document ++ "\n"))) := by
  have hlayout : Json.Layout.IsBlank (.indented "  ") := Json.Layout.isBlank_indented (by decide)
  have hfeed : ∀ c ∈ Text.ofString "\n", Json.isBlank c = true := by decide
  have hconvert : Logged.Echoes Render.IsText (parser.convert job.settings source)
      (convertTree other.settings (.document (document ++ "\n"))) := by
    refine .after hparse (.after rfl ?_)
    rw [← hrender]
    exact echoes_convertTree hp hlayout hdocument hfeed other.settings
  have hleft : job.result parser source =
      parser.convert job.settings source >>= fun v => .ofExcept (textOf v) := by
    rw [result, hdirect.1, hdirect.2]
    rfl
  have hright : other.result parser (document ++ "\n") =
      convertTree other.settings (.document (document ++ "\n")) >>= fun v =>
        .ofExcept (textOf v) := by
    rw [result, htree.1, htree.2]
    rfl
  have hresult : Logged.Echoes (fun _ => True) (job.result parser source)
      (other.result parser (document ++ "\n")) := by
    rw [hleft, hright]
    refine hconvert.bind ?_
    rintro _ ⟨t, rfl⟩
    exact .pure trivial
  have hperform (j : Job) (t : Text) : j.perform parser (.ok t) =
      j.result parser t >>= fun made => pure (made ++ "\n") := pure_bind t _
  rw [hperform, hperform]
  exact hresult.bind fun _ _ => .pure trivial

end

section

variable {dump direct tree : Options} (h : Options.Redoes dump direct tree)

include h

/-- A job that converts a dump leaves what a job leaves that converts the source. -/
lemma Job.leaves_of_dump {system : System} (hparser : system.parser.GivesPrograms) {k n : Nat}
    {stdin stdin' : Text} {files files' : Files}
    (hdone : ((jobFor dump k).run system stdin files).ending = .ok 0)
    (hfinds : Finds system.links ((jobFor dump k).run system stdin files).stdout
      (inputOf tree.input) stdin' files') :
    ((jobFor tree n).run system stdin' files').ending =
      ((jobFor direct n).run system stdin files).ending ∧
    ((jobFor tree n).run system stdin' files').stdout =
      ((jobFor direct n).run system stdin files).stdout := by
  obtain ⟨⟨-, hdumpShows⟩, ⟨-, hdirectShows⟩, ⟨-, htreeShows⟩, -⟩ := by
    simpa only [List.forall_mem_cons] using h.shows
  have hmade := result_of_ending hdumpShows hdone
  obtain ⟨source, p, document, hsource, hparse, hdocument, hshown⟩ :=
    exists_of_dump h.isDump.1 h.isDump.2 hmade
  -- The source is read and parsed as before.
  have hread : (jobFor direct n).read system.links stdin files = .ok source := by
    simpa only [read, jobFor, h.input] using hsource
  have hparseDirect : (system.parser.parse (jobFor direct n).settings source).result = .ok p := by
    simpa only [Parser.parse, jobFor, h.input, h.isModule] using hparse
  have hfound : (jobFor tree n).read system.links stdin' files' = .ok (document ++ "\n") := by
    refine read_of_finds ?_ (hshown ▸ hfinds)
    exact List.forall_mem_append.mpr ⟨isPlain_of_toJson hdocument, by decide⟩
  have hrender (p : Node) :
      render (jobFor tree n).settings p = render (jobFor direct n).settings p := by
    simp only [render, Settings.isStrict, Settings.margin, jobFor, h.isStrict]
  have hechoes := echoes_perform h.isDirect h.isTree hrender
    (hparser _ _ _ p hparseDirect) hparseDirect hdocument
  rw [run, run, hread, hfound]
  exact leave_eq_of_echoes hdirectShows htreeShows hechoes files files'

end

/-- Converting a dump is converting the source.  A call that converts what another call has dumped
ends like a call that converts the source, and shows the same; and a program is rendered as its
document is converted. -/
theorem convert_dumped {system : System} (hparser : system.parser.GivesPrograms) :
    (∀ {dump direct tree : Options}, Options.Redoes dump direct tree →
      ∀ {dumpWords directWords treeWords : List Text}, Options.read dumpWords = .ok dump →
      Options.read directWords = .ok direct → Options.read treeWords = .ok tree →
      ∀ {stdin stdin' : Text} {files files' : Files},
      (runOn system dumpWords stdin files).ending = .ok 0 →
      Finds system.links (runOn system dumpWords stdin files).stdout (inputOf tree.input) stdin'
        files' →
      (runOn system treeWords stdin' files').ending =
        (runOn system directWords stdin files).ending ∧
      (runOn system treeWords stdin' files').stdout =
        (runOn system directWords stdin files).stdout) ∧
    ∀ (s : Settings) {p : Node}, p.IsProgram → ∀ {document : Text},
      p.toJson (.indented "  ") = .ok document →
      Logged.Echoes Render.IsText (render s p) (convertTree s (.document document)) := by
  refine ⟨?_, ?_⟩
  · intro dump direct tree h dumpWords directWords treeWords hdump hdirect htree stdin stdin'
      files files' hdone hfinds
    obtain ⟨hdumpShows, hdirectShows, htreeShows, -⟩ := by
      simpa only [List.forall_mem_cons] using h.shows
    have hplan {words : List Text} {o : Options} (hwords : Options.read words = .ok o) :
        plan system words = planFor system o := by
      rw [plan, hwords]
    rw [runOn, hplan hdump] at hdone hfinds
    rw [runOn, runOn, hplan hdirect, hplan htree]
    obtain ⟨n, hwork⟩ | ⟨ending, stderr, -, hfinish⟩ := planFor_cases system direct.indent
    · obtain ⟨k, hdumpWork⟩ | ⟨ending, stderr, hfails, hdumpFinish⟩ :=
        planFor_cases system dump.indent
      · rw [hdumpWork dump hdumpShows.1 rfl] at hdone hfinds
        rw [hwork direct hdirectShows.1 rfl, hwork tree htreeShows.1 h.indent]
        exact Job.leaves_of_dump h hparser hdone hfinds
      · rw [hdumpFinish dump hdumpShows.1 rfl] at hdone
        exact absurd hdone hfails
    · rw [hfinish direct hdirectShows.1 rfl, hfinish tree htreeShows.1 h.indent]
      exact ⟨rfl, rfl⟩
  · intro s p hp document hdocument
    have hlayout : Json.Layout.IsBlank (.indented "  ") := Json.Layout.isBlank_indented (by decide)
    have hconvert := echoes_convertTree hp hlayout hdocument (List.forall_mem_nil _) s
    rwa [List.append_nil] at hconvert

/-- The program of the source `i++`, without locations. -/
def incrementProgram : Syntax.Program where
  loc := .unknown
  body := [.expression .unknown (.step .unknown .increment (.identifier .unknown "i") false)]
  sourceType := .script

/-- The program of one step is a program. -/
lemma isProgram_incrementProgram : incrementProgram.toNode.IsProgram where
  kind := rfl
  typed := incrementProgram.isTyped
  numbered := by
    have hlocations : incrementProgram.toNode.locations = List.replicate 4 .unknown := rfl
    intro loc hloc
    rw [hlocations] at hloc
    rw [List.eq_of_mem_replicate hloc]
    exact .mk 0 0 0 0 none none .null
  unicode := rfl

/-- Nothing stands against writing the program of one step. -/
lemma obstacle?_incrementProgram : Json.obstacle? incrementProgram.toNode.toData = none := by
  have hdata : incrementProgram.toNode.toData = .dict [("type", .text "Program"),
      ("body", .list [.dict [("type", .text "ExpressionStatement"),
        ("expression", .dict [("type", .text "UpdateExpression"), ("operator", .text "++"),
          ("argument", .dict [("type", .text "Identifier"), ("name", .text "i")]),
          ("prefix", .scalar (.bool false))])]]),
      ("sourceType", .text "script")] := rfl
  have htext (t : Text) : Json.obstacle? (.scalar (.text t)) = none := rfl
  have hbool (b : Bool) : Json.obstacle? (.scalar (.bool b)) = none := rfl
  rw [hdata]
  simp [Json.obstacle?_dict_eq_none, Json.obstacle?_list_eq_none, htext, hbool]

/-- A system with a parser, otherwise like that of the library. -/
def System.ofParser (parser : Parser) : System := { System.own with parser }

/-- The program of one step is dumped, and its dump is converted to the step. -/
theorem convert_dumped_incrementProgram :
    let system : System := .ofParser (.constant incrementProgram.toNode)
    let dump := runOn system [Text.ofString "--dump-ast"] [] ⟨[]⟩
    (runOn system [Text.ofString "--tree"] dump.stdout ⟨[]⟩).ending = .ok 0 ∧
    (runOn system [Text.ofString "--tree"] dump.stdout ⟨[]⟩).stdout = Text.ofString "i += 1\n" ∧
    Logged.Echoes Render.IsText (render .default incrementProgram.toNode)
      (convertTree .default
        (.document (Json.write (.indented "  ") incrementProgram.toNode.toData))) := by
  intro system dump
  have hparser : system.parser.GivesPrograms := by
    rintro _ _ _ _ ⟨⟩
    exact isProgram_incrementProgram
  have hdocument : incrementProgram.toNode.toJson (.indented "  ") = .ok _ :=
    Node.toJson_eq_ok.mpr ⟨obstacle?_incrementProgram, rfl⟩
  have hcalls : Options.Redoes { dumpsTree := true } {} { isTree := true } :=
    ⟨rfl, rfl, rfl, rfl, ⟨rfl, rfl⟩, ⟨rfl, rfl⟩, ⟨rfl, rfl⟩, by simp [targetOf]⟩
  have hdirect : Options.read [] = .ok {} := rfl
  have htree : Options.read [Text.ofString "--tree"] = .ok { isTree := true } := rfl
  have hdone : dump.ending = .ok 0 := by
    have hplain : ∀ c ∈ Json.write (.indented "  ") incrementProgram.toNode.toData ++
        Text.ofString "\n", c.IsPlain :=
      List.forall_mem_append.mpr ⟨isPlain_of_toJson hdocument, by decide⟩
    obtain ⟨bytes, hbytes⟩ := Utf8.exists_encode fun c hc => (hplain c hc).isSurrogate
    change ((jobFor { dumpsTree := true } 1).leave _ _ _).ending = _
    refine Job.ending_of_encode rfl ?_ hbytes
    change (Logged.ofExcept (incrementProgram.toNode.toJson (.indented "  ")) >>= fun made =>
        pure (made ++ Text.ofString "\n")).result = _
    rw [hdocument]
    rfl
  obtain ⟨hcommand, hprogram⟩ := convert_dumped hparser
  have hsame := hcommand hcalls rfl hdirect htree hdone (.stdin ⟨[]⟩)
  exact ⟨hsame.1.trans rfl, hsame.2.trans rfl,
    hprogram .default isProgram_incrementProgram hdocument⟩

end Command

end Offside
