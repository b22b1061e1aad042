import Offside.Proofs.Indentation

/-!
# Rendering at every margin

What is rendered for a statement or a program is a list of lines, each of which stands at a level
of its own.  A margin is put in front of every line and adds its depth to all levels; its unit is
what one level is written as.  Neither is looked at for anything else: whether rendering succeeds,
which fault it ends with and what it tells are the same at every margin.

`Layout.rowsOf_add` says that the rows of blocks only move to another level, and `Margin.lay` writes
levelled lines at a margin.  `render_at_margins` puts this together with `Passage.render_eq`.  That
the lines of the text are the levelled ones depends on the pieces of the tree: if no name, literal
or operator that rendering comes to runs on to the next line, then no line does.
-/

namespace Offside

/-- Repetitions add up. -/
lemma Text.times_add (t : Text) (m n : Nat) : t.times (m + n) = t.times m ++ t.times n := by
  induction m with
  | zero =>
    rw [Nat.zero_add]
    rfl
  | succ m ih =>
    have hsucc : t.times (m + 1 + n) = t ++ t.times (m + n) := by
      rw [Nat.add_right_comm]
      rfl
    rw [hsucc, ih, ← List.append_assoc]
    rfl

/-! ## Levelled lines -/

namespace Margin

/-- A line that stands at a level, as it is written at a margin. -/
def line (m : Margin) (l : Nat × Text) : Text := m.unit.times (m.depth + l.1) ++ l.2

/-- Lines that stand at levels, as they are written at a margin. -/
def lay (m : Margin) (lines : List (Nat × Text)) : Text := Text.join "\n" (lines.map m.line)

/-- The margin with the same unit outside of all blocks. -/
def outermost (m : Margin) : Margin := { m with depth := 0 }

/-- A line at a margin is the line at the outermost one behind the margin. -/
lemma line_eq (m : Margin) (l : Nat × Text) : m.line l = m.indent (m.outermost.line l) := by
  have hzero : m.outermost.line l = m.unit.times l.1 ++ l.2 := by
    change m.unit.times (0 + l.1) ++ l.2 = _
    rw [Nat.zero_add]
  rw [hzero, line, indent, text, Text.times_add, List.append_assoc]

end Margin

/-- What a text repeats is in it. -/
lemma Text.mem_of_mem_times {t : Text} {c : CodePoint} {n : Nat} (h : c ∈ t.times n) : c ∈ t := by
  induction n with
  | zero => exact absurd h List.not_mem_nil
  | succ n ih => exact (List.mem_append.mp h).elim id ih

/-- Where neither the unit nor a line runs on to the next line, the lines of the written text are
the levelled ones behind the margin. -/
lemma Margin.splitOn_lay {m : Margin} {lines : List (Nat × Text)} (hne : lines ≠ [])
    (hunit : CodePoint.ofChar '\n' ∉ m.unit) (h : ∀ l ∈ lines, CodePoint.ofChar '\n' ∉ l.2) :
    List.splitOn (CodePoint.ofChar '\n') (m.lay lines) = lines.map m.line := by
  have htexts : lines.map m.line ≠ [] := by simpa using hne
  have hfeed : Layout.plainRules.isBreak (CodePoint.ofChar '\n') = true := rfl
  refine Text.splitOnP_join hfeed htexts fun t ht x hx => ?_
  obtain ⟨l, hl, rfl⟩ := List.mem_map.mp ht
  refine beq_eq_false_iff_ne.mpr ?_
  rintro rfl
  rcases List.mem_append.mp hx with hx | hx
  · exact hunit (Text.mem_of_mem_times hx)
  · exact h l hl hx

namespace Layout

/-- The row a number of levels further in. -/
def Row.deeper (d : Nat) (r : Row) : Row := { r with level := d + r.level }

mutual

/-- The rows of a block that stands further in are further in. -/
lemma Block.rows_add (d k : Nat) : (b : Block) → b.rows (d + k) = (b.rows k).map (Row.deeper d)
  | .simple _ | .pass => rfl
  | .headed h body => by
    rw [Block.rows, Block.rows, List.map_cons, Nat.add_assoc, rowsOf_add d (k + 1) body]
    rfl
  | .choice test yes no => by
    rw [Block.rows, Block.rows, List.map_cons, List.map_append, List.map_cons, Nat.add_assoc,
      rowsOf_add d (k + 1) yes, rowsOf_add d (k + 1) no]
    rfl

/-- The rows of blocks that stand further in are further in. -/
lemma rowsOf_add (d k : Nat) : (bs : List Block) →
    rowsOf (d + k) bs = (rowsOf k bs).map (Row.deeper d)
  | [] => rfl
  | b :: rest => by
    rw [rowsOf, rowsOf, List.map_append, Block.rows_add d k b, rowsOf_add d k rest]

end

/-- The level of a row and its text. -/
def Row.levelled (r : Row) : Nat × Text := (r.level, r.line.text)

end Layout

namespace Syntax

open Layout

/-- The levelled lines of blocks. -/
def levelled (bs : List Block) : List (Nat × Text) := (rowsOf 0 bs).map Row.levelled

/-- Blocks are written at a margin as their levelled lines are. -/
lemma written_eq_lay (m : Margin) (bs : List Block) : written m bs = m.lay (levelled bs) := by
  have hrows : rowsOf m.depth bs = (rowsOf 0 bs).map (Row.deeper m.depth) :=
    rowsOf_add m.depth 0 bs
  rw [written, rowTexts, hrows, Margin.lay, levelled, List.map_map, List.map_map]
  rfl

/-! ## Lines that do not run on -/

/-- What a tree may come with so that no line runs on to the next one. -/
def Encounter.StaysOnLine : Encounter → Prop
  | name t | literal _ t | operator _ _ t => CodePoint.ofChar '\n' ∉ t
  | step _ | count _ _ => True

instance : (x : Encounter) → Decidable x.StaysOnLine
  | .name _ | .literal _ _ | .operator _ _ _ => inferInstanceAs (Decidable (_ ∉ _))
  | .step _ | .count _ _ => inferInstanceAs (Decidable True)

/-- No line runs on, and no step is misplaced. -/
def StayOnLine (xs : List Encounter) : Prop :=
  ∀ x ∈ xs, x.StaysOnLine ∧ x.misplaced? = none

/-- A text without line feeds stays on its line. -/
lemma unbroken_of_not_mem {t : Text} (h : CodePoint.ofChar '\n' ∉ t) : Unbroken plainRules t := by
  intro c hc
  refine beq_eq_false_iff_ne.mpr ?_
  rintro rfl
  exact h hc

/-- A text that stays on its line has no line feeds. -/
lemma not_mem_of_unbroken {t : Text} (h : Unbroken plainRules t) : CodePoint.ofChar '\n' ∉ t := by
  intro hc
  exact beq_eq_false_iff_ne.mp (h _ hc) rfl

/-- Pieces with something between them stay on their line. -/
lemma unbroken_between {l r : Text} (mid : Text) (hmid : ∀ c ∈ mid, c ≠ '\n' ∧ c ≠ '\r')
    (hl : Unbroken plainRules l) (hr : Unbroken plainRules r) :
    Unbroken plainRules (l ++ mid ++ r) :=
  (hl.append (.of_ne hmid)).append hr

/-- Pieces in a list stay on their line. -/
lemma unbroken_list {ts : List Text} (h : ∀ t ∈ ts, Unbroken plainRules t) :
    Unbroken plainRules ("[ " ++ Text.join ", " ts ++ " ]") :=
  .around "[ " " ]" (by decide) (.join (.of_ne (by decide)) h)

/-- An operand stays on its line. -/
lemma unbroken_enclosed {t : Text} (inner : Bool) (h : Unbroken plainRules t) :
    Unbroken plainRules (enclosed inner t) := by
  cases inner with
  | false => exact h
  | true => exact .around "(" ")" (by decide) h

mutual

/-- An expression stays on its line if what rendering comes to in it does. -/
lemma Expression.unbroken : (e : Expression) → StayOnLine e.encounters →
    Unbroken plainRules e.text
  | .identifier _ _, h | .literal _ _ _, h => unbroken_of_not_mem (h _ List.mem_cons_self).1
  | .array _ elements, h => unbroken_list (elements_unbroken elements h)
  | .binary _ operator left right, h => by
    obtain ⟨hlr, hop⟩ := List.forall_mem_append.mp h
    obtain ⟨hl, hr⟩ := List.forall_mem_append.mp hlr
    have hoperator := unbroken_of_not_mem (hop _ List.mem_cons_self).1
    have hfirst := unbroken_between " " (by decide)
      (unbroken_enclosed left.isBinary (left.unbroken hl)) hoperator
    exact unbroken_between " " (by decide) hfirst
      (unbroken_enclosed right.isBinary (right.unbroken hr))
  | .member _ object property _, h => by
    obtain ⟨ho, hp⟩ := List.forall_mem_append.mp h
    exact unbroken_between "." (by decide) (object.unbroken ho) (property.unbroken hp)
  | .call _ callee arguments, h => by
    obtain ⟨ha, hc⟩ := List.forall_mem_append.mp h
    have hitems : Unbroken plainRules (Text.join ", " (argumentTexts arguments)) :=
      .join (.of_ne (by decide)) (arguments_unbroken arguments ha)
    exact (unbroken_between "(" (by decide) (callee.unbroken hc) hitems).append
      (.of_ne (by decide))
  | .assignment _ operator target value, h => by
    obtain ⟨hop, htv⟩ := List.forall_mem_cons.mp h
    obtain ⟨ht, hv⟩ := List.forall_mem_append.mp htv
    have hfirst := unbroken_between " " (by decide) (target.unbroken ht)
      (unbroken_of_not_mem hop.1)
    exact unbroken_between " " (by decide) hfirst (value.unbroken hv)
  | .step _ _ _ _, h => absurd (h _ List.mem_cons_self).2 nofun

/-- A pattern stays on its line if what rendering comes to in it does. -/
lemma Pattern.unbroken : (p : Pattern) → StayOnLine p.encounters → Unbroken plainRules p.text
  | .identifier _ _, h => unbroken_of_not_mem (h _ List.mem_cons_self).1
  | .array _ elements, h => unbroken_list (targets_unbroken elements h)
  | .member _ object property _, h => by
    obtain ⟨ho, hp⟩ := List.forall_mem_append.mp h
    exact unbroken_between "." (by decide) (object.unbroken ho) (property.unbroken hp)

/-- The elements of an array stay on their line. -/
lemma elements_unbroken : (es : List (Option Expression)) → StayOnLine (elementEncounters es) →
    ∀ t ∈ elementTexts es, Unbroken plainRules t
  | [], _ => List.forall_mem_nil _
  | none :: rest, h =>
    List.forall_mem_cons.mpr ⟨.of_ne (by decide), elements_unbroken rest h⟩
  | some e :: rest, h => by
    obtain ⟨he, hrest⟩ := List.forall_mem_append.mp h
    exact List.forall_mem_cons.mpr ⟨e.unbroken he, elements_unbroken rest hrest⟩

/-- The elements of an array pattern stay on their line. -/
lemma targets_unbroken : (ps : List (Option Pattern)) → StayOnLine (targetEncounters ps) →
    ∀ t ∈ targetTexts ps, Unbroken plainRules t
  | [], _ => List.forall_mem_nil _
  | none :: rest, h =>
    List.forall_mem_cons.mpr ⟨.of_ne (by decide), targets_unbroken rest h⟩
  | some p :: rest, h => by
    obtain ⟨hp, hrest⟩ := List.forall_mem_append.mp h
    exact List.forall_mem_cons.mpr ⟨p.unbroken hp, targets_unbroken rest hrest⟩

/-- The arguments of a call stay on their line. -/
lemma arguments_unbroken : (es : List Expression) → StayOnLine (argumentEncounters es) →
    ∀ t ∈ argumentTexts es, Unbroken plainRules t
  | [], _ => List.forall_mem_nil _
  | e :: rest, h => by
    obtain ⟨he, hrest⟩ := List.forall_mem_append.mp h
    exact List.forall_mem_cons.mpr ⟨e.unbroken he, arguments_unbroken rest hrest⟩

end

/-- An expression stays on its line, a step included. -/
lemma Expression.unbroken_step {e : Expression} (h : StayOnLine e.stepEncounters) :
    Unbroken plainRules e.text := by
  cases e with
  | step _ operator argument _ =>
    have hop : Unbroken plainRules (Render.stepOperator (.text operator.spelling)) := by
      cases operator <;> exact .of_ne (by decide)
    have hfirst := unbroken_between " " (by decide) (argument.unbroken h) hop
    exact hfirst.append (.of_ne (by decide))
  | _ => exact unbroken _ h

/-- A declarator stays on its line. -/
lemma Declarator.unbroken {d : Declarator} (h : StayOnLine d.encounters) :
    Unbroken plainRules d.text := by
  obtain ⟨hvalue, htarget⟩ := List.forall_mem_append.mp h
  have hright : Unbroken plainRules ((d.value.map Expression.text).getD Render.uninitialized) := by
    cases hv : d.value with
    | none => exact .of_ne (by decide)
    | some value =>
      rw [hv] at hvalue
      exact value.unbroken hvalue
  exact unbroken_between " = " (by decide) (d.target.unbroken htarget) hright

/-- What stays on its line is written as a line. -/
def IsOneLine (l : Line) : Prop := Unbroken plainRules l.text

/-- The lines of a declaration stay on their line. -/
lemma Declaration.isOneLine {d : Declaration} (h : StayOnLine d.encounters) :
    AreSound IsOneLine (d.declarators.map fun x => .simple x.text) := by
  refine areSound_map_simple fun x hx => ?_
  have hx : StayOnLine x.encounters := fun y hy => h y (List.mem_flatMap.mpr ⟨x, hx, hy⟩)
  exact x.unbroken hx

/-- The lines of the first clause of a loop stay on their line. -/
lemma Opening.isOneLine {o : Opening} (h : StayOnLine o.encounters) :
    AreSound IsOneLine o.outline := by
  cases o with
  | declaration d =>
    rw [outline, texts, List.map_map]
    exact d.isOneLine h
  | expression e => exact ⟨e.unbroken h, trivial⟩

/-- The header of a class stays on its line. -/
lemma unbroken_className {name : Text} {base : Option Expression}
    (hname : CodePoint.ofChar '\n' ∉ name)
    (hbase : StayOnLine ((base.map Expression.encounters).getD [])) :
    Unbroken plainRules (className name base) := by
  cases base with
  | none => exact unbroken_of_not_mem hname
  | some base =>
    have hbracketed : Unbroken plainRules ("(" ++ base.text ++ ")") :=
      .around "(" ")" (by decide) (base.unbroken hbase)
    exact (unbroken_of_not_mem hname).append hbracketed

mutual

/-- The lines of a statement stay on their line if what rendering comes to in it does. -/
lemma Statement.isOneLine : (s : Statement) → StayOnLine s.encounters →
    AreSound IsOneLine s.outline
  | .expression _ e, h => ⟨e.unbroken_step h, trivial⟩
  | .block _ body, h => areSound_filled (.of_ne (by decide)) (isOneLine_outlineOfAll body h)
  | .classDeclaration _ _ name base _ body, h => by
    obtain ⟨hbase, hbody⟩ := List.forall_mem_append.mp h
    obtain ⟨hname, hbody⟩ := List.forall_mem_cons.mp hbody
    have hhead : Unbroken plainRules (Head.classOf (className name base)).text :=
      .around "class " ":" (by decide) (unbroken_className hname.1 hbase)
    exact ⟨⟨hhead, filled_ne_nil _,
      areSound_filled (.of_ne (by decide)) (isOneLine_outlineOfAll body hbody)⟩, trivial⟩
  | .conditional _ test yes none, h => by
    obtain ⟨htest, hyes⟩ := List.forall_mem_append.mp h
    have hhead : Unbroken plainRules (Head.conditional test.text).text :=
      .around "if " ":" (by decide) (test.unbroken htest)
    exact ⟨⟨hhead, yes.outline_ne_nil, yes.isOneLine hyes⟩, trivial⟩
  | .conditional _ test yes (some no), h => by
    obtain ⟨h, hno⟩ := List.forall_mem_append.mp h
    obtain ⟨htest, hyes⟩ := List.forall_mem_append.mp h
    have hhead : Unbroken plainRules (Head.conditional test.text).text :=
      .around "if " ":" (by decide) (test.unbroken htest)
    exact ⟨⟨hhead, ⟨yes.outline_ne_nil, yes.isOneLine hyes⟩, .of_ne (by decide),
      no.outline_ne_nil, no.isOneLine hno⟩, trivial⟩
  | .loop _ init test update body, h => by
    rw [Statement.encounters] at h
    rw [Statement.outline]
    split
    · next c hc =>
      rw [hc] at h
      obtain ⟨hvalues, hbody⟩ := List.forall_mem_append.mp h
      obtain ⟨hlow, hhigh⟩ := List.forall_mem_append.mp hvalues
      obtain ⟨hname, hbody⟩ := List.forall_mem_cons.mp hbody
      have hfor : Unbroken plainRules ("for " ++ c.name ++ " in range(") :=
        .around "for " " in range(" (by decide) (unbroken_of_not_mem hname.1)
      have hrange := unbroken_between ", " (by decide) (hfor.append (c.low.unbroken hlow))
        (c.high.unbroken hhigh)
      have hhead : Unbroken plainRules (Head.count c.name c.low.text c.high.text).text :=
        hrange.append (.of_ne (by decide))
      exact ⟨⟨hhead, body.outline_ne_nil, body.isOneLine (List.forall_mem_cons.mp hbody).2⟩,
        trivial⟩
    · next hc =>
      rw [hc] at h
      obtain ⟨h, hupdate⟩ := List.forall_mem_append.mp h
      obtain ⟨h, hbody⟩ := List.forall_mem_append.mp h
      obtain ⟨hinit, htest⟩ := List.forall_mem_append.mp h
      have hfirst : AreSound IsOneLine (init.toList.flatMap Opening.outline) := by
        refine areSound_opening ?_
        rintro o rfl
        exact o.isOneLine hinit
      have hhead : Unbroken plainRules (Head.loop (test.map Expression.text)).text := by
        cases test with
        | none => exact .of_ne (by decide)
        | some e => exact .around "while " ":" (by decide) (e.unbroken htest)
      have hlast : AreSound IsOneLine (update.toList.map fun e => Block.simple e.text) := by
        refine areSound_closing ?_
        rintro e rfl
        exact e.unbroken_step hupdate
      exact hfirst.append ⟨⟨hhead, List.append_ne_nil_of_left_ne_nil body.outline_ne_nil _,
        (body.isOneLine hbody).append hlast⟩, trivial⟩
  | .declaration d, h => d.isOneLine h

/-- The lines of statements stay on their line if what rendering comes to in them does. -/
lemma isOneLine_outlineOfAll : (ss : List Statement) → StayOnLine (encountersOfAll ss) →
    AreSound IsOneLine (outlineOfAll ss)
  | [], _ => trivial
  | s :: rest, h => by
    obtain ⟨hs, hrest⟩ := List.forall_mem_append.mp h
    exact (s.isOneLine hs).append (isOneLine_outlineOfAll rest hrest)

end

/-- The lines of a statement or a program do not run on if what rendering comes to in it does not. -/
lemma Passage.not_mem_levelled {x : Passage} (h : StayOnLine x.encounters) :
    ∀ l ∈ levelled x.outline, CodePoint.ofChar '\n' ∉ l.2 := by
  have hsound : AreSound IsOneLine x.outline := by
    cases x with
    | statement s => exact s.isOneLine h
    | program p => exact isOneLine_outlineOfAll p.body h
  intro l hl
  obtain ⟨r, hr, rfl⟩ := List.mem_map.mp hl
  exact not_mem_of_unbroken (AreSound.rows 0 x.outline hsound r hr)

/-- A program without statements. -/
def Passage.IsEmpty : Passage → Prop
  | statement _ => False
  | program p => p.body = []

instance : (x : Passage) → Decidable x.IsEmpty
  | .statement _ => inferInstanceAs (Decidable False)
  | .program p => decidable_of_iff (p.body.isEmpty = true) List.isEmpty_iff

/-- Whatever is not empty is written as some blocks. -/
lemma Passage.outline_ne_nil {x : Passage} (h : ¬x.IsEmpty) : x.outline ≠ [] := by
  cases x with
  | statement s => exact s.outline_ne_nil
  | program p =>
    obtain ⟨loc, body, type⟩ := p
    cases body with
    | nil => exact absurd rfl h
    | cons s rest => exact List.append_ne_nil_of_left_ne_nil s.outline_ne_nil _

/-- What is got over is no misplaced step. -/
lemma Encounter.misplaced?_of_meet {strict : Bool} {x : Encounter}
    (h : (x.meet strict).result = .ok ()) : x.misplaced? = none := by
  cases x with
  | step loc => exact absurd h nofun
  | _ => rfl

end Syntax

/-- Rendering commutes with indentation.  For a statement or a program that is not empty there are
levelled lines, the same for all settings and at all margins, such that what is rendered at a margin
is these lines, each behind as many units as the depth of the margin and its level say.  Which fault
rendering ends with, if it does, and what it tells are the same at all margins.  If no name, literal
or operator that rendering comes to has a line feed in it, and rendering succeeds, then the lines of
the text are these lines; so at any margin they are the lines of the text at the outermost one, each
behind the margin. -/
theorem render_at_margins (x : Syntax.Passage) (hne : ¬x.IsEmpty)
    (h : ∀ y ∈ x.encounters, y.StaysOnLine) :
    ∃ lines : List (Nat × Text), ∀ s : Settings, ∃ (log : List Notice) (ending : Except Fault Unit),
      (∀ m : Margin, x.toNode.render s.isStrict m =
        ⟨log, ending.map fun _ => Value.text (m.lay lines)⟩) ∧
      (ending = .ok () → (∀ l ∈ lines, CodePoint.ofChar '\n' ∉ l.2) ∧
        ∀ m : Margin, CodePoint.ofChar '\n' ∉ m.unit →
          List.splitOn (CodePoint.ofChar '\n') (m.lay lines) = lines.map m.line ∧
          List.splitOn (CodePoint.ofChar '\n') (m.lay lines) =
            (List.splitOn (CodePoint.ofChar '\n') (m.outermost.lay lines)).map m.indent) := by
  refine ⟨Syntax.levelled x.outline, fun s => ?_⟩
  have hlines : Syntax.levelled x.outline ≠ [] := by
    have hrows := Layout.rowsOf_ne_nil 0 (x.outline_ne_nil hne)
    simpa [Syntax.levelled] using hrows
  refine ⟨(Syntax.meetAll s.isStrict x.encounters).log,
    (Syntax.meetAll s.isStrict x.encounters).result, ?_, ?_⟩
  · intro m
    have hrender : x.toNode.render s.isStrict m = _ := x.render_eq s.isStrict m
    rw [hrender, Syntax.written_eq_lay]
    cases hmeet : Syntax.meetAll s.isStrict x.encounters with
    | mk log result =>
      cases result with
      | error fault => rfl
      | ok u =>
        rw [Logged.ok_bind]
        exact congrArg (Logged.mk · _) (List.append_nil log)
  · intro hok
    have hmeet := Syntax.meet_result_of_meetAll s.isStrict hok
    have hstay : Syntax.StayOnLine x.encounters := fun y hy =>
      ⟨h y hy, Syntax.Encounter.misplaced?_of_meet (hmeet y hy)⟩
    have hcontent := Syntax.Passage.not_mem_levelled hstay
    refine ⟨hcontent, fun m hunit => ?_⟩
    have hm := Margin.splitOn_lay hlines hunit hcontent
    have houter := Margin.splitOn_lay (m := m.outermost) hlines hunit hcontent
    refine ⟨hm, ?_⟩
    rw [hm, houter, List.map_map]
    exact List.map_congr_left fun l _ => m.line_eq l

/-- A choice between a loop, with two lines in front of it and one at its end, and a class: two tabs
in front of each line at the outermost margin give the lines at the margin of depth two. -/
theorem render_at_margins_loop_class :
    let name (t : Text) : Syntax.Expression := .identifier .unknown t
    let declared (t : Text) (value : Option Syntax.Expression) : Syntax.Declarator :=
      ⟨.unknown, .identifier .unknown t, value⟩
    let x : Syntax.Passage := .statement (.conditional .unknown (name "a")
      (.loop .unknown (some (.declaration ⟨.unknown, .lexical,
          declared "i" (some (.literal .unknown "0" (.int 0))), [declared "j" none]⟩)) none
        (some (.step .unknown .increment (name "i") false)) (.block .unknown []))
      (some (.classDeclaration .unknown .unknown "C" (some (name "D")) .unknown [])))
    let t : Text := "if a:\n\ti = 0\n\tj = None\n\twhile True:\n\t\tpass\n\t\ti += 1\nelse:\n" ++
      "\tclass C(D):\n\t\tpass"
    let m : Margin := ⟨"\t", 2⟩
    ¬x.IsEmpty ∧ (∀ y ∈ x.encounters, y.StaysOnLine) ∧
      (x.toNode.render Settings.default.isStrict m.outermost).result = .ok (.text t) ∧
      ∃ t', (x.toNode.render Settings.default.isStrict m).result = .ok (.text t') ∧
        List.splitOn (CodePoint.ofChar '\n') t' =
          (List.splitOn (CodePoint.ofChar '\n') t).map m.indent := by
  intro name declared x t m
  have hne : ¬x.IsEmpty := id
  have hline : ∀ y ∈ x.encounters, y.StaysOnLine := by decide
  have houter : (x.toNode.render Settings.default.isStrict m.outermost).result = .ok (.text t) :=
    rfl
  obtain ⟨lines, hlines⟩ := render_at_margins x hne hline
  obtain ⟨log, ending, hrender, hlay⟩ := hlines .default
  rw [hrender] at houter
  cases ending with
  | error fault => exact absurd houter nofun
  | ok u =>
    have ht : m.outermost.lay lines = t := Syntax.text_injective (Except.ok.inj houter)
    obtain ⟨-, hsplit⟩ := (hlay rfl).2 m (by decide)
    rw [ht] at hsplit
    exact ⟨hne, hline, rfl, m.lay lines, by rw [hrender]; rfl, hsplit⟩

end Offside
