import Offside.Proofs.Encounters
import Offside.Proofs.Layout

/-!
# What is rendered for statements

A statement is written as blocks: `outline` says which ones.  Most statements are one block; a
loop that is no count is a suite with the lines of its first clause in front of it and the line of
its last clause at its end, and the statements of a block are written one after the other.

`Statement.render_eq` and `Program.render_eq` say that rendering is nothing but meeting the
encounters of the tree and then laying out its outline at the margin.  `Layout` says what such a
layout is like, so that whatever is true of the outline is true of the rendered text.
-/

namespace Offside

namespace Syntax

/-! ## Declarations and clauses of loops -/

/-- What rendering comes to in a declaration. -/
def Declaration.encounters (d : Declaration) : List Encounter :=
  d.declarators.flatMap Declarator.encounters

/-- What rendering comes to in the first clause of a loop. -/
def Opening.encounters : Opening → List Encounter
  | .declaration d => d.encounters
  | .expression e => e.encounters

/-- The lines that are written for the first clause of a loop. -/
def Opening.texts : Opening → List Text
  | .declaration d => d.declarators.map Declarator.text
  | .expression e => [e.text]

/-- A loop that counts: the name, the first value and the value behind the last one. -/
structure Count where
  name : Text
  low : Expression
  high : Expression

/-- The count that the clauses of a loop make. -/
def countOf? : Option Opening → Option Expression → Option Expression → Option Count
  | some (.declaration ⟨_, _, ⟨_, .identifier _ name, some low⟩, []⟩), some (.binary _ _ _ high),
    some (.step _ .increment _ _) => some ⟨name, low, high⟩
  | _, _, _ => none

/-- The clauses of a loop are those of a count exactly if they make one. -/
lemma isCount_eq (init : Option Opening) (test update : Option Expression) :
    Render.isCount (Opening.toValue init) (Expression.toValue test) (Expression.toValue update) =
      .ok (countOf? init test update).isSome := by
  rcases init with _ | ⟨⟨_, _, ⟨_, target, value⟩, more⟩⟩ | e
  · rfl
  · rcases target with ⟨_, name⟩ | _ | _
    · rcases value with _ | low
      · cases more <;> rfl
      · cases more with
        | cons => rfl
        | nil =>
          rcases test with _ | test
          · rfl
          · cases test with
            | binary =>
              rcases update with _ | update
              · rfl
              · cases update with
                | step _ operator => cases operator <;> rfl
                | _ => rfl
            | _ => rfl
    · cases more <;> rfl
    · cases more <;> rfl
  · cases e <;> rfl

/-- What the clauses of a count are. -/
lemma countOf?_eq_some {init : Option Opening} {test update : Option Expression} {c : Count}
    (h : countOf? init test update = some c) :
    ∃ l₁ kind l₂ l₃ l₄ operator left l₅ argument inFront,
      init = some (.declaration ⟨l₁, kind, ⟨l₂, .identifier l₃ c.name, some c.low⟩, []⟩) ∧
      test = some (.binary l₄ operator left c.high) ∧
      update = some (.step l₅ .increment argument inFront) := by
  unfold countOf? at h
  split at h
  · obtain rfl := Option.some.inj h
    exact ⟨_, _, _, _, _, _, _, _, _, _, rfl, rfl, rfl⟩
  · exact absurd h nofun

/-- The clauses of a loop that is not rendered as a count make none. -/
lemma countOf?_eq_none {loc : Location} {init : Option Opening} {test update : Option Expression}
    {body : Statement}
    (h : (Statement.loop loc init test update body).toNode.isCount ≠ .ok true) :
    countOf? init test update = none := by
  cases hc : countOf? init test update with
  | none => rfl
  | some c =>
    refine absurd ?_ h
    rw [Statement.toNode, Node.isCount, isCount_eq, hc]
    rfl

/-! ## Statements -/

/-- The blocks of a suite; one without statements does nothing. -/
def filled : List Layout.Block → List Layout.Block
  | [] => [.pass]
  | b :: rest => b :: rest

/-- What a class is called, with the class it extends. -/
def className (name : Text) : Option Expression → Text
  | none => name
  | some base => name ++ ("(" ++ base.text ++ ")")

/-- The blocks that are written for the first clause of a loop. -/
def Opening.outline (o : Opening) : List Layout.Block := o.texts.map .simple

mutual

/-- The blocks that are written for a statement.  The first clause of a loop stands in front of
it and the last one at the end of its suite, unless it is a count. -/
def Statement.outline : Statement → List Layout.Block
  | .expression _ e => [.simple e.text]
  | .block _ body => filled (outlineOfAll body)
  | .classDeclaration _ _ name base _ body =>
    [.headed (.classOf (className name base)) (filled (outlineOfAll body))]
  | .conditional _ test yes none => [.headed (.conditional test.text) yes.outline]
  | .conditional _ test yes (some no) => [.choice test.text yes.outline no.outline]
  | .loop _ init test update body =>
    match countOf? init test update with
    | some c => [.headed (.count c.name c.low.text c.high.text) body.outline]
    | none =>
      init.toList.flatMap Opening.outline ++
        [.headed (.loop (test.map Expression.text))
          (body.outline ++ update.toList.map fun e => .simple e.text)]
  | .declaration d => d.declarators.map fun x => .simple x.text

/-- The blocks that are written for statements. -/
def outlineOfAll : List Statement → List Layout.Block
  | [] => []
  | s :: rest => s.outline ++ outlineOfAll rest

end

mutual

/-- What rendering comes to in a statement.  In a count, the rest of the test and the step are left
out. -/
def Statement.encounters : Statement → List Encounter
  | .expression _ e => e.stepEncounters
  | .block _ body => encountersOfAll body
  | .classDeclaration _ _ name base _ body =>
    (base.map Expression.encounters).getD [] ++ .name name :: encountersOfAll body
  | .conditional _ test yes none => test.encounters ++ yes.encounters
  | .conditional _ test yes (some no) => test.encounters ++ yes.encounters ++ no.encounters
  | .loop loc init test update body =>
    match countOf? init test update with
    | some c =>
      c.low.encounters ++ c.high.encounters ++ .name c.name :: .count loc c.name :: body.encounters
    | none =>
      (init.map Opening.encounters).getD [] ++ (test.map Expression.encounters).getD [] ++
        body.encounters ++ (update.map Expression.stepEncounters).getD []
  | .declaration d => d.encounters

/-- What rendering comes to in statements. -/
def encountersOfAll : List Statement → List Encounter
  | [] => []
  | s :: rest => s.encounters ++ encountersOfAll rest

end

/-- The texts of the rows of blocks that stand at a margin. -/
def rowTexts (m : Margin) (bs : List Layout.Block) : List Text :=
  (Layout.rowsOf m.depth bs).map (Layout.Row.text m.unit)

/-- What is written for blocks that stand at a margin. -/
def written (m : Margin) (bs : List Layout.Block) : Text := Text.join "\n" (rowTexts m bs)

section

variable (m : Margin)

/-- Blocks have the texts of their parts. -/
@[simp] lemma rowTexts_append (xs ys : List Layout.Block) :
    rowTexts m (xs ++ ys) = rowTexts m xs ++ rowTexts m ys := by
  unfold rowTexts
  rw [Layout.rowsOf_append, List.map_append]

/-- Blocks have a text. -/
lemma rowTexts_ne_nil {bs : List Layout.Block} (h : bs ≠ []) : rowTexts m bs ≠ [] := by
  unfold rowTexts
  simpa using Layout.rowsOf_ne_nil m.depth h

/-- Simple lines are written behind the margin. -/
lemma rowTexts_simple {α : Type} (f : α → Text) (xs : List α) :
    rowTexts m (xs.map fun x => .simple (f x)) = xs.map fun x => m.indent (f x) := by
  induction xs with
  | nil => rfl
  | cons x rest ih =>
    rw [List.map_cons, List.map_cons, ← ih]
    rfl

/-- A suite stands one margin further in than its header. -/
lemma rowTexts_headed (h : Layout.Head) (body : List Layout.Block) :
    rowTexts m [.headed h body] = m.indent h.text :: rowTexts m.enter body := by
  unfold rowTexts
  rw [Layout.rowsOf, Layout.rowsOf, List.append_nil]
  rfl

/-- Two suites to choose from stand one margin further in than their headers. -/
lemma rowTexts_choice (test : Text) (yes no : List Layout.Block) :
    rowTexts m [.choice test yes no] =
      m.indent (Layout.Head.conditional test).text ::
        (rowTexts m.enter yes ++ m.indent "else:" :: rowTexts m.enter no) := by
  unfold rowTexts
  rw [Layout.rowsOf, Layout.rowsOf, List.append_nil, Layout.Block.rows, List.map_cons,
    List.map_append, List.map_cons]
  rfl

/-- A suite is never empty. -/
lemma filled_ne_nil (bs : List Layout.Block) : filled bs ≠ [] := by
  cases bs <;> exact List.cons_ne_nil _ _

/-- A suite with statements is as it is. -/
lemma filled_eq {bs : List Layout.Block} (h : bs ≠ []) : filled bs = bs := by
  cases bs with
  | nil => exact absurd rfl h
  | cons => rfl

/-- A declaration is written as some lines. -/
lemma Declaration.outline_ne_nil (d : Declaration) :
    (d.declarators.map fun x => Layout.Block.simple x.text) ≠ [] :=
  List.cons_ne_nil _ _

/-- The first clause of a loop is written as some lines. -/
lemma Opening.outline_ne_nil (o : Opening) : o.outline ≠ [] := by
  cases o <;> exact List.cons_ne_nil _ _

/-- A statement is written as some lines. -/
lemma Statement.outline_ne_nil (s : Statement) : s.outline ≠ [] := by
  cases s with
  | block _ body =>
    unfold outline
    exact filled_ne_nil _
  | conditional _ _ _ no =>
    cases no <;>
    · unfold outline
      exact List.cons_ne_nil _ _
  | loop _ init test update body =>
    unfold outline
    split <;> simp
  | declaration d =>
    unfold outline
    exact d.outline_ne_nil
  | _ =>
    unfold outline
    exact List.cons_ne_nil _ _

/-- The texts of statements are joined line by line. -/
lemma join_written (ss : List Statement) :
    Text.join "\n" (ss.map fun s => written m s.outline) = written m (outlineOfAll ss) := by
  have h : (ss.map fun s => rowTexts m s.outline).flatten = rowTexts m (outlineOfAll ss) := by
    induction ss with
    | nil => rfl
    | cons s rest ih => rw [List.map_cons, List.flatten_cons, ih, outlineOfAll, rowTexts_append]
  change _ = Text.join "\n" (rowTexts m (outlineOfAll ss))
  rw [← h, ← Text.join_map_join, List.map_map]
  · rfl
  · intro ts hts
    obtain ⟨s, -, rfl⟩ := List.mem_map.mp hts
    exact rowTexts_ne_nil m s.outline_ne_nil

/-- A header is written in front of its suite. -/
lemma written_headed (h : Layout.Head) {body : List Layout.Block} (hne : body ≠ []) :
    written m [.headed h body] = m.indent h.text ++ "\n" ++ written m.enter body := by
  unfold written
  rw [rowTexts_headed, Text.join_cons _ _ (rowTexts_ne_nil m.enter hne)]

/-- Two suites to choose from are written one after the other. -/
lemma written_choice (test : Text) {yes no : List Layout.Block} (hyes : yes ≠ []) (hno : no ≠ []) :
    written m [.choice test yes no] =
      Text.join "\n" [m.indent (Layout.Head.conditional test).text, written m.enter yes,
        m.indent "else:", written m.enter no] := by
  unfold written
  rw [rowTexts_choice, Text.join_cons _ _ (List.append_ne_nil_of_right_ne_nil _ (by simp)),
    Text.join_append _ (rowTexts_ne_nil m.enter hyes) (by simp),
    Text.join_cons _ _ (rowTexts_ne_nil m.enter hno)]
  rfl

variable (strict : Bool)

/-- Rendering the statements of a suite is meeting their encounters and giving their text. -/
lemma block_eq {body : List Statement}
    (h : Render.items strict m none (statementsToValues body) =
      (do meetAll strict (encountersOfAll body)
          pure ((body.map fun s => written m s.outline).map Value.text))) :
    Render.block strict m (.list (statementsToValues body)) =
      (do meetAll strict (encountersOfAll body)
          pure (.text (written m (filled (outlineOfAll body))))) := by
  cases body with
  | nil =>
    rw [statementsToValues, Render.block, encountersOfAll, meetAll_nil, pure_bind]
    rfl
  | cons s rest =>
    have hfilled : filled (outlineOfAll (s :: rest)) = outlineOfAll (s :: rest) :=
      filled_eq (List.append_ne_nil_of_left_ne_nil s.outline_ne_nil _)
    rw [statementsToValues, Render.block, ← statementsToValues, h, hfilled, ← join_written]
    simp only [bind_assoc, pure_bind, joined_text]

/-- Rendering a declaration is meeting its encounters and giving its lines. -/
lemma Declaration.render_eq (d : Declaration) : Render.node strict m d.toNode =
    (do meetAll strict d.encounters
        pure (.text (written m (d.declarators.map fun x => .simple x.text)))) := by
  have hlines := rowTexts_simple m Declarator.text d.declarators
  simp only [toNode, encounters, Render.node, Render.parts, declarators_eq, bind_assoc, pure_bind,
    List.map_map, written, hlines]
  rfl

/-- Rendering the first clause of a loop is meeting its encounters and giving its lines. -/
lemma opening_eq (init : Option Opening) : Render.opening strict m (Opening.toValue init) =
    (do meetAll strict ((init.map Opening.encounters).getD [])
        pure (init.toList.map fun o => Value.text (written m o.outline))) := by
  rcases init with _ | d | e
  · rfl
  · have hlines : (Opening.declaration d).outline = d.declarators.map fun x => .simple x.text := by
      rw [Opening.outline, Opening.texts, List.map_map]
      rfl
    have hdeclaration : Render.isDeclaration (.node d.toNode) = true := rfl
    simp [Render.opening, Opening.toValue, Value.isNull, Render.value, d.render_eq, hlines,
      hdeclaration, Opening.encounters]
  · have hdeclaration : Render.isDeclaration (.node e.toNode) = false := by cases e <;> rfl
    simp [Render.opening, Opening.toValue, Value.isNull, Render.value, e.render_eq, hdeclaration,
      Opening.encounters]
    rfl

/-- Rendering the test of a loop is meeting its encounters and giving its text. -/
lemma condition_eq (test : Option Expression) :
    Render.condition strict m (Expression.toValue test) =
      (do meetAll strict ((test.map Expression.encounters).getD [])
          pure (.text ((test.map Expression.text).getD "True"))) := by
  cases test with
  | none => rfl
  | some e => simp [Render.condition, Expression.toValue, Value.isNull, Render.value, e.render_eq]

/-- Rendering the last clause of a loop is meeting its encounters and giving its line. -/
lemma closing_eq (update : Option Expression) :
    Render.closing strict m (Expression.toValue update) =
      (do meetAll strict ((update.map Expression.stepEncounters).getD [])
          pure (update.toList.map fun e => Value.text (m.next ++ e.text))) := by
  cases update with
  | none => rfl
  | some e => simp [Render.closing, Expression.toValue, Value.isNull, e.step_eq]

/-- Blocks in two parts are written part by part. -/
lemma written_append {xs ys : List Layout.Block} (hx : xs ≠ []) (hy : ys ≠ []) :
    written m (xs ++ ys) = written m xs ++ "\n" ++ written m ys := by
  unfold written
  rw [rowTexts_append, Text.join_append _ (rowTexts_ne_nil m hx) (rowTexts_ne_nil m hy)]

/-- The last clause of a loop is written behind its body. -/
lemma written_body (h : Layout.Head) {body : List Layout.Block} (hne : body ≠ [])
    (update : Option Expression) :
    written m [.headed h (body ++ update.toList.map fun e => .simple e.text)] =
      Text.join "\n" ([m.indent h.text, written m.enter body] ++
        update.toList.map fun e => m.next ++ e.text) := by
  cases update with
  | none =>
    rw [Option.toList, List.map_nil, List.append_nil]
    exact written_headed m h hne
  | some e =>
    rw [Option.toList, List.map_singleton, List.map_singleton,
      written_headed m h (List.append_ne_nil_of_left_ne_nil hne _),
      written_append m.enter hne (List.cons_ne_nil _ _)]
    rfl

/-- The first clause of a loop is written in front of it. -/
lemma written_opening (init : Option Opening) {rest : List Layout.Block} {ts : List Text}
    (hrest : rest ≠ []) (hts : ts ≠ []) (h : written m rest = Text.join "\n" ts) :
    written m (init.toList.flatMap Opening.outline ++ rest) =
      Text.join "\n" ((init.toList.map fun o => written m o.outline) ++ ts) := by
  cases init with
  | none => exact h
  | some o =>
    rw [Option.toList, List.flatMap_singleton, written_append m o.outline_ne_nil hrest, h,
      ← Text.join_cons _ _ hts]
    rfl

/-- Rendering a count is meeting the encounters of its two values and its body. -/
lemma count_eq {loc : Location} {init : Option Opening} {test update : Option Expression}
    {body : Statement} {c : Count} (h : countOf? init test update = some c)
    (hbody : Render.node strict m.enter body.toNode =
      (do meetAll strict body.encounters; pure (.text (written m.enter body.outline)))) :
    Render.node strict m (Statement.loop loc init test update body).toNode =
      (do meetAll strict (c.low.encounters ++ c.high.encounters ++
            .name c.name :: .count loc c.name :: body.encounters)
          pure (.text (written m
            [.headed (.count c.name c.low.text c.high.text) body.outline]))) := by
  have hcount := isCount_eq init test update
  rw [h] at hcount
  obtain ⟨l₁, kind, l₂, l₃, l₄, operator, left, l₅, argument, inFront, rfl, rfl, rfl⟩ :=
    countOf?_eq_some h
  rw [written_headed m _ body.outline_ne_nil]
  have hnode := Render.node_count strict m loc (.node body.toNode) hcount
  rw [Statement.toNode]
  refine hnode.trans ?_
  simp [Expression.toValue, Render.value, c.low.render_eq, c.high.render_eq, hbody,
    Encounter.meet, Layout.Head.text]

/-- Rendering any other loop is meeting the encounters of its clauses in the order in which they
run. -/
lemma loop_eq {loc : Location} {init : Option Opening} {test update : Option Expression}
    {body : Statement} (h : countOf? init test update = none)
    (hbody : Render.node strict m.enter body.toNode =
      (do meetAll strict body.encounters; pure (.text (written m.enter body.outline)))) :
    Render.node strict m (Statement.loop loc init test update body).toNode =
      (do meetAll strict ((init.map Opening.encounters).getD [] ++
            (test.map Expression.encounters).getD [] ++ body.encounters ++
            (update.map Expression.stepEncounters).getD [])
          pure (.text (written m (init.toList.flatMap Opening.outline ++
            [.headed (.loop (test.map Expression.text))
              (body.outline ++ update.toList.map fun e => .simple e.text)])))) := by
  have hcount := isCount_eq init test update
  rw [h] at hcount
  have hhead : (Layout.Head.loop (test.map Expression.text)).text =
      "while " ++ (test.map Expression.text).getD "True" ++ ":" := by
    cases test <;> rfl
  have hlines : (init.toList.map fun o => Value.text (written m o.outline)) ++
      [.text (m.indent ("while " ++ (test.map Expression.text).getD "True" ++ ":")),
        .text (written m.enter body.outline)] ++
      (update.toList.map fun e => Value.text (m.next ++ e.text)) =
      ((init.toList.map fun o => written m o.outline) ++
        ([m.indent (Layout.Head.loop (test.map Expression.text)).text,
          written m.enter body.outline] ++ update.toList.map fun e => m.next ++ e.text)).map
        Value.text := by
    rw [hhead, List.map_append, List.map_append, List.map_map, List.map_map, List.append_assoc]
    rfl
  rw [written_opening m init (List.cons_ne_nil _ _) (List.cons_ne_nil _ _)
    (written_body m _ body.outline_ne_nil update), Statement.toNode,
    Render.node_loop strict m loc (.node body.toNode) hcount]
  simp only [opening_eq, condition_eq, closing_eq, Render.value, hbody, meetAll_append, bind_assoc,
    pure_bind, plain_text, hlines, joined_text, map_pure]
  rfl

mutual

/-- Rendering a statement is meeting its encounters and giving the text of its blocks. -/
lemma Statement.render_eq (m : Margin) : (s : Statement) → Render.node strict m s.toNode =
    (do meetAll strict s.encounters; pure (.text (written m s.outline)))
  | .expression _ e => by
    simp [Statement.toNode, Statement.encounters, Statement.outline, Render.node, e.step_eq]
    rfl
  | .block _ body => by
    rw [Statement.toNode, Render.node, block_eq m strict (statements_eq m body)]
    rfl
  | .classDeclaration _ _ name base _ body => by
    have hbody := block_eq m.enter strict (statements_eq m.enter body)
    have hwritten (h : Layout.Head) := written_headed m h (filled_ne_nil (outlineOfAll body))
    cases base with
    | none =>
      simp [Statement.toNode, Statement.encounters, Statement.outline, Expression.toValue,
        Value.isNull, Render.node, Render.value, hbody, hwritten, Encounter.meet, className,
        Layout.Head.text]
    | some base =>
      simp [Statement.toNode, Statement.encounters, Statement.outline, Expression.toValue,
        Value.isNull, Render.node, Render.value, hbody, hwritten, Encounter.meet, className,
        Layout.Head.text, base.render_eq]
  | .conditional _ test yes none => by
    have hwritten := written_headed m (.conditional test.text) yes.outline_ne_nil
    have hjoin := joined_text "\n"
      [m.indent ("if " ++ test.text ++ ":"), written m.enter yes.outline]
    simp only [Statement.toNode, Statement.encounters, Statement.outline, Value.isNull, Render.node,
      Render.value, test.render_eq, yes.render_eq m.enter, hwritten, meetAll_append, bind_assoc,
      pure_bind, plain_text, if_true]
    simp only [List.map_cons, List.map_nil] at hjoin
    simp only [hjoin, pure_bind]
    rfl
  | .conditional _ test yes (some no) => by
    have hwritten := written_choice m test.text yes.outline_ne_nil no.outline_ne_nil
    have hjoin := joined_text "\n"
      [m.indent ("if " ++ test.text ++ ":"), written m.enter yes.outline, m.indent "else:",
        written m.enter no.outline]
    simp only [Statement.toNode, Statement.encounters, Statement.outline, Value.isNull, Render.node,
      Render.value, test.render_eq, yes.render_eq m.enter, no.render_eq m.enter, hwritten,
      meetAll_append, bind_assoc, pure_bind, plain_text, Bool.false_eq_true, if_false]
    simp only [List.map_cons, List.map_nil] at hjoin
    simp only [hjoin, pure_bind]
    rfl
  | .loop loc init test update body => by
    have hbody := body.render_eq m.enter
    rw [Statement.encounters, Statement.outline]
    cases h : countOf? init test update with
    | none => exact loop_eq m strict h hbody
    | some c => exact count_eq m strict h hbody
  | .declaration d => by
    rw [Statement.toNode, Statement.encounters, Statement.outline]
    exact d.render_eq m strict

/-- Rendering statements is meeting their encounters and giving the texts of their blocks. -/
lemma statements_eq (m : Margin) : (ss : List Statement) →
    Render.items strict m none (statementsToValues ss) =
      (do meetAll strict (encountersOfAll ss)
          pure ((ss.map fun s => written m s.outline).map Value.text))
  | [] => by simp [statementsToValues, encountersOfAll, Render.items]
  | s :: rest => by
    simp [statementsToValues, encountersOfAll, Render.items, Render.value, s.render_eq,
      statements_eq m rest]

end

/-- Rendering a program is meeting its encounters and giving the text of its blocks. -/
lemma Program.render_eq (p : Program) : Render.node strict m p.toNode =
    (do meetAll strict (encountersOfAll p.body)
        pure (.text (written m (outlineOfAll p.body)))) := by
  rw [toNode, Render.node, Render.parts, statements_eq, ← join_written]
  simp only [bind_assoc, pure_bind, joined_text]

end

/-- What rendering comes to in a statement or a program. -/
def Passage.encounters : Passage → List Encounter
  | statement s => s.encounters
  | program p => encountersOfAll p.body

/-- The blocks that are written for a statement or a program. -/
def Passage.outline : Passage → List Layout.Block
  | statement s => s.outline
  | program p => outlineOfAll p.body

/-- Rendering a statement or a program is meeting its encounters and giving the text of its
blocks. -/
theorem Passage.render_eq (strict : Bool) (m : Margin) (x : Passage) :
    Render.node strict m x.toNode =
      (do meetAll strict x.encounters; pure (.text (written m x.outline))) := by
  cases x with
  | statement s => exact s.render_eq strict m
  | program p => exact p.render_eq m strict

/-- What is rendered is the text of the blocks, and all encounters have been got over. -/
lemma Passage.render_eq_ok {strict : Bool} {m : Margin} {x : Passage} {v : Value}
    (h : (x.toNode.render strict m).result = .ok v) :
    v = .text (written m x.outline) ∧
      ∀ y ∈ x.encounters, (y.meet strict).result = .ok () := by
  rw [Node.render, render_eq] at h
  obtain ⟨⟨⟩, hmeet, hv⟩ := Logged.bind_result_eq_ok h
  exact ⟨(Except.ok.inj hv).symm, meet_result_of_meetAll strict hmeet⟩

end Syntax

end Offside
