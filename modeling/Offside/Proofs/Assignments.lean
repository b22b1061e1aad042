import Offside.Proofs.Outline

/-!
# Where assignments are written

An assignment is a statement in the language of the rendered text, and so is a step.  A step is
refused where a statement may not stand.  An assignment is not: it is written as its target, its
operator and its value wherever rendering comes to it.

`Passage.assignments` lists the assignments that rendering comes to, each with its place: one that
stands as a statement, one that is the value of plain assignments or of a variable, and one inside
of anything else.  `render_assignments` says that whether a tree is rendered does not depend on
these places, and what is written at each of them; `render_keeps_assignment_in_call` is a call with
an assignment among its arguments.
-/

namespace Offside

namespace Syntax

open Layout

/-! ## Places -/

/-- Where an assignment stands. -/
inductive Place where
  /-- As the expression of a statement, or as the first or last clause of a loop. -/
  | statement
  /-- As the value of plain assignments from a statement on, or from the value of a variable on. -/
  | value
  /-- Inside of anything else. -/
  | inside
deriving DecidableEq

/-- Where the value of an assignment stands. -/
def Place.behind (place : Place) (operator : Text) : Place :=
  if place ≠ .inside ∧ operator = "=" then .value else .inside

/-- An assignment and its place. -/
structure Assignment where
  place : Place
  loc : Location
  operator : Text
  target : Pattern
  value : Expression

namespace Assignment

/-- What is written for an assignment. -/
def text (a : Assignment) : Text := a.target.text ++ " " ++ a.operator ++ " " ++ a.value.text

/-- An assignment where one can be read as a statement, or as a part of one that assigns the same
value to several targets. -/
def IsProper (a : Assignment) : Prop :=
  match a.place with
  | .statement => True
  | .value => a.operator = "="
  | .inside => False

end Assignment

mutual

/-- The assignments that rendering comes to in an expression that stands at a place. -/
def Expression.assignments (place : Place) : Expression → List Assignment
  | .identifier _ _ | .literal _ _ _ => []
  | .array _ elements => elementAssignments elements
  | .binary _ _ left right => left.assignments .inside ++ right.assignments .inside
  | .member _ object property _ => object.assignments .inside ++ property.assignments .inside
  | .call _ callee arguments => argumentAssignments arguments ++ callee.assignments .inside
  | .assignment loc operator target value =>
    ⟨place, loc, operator, target, value⟩ ::
      (target.assignments ++ value.assignments (place.behind operator))
  | .step _ _ _ _ => []

/-- The assignments that rendering comes to in a pattern. -/
def Pattern.assignments : Pattern → List Assignment
  | .identifier _ _ => []
  | .array _ elements => targetAssignments elements
  | .member _ object property _ => object.assignments .inside ++ property.assignments .inside

/-- The assignments that rendering comes to in the elements of an array. -/
def elementAssignments : List (Option Expression) → List Assignment
  | [] => []
  | none :: rest => elementAssignments rest
  | some e :: rest => e.assignments .inside ++ elementAssignments rest

/-- The assignments that rendering comes to in the elements of an array pattern. -/
def targetAssignments : List (Option Pattern) → List Assignment
  | [] => []
  | none :: rest => targetAssignments rest
  | some p :: rest => p.assignments ++ targetAssignments rest

/-- The assignments that rendering comes to in the arguments of a call. -/
def argumentAssignments : List Expression → List Assignment
  | [] => []
  | e :: rest => e.assignments .inside ++ argumentAssignments rest

end

/-- The assignments that rendering comes to where a step may stand. -/
def Expression.stepAssignments : Expression → List Assignment
  | .step _ _ argument _ => argument.assignments .inside
  | e => e.assignments .statement

/-- The assignments that rendering comes to in a declarator. -/
def Declarator.assignments (d : Declarator) : List Assignment :=
  (d.value.map (Expression.assignments .value)).getD [] ++ d.target.assignments

/-- The assignments that rendering comes to in a declaration. -/
def Declaration.assignments (d : Declaration) : List Assignment :=
  d.declarators.flatMap Declarator.assignments

/-- The assignments that rendering comes to in the first clause of a loop. -/
def Opening.assignments : Opening → List Assignment
  | .declaration d => d.assignments
  | .expression e => e.assignments .statement

mutual

/-- The assignments that rendering comes to in a statement.  The values that a count runs between
stand inside of its header. -/
def Statement.assignments : Statement → List Assignment
  | .expression _ e => e.stepAssignments
  | .block _ body => assignmentsOfAll body
  | .classDeclaration _ _ _ base _ body =>
    (base.map (Expression.assignments .inside)).getD [] ++ assignmentsOfAll body
  | .conditional _ test yes none => test.assignments .inside ++ yes.assignments
  | .conditional _ test yes (some no) =>
    test.assignments .inside ++ yes.assignments ++ no.assignments
  | .loop _ init test update body =>
    match countOf? init test update with
    | some c => c.low.assignments .inside ++ c.high.assignments .inside ++ body.assignments
    | none =>
      (init.map Opening.assignments).getD [] ++
        (test.map (Expression.assignments .inside)).getD [] ++ body.assignments ++
        (update.map Expression.stepAssignments).getD []
  | .declaration d => d.assignments

/-- The assignments that rendering comes to in statements. -/
def assignmentsOfAll : List Statement → List Assignment
  | [] => []
  | s :: rest => s.assignments ++ assignmentsOfAll rest

end

/-- The assignments that rendering comes to in a statement or a program. -/
def Passage.assignments : Passage → List Assignment
  | statement s => s.assignments
  | program p => assignmentsOfAll p.body

/-! ## All assignments are listed -/

/-- The place in the source and the operator, if rendering comes to an assignment. -/
def Encounter.assigned? : Encounter → Option (Location × Text)
  | operator .assignmentExpression loc t => some (loc, t)
  | _ => none

/-- The place in the source and the operator of an assignment. -/
def Assignment.key (a : Assignment) : Location × Text := (a.loc, a.operator)

mutual

/-- The assignments of an expression are those that rendering comes to, in its order. -/
lemma Expression.filterMap_assigned? : ∀ (e : Expression) (place : Place),
    e.encounters.filterMap Encounter.assigned? = (e.assignments place).map Assignment.key
  | .identifier _ _, _ | .literal _ _ _, _ | .step _ _ _ _, _ => rfl
  | .array _ elements, _ => filterMap_elementEncounters elements
  | .binary _ _ left right, _ => by
    have hself (loc : Location) (t : Text) :
        List.filterMap Encounter.assigned? [.operator .binaryExpression loc t] = [] := rfl
    rw [Expression.encounters, Expression.assignments, List.filterMap_append, List.filterMap_append,
      hself, List.append_nil, left.filterMap_assigned? .inside, right.filterMap_assigned? .inside,
      List.map_append]
  | .member _ object property _, _ => by
    rw [Expression.encounters, Expression.assignments, List.filterMap_append,
      object.filterMap_assigned? .inside, property.filterMap_assigned? .inside, List.map_append]
  | .call _ callee arguments, _ => by
    rw [Expression.encounters, Expression.assignments, List.filterMap_append,
      filterMap_argumentEncounters arguments, callee.filterMap_assigned? .inside, List.map_append]
  | .assignment loc operator target value, place => by
    have hself : Encounter.assigned? (.operator .assignmentExpression loc operator) =
      some (loc, operator) := rfl
    rw [Expression.encounters, Expression.assignments, List.filterMap_cons_some hself,
      List.filterMap_append, target.filterMap_assigned?,
      value.filterMap_assigned? (place.behind operator), List.map_cons, List.map_append]
    rfl

/-- The assignments of a pattern are those that rendering comes to, in its order. -/
lemma Pattern.filterMap_assigned? : ∀ p : Pattern,
    p.encounters.filterMap Encounter.assigned? = p.assignments.map Assignment.key
  | .identifier _ _ => rfl
  | .array _ elements => filterMap_targetEncounters elements
  | .member _ object property _ => by
    rw [Pattern.encounters, Pattern.assignments, List.filterMap_append,
      object.filterMap_assigned? .inside, property.filterMap_assigned? .inside, List.map_append]

/-- The assignments of elements are those that rendering comes to, in its order. -/
lemma filterMap_elementEncounters : ∀ es : List (Option Expression),
    (elementEncounters es).filterMap Encounter.assigned? =
      (elementAssignments es).map Assignment.key
  | [] => rfl
  | none :: rest => filterMap_elementEncounters rest
  | some e :: rest => by
    rw [elementEncounters, elementAssignments, List.filterMap_append,
      e.filterMap_assigned? .inside, filterMap_elementEncounters rest, List.map_append]

/-- The assignments of the elements of a pattern are those that rendering comes to, in its order. -/
lemma filterMap_targetEncounters : ∀ ps : List (Option Pattern),
    (targetEncounters ps).filterMap Encounter.assigned? =
      (targetAssignments ps).map Assignment.key
  | [] => rfl
  | none :: rest => filterMap_targetEncounters rest
  | some p :: rest => by
    rw [targetEncounters, targetAssignments, List.filterMap_append, p.filterMap_assigned?,
      filterMap_targetEncounters rest, List.map_append]

/-- The assignments of arguments are those that rendering comes to, in its order. -/
lemma filterMap_argumentEncounters : ∀ es : List Expression,
    (argumentEncounters es).filterMap Encounter.assigned? =
      (argumentAssignments es).map Assignment.key
  | [] => rfl
  | e :: rest => by
    rw [argumentEncounters, argumentAssignments, List.filterMap_append,
      e.filterMap_assigned? .inside, filterMap_argumentEncounters rest, List.map_append]

end

/-- Where a step may stand, the assignments are those that rendering comes to as well. -/
lemma Expression.filterMap_stepEncounters (e : Expression) :
    e.stepEncounters.filterMap Encounter.assigned? = e.stepAssignments.map Assignment.key := by
  cases e with
  | step _ _ argument _ => exact argument.filterMap_assigned? .inside
  | _ => exact Expression.filterMap_assigned? _ .statement

/-- The assignments of what may be missing are those that rendering comes to if it is not. -/
lemma filterMap_getD {α : Type} {f : α → List Encounter} {g : α → List Assignment}
    (h : ∀ x, (f x).filterMap Encounter.assigned? = (g x).map Assignment.key) (x : Option α) :
    ((x.map f).getD []).filterMap Encounter.assigned? = ((x.map g).getD []).map Assignment.key := by
  cases x with
  | none => rfl
  | some x => exact h x

/-- The assignments of a declaration are those that rendering comes to, in its order. -/
lemma Declaration.filterMap_assigned? (d : Declaration) :
    d.encounters.filterMap Encounter.assigned? = d.assignments.map Assignment.key := by
  have declarator (x : Declarator) :
      x.encounters.filterMap Encounter.assigned? = x.assignments.map Assignment.key := by
    rw [Declarator.encounters, Declarator.assignments, List.filterMap_append,
      filterMap_getD (fun e => Expression.filterMap_assigned? e .value),
      x.target.filterMap_assigned?, List.map_append]
  rw [encounters, assignments, List.filterMap_flatMap, List.map_flatMap]
  exact List.flatMap_congr fun x _ => declarator x

/-- The assignments of the first clause of a loop are those that rendering comes to, in its
order. -/
lemma Opening.filterMap_assigned? (o : Opening) :
    o.encounters.filterMap Encounter.assigned? = o.assignments.map Assignment.key := by
  cases o with
  | declaration d => exact d.filterMap_assigned?
  | expression e => exact e.filterMap_assigned? .statement

mutual

/-- The assignments of a statement are those that rendering comes to, in its order. -/
lemma Statement.filterMap_assigned? : ∀ s : Statement,
    s.encounters.filterMap Encounter.assigned? = s.assignments.map Assignment.key
  | .expression _ e => e.filterMap_stepEncounters
  | .block _ body => filterMap_encountersOfAll body
  | .classDeclaration _ _ name base _ body => by
    have hname : Encounter.assigned? (.name name) = none := rfl
    rw [Statement.encounters, Statement.assignments, List.filterMap_append,
      List.filterMap_cons_none hname, filterMap_encountersOfAll body,
      filterMap_getD (fun e => Expression.filterMap_assigned? e .inside), List.map_append]
  | .conditional _ test yes none => by
    rw [Statement.encounters, Statement.assignments, List.filterMap_append,
      test.filterMap_assigned? .inside, yes.filterMap_assigned?, List.map_append]
  | .conditional _ test yes (some no) => by
    rw [Statement.encounters, Statement.assignments, List.filterMap_append, List.filterMap_append,
      test.filterMap_assigned? .inside, yes.filterMap_assigned?, no.filterMap_assigned?,
      List.map_append, List.map_append]
  | .loop loc init test update body => by
    rw [Statement.encounters, Statement.assignments]
    cases countOf? init test update with
    | some c =>
      have hname : Encounter.assigned? (.name c.name) = none := rfl
      have hcount : Encounter.assigned? (.count loc c.name) = none := rfl
      dsimp only
      rw [List.filterMap_append, List.filterMap_append, List.filterMap_cons_none hname,
        List.filterMap_cons_none hcount, c.low.filterMap_assigned? .inside,
        c.high.filterMap_assigned? .inside, body.filterMap_assigned?, List.map_append,
        List.map_append]
    | none =>
      dsimp only
      rw [List.filterMap_append, List.filterMap_append, List.filterMap_append,
        filterMap_getD Opening.filterMap_assigned?,
        filterMap_getD (fun e => Expression.filterMap_assigned? e .inside),
        body.filterMap_assigned?, filterMap_getD Expression.filterMap_stepEncounters,
        List.map_append, List.map_append, List.map_append]
  | .declaration d => d.filterMap_assigned?

/-- The assignments of statements are those that rendering comes to, in its order. -/
lemma filterMap_encountersOfAll : ∀ ss : List Statement,
    (encountersOfAll ss).filterMap Encounter.assigned? = (assignmentsOfAll ss).map Assignment.key
  | [] => rfl
  | s :: rest => by
    rw [encountersOfAll, assignmentsOfAll, List.filterMap_append, s.filterMap_assigned?,
      filterMap_encountersOfAll rest, List.map_append]

end

/-- The assignments of a statement or a program are those that rendering comes to, in its order. -/
theorem Passage.filterMap_assigned? (x : Passage) :
    x.encounters.filterMap Encounter.assigned? = x.assignments.map Assignment.key := by
  cases x with
  | statement s => exact s.filterMap_assigned?
  | program p => exact filterMap_encountersOfAll p.body

/-! ## Assignments inside of expressions -/

/-- A text in the middle of another one is in it. -/
lemma infix_between (front t behind : Text) : t <:+: front ++ t ++ behind := ⟨front, behind, rfl⟩

/-- An item is in the joined text. -/
lemma infix_join (separator : Text) {t : Text} : ∀ {ts : List Text}, t ∈ ts →
    t <:+: Text.join separator ts
  | [u], h => by
    rw [List.mem_singleton.mp h]
    exact List.infix_refl u
  | u :: v :: rest, h => by
    rw [Text.join_cons separator u (List.cons_ne_nil v rest)]
    rcases List.mem_cons.mp h with rfl | h
    · rw [List.append_assoc]
      exact (List.prefix_append _ _).isInfix
    · exact (infix_join separator h).trans (List.suffix_append _ _).isInfix

/-- An operand is in what is written for it. -/
lemma infix_enclosed (inner : Bool) (t : Text) : t <:+: enclosed inner t := by
  cases inner with
  | false => exact List.infix_refl t
  | true => exact infix_between "(" t ")"

/-- Both pieces around a joint are in the joined text. -/
lemma infix_ends (l joint r : Text) : l <:+: l ++ joint ++ r ∧ r <:+: l ++ joint ++ r := by
  constructor
  · rw [List.append_assoc]
    exact (List.prefix_append _ _).isInfix
  · exact (List.suffix_append _ _).isInfix

/-- The pieces around an operator are in what is written for both. -/
lemma infix_operands (l op r : Text) :
    l <:+: l ++ " " ++ op ++ " " ++ r ∧ r <:+: l ++ " " ++ op ++ " " ++ r := by
  have hjoint : l ++ " " ++ op ++ " " ++ r = l ++ (" " ++ op ++ " ") ++ r := by
    simp only [List.append_assoc]
  rw [hjoint]
  exact infix_ends l (" " ++ op ++ " ") r

/-- What is called and what it is called with are in what is written for the call. -/
lemma infix_call (f args : Text) :
    f <:+: f ++ "(" ++ args ++ ")" ∧ args <:+: f ++ "(" ++ args ++ ")" := by
  constructor
  · rw [List.append_assoc, List.append_assoc]
    exact (List.prefix_append _ _).isInfix
  · exact infix_between (f ++ "(") args ")"

/-- Assignments stand inside of what is written as a text, and what is written for them is in it. -/
def AreInside (as : List Assignment) (t : Text) : Prop :=
  ∀ a ∈ as, a.place = .inside ∧ a.text <:+: t

/-- What is inside of a text is inside of any text that this is in. -/
lemma AreInside.mono {as : List Assignment} {t u : Text} (h : AreInside as t) (ht : t <:+: u) :
    AreInside as u :=
  fun a ha => ⟨(h a ha).1, (h a ha).2.trans ht⟩

/-- Two lists of assignments inside of a text are inside of it together. -/
lemma AreInside.append {as as' : List Assignment} {t : Text} (h : AreInside as t)
    (h' : AreInside as' t) : AreInside (as ++ as') t :=
  List.forall_mem_append.mpr ⟨h, h'⟩

/-- No assignments are inside of any text. -/
lemma AreInside.nil (t : Text) : AreInside [] t := List.forall_mem_nil _

/-- Assignments stand inside of some of the texts. -/
def AreInsideSome (as : List Assignment) (ts : List Text) : Prop :=
  ∀ a ∈ as, ∃ t ∈ ts, a.place = .inside ∧ a.text <:+: t

/-- What is inside of an item is inside of the joined items. -/
lemma AreInsideSome.joined {as : List Assignment} {ts : List Text} (h : AreInsideSome as ts)
    (separator : Text) : AreInside as (Text.join separator ts) := by
  intro a ha
  obtain ⟨t, ht, hplace, htext⟩ := h a ha
  exact ⟨hplace, htext.trans (infix_join separator ht)⟩

/-- What is inside of the first text or of some others is inside of some of all. -/
lemma AreInsideSome.cons {as as' : List Assignment} {t : Text} {ts : List Text}
    (h : AreInside as t) (h' : AreInsideSome as' ts) : AreInsideSome (as ++ as') (t :: ts) := by
  refine List.forall_mem_append.mpr ⟨fun a ha => ?_, fun a ha => ?_⟩
  · exact ⟨t, List.mem_cons_self, h a ha⟩
  · obtain ⟨u, hu, hinside⟩ := h' a ha
    exact ⟨u, List.mem_cons_of_mem t hu, hinside⟩

/-- A list in brackets has its items in it. -/
lemma AreInsideSome.list {as : List Assignment} {ts : List Text} (h : AreInsideSome as ts) :
    AreInside as ("[ " ++ Text.join ", " ts ++ " ]") :=
  (h.joined ", ").mono (infix_between "[ " _ " ]")

mutual

/-- What stands inside of an expression is written in it. -/
lemma Expression.areInside : ∀ e : Expression, AreInside (e.assignments .inside) e.text
  | .identifier _ _ | .literal _ _ _ | .step _ _ _ _ => .nil _
  | .array _ elements => (elements_areInside elements).list
  | .binary _ operator left right => by
    obtain ⟨hl, hr⟩ := infix_operands (enclosed left.isBinary left.text) operator
      (enclosed right.isBinary right.text)
    exact (left.areInside.mono ((infix_enclosed _ _).trans hl)).append
      (right.areInside.mono ((infix_enclosed _ _).trans hr))
  | .member _ object property _ => by
    obtain ⟨ho, hp⟩ := infix_ends object.text "." property.text
    exact (object.areInside.mono ho).append (property.areInside.mono hp)
  | .call _ callee arguments => by
    obtain ⟨hc, ha⟩ := infix_call callee.text (Text.join ", " (argumentTexts arguments))
    exact (((arguments_areInside arguments).joined ", ").mono ha).append
      (callee.areInside.mono hc)
  | .assignment _ operator target value => by
    obtain ⟨ht, hv⟩ := infix_operands target.text operator value.text
    refine List.forall_mem_cons.mpr ⟨⟨rfl, List.infix_refl _⟩, ?_⟩
    exact (target.areInside.mono ht).append (value.areInside.mono hv)

/-- What stands inside of a pattern is written in it. -/
lemma Pattern.areInside : ∀ p : Pattern, AreInside p.assignments p.text
  | .identifier _ _ => .nil _
  | .array _ elements => (targets_areInside elements).list
  | .member _ object property _ => by
    obtain ⟨ho, hp⟩ := infix_ends object.text "." property.text
    exact (object.areInside.mono ho).append (property.areInside.mono hp)

/-- What stands inside of an element of an array is written in it. -/
lemma elements_areInside : ∀ es : List (Option Expression),
    AreInsideSome (elementAssignments es) (elementTexts es)
  | [] => List.forall_mem_nil _
  | none :: rest => .cons (.nil _) (elements_areInside rest)
  | some e :: rest => .cons e.areInside (elements_areInside rest)

/-- What stands inside of an element of an array pattern is written in it. -/
lemma targets_areInside : ∀ ps : List (Option Pattern),
    AreInsideSome (targetAssignments ps) (targetTexts ps)
  | [] => List.forall_mem_nil _
  | none :: rest => .cons (.nil _) (targets_areInside rest)
  | some p :: rest => .cons p.areInside (targets_areInside rest)

/-- What stands inside of an argument of a call is written in it. -/
lemma arguments_areInside : ∀ es : List Expression,
    AreInsideSome (argumentAssignments es) (argumentTexts es)
  | [] => List.forall_mem_nil _
  | e :: rest => .cons e.areInside (arguments_areInside rest)

end

/-! ## Assignments in lines -/

/-- How an assignment is written in a line: as the whole line, at its end behind an equality sign,
or anywhere in it. -/
def Assignment.IsWrittenIn (a : Assignment) (l : Line) : Prop :=
  match a.place with
  | .statement => l = .simple a.text
  | .value => ∃ front, l = .simple (front ++ " = " ++ a.text)
  | .inside => a.text <:+: l.text

/-- What stands inside of a piece of a line is written in the line. -/
lemma AreInside.isWrittenIn {as : List Assignment} {t : Text} {l : Line} (h : AreInside as t)
    (hl : t <:+: l.text) : ∀ a ∈ as, a.IsWrittenIn l := by
  intro a ha
  obtain ⟨hplace, htext⟩ := h a ha
  unfold Assignment.IsWrittenIn
  rw [hplace]
  exact htext.trans hl

/-- What stands inside of a value behind an equality sign is written in the line. -/
lemma Expression.isWrittenIn_inside (e : Expression) (front : Text) :
    ∀ a ∈ e.assignments .inside, a.IsWrittenIn (.simple (front ++ " = " ++ e.text)) :=
  e.areInside.isWrittenIn (List.suffix_append (front ++ (" = " : Text)) e.text).isInfix

/-- What rendering comes to in the value of an assignment is written in a line that the value is in.
Only an equality sign hands the place of the assignment on to the value. -/
lemma Expression.isWrittenIn_behind {value : Expression} {place : Place} {operator : Text}
    {l : Line} (hinside : value.text <:+: l.text)
    (hplain : operator = "=" → ∀ a ∈ value.assignments .value, a.IsWrittenIn l) :
    ∀ a ∈ value.assignments (place.behind operator), a.IsWrittenIn l := by
  unfold Place.behind
  split
  · next h => exact hplain h.2
  · exact value.areInside.isWrittenIn hinside

/-- What rendering comes to in the value behind an equality sign is written in the line. -/
lemma Expression.isWrittenIn_value : ∀ (e : Expression) (front : Text),
    ∀ a ∈ e.assignments .value, a.IsWrittenIn (.simple (front ++ " = " ++ e.text))
  | .assignment loc operator target value, front => by
    have hline : (Expression.assignment loc operator target value).text <:+:
        front ++ " = " ++ (Expression.assignment loc operator target value).text :=
      (List.suffix_append _ _).isInfix
    obtain ⟨htarget, hvalue⟩ := infix_operands target.text operator value.text
    refine List.forall_mem_cons.mpr ⟨⟨front, rfl⟩, List.forall_mem_append.mpr ⟨?_, ?_⟩⟩
    · exact target.areInside.isWrittenIn (htarget.trans hline)
    · -- With an equality sign, the value stands behind one more of these.
      refine isWrittenIn_behind (hvalue.trans hline) ?_
      rintro rfl
      have hmore := value.isWrittenIn_value (front ++ " = " ++ target.text)
      simpa [Expression.text, Text.ofString] using hmore
  | .identifier _ _, _ | .literal _ _ _, _ | .step _ _ _ _, _ => List.forall_mem_nil _
  | .array loc elements, front => (Expression.array loc elements).isWrittenIn_inside front
  | .binary loc operator left right, front =>
    (Expression.binary loc operator left right).isWrittenIn_inside front
  | .member loc object property computed, front =>
    (Expression.member loc object property computed).isWrittenIn_inside front
  | .call loc callee arguments, front =>
    (Expression.call loc callee arguments).isWrittenIn_inside front

/-- What rendering comes to in an expression that is a statement is written in its line. -/
lemma Expression.isWrittenIn_statement (e : Expression) :
    ∀ a ∈ e.assignments .statement, a.IsWrittenIn (.simple e.text) := by
  have hinside : ∀ a ∈ e.assignments .inside, a.IsWrittenIn (.simple e.text) :=
    e.areInside.isWrittenIn (List.infix_refl e.text)
  cases e with
  | assignment loc operator target value =>
    obtain ⟨htarget, hvalue⟩ := infix_operands target.text operator value.text
    refine List.forall_mem_cons.mpr ⟨rfl, List.forall_mem_append.mpr ⟨?_, ?_⟩⟩
    · exact target.areInside.isWrittenIn htarget
    · refine isWrittenIn_behind hvalue ?_
      rintro rfl
      have hmore := value.isWrittenIn_value target.text
      simpa [Expression.text, Text.ofString] using hmore
  | _ => exact hinside

/-- What rendering comes to where a step may stand is written in the line. -/
lemma Expression.isWrittenIn_step (e : Expression) :
    ∀ a ∈ e.stepAssignments, a.IsWrittenIn (.simple e.text) := by
  cases e with
  | step loc operator argument inFront =>
    refine argument.areInside.isWrittenIn ?_
    have hstep : (Expression.step loc operator argument inFront).text =
        argument.text ++ (" " ++ Render.stepOperator (.text operator.spelling) ++ " 1") := by
      rw [text, List.append_assoc, List.append_assoc, List.append_assoc]
    change argument.text <:+: (Expression.step loc operator argument inFront).text
    rw [hstep]
    exact (List.prefix_append _ _).isInfix
  | _ => exact isWrittenIn_statement _

/-- What rendering comes to in a declarator is written in its line. -/
lemma Declarator.isWrittenIn (d : Declarator) :
    ∀ a ∈ d.assignments, a.IsWrittenIn (.simple d.text) := by
  have htarget : d.target.text <:+: d.text := by
    rw [text, List.append_assoc]
    exact (List.prefix_append _ _).isInfix
  refine List.forall_mem_append.mpr ⟨?_, d.target.areInside.isWrittenIn htarget⟩
  rw [text]
  cases d.value with
  | none => exact List.forall_mem_nil _
  | some value => exact value.isWrittenIn_value d.target.text

/-- Each assignment is written in some row of the blocks, at whatever level they stand. -/
def AreWritten (as : List Assignment) (bs : List Block) : Prop :=
  ∀ d, ∀ a ∈ as, ∃ r ∈ rowsOf d bs, a.IsWrittenIn r.line

namespace AreWritten

variable {as as' : List Assignment} {bs bs' : List Block}

/-- No assignments are written in any blocks. -/
lemma nil (bs : List Block) : AreWritten [] bs := fun _ => List.forall_mem_nil _

/-- Two lists of assignments are written together if each is. -/
lemma append (h : AreWritten as bs) (h' : AreWritten as' bs) : AreWritten (as ++ as') bs :=
  fun d => List.forall_mem_append.mpr ⟨h d, h' d⟩

/-- What is written in the blocks in front is written in all of them. -/
lemma left (h : AreWritten as bs) (bs' : List Block) : AreWritten as (bs ++ bs') := by
  intro d a ha
  obtain ⟨r, hr, hwritten⟩ := h d a ha
  exact ⟨r, by simp [hr], hwritten⟩

/-- What is written in the blocks behind is written in all of them. -/
lemma right (h : AreWritten as bs) (bs' : List Block) : AreWritten as (bs' ++ bs) := by
  intro d a ha
  obtain ⟨r, hr, hwritten⟩ := h d a ha
  exact ⟨r, by simp [hr], hwritten⟩

/-- What is written in a simple line is written in it as a block. -/
lemma simple {t : Text} (h : ∀ a ∈ as, a.IsWrittenIn (.simple t)) : AreWritten as [.simple t] :=
  fun d a ha => ⟨⟨d, .simple t⟩, List.mem_cons_self, h a ha⟩

/-- What is written in a header is written in its block. -/
lemma head {h : Head} (body : List Block) (ha : ∀ a ∈ as, a.IsWrittenIn (.head h)) :
    AreWritten as [.headed h body] :=
  fun d a hmem => ⟨⟨d, .head h⟩, List.mem_cons_self, ha a hmem⟩

/-- What is written in a suite is written in its block. -/
lemma suite (h : Head) (hbody : AreWritten as bs) : AreWritten as [.headed h bs] := by
  intro d a ha
  obtain ⟨r, hr, hwritten⟩ := hbody (d + 1) a ha
  exact ⟨r, by simp [rowsOf, Block.rows, hr], hwritten⟩

/-- What is written in a suite with the statements of a block is written in the suite. -/
lemma filled (h : AreWritten as bs) : AreWritten as (filled bs) := by
  cases bs with
  | nil =>
    intro d a ha
    obtain ⟨r, hr, -⟩ := h d a ha
    exact absurd hr List.not_mem_nil
  | cons => exact h

/-- What is written in the header of a choice is written in its block. -/
lemma test {test : Text} (yes no : List Block)
    (ha : ∀ a ∈ as, a.IsWrittenIn (.head (.conditional test))) :
    AreWritten as [.choice test yes no] :=
  fun d a hmem => ⟨⟨d, .head (.conditional test)⟩, List.mem_cons_self, ha a hmem⟩

/-- What is written in the first suite of a choice is written in its block. -/
lemma yes (test : Text) (h : AreWritten as bs) (no : List Block) :
    AreWritten as [.choice test bs no] := by
  intro d a ha
  obtain ⟨r, hr, hwritten⟩ := h (d + 1) a ha
  exact ⟨r, by simp [rowsOf, Block.rows, hr], hwritten⟩

/-- What is written in the second suite of a choice is written in its block. -/
lemma no (test : Text) (h : AreWritten as bs) (yes : List Block) :
    AreWritten as [.choice test yes bs] := by
  intro d a ha
  obtain ⟨r, hr, hwritten⟩ := h (d + 1) a ha
  exact ⟨r, by simp [rowsOf, Block.rows, hr], hwritten⟩

/-- What is written in each of some simple lines is written in them as blocks. -/
lemma lines {α : Type} {f : α → List Assignment} {g : α → Text}
    (h : ∀ x, ∀ a ∈ f x, a.IsWrittenIn (.simple (g x))) (xs : List α) :
    AreWritten (xs.flatMap f) (xs.map fun x => .simple (g x)) := by
  induction xs with
  | nil => exact nil _
  | cons x rest ih =>
    have hfirst := (simple (h x)).left (rest.map fun x => .simple (g x))
    exact hfirst.append (ih.right [.simple (g x)])

/-- What is written in a simple line that may be missing is written in it as a block. -/
lemma line {α : Type} {f : α → List Assignment} {g : α → Text}
    (h : ∀ x, ∀ a ∈ f x, a.IsWrittenIn (.simple (g x))) (x : Option α) :
    AreWritten ((x.map f).getD []) (x.toList.map fun x => .simple (g x)) := by
  cases x with
  | none => exact nil _
  | some x => exact simple (h x)

end AreWritten

/-! ## Assignments in statements -/

/-- What rendering comes to in the first clause of a loop is written in its lines. -/
lemma Opening.areWritten (init : Option Opening) :
    AreWritten ((init.map Opening.assignments).getD []) (init.toList.flatMap Opening.outline) := by
  rcases init with _ | d | e
  · exact .nil _
  · have hlines := AreWritten.lines Declarator.isWrittenIn d.declarators
    simpa [Opening.outline, Opening.texts, Opening.assignments, Declaration.assignments,
      Function.comp_def] using hlines
  · exact .simple e.isWrittenIn_statement

/-- What stands inside of the class that a class extends is written in its header. -/
lemma className_isWrittenIn (name : Text) (base : Option Expression) :
    ∀ a ∈ (base.map (Expression.assignments .inside)).getD [],
      a.IsWrittenIn (.head (.classOf (className name base))) := by
  cases base with
  | none => exact List.forall_mem_nil _
  | some base =>
    refine base.areInside.isWrittenIn ?_
    have hname : base.text <:+: className name (some base) :=
      (infix_between "(" base.text ")").trans (List.suffix_append _ _).isInfix
    exact hname.trans (infix_between "class " _ ":")

/-- What stands inside of the test of a choice is written in its header. -/
lemma Expression.isWrittenIn_conditional (test : Expression) :
    ∀ a ∈ test.assignments .inside, a.IsWrittenIn (.head (.conditional test.text)) :=
  test.areInside.isWrittenIn (infix_between "if " test.text ":")

/-- What stands inside of the test of a loop is written in its header. -/
lemma loop_isWrittenIn (test : Option Expression) :
    ∀ a ∈ (test.map (Expression.assignments .inside)).getD [],
      a.IsWrittenIn (.head (.loop (test.map Expression.text))) := by
  cases test with
  | none => exact List.forall_mem_nil _
  | some test => exact test.areInside.isWrittenIn (infix_between "while " test.text ":")

/-- What stands inside of the values that a count runs between is written in its header. -/
lemma Count.isWrittenIn (c : Count) :
    ∀ a ∈ c.low.assignments .inside ++ c.high.assignments .inside,
      a.IsWrittenIn (.head (.count c.name c.low.text c.high.text)) := by
  obtain ⟨hlow, hhigh⟩ := infix_ends c.low.text ", " c.high.text
  have hpair : (c.low.text ++ ", " ++ c.high.text : Text) <:+:
      Line.text (.head (.count c.name c.low.text c.high.text)) := by
    have hheader : Render.countHeader c.name c.low.text c.high.text =
        "for " ++ c.name ++ " in range(" ++ (c.low.text ++ ", " ++ c.high.text) ++ "):" := by
      simp only [Render.countHeader, List.append_assoc]
    change _ <:+: Render.countHeader c.name c.low.text c.high.text
    rw [hheader]
    exact infix_between _ _ _
  exact List.forall_mem_append.mpr
    ⟨c.low.areInside.isWrittenIn (hlow.trans hpair),
      c.high.areInside.isWrittenIn (hhigh.trans hpair)⟩

mutual

/-- What rendering comes to in a statement is written in its blocks. -/
lemma Statement.areWritten : ∀ s : Statement, AreWritten s.assignments s.outline
  | .expression _ e => .simple e.isWrittenIn_step
  | .block _ body => (statements_areWritten body).filled
  | .classDeclaration _ _ name base _ body =>
    (AreWritten.head _ (className_isWrittenIn name base)).append
      ((statements_areWritten body).filled.suite _)
  | .conditional _ test yes none =>
    (AreWritten.head _ test.isWrittenIn_conditional).append (yes.areWritten.suite _)
  | .conditional _ test yes (some no) =>
    ((AreWritten.test _ _ test.isWrittenIn_conditional).append (yes.areWritten.yes _ _)).append
      (no.areWritten.no _ _)
  | .loop _ init test update body => by
    rw [Statement.assignments, Statement.outline]
    cases countOf? init test update with
    | some c => exact (AreWritten.head _ c.isWrittenIn).append (body.areWritten.suite _)
    | none =>
      have hinit := (Opening.areWritten init).left
        [.headed (.loop (test.map Expression.text))
          (body.outline ++ update.toList.map fun e => .simple e.text)]
      have htest := AreWritten.head (body.outline ++ update.toList.map fun e => .simple e.text)
        (loop_isWrittenIn test)
      have hbody := (body.areWritten.left (update.toList.map fun e => .simple e.text)).suite
        (.loop (test.map Expression.text))
      have hlast := (AreWritten.line Expression.isWrittenIn_step update).right body.outline
      have hupdate := hlast.suite (.loop (test.map Expression.text))
      exact ((hinit.append (htest.right _)).append (hbody.right _)).append (hupdate.right _)
  | .declaration d => .lines Declarator.isWrittenIn d.declarators

/-- What rendering comes to in statements is written in their blocks. -/
lemma statements_areWritten : ∀ ss : List Statement,
    AreWritten (assignmentsOfAll ss) (outlineOfAll ss)
  | [] => .nil _
  | s :: rest => (s.areWritten.left _).append ((statements_areWritten rest).right _)

end

/-- What rendering comes to in a statement or a program is written in its blocks. -/
lemma Passage.areWritten (x : Passage) : AreWritten x.assignments x.outline := by
  cases x with
  | statement s => exact s.areWritten
  | program p => exact statements_areWritten p.body

/-! ## What is got over -/

namespace Encounter

/-- Rendering gets over an encounter: it is no step, and a literal or an operator of a strict run is
portable. -/
def IsAccepted (strict : Bool) : Encounter → Prop
  | literal _ raw => strict = true → Portable.isPortableLiteral raw = true
  | operator _ _ t => strict = true → Portable.isPortableOperator t = true
  | step _ => False
  | name _ | count _ _ => True

/-- What is accepted does not end a run, and everything else does. -/
lemma meet_result_eq_ok_iff (strict : Bool) (y : Encounter) :
    (y.meet strict).result = .ok () ↔ y.IsAccepted strict := by
  cases y with
  | name | count => exact ⟨fun _ => trivial, fun _ => rfl⟩
  | step loc => exact ⟨nofun, False.elim⟩
  | literal loc raw =>
    dsimp only [meet, IsAccepted, Render.literal]
    cases Portable.isPortableLiteral raw with
    | true => exact ⟨fun _ _ => rfl, fun _ => rfl⟩
    | false =>
      cases strict with
      | false => exact ⟨fun _ => nofun, fun _ => rfl⟩
      | true => exact ⟨nofun, fun h => absurd (h rfl) nofun⟩
  | operator kind loc t =>
    have hportable : Render.isPortable (.text t) = Portable.isPortableOperator t := rfl
    have hconstant : (Value.text t).isConstant = true := rfl
    dsimp only [meet, IsAccepted, Render.operator]
    rw [hportable, hconstant]
    cases Portable.isPortableOperator t with
    | true => exact ⟨fun _ _ => rfl, fun _ => rfl⟩
    | false =>
      cases strict with
      | false => exact ⟨fun _ => nofun, fun _ => rfl⟩
      | true => exact ⟨nofun, fun h => absurd (h rfl) nofun⟩

end Encounter

/-- A run over encounters comes to its end exactly if each of them is accepted. -/
lemma meetAll_result_eq_ok_iff (strict : Bool) (ys : List Encounter) :
    (meetAll strict ys).result = .ok () ↔ ∀ y ∈ ys, y.IsAccepted strict := by
  induction ys with
  | nil => exact ⟨fun _ => nofun, fun _ => rfl⟩
  | cons y rest ih =>
    rw [List.forall_mem_cons, ← ih, ← y.meet_result_eq_ok_iff strict, meetAll_cons]
    constructor
    · intro h
      obtain ⟨⟨⟩, hy, hrest⟩ := Logged.bind_result_eq_ok h
      exact ⟨hy, hrest⟩
    · rintro ⟨hy, hrest⟩
      rw [Logged.bind_result, hy]
      exact hrest

/-- A statement or a program is rendered exactly if everything that rendering comes to in it is
accepted. -/
lemma Passage.render_isOk_iff (x : Passage) (strict : Bool) (m : Margin) :
    (∃ v, (x.toNode.render strict m).result = .ok v) ↔ ∀ y ∈ x.encounters, y.IsAccepted strict := by
  rw [← meetAll_result_eq_ok_iff, Node.render, x.render_eq strict m]
  constructor
  · rintro ⟨v, h⟩
    obtain ⟨⟨⟩, hmeet, -⟩ := Logged.bind_result_eq_ok h
    exact hmeet
  · intro h
    rw [Logged.bind_result, h]
    exact ⟨_, rfl⟩

end Syntax

open Syntax Layout

/-- Whether a statement or a program is rendered depends on the steps and on what is not portable in
it, and not on the places of its assignments.  If it is rendered, then each assignment that
rendering comes to is written: as a line where it is a statement, at the end of a line where it is a
value behind an equality sign, and inside of a line anywhere else. -/
theorem render_assignments (x : Passage) (settings : Settings) (m : Margin) :
    ((∃ v, (x.toNode.render settings.isStrict m).result = .ok v) ↔
      ∀ y ∈ x.encounters, y.IsAccepted settings.isStrict) ∧
    x.encounters.filterMap Encounter.assigned? = x.assignments.map Assignment.key ∧
    ∀ v, (x.toNode.render settings.isStrict m).result = .ok v →
      v = .text (text m.unit (rowsOf m.depth x.outline)) ∧
      ∀ a ∈ x.assignments, ∃ r ∈ rowsOf m.depth x.outline, a.IsWrittenIn r.line := by
  refine ⟨x.render_isOk_iff settings.isStrict m, x.filterMap_assigned?, fun v h => ?_⟩
  obtain ⟨hv, -⟩ := x.render_eq_ok h
  exact ⟨hv, x.areWritten m.depth⟩

/-- A call with an assignment among its arguments is rendered with it, also strictly, though the
assignment is no statement there.  With a step in the same place, rendering ends in a refusal. -/
theorem render_keeps_assignment_in_call :
    let x : Pattern := .identifier .unknown "x"
    let assigned : Expression := .assignment .unknown "=" x (.literal .unknown "1" (.int 1))
    let stepped : Expression := .step .unknown .increment (.identifier .unknown "x") false
    let call (argument : Expression) : Passage :=
      .program ⟨.unknown, [.expression .unknown
        (.call .unknown (.identifier .unknown "f") [argument])], .script⟩
    let m : Margin := ⟨Margin.defaultUnit, 0⟩
    (∃ a ∈ (call assigned).assignments, ¬a.IsProper) ∧
      ((call assigned).toNode.render true m).result = .ok (.text "f(x = 1)") ∧
      ((call stepped).toNode.render true m).result = .error (misplacedStep .unknown) := by
  intro x assigned stepped call m
  have hmem : ⟨.inside, .unknown, "=", x, .literal .unknown "1" (.int 1)⟩ ∈
      (call assigned).assignments := List.mem_singleton.mpr rfl
  exact ⟨⟨_, hmem, id⟩, rfl, rfl⟩

end Offside
