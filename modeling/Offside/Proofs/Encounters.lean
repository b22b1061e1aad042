import Offside.Proofs.Syntax

/-!
# What is rendered for expressions

Rendering a well-typed tree does two things: it meets the names, literals, operators and steps of
the tree in a fixed order, and it writes a text.  Neither depends on the other.  `encounters`
lists what is met and in which order; each encounter may be told, or end the run.  `text` is what
is written.

`Expression.render_eq` says that rendering an expression is nothing but meeting its encounters and
then giving its text.  The margin plays no part in it.  In lenient mode only a misplaced step is not
got over (`meetAll_lenient`).
-/

namespace Offside

namespace Syntax

/-- A text is shown as it is. -/
@[simp] lemma plain_text (t : Text) : (Value.text t).plain = t := rfl

/-- A text is told by what is shown. -/
lemma text_injective : Function.Injective Value.text :=
  fun _ _ h => Scalar.text.inj (Value.scalar.inj h)

/-! ## Encounters -/

/-- What rendering comes to in a tree. -/
inductive Encounter where
  | name (t : Text)
  | literal (loc : Location) (raw : Text)
  | operator (kind : Kind) (loc : Location) (t : Text)
  /-- A step where none may stand. -/
  | step (loc : Location)
  /-- A loop over a name that is rendered as a count. -/
  | count (loc : Location) (name : Text)

/-- What happens at an encounter. -/
def Encounter.meet (strict : Bool) : Encounter → Logged Unit
  | name _ => pure ()
  | literal loc raw => (fun _ => ()) <$> Render.literal strict loc raw
  | operator kind loc t => (fun _ => ()) <$> Render.operator strict kind loc (.text t)
  | step loc =>
    .fail (.unsupported
      ⟨Kind.updateExpression.name, [], some loc, some "only valid as a statement"⟩)
  | count loc t => Logged.tell (.countingLoop t loc)

/-- What happens at encounters, one after the other. -/
def meetAll (strict : Bool) (xs : List Encounter) : Logged Unit :=
  xs.forM (Encounter.meet strict)

section

variable (strict : Bool)

/-- Without an encounter nothing happens. -/
@[simp] lemma meetAll_nil : meetAll strict [] = pure () := rfl

/-- Encounters are met in order. -/
@[simp] lemma meetAll_cons (x : Encounter) (xs : List Encounter) :
    meetAll strict (x :: xs) = (do x.meet strict; meetAll strict xs) := rfl

/-- Encounters in two parts are met part by part. -/
@[simp] lemma meetAll_append (xs ys : List Encounter) :
    meetAll strict (xs ++ ys) = (do meetAll strict xs; meetAll strict ys) := by
  induction xs with
  | nil => simp
  | cons x rest ih => simp [ih]

/-- If all encounters are got over, then each one is. -/
lemma meet_result_of_meetAll {xs : List Encounter} (h : (meetAll strict xs).result = .ok ()) :
    ∀ x ∈ xs, (x.meet strict).result = .ok () := by
  induction xs with
  | nil => exact nofun
  | cons x rest ih =>
    obtain ⟨⟨⟩, hx, hrest⟩ := Logged.bind_result_eq_ok h
    rw [List.forall_mem_cons]
    exact ⟨hx, ih hrest⟩

/-- A literal is written as it is. -/
lemma literal_eq (loc : Location) (raw : Text) :
    Render.literal strict loc raw = (do (Encounter.literal loc raw).meet strict; pure raw) := by
  refine Logged.eq_map_bind_pure fun b hb => ?_
  unfold Render.literal at hb
  split at hb
  · exact (Except.ok.inj hb).symm
  · split at hb
    · exact absurd hb nofun
    · exact (Except.ok.inj hb).symm

/-- An operator is written as it is. -/
lemma operator_eq (kind : Kind) (loc : Location) (t : Text) :
    Render.operator strict kind loc (.text t) =
      (do (Encounter.operator kind loc t).meet strict; pure t) := by
  refine Logged.eq_map_bind_pure fun b hb => ?_
  unfold Render.operator at hb
  split at hb
  · exact (Except.ok.inj hb).symm
  · split at hb
    · exact absurd hb nofun
    · split at hb
      · exact absurd hb nofun
      · exact (Except.ok.inj hb).symm

end

/-- Pieces that are texts are joined. -/
lemma joined_text (separator : Text) (ts : List Text) :
    Render.joined separator (ts.map Value.text) = pure (Text.join separator ts) := by
  have h (f : Value → Option Text) (hf : ∀ t, f (.text t) = some t) :
      (ts.map Value.text).mapM f = some ts := by
    induction ts with
    | nil => rfl
    | cons t rest ih =>
      rw [List.map_cons, List.mapM_cons, hf, ih]
      rfl
  unfold Render.joined
  rw [h _ fun _ => rfl]

/-! ## Expressions -/

/-- The expression is a binary one. -/
def Expression.isBinary : Expression → Bool
  | .binary .. => true
  | _ => false

/-- An operand, in parentheses if it is a binary expression. -/
def enclosed (inner : Bool) (t : Text) : Text := if inner then "(" ++ t ++ ")" else t

mutual

/-- What is written for an expression; a step is written as a statement. -/
def Expression.text : Expression → Text
  | .identifier _ name => name
  | .literal _ raw _ => raw
  | .array _ elements => "[ " ++ Text.join ", " (elementTexts elements) ++ " ]"
  | .binary _ operator left right =>
    enclosed left.isBinary left.text ++ " " ++ operator ++ " " ++ enclosed right.isBinary right.text
  | .member _ object property _ => object.text ++ "." ++ property.text
  | .call _ callee arguments =>
    callee.text ++ "(" ++ Text.join ", " (argumentTexts arguments) ++ ")"
  | .assignment _ operator target value => target.text ++ " " ++ operator ++ " " ++ value.text
  | .step _ operator argument _ =>
    argument.text ++ " " ++ Render.stepOperator (.text operator.spelling) ++ " 1"

/-- What is written for a pattern. -/
def Pattern.text : Pattern → Text
  | .identifier _ name => name
  | .array _ elements => "[ " ++ Text.join ", " (targetTexts elements) ++ " ]"
  | .member _ object property _ => object.text ++ "." ++ property.text

/-- What is written for the elements of an array. -/
def elementTexts : List (Option Expression) → List Text
  | [] => []
  | none :: rest => Render.uninitialized :: elementTexts rest
  | some e :: rest => e.text :: elementTexts rest

/-- What is written for the elements of an array pattern. -/
def targetTexts : List (Option Pattern) → List Text
  | [] => []
  | none :: rest => Render.ignored :: targetTexts rest
  | some p :: rest => p.text :: targetTexts rest

/-- What is written for the arguments of a call. -/
def argumentTexts : List Expression → List Text
  | [] => []
  | e :: rest => e.text :: argumentTexts rest

end

mutual

/-- What rendering comes to in an expression. -/
def Expression.encounters : Expression → List Encounter
  | .identifier _ name => [.name name]
  | .literal loc raw _ => [.literal loc raw]
  | .array _ elements => elementEncounters elements
  | .binary loc operator left right =>
    left.encounters ++ right.encounters ++ [.operator .binaryExpression loc operator]
  | .member _ object property _ => object.encounters ++ property.encounters
  | .call _ callee arguments => argumentEncounters arguments ++ callee.encounters
  | .assignment loc operator target value =>
    .operator .assignmentExpression loc operator :: (target.encounters ++ value.encounters)
  | .step loc _ _ _ => [.step loc]

/-- What rendering comes to in a pattern. -/
def Pattern.encounters : Pattern → List Encounter
  | .identifier _ name => [.name name]
  | .array _ elements => targetEncounters elements
  | .member _ object property _ => object.encounters ++ property.encounters

/-- What rendering comes to in the elements of an array. -/
def elementEncounters : List (Option Expression) → List Encounter
  | [] => []
  | none :: rest => elementEncounters rest
  | some e :: rest => e.encounters ++ elementEncounters rest

/-- What rendering comes to in the elements of an array pattern. -/
def targetEncounters : List (Option Pattern) → List Encounter
  | [] => []
  | none :: rest => targetEncounters rest
  | some p :: rest => p.encounters ++ targetEncounters rest

/-- What rendering comes to in the arguments of a call. -/
def argumentEncounters : List Expression → List Encounter
  | [] => []
  | e :: rest => e.encounters ++ argumentEncounters rest

end

/-- What rendering comes to where a step may stand. -/
def Expression.stepEncounters : Expression → List Encounter
  | .step _ _ argument _ => argument.encounters
  | e => e.encounters

section

variable (strict : Bool) (m : Margin)

/-- An operand is put in parentheses if it is a binary expression. -/
lemma wrapped_toNode (e : Expression) (t : Text) :
    Render.wrapped (.node e.toNode) t = enclosed e.isBinary t := by
  cases e <;> rfl

mutual

/-- Rendering an expression is meeting its encounters and giving its text. -/
lemma Expression.render_eq : (e : Expression) → Render.node strict m e.toNode =
    (do meetAll strict e.encounters; pure (.text e.text))
  | .identifier _ name => by
    simp [Expression.toNode, Expression.text, Expression.encounters, Render.node, Encounter.meet]
  | .literal loc raw _ => by
    simp [Expression.toNode, Expression.text, Expression.encounters, Render.node, literal_eq]
  | .array _ elements => by
    simp only [Expression.toNode, Expression.text, Expression.encounters, Render.node,
      Render.parts, elements_eq elements, bind_assoc, pure_bind, joined_text]
  | .binary loc operator left right => by
    simp [Expression.toNode, Expression.text, Expression.encounters, Render.node, Render.value,
      left.render_eq, right.render_eq, operator_eq, wrapped_toNode]
  | .member _ object property _ => by
    simp [Expression.toNode, Expression.text, Expression.encounters, Render.node, Render.value,
      object.render_eq, property.render_eq]
  | .call _ callee arguments => by
    simp [Expression.toNode, Expression.text, Expression.encounters, Render.node, Render.value,
      Render.parts, arguments_eq arguments, joined_text, callee.render_eq]
  | .assignment loc operator target value => by
    simp [Expression.toNode, Expression.text, Expression.encounters, Render.node, Render.value,
      target.render_eq, value.render_eq, operator_eq]
  | .step loc _ _ _ => by
    simp [Expression.toNode, Expression.encounters, Render.node, Encounter.meet]

/-- Rendering a pattern is meeting its encounters and giving its text. -/
lemma Pattern.render_eq : (p : Pattern) → Render.node strict m p.toNode =
    (do meetAll strict p.encounters; pure (.text p.text))
  | .identifier _ name => by
    simp [Pattern.toNode, Pattern.text, Pattern.encounters, Render.node, Encounter.meet]
  | .array _ elements => by
    simp only [Pattern.toNode, Pattern.text, Pattern.encounters, Render.node, Render.parts,
      targets_eq elements, bind_assoc, pure_bind, joined_text]
  | .member _ object property _ => by
    simp [Pattern.toNode, Pattern.text, Pattern.encounters, Render.node, Render.value,
      object.render_eq, property.render_eq]

/-- Rendering the elements of an array is meeting their encounters and giving their texts. -/
lemma elements_eq : (es : List (Option Expression)) →
    Render.items strict m (some Render.uninitialized) (elementsToValues es) =
      (do meetAll strict (elementEncounters es); pure ((elementTexts es).map Value.text))
  | [] => by simp [elementsToValues, elementEncounters, elementTexts, Render.items]
  | none :: rest => by
    simp [elementsToValues, elementEncounters, elementTexts, Render.items, elements_eq rest]
  | some e :: rest => by
    simp [elementsToValues, elementEncounters, elementTexts, Render.items, Render.value,
      e.render_eq, elements_eq rest]

/-- Rendering the elements of an array pattern is meeting their encounters and giving their
texts. -/
lemma targets_eq : (ps : List (Option Pattern)) →
    Render.items strict m (some Render.ignored) (targetsToValues ps) =
      (do meetAll strict (targetEncounters ps); pure ((targetTexts ps).map Value.text))
  | [] => by simp [targetsToValues, targetEncounters, targetTexts, Render.items]
  | none :: rest => by
    simp [targetsToValues, targetEncounters, targetTexts, Render.items, targets_eq rest]
  | some p :: rest => by
    simp [targetsToValues, targetEncounters, targetTexts, Render.items, Render.value,
      p.render_eq, targets_eq rest]

/-- Rendering the arguments of a call is meeting their encounters and giving their texts. -/
lemma arguments_eq : (es : List Expression) →
    Render.items strict m none (argumentsToValues es) =
      (do meetAll strict (argumentEncounters es); pure ((argumentTexts es).map Value.text))
  | [] => by simp [argumentsToValues, argumentEncounters, argumentTexts, Render.items]
  | e :: rest => by
    simp [argumentsToValues, argumentEncounters, argumentTexts, Render.items, Render.value,
      e.render_eq, arguments_eq rest]

end

/-- Where a step may stand, rendering is meeting the encounters and giving the text as well. -/
lemma Expression.step_eq (e : Expression) : Render.step strict m (.node e.toNode) =
    (do meetAll strict e.stepEncounters; pure (.text e.text)) := by
  cases e with
  | step loc operator argument inFront =>
    simp [toNode, text, stepEncounters, Render.step, Render.value, argument.render_eq]
  | _ => exact render_eq strict m _

end

/-! ## Declarators -/

/-- What is written for a declarator; a variable without a value is given one. -/
def Declarator.text (d : Declarator) : Text :=
  d.target.text ++ " = " ++ (d.value.map Expression.text).getD Render.uninitialized

/-- What rendering comes to in a declarator; the value comes first. -/
def Declarator.encounters (d : Declarator) : List Encounter :=
  (d.value.map Expression.encounters).getD [] ++ d.target.encounters

section

variable (strict : Bool) (m : Margin)

/-- Rendering a declarator is meeting its encounters and giving its text. -/
lemma Declarator.render_eq (d : Declarator) : Render.node strict m d.toNode =
    (do meetAll strict d.encounters; pure (.text d.text)) := by
  obtain ⟨loc, target, _ | value⟩ := d
  · simp [toNode, text, encounters, Expression.toValue, Render.node, Render.value, Value.isNull,
      target.render_eq]
  · simp [toNode, text, encounters, Expression.toValue, Render.node, Render.value, Value.isNull,
      target.render_eq, value.render_eq]

/-- Rendering declarators is meeting their encounters and giving their texts. -/
lemma declarators_eq (ds : List Declarator) :
    Render.items strict m none (ds.map fun x => .node x.toNode) =
      (do meetAll strict (ds.flatMap Declarator.encounters)
          pure (ds.map fun x => Value.text x.text)) := by
  induction ds with
  | nil => simp [Render.items]
  | cons d rest ih => simp [Render.items, Render.value, d.render_eq, ih]

end

/-! ## Lenient runs -/

/-- The refusal of a step where none may stand. -/
def misplacedStep (loc : Location) : Fault :=
  .unsupported
    ⟨Kind.updateExpression.name, [], some loc, some "only valid as a statement"⟩

namespace Encounter

/-- Where a step stands that may not stand there. -/
def misplaced? : Encounter → Option Location
  | step loc => some loc
  | _ => none

/-- What is told about a literal or an operator that is not portable. -/
def warning? : Encounter → Option Notice
  | literal loc raw =>
    if Portable.isPortableLiteral raw then none else some (.literal raw loc)
  | operator _ loc t =>
    if Portable.isPortableOperator t then none else some (.operator (Value.text t).display loc)
  | _ => none

/-- In lenient mode everything but a misplaced step is got over, with a warning if it is not
portable. -/
lemma meet_lenient (x : Encounter) :
    (∃ loc, x.misplaced? = some loc ∧ x.meet false = .fail (misplacedStep loc)) ∨
    (x.misplaced? = none ∧ (x.meet false).result = .ok () ∧
      (x.meet false).log.filter Notice.isWarning = x.warning?.toList) := by
  cases x with
  | step loc => exact .inl ⟨loc, rfl, rfl⟩
  | name | count => exact .inr ⟨rfl, rfl, rfl⟩
  | literal loc raw =>
    refine .inr ⟨rfl, ?_⟩
    dsimp only [meet, Render.literal, warning?]
    split <;> exact ⟨rfl, rfl⟩
  | operator kind loc t =>
    refine .inr ⟨rfl, ?_⟩
    have hportable : Render.isPortable (.text t) = Portable.isPortableOperator t := rfl
    dsimp only [meet, Render.operator, warning?]
    rw [hportable]
    split <;> exact ⟨rfl, rfl⟩

end Encounter

/-- In lenient mode the first misplaced step ends a run; without one, everything is got over, and
what is not portable is warned about. -/
lemma meetAll_lenient (xs : List Encounter) :
    (∀ loc, xs.findSome? Encounter.misplaced? = some loc →
      (meetAll false xs).result = .error (misplacedStep loc)) ∧
    (xs.findSome? Encounter.misplaced? = none → (meetAll false xs).result = .ok () ∧
      (meetAll false xs).log.filter Notice.isWarning = xs.filterMap Encounter.warning?) := by
  induction xs with
  | nil => exact ⟨nofun, fun _ => ⟨rfl, rfl⟩⟩
  | cons x rest ih =>
    rw [meetAll_cons]
    obtain ⟨loc, hx, hmeet⟩ | ⟨hx, hresult, hlog⟩ := x.meet_lenient
    · rw [List.findSome?_cons_of_isSome (by rw [hx]; rfl), hx, hmeet, Logged.fail_bind]
      refine ⟨fun loc' h => ?_, nofun⟩
      rw [Option.some.inj h]
      rfl
    · rw [List.findSome?_cons_of_isNone (by rw [hx]; rfl)]
      obtain ⟨hfails, hpasses⟩ := ih
      have hrun : (do x.meet false; meetAll false rest) =
          ⟨(x.meet false).log ++ (meetAll false rest).log, (meetAll false rest).result⟩ :=
        Logged.bind_of_result_eq_ok hresult _
      rw [hrun]
      refine ⟨hfails, fun hnone => ⟨(hpasses hnone).1, ?_⟩⟩
      rw [List.filter_append, hlog, (hpasses hnone).2, List.filterMap_cons]
      cases x.warning? <;> rfl

/-- In lenient mode an expression in which no step is misplaced is rendered as its text. -/
lemma Expression.render_eq_text {e : Expression} (h : ∀ x ∈ e.encounters, x.misplaced? = none)
    (m : Margin) : (e.toNode.render false m).result = .ok (.text e.text) := by
  have hmeets := (meetAll_lenient e.encounters).2 (List.findSome?_eq_none_iff.mpr h)
  have hrender : e.toNode.render false m = _ := e.render_eq false m
  rw [hrender, Logged.bind_result, hmeets.1]
  rfl

end Syntax

end Offside
