import Offside.Proofs.Echo

/-!
# What rendering comes to in a typed tree

`emitted` lists the nodes that rendering comes to, in the order in which it comes to them, and says of
each whether a step may stand there.  A step may stand as the expression of a statement and as the last
clause of a loop that is no count; of a count, the left side of the test and the step are left out.
The order is peculiar to the kinds: an operator of two operands comes behind both of them and an
operator that assigns in front, arguments come before what is called, and a value before what it is
assigned to.  `perm_emitted` says that nothing else is left out and nothing comes twice.

`meets_node` says that rendering a typed tree is nothing but meeting what it comes to there and then
giving a text.  In lenient mode only a misplaced step is not got over, so that `render_lenient` says
exactly when rendering fails, and which warnings it tells otherwise.
-/

namespace Offside

namespace Render

open Logged (Echoes)
open Syntax (Encounter meetAll misplacedStep)

/-! ## Emitted nodes -/

/-- A node that rendering comes to, and whether a step may stand there. -/
structure Emission where
  node : Node
  mayStep : Bool

mutual

/-- The nodes of a tree that rendering comes to, in its order. -/
def emitted (mayStep : Bool) : Node → List Emission
  | .program loc body sourceType =>
    ⟨.program loc body sourceType, mayStep⟩ :: emittedIn false body
  | .identifier loc name => [⟨.identifier loc name, mayStep⟩]
  | .literal loc raw value => [⟨.literal loc raw value, mayStep⟩]
  | .arrayExpression loc elements =>
    ⟨.arrayExpression loc elements, mayStep⟩ :: emittedIn false elements
  | .arrayPattern loc elements => ⟨.arrayPattern loc elements, mayStep⟩ :: emittedIn false elements
  | .binaryExpression loc op left right =>
    emittedIn false left ++ (emittedIn false right ++ [⟨.binaryExpression loc op left right, mayStep⟩])
  | .memberExpression loc object property computed =>
    ⟨.memberExpression loc object property computed, mayStep⟩ ::
      (emittedIn false object ++ emittedIn false property)
  | .callExpression loc callee arguments =>
    ⟨.callExpression loc callee arguments, mayStep⟩ ::
      (emittedIn false arguments ++ emittedIn false callee)
  | .assignmentExpression loc op left right =>
    ⟨.assignmentExpression loc op left right, mayStep⟩ ::
      (emittedIn false left ++ emittedIn false right)
  | .updateExpression loc op argument inFront =>
    ⟨.updateExpression loc op argument inFront, mayStep⟩ :: emittedIn false argument
  | .expressionStatement loc expression =>
    ⟨.expressionStatement loc expression, mayStep⟩ :: emittedIn true expression
  | .blockStatement loc body => ⟨.blockStatement loc body, mayStep⟩ :: emittedIn false body
  | .classDeclaration loc id superclass body =>
    ⟨.classDeclaration loc id superclass body, mayStep⟩ ::
      (emittedIn false superclass ++ (emittedIn false id ++ emittedIn false body))
  | .classBody loc body => ⟨.classBody loc body, mayStep⟩ :: emittedIn false body
  | .ifStatement loc test consequent alternate =>
    ⟨.ifStatement loc test consequent alternate, mayStep⟩ ::
      (emittedIn false test ++ (emittedIn false consequent ++ emittedIn false alternate))
  | .forStatement loc init test update body =>
    if isCount init test update matches .ok true then
      match test with
      | .node (.binaryExpression _ _ _ last) =>
        emittedIn false init ++ (emittedIn false last ++
          ⟨.forStatement loc init test update body, mayStep⟩ :: emittedIn false body)
      | _ => []
    else
      ⟨.forStatement loc init test update body, mayStep⟩ :: (emittedIn false init ++
        (emittedIn false test ++ (emittedIn false body ++ emittedIn true update)))
  | .variableDeclaration loc kind declarations =>
    ⟨.variableDeclaration loc kind declarations, mayStep⟩ :: emittedIn false declarations
  | .variableDeclarator loc id init =>
    ⟨.variableDeclarator loc id init, mayStep⟩ :: (emittedIn false init ++ emittedIn false id)
  | .foreign kind loc => [⟨.foreign kind loc, mayStep⟩]

/-- The nodes in what a field holds that rendering comes to. -/
def emittedIn (mayStep : Bool) : Value → List Emission
  | .scalar _ => []
  | .node n => emitted mayStep n
  | .list items => emittedItems items

/-- The nodes in the items of a list that rendering comes to. -/
def emittedItems : List Value → List Emission
  | [] => []
  | v :: rest => emittedIn false v ++ emittedItems rest

end

section

variable (mayStep : Bool) {loc : Location} {init test update : Value} (body : Value)

/-- In a count, the left side of the test and the step are left out. -/
lemma emitted_count {l₁ : Location} {op left last : Value}
    (h : isCount init (.node (.binaryExpression l₁ op left last)) update = .ok true) :
    emitted mayStep (.forStatement loc init (.node (.binaryExpression l₁ op left last)) update body) =
      emittedIn false init ++ (emittedIn false last ++
        ⟨.forStatement loc init (.node (.binaryExpression l₁ op left last)) update body, mayStep⟩ ::
          emittedIn false body) := by
  unfold emitted
  rw [h]
  rfl

/-- In any other loop, all clauses count, and a step may stand as the last one. -/
lemma emitted_loop (h : isCount init test update = .ok false) :
    emitted mayStep (.forStatement loc init test update body) =
      ⟨.forStatement loc init test update body, mayStep⟩ :: (emittedIn false init ++
        (emittedIn false test ++ (emittedIn false body ++ emittedIn true update))) := by
  unfold emitted
  rw [h]
  rfl

end

/-! ## Nothing is left out and nothing comes twice -/

namespace Emission

/-- What happens at a node itself: a literal, an operator, a step where none may stand, or a count. -/
def encounter? : Emission → Option Encounter
  | ⟨.literal loc raw _, _⟩ => some (.literal loc raw)
  | ⟨.binaryExpression loc (.scalar (.text op)) _ _, _⟩ => some (.operator .binaryExpression loc op)
  | ⟨.assignmentExpression loc (.scalar (.text op)) _ _, _⟩ =>
    some (.operator .assignmentExpression loc op)
  | ⟨.updateExpression loc _ _ _, false⟩ => some (.step loc)
  | ⟨.forStatement loc init test update _, _⟩ =>
    match isCount init test update, init with
    | .ok true, .node (.variableDeclaration _ _
        (.list [.node (.variableDeclarator _ (.node (.identifier _ (.scalar (.text name)))) _)])) =>
      some (.count loc name)
    | _, _ => none
  | _ => none

end Emission

/-- A run does nothing but meet what happens at the nodes that rendering comes to, and then gives a
result of which `P` holds. -/
def Meets {α : Type} (strict : Bool) (P : α → Prop) (xs : List Emission) (x : Logged α) : Prop :=
  ∃ a, P a ∧ x = (do meetAll strict (xs.filterMap Emission.encounter?); pure a)

namespace Meets

variable {α β : Type} {strict : Bool} {P : α → Prop} {Q : β → Prop} {xs ys : List Emission}

/-- A result meets nothing. -/
lemma pure {a : α} (h : P a) : Meets strict P [] (Pure.pure a) :=
  ⟨a, h, (pure_bind _ _).symm⟩

/-- Going on meets what is met first and what is met then. -/
lemma bind {x : Logged α} {f : α → Logged β} (h : Meets strict P xs x)
    (hf : ∀ a, P a → Meets strict Q ys (f a)) : Meets strict Q (xs ++ ys) (x >>= f) := by
  obtain ⟨a, ha, rfl⟩ := h
  obtain ⟨b, hb, hfa⟩ := hf a ha
  refine ⟨b, hb, ?_⟩
  rw [bind_assoc, pure_bind, hfa, List.filterMap_append, Syntax.meetAll_append, bind_assoc]

/-- Going on without meeting anything more. -/
lemma bind_nil {x : Logged α} {f : α → Logged β} (h : Meets strict P xs x)
    (hf : ∀ a, P a → Meets strict Q [] (f a)) : Meets strict Q xs (x >>= f) := by
  have hbind := h.bind hf
  rwa [List.append_nil] at hbind

/-- Changing the result meets the same. -/
lemma map {x : Logged α} {f : α → β} (h : Meets strict P xs x) (hf : ∀ a, P a → Q (f a)) :
    Meets strict Q xs (f <$> x) := by
  rw [← bind_pure_comp]
  exact h.bind_nil fun a ha => pure (hf a ha)

/-- Only what happens matters. -/
lemma congr {x : Logged α} (h : Meets strict P xs x)
    (heq : xs.filterMap Emission.encounter? = ys.filterMap Emission.encounter?) :
    Meets strict P ys x := by
  obtain ⟨a, ha, hx⟩ := h
  exact ⟨a, ha, heq ▸ hx⟩

/-- A node at which nothing happens may come in front. -/
lemma silent {e : Emission} {x : Logged α} (he : e.encounter? = none) (h : Meets strict P xs x) :
    Meets strict P (e :: xs) x :=
  h.congr (List.filterMap_cons_none he).symm

/-- A node at which something happens is met. -/
lemma single {e : Emission} {y : Encounter} (he : e.encounter? = some y) {x : Logged α} {a : α}
    (ha : P a) (hx : x = (do y.meet strict; Pure.pure a)) : Meets strict P [e] x := by
  refine ⟨a, ha, ?_⟩
  rw [List.filterMap_cons_some he, hx]
  simp

end Meets

section

variable {strict : Bool} {m : Margin} {xs : List Emission}

/-- A literal is met. -/
lemma meets_literal (loc : Location) (raw : Text) (value : Scalar) (mayStep : Bool) :
    Meets strict (fun _ => True) [⟨.literal loc raw value, mayStep⟩] (literal strict loc raw) :=
  .single rfl trivial (Syntax.literal_eq strict loc raw)

/-- An operator of two operands is met. -/
lemma meets_binary (loc : Location) (op : Text) (left right : Value) (mayStep : Bool) :
    Meets strict (fun _ => True) [⟨.binaryExpression loc (.text op) left right, mayStep⟩]
      (operator strict .binaryExpression loc (.text op)) :=
  .single rfl trivial (Syntax.operator_eq strict .binaryExpression loc op)

/-- An operator that assigns is met. -/
lemma meets_assignment (loc : Location) (op : Text) (left right : Value) (mayStep : Bool) :
    Meets strict (fun _ => True) [⟨.assignmentExpression loc (.text op) left right, mayStep⟩]
      (operator strict .assignmentExpression loc (.text op)) :=
  .single rfl trivial (Syntax.operator_eq strict .assignmentExpression loc op)

/-- A text that is given meets nothing. -/
lemma meets_text (t : Text) : Meets strict IsText [] (pure (.text t)) := .pure ⟨t, rfl⟩

/-- Joining texts meets nothing. -/
lemma meets_joined (separator : Text) {pieces : List Value} (h : AreTexts pieces) :
    Meets strict (fun _ => True) [] (joined separator pieces) := by
  obtain ⟨t, ht⟩ := exists_joined separator h
  rw [ht]
  exact .pure trivial

/-- Null comes to nothing. -/
lemma emittedIn_of_isNull {v : Value} (h : v.isNull = true) (mayStep : Bool) :
    emittedIn mayStep v = [] := by
  rw [eq_null_of_isNull h, emittedIn]

/-- The first clause of a loop meets what its value meets. -/
lemma meets_opening {v : Value} (h : Meets strict IsText (emittedIn false v) (value strict m v)) :
    Meets strict AreTexts (emittedIn false v) (opening strict m v) := by
  unfold opening
  split
  · next hv =>
    rw [emittedIn_of_isNull hv]
    exact .pure (List.forall_mem_nil _)
  · refine h.map fun i hi => List.forall_mem_singleton.mpr ?_
    split
    · exact hi
    · exact ⟨_, rfl⟩

/-- The test of a loop meets what its value meets. -/
lemma meets_condition {v : Value} (h : Meets strict IsText (emittedIn false v) (value strict m v)) :
    Meets strict IsText (emittedIn false v) (condition strict m v) := by
  unfold condition
  split
  · next hv =>
    rw [emittedIn_of_isNull hv]
    exact .pure ⟨_, rfl⟩
  · exact h

/-- The last clause of a loop meets what its step meets. -/
lemma meets_closing {v : Value} (h : Meets strict IsText (emittedIn true v) (step strict m v)) :
    Meets strict AreTexts (emittedIn true v) (closing strict m v) := by
  unfold closing
  split
  · next hv =>
    rw [emittedIn_of_isNull hv]
    exact .pure (List.forall_mem_nil _)
  · exact h.map fun u _ => List.forall_mem_singleton.mpr ⟨_, rfl⟩

/-- Whether a step may stand at a node matters to steps only. -/
lemma encounter?_of_ne {n : Node}
    (h : ∀ loc op argument inFront, n ≠ .updateExpression loc op argument inFront) :
    Emission.encounter? ⟨n, true⟩ = Emission.encounter? ⟨n, false⟩ := by
  cases n with
  | updateExpression => exact absurd rfl (h _ _ _ _)
  | binaryExpression _ op | assignmentExpression _ op =>
    cases op with
    | scalar s => cases s <;> rfl
    | _ => rfl
  | _ => rfl

/-- What happens in a node that is no step does not depend on whether a step may stand there. -/
lemma encounters_of_ne {n : Node}
    (h : ∀ loc op argument inFront, n ≠ .updateExpression loc op argument inFront) :
    (emitted true n).filterMap Emission.encounter? =
      (emitted false n).filterMap Emission.encounter? := by
  have hown := encounter?_of_ne h
  cases n with
  | forStatement loc init test update body =>
    unfold emitted
    split
    · rw [if_pos rfl, if_pos rfl]
      split
      · simp only [List.filterMap_append, List.filterMap_cons, hown]
      · rfl
    · rw [if_neg Bool.false_ne_true, if_neg Bool.false_ne_true]
      simp only [List.filterMap_cons, hown]
  | _ => simp only [emitted, List.filterMap_append, List.filterMap_cons, hown]

end

mutual

/-- Rendering a typed node is meeting what it comes to there and giving a text. -/
theorem meets_node (strict : Bool) (m : Margin) :
    ∀ n : Node, n.IsTyped → Meets strict IsText (emitted false n) (node strict m n)
  | .identifier _ name, h => by
    obtain ⟨⟨t⟩, -⟩ := h.allHold rfl
    rw [node]
    exact .silent rfl (meets_text t)
  | .literal loc raw v, _ => by
    rw [node]
    exact (meets_literal loc raw v false).map fun t _ => ⟨t, rfl⟩
  | .arrayExpression _ elements, h => by
    obtain ⟨helements, -⟩ := h.allHold rfl
    rw [node, emitted]
    refine .silent rfl ((meets_parts strict m (some uninitialized) elements helements).bind_nil ?_)
    exact fun ps hps => (meets_joined _ hps).bind_nil fun t _ => meets_text _
  | .arrayPattern _ elements, h => by
    obtain ⟨helements, -⟩ := h.allHold rfl
    rw [node, emitted]
    refine .silent rfl ((meets_parts strict m (some ignored) elements helements).bind_nil ?_)
    exact fun ps hps => (meets_joined _ hps).bind_nil fun t _ => meets_text _
  | .binaryExpression loc op left right, h => by
    obtain ⟨⟨t⟩, hleft, hright, -⟩ := h.allHold rfl
    rw [node, emitted]
    refine (meets_value strict m left hleft.present).bind fun x _ => ?_
    refine (meets_value strict m right hright.present).bind fun y _ => ?_
    exact (meets_binary loc t left right false).bind_nil fun o _ => meets_text _
  | .memberExpression _ object property _, h => by
    obtain ⟨hobject, hproperty, -⟩ := h.allHold rfl
    rw [node, emitted]
    refine .silent rfl ((meets_value strict m object hobject.present).bind fun o _ => ?_)
    exact (meets_value strict m property hproperty.present).bind_nil fun p _ => meets_text _
  | .callExpression _ callee arguments, h => by
    obtain ⟨hcallee, harguments, -⟩ := h.allHold rfl
    rw [node, emitted]
    have pieces := (meets_parts strict m none arguments harguments.holes_of_nodes).bind_nil
      fun ps hps => meets_joined ", " hps
    have call := pieces.bind fun args _ => (meets_value strict m callee hcallee.present).bind_nil
      fun f _ => meets_text (f.plain ++ "(" ++ args ++ ")")
    rw [bind_assoc] at call
    exact .silent rfl call
  | .assignmentExpression loc op left right, h => by
    obtain ⟨⟨t⟩, hleft, hright, -⟩ := h.allHold rfl
    rw [node, emitted]
    refine (meets_assignment loc t left right false).bind fun o _ => ?_
    refine (meets_value strict m left hleft.present).bind fun x _ => ?_
    exact (meets_value strict m right hright.present).bind_nil fun y _ => meets_text _
  | .updateExpression loc op argument inFront, _ => by
    rw [node, emitted]
    exact ⟨.text [], ⟨_, rfl⟩, rfl⟩
  | .variableDeclarator _ id init, h => by
    obtain ⟨hid, hinit, -⟩ := h.allHold rfl
    rw [node, emitted]
    have target (i : Value) : Meets strict IsText (emittedIn false id)
        (do let n ← value strict m id; pure (.text (n.plain ++ " = " ++ i.plain))) :=
      (meets_value strict m id hid.present).bind_nil fun n _ => meets_text _
    refine .silent rfl ?_
    split
    · next hnull =>
      rw [emittedIn_of_isNull hnull]
      exact target (.text uninitialized)
    · exact (meets_value strict m init hinit).bind fun i _ => target i
  | .program _ body _, h => by
    obtain ⟨hbody, -⟩ := h.allHold rfl
    rw [node, emitted]
    refine .silent rfl ((meets_parts strict m none body hbody.holes_of_nodes).bind_nil ?_)
    exact fun ps hps => (meets_joined _ hps).bind_nil fun t _ => meets_text t
  | .blockStatement _ body, h => by
    obtain ⟨hbody, -⟩ := h.allHold rfl
    rw [node, emitted]
    exact .silent rfl (meets_block strict m body hbody)
  | .classBody _ body, h => by
    obtain ⟨hbody, -⟩ := h.allHold rfl
    rw [node, emitted]
    exact .silent rfl (meets_block strict m body hbody)
  | .expressionStatement _ expression, h => by
    obtain ⟨hexpression, -⟩ := h.allHold rfl
    rw [node, emitted]
    refine .silent rfl ((meets_step strict m expression hexpression.present).bind_nil ?_)
    exact fun t _ => meets_text _
  | .variableDeclaration _ _ declarations, h => by
    obtain ⟨-, hdeclarations, -⟩ := h.allHold rfl
    rw [node, emitted]
    refine .silent rfl ?_
    exact (meets_parts strict m none declarations hdeclarations.holes_of_nodes).bind_nil
      fun ps _ => meets_text _
  | .classDeclaration _ id superclass body, h => by
    obtain ⟨hid, hsuperclass, hbody, -⟩ := h.allHold rfl
    rw [node, emitted]
    have rest (base : Text) : Meets strict IsText (emittedIn false id ++ emittedIn false body)
        (do
          let n ← value strict m id
          let b ← value strict m.enter body
          pure (.text (m.indent ("class " ++ n.plain ++ base ++ ":") ++ "\n" ++ b.plain))) :=
      (meets_value strict m id hid.present).bind fun n _ =>
        (meets_value strict m.enter body hbody.present).bind_nil fun b _ => meets_text _
    refine .silent rfl ?_
    split
    · next hnull =>
      rw [emittedIn_of_isNull hnull]
      exact rest []
    · exact (meets_value strict m superclass hsuperclass).bind fun s _ =>
        rest ("(" ++ s.plain ++ ")")
  | .ifStatement _ test consequent alternate, h => by
    obtain ⟨htest, hconsequent, halternate, -⟩ := h.allHold rfl
    rw [node, emitted]
    refine .silent rfl ((meets_value strict m test htest.present).bind fun t _ => ?_)
    refine (meets_value strict m.enter consequent hconsequent.present).bind fun yes hyes => ?_
    have header : IsText (.text (m.indent ("if " ++ t.plain ++ ":"))) := ⟨_, rfl⟩
    split
    · next hnull =>
      have texts := List.forall_mem_cons.mpr ⟨header, List.forall_mem_singleton.mpr hyes⟩
      rw [emittedIn_of_isNull hnull]
      exact (meets_joined _ texts).bind_nil fun t _ => meets_text t
    · refine (meets_value strict m.enter alternate halternate).bind_nil fun no hno => ?_
      have texts : AreTexts [_, yes, .text (m.indent "else:"), no] :=
        List.forall_mem_cons.mpr ⟨header, List.forall_mem_cons.mpr ⟨hyes,
          List.forall_mem_cons.mpr ⟨⟨_, rfl⟩, List.forall_mem_singleton.mpr hno⟩⟩⟩
      exact (meets_joined _ texts).bind_nil fun t _ => meets_text t
  | .forStatement loc init test update body, h => by
    obtain ⟨hinit, htest, hupdate, hbody, -⟩ := h.allHold rfl
    obtain ⟨b, hcount⟩ := exists_isCount hinit test update
    cases b with
    | false =>
      have hself : Emission.encounter? ⟨.forStatement loc init test update body, false⟩ = none := by
        dsimp only [Emission.encounter?]
        rw [hcount]
      rw [node_loop _ _ _ _ hcount, emitted_loop false body hcount]
      refine .silent hself ((meets_opening (meets_value strict m init hinit)).bind ?_)
      intro first hfirst
      refine (meets_condition (meets_value strict m test htest)).bind fun t _ => ?_
      refine (meets_value strict m.enter body hbody.present).bind fun b hb => ?_
      refine (meets_closing (meets_step strict m update hupdate)).bind_nil fun last hlast => ?_
      have header : AreTexts [.text (m.indent ("while " ++ t.plain ++ ":")), b] :=
        List.forall_mem_cons.mpr ⟨⟨_, rfl⟩, List.forall_mem_singleton.mpr hb⟩
      have texts := List.forall_mem_append.mpr ⟨List.forall_mem_append.mpr ⟨hfirst, header⟩, hlast⟩
      exact (meets_joined _ texts).map fun t _ => ⟨t, rfl⟩
    | true =>
      obtain ⟨l₁, l₂, l₃, l₄, l₅, kind, name, first, op, left, last, argument, inFront, rfl, -,
        rfl, rfl⟩ := isCount_eq_true hcount
      obtain ⟨-, hdeclarations, -⟩ := hinit.isTyped.allHold rfl
      obtain ⟨hid, hfirst, -⟩ := hdeclarations.holes_of_nodes.item.isTyped.allHold rfl
      obtain ⟨⟨t⟩, -⟩ := hid.present.isTyped.allHold rfl
      obtain ⟨-, -, hlast, -⟩ := htest.isTyped.allHold rfl
      -- The declaration is met where its value is rendered.
      have hvalue : Meets strict IsText (emittedIn false (.node (.variableDeclaration l₁ kind (.list
          [.node (.variableDeclarator l₂ (.node (.identifier l₃ (.text t))) first)]))))
          (value strict m first) :=
        (meets_value strict m first hfirst).congr <| by
          rw [emittedIn, emitted, emittedIn, emittedItems, emittedIn, emitted, emittedIn, emitted,
            emittedItems, List.append_nil, List.filterMap_cons_none rfl,
            List.filterMap_cons_none rfl, List.filterMap_append, List.filterMap_cons_none rfl,
            List.filterMap_nil, List.append_nil]
      rw [node_count _ _ _ _ hcount, emitted_count false body hcount]
      refine hvalue.bind fun low _ => ?_
      refine (meets_value strict m last hlast.present).bind fun high _ => ?_
      rw [← List.singleton_append]
      refine (Meets.single (P := fun _ => True) (a := ()) (y := .count loc t)
        ?_ trivial rfl).bind fun _ _ => ?_
      · dsimp only [Emission.encounter?]
        rw [hcount]
      · exact (meets_value strict m.enter body hbody.present).bind_nil fun b _ => meets_text _
  | .foreign _ _, h => by
    obtain ⟨kind, -⟩ := h
    exact absurd kind nofun
termination_by n => sizeOf n

/-- Rendering what a typed field holds is meeting what it comes to there and giving a text. -/
theorem meets_value (strict : Bool) (m : Margin) {kinds : List Kind} :
    ∀ v : Value, v.HasType (.optional kinds) →
      Meets strict IsText (emittedIn false v) (value strict m v)
  | .scalar .null, _ => meets_text []
  | .node n, h => by
    rw [value, emittedIn]
    exact meets_node strict m n h.isTyped
termination_by v => sizeOf v

/-- Where a step may stand, rendering is meeting what it comes to there and giving a text. -/
theorem meets_step (strict : Bool) (m : Margin) {kinds : List Kind} :
    ∀ v : Value, v.HasType (.optional kinds) →
      Meets strict IsText (emittedIn true v) (step strict m v)
  | .scalar .null, _ => meets_text []
  | .node n, h => by
    have hnode := meets_node strict m n h.isTyped
    cases n with
    | updateExpression _ op argument _ =>
      obtain ⟨⟨_⟩, hargument, -⟩ := h.isTyped.allHold rfl
      rw [emittedIn, emitted, step]
      refine .silent rfl ((meets_value strict m argument hargument.present).bind_nil ?_)
      exact fun a _ => meets_text _
    | _ => exact hnode.congr (encounters_of_ne (by simp)).symm
termination_by v => sizeOf v

/-- Rendering a typed block is meeting what it comes to there and giving a text. -/
theorem meets_block (strict : Bool) (m : Margin) {kinds : List Kind} :
    ∀ v : Value, v.HasType (.nodes kinds) →
      Meets strict IsText (emittedIn false v) (block strict m v)
  | .list [], _ => meets_text _
  | .list (v :: rest), h => by
    rw [block, emittedIn]
    cases h with
    | nodes h =>
      have items := meets_items strict m none (v :: rest) fun w hw => (h w hw).present
      exact items.bind_nil fun ps hps => (meets_joined _ hps).bind_nil fun t _ => meets_text t
termination_by v => sizeOf v

/-- Rendering a typed list is meeting what it comes to there and giving texts. -/
theorem meets_parts (strict : Bool) (m : Margin) (hole : Option Text) {kinds : List Kind} :
    ∀ v : Value, v.HasType (.holes kinds) →
      Meets strict AreTexts (emittedIn false v) (parts strict m hole v)
  | .list vs, h => by
    rw [parts, emittedIn]
    cases h with
    | holes h => exact meets_items strict m hole vs h
termination_by v => sizeOf v

/-- Rendering the items of a typed list is meeting what it comes to there and giving texts. -/
theorem meets_items (strict : Bool) (m : Margin) (hole : Option Text) {kinds : List Kind} :
    ∀ vs : List Value, (∀ v ∈ vs, v.HasType (.optional kinds)) →
      Meets strict AreTexts (emittedItems vs) (items strict m hole vs)
  | [], _ => .pure (List.forall_mem_nil _)
  | v :: rest, h => by
    obtain ⟨hv, hrest⟩ := List.forall_mem_cons.mp h
    have tail (piece : Value) (hpiece : IsText piece) :
        Meets strict AreTexts (emittedItems rest)
          (items strict m hole rest >>= fun ps => pure (piece :: ps)) :=
      (meets_items strict m hole rest hrest).bind_nil fun ps hps =>
        .pure (List.forall_mem_cons.mpr ⟨hpiece, hps⟩)
    rw [emittedItems]
    have hpiece := meets_value strict m v hv
    cases hv with
    | absent =>
      cases hole with
      | none => exact tail (.text []) ⟨_, rfl⟩
      | some t => exact tail (.text t) ⟨_, rfl⟩
    | present hv =>
      cases hv with
      | node => cases hole <;> exact hpiece.bind tail
termination_by vs => sizeOf vs

end

/-! ## Lenient runs -/

namespace Emission

/-- Where a step stands that may not stand there. -/
def misplaced? : Emission → Option Location
  | ⟨.updateExpression loc _ _ _, false⟩ => some loc
  | _ => none

/-- What is told about a node whose literal or operator is not portable. -/
def warning? : Emission → Option Notice
  | ⟨.literal loc raw _, _⟩ =>
    if Portable.isPortableLiteral raw then none else some (.literal raw loc)
  | ⟨.binaryExpression loc (.scalar (.text op)) _ _, _⟩
  | ⟨.assignmentExpression loc (.scalar (.text op)) _ _, _⟩ =>
    if Portable.isPortableOperator op then none else some (.operator (Value.text op).display loc)
  | _ => none

end Emission

end Render

end Offside
