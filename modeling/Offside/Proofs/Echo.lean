import Offside.Proofs.Encounters
import Offside.Proofs.Essence
import Offside.Proofs.Strictness

/-!
# Rendering does not look at what is for information

Typed trees with the same essence are rendered alike.  The two runs give the same text, or both
refuse the same construct for the same reason, and what they tell on the way is the same as well,
but for the locations in it; nothing else can happen to a typed tree.

`Echoes` relates two runs that end alike, and `Mirrors` two runs that also tell the same.  It holds
of the two runs over a literal or an operator, and going on from related runs gives related runs, so
that it holds of a whole tree and its essence (`Render.mirrors_node`).  A typed tree keeps its
essence when its locations change, or its numbers with a fraction, so it is rendered as before then
(`Render.echoes_node`).
-/

namespace Offside

/-! ## Runs that end alike -/

/-- Two runs end alike: with the same result, of which `P` holds, or with the refusal of the same
construct for the same reason.  What they have told does not matter. -/
inductive Logged.Echoes {α : Type} (P : α → Prop) (x y : Logged α) : Prop
  | ok (a : α) (holds : P a) (left : x.result = .ok a) (right : y.result = .ok a)
  | unsupported (u v : Unsupported) (kind : u.kind = v.kind) (detail : u.detail = v.detail)
    (left : x.result = .error (.unsupported u)) (right : y.result = .error (.unsupported v))

namespace Logged.Echoes

variable {α β : Type} {P : α → Prop} {Q : β → Prop}

/-- A result ends as itself. -/
lemma pure {a : α} (h : P a) : Echoes P (Pure.pure a) (Pure.pure a) := .ok a h rfl rfl

/-- Going on from runs that end alike gives runs that end alike. -/
lemma bind {x y : Logged α} {f g : α → Logged β} (h : Echoes P x y)
    (hf : ∀ a, P a → Echoes Q (f a) (g a)) : Echoes Q (x >>= f) (y >>= g) := by
  obtain ⟨log, x⟩ := x
  obtain ⟨log', y⟩ := y
  cases h with
  | ok a holds left right =>
    obtain rfl : x = .ok a := left
    obtain rfl : y = .ok a := right
    rw [ok_bind, ok_bind]
    cases hf a holds with
    | ok b holds left right => exact .ok b holds left right
    | unsupported u v kind detail left right => exact .unsupported u v kind detail left right
  | unsupported u v kind detail left right =>
    obtain rfl : x = .error (.unsupported u) := left
    obtain rfl : y = .error (.unsupported v) := right
    exact .unsupported u v kind detail rfl rfl

/-- What one of the runs has told before does not matter. -/
lemma after {x : Logged α} {a : α} (hx : x.result = .ok a) {f : α → Logged β} {y : Logged β}
    (h : Echoes Q (f a) y) : Echoes Q (x >>= f) y := by
  obtain ⟨log, x⟩ := x
  obtain rfl : x = .ok a := hx
  rw [ok_bind]
  cases h with
  | ok b holds left right => exact .ok b holds left right
  | unsupported u v kind detail left right => exact .unsupported u v kind detail left right

/-- Runs end alike both ways. -/
lemma symm {x y : Logged α} (h : Echoes P x y) : Echoes P y x := by
  cases h with
  | ok a holds left right => exact .ok a holds right left
  | unsupported u v kind detail left right =>
    exact .unsupported v u kind.symm detail.symm right left

/-- Runs that end like the same run end alike. -/
lemma trans {x y z : Logged α} (hxy : Echoes P x y) (hyz : Echoes P y z) : Echoes P x z := by
  cases hxy with
  | ok a holds left right =>
    cases hyz with
    | ok b _ left' right' =>
      obtain rfl := Except.ok.inj (right.symm.trans left')
      exact .ok a holds left right'
    | unsupported u v _ _ left' _ => exact absurd (right.symm.trans left') nofun
  | unsupported u v kind detail left right =>
    cases hyz with
    | ok b _ left' _ => exact absurd (right.symm.trans left') nofun
    | unsupported u' v' kind' detail' left' right' =>
      obtain rfl := Fault.unsupported.inj (Except.error.inj (right.symm.trans left'))
      exact .unsupported u v' (kind.trans kind') (detail.trans detail') left right'

end Logged.Echoes

/-! ## Runs that tell the same -/

/-- A notice without the location in it. -/
def Notice.unplaced : Notice → Notice
  | .parsed length sourceType => .parsed length sourceType
  | .rendering statements => .rendering statements
  | .countingLoop name _ => .countingLoop name .unknown
  | .literal raw _ => .literal raw .unknown
  | .operator shown _ => .operator shown .unknown

/-- A fault without the location and the file in it. -/
def Fault.unplaced : Fault → Fault
  | .refused r => .refused { r with file := .null }
  | .unsupported u => .unsupported { u with location := none }
  | .malformed (.missing kind _ key) => .malformed (.missing kind .unknown key)
  | .malformed (.noText _) => .malformed (.noText .unknown)
  | fault => fault

/-- What a run has told and its result, without the locations in it. -/
def Logged.unplaced {α : Type} (x : Logged α) : Logged α :=
  ⟨x.log.map Notice.unplaced, x.result.mapError Fault.unplaced⟩

/-- Two runs end alike and have told the same, but for the locations. -/
structure Logged.Mirrors {α : Type} (P : α → Prop) (x y : Logged α) : Prop where
  ends : Echoes P x y
  unplaced : x.unplaced = y.unplaced

namespace Logged.Mirrors

variable {α β : Type} {P : α → Prop} {Q : β → Prop} {x y z : Logged α}

/-- A result ends as itself. -/
lemma pure {a : α} (h : P a) : Mirrors P (Pure.pure a) (Pure.pure a) := ⟨.pure h, rfl⟩

/-- What is told mirrors what is told elsewhere. -/
lemma tell {n m : Notice} (h : n.unplaced = m.unplaced) :
    Mirrors (fun _ => True) (Logged.tell n) (Logged.tell m) := by
  refine ⟨.ok () trivial rfl rfl, ?_⟩
  unfold Logged.unplaced Logged.tell
  rw [List.map_singleton, List.map_singleton, h]

/-- A refusal mirrors one elsewhere. -/
lemma unsupported (kind : Text) (detail : Option Text) (loc loc' : Option Location) :
    Mirrors P (.fail (.unsupported ⟨kind, [], loc, detail⟩) : Logged α)
      (.fail (.unsupported ⟨kind, [], loc', detail⟩)) :=
  ⟨.unsupported ⟨kind, [], loc, detail⟩ ⟨kind, [], loc', detail⟩ rfl rfl rfl rfl, rfl⟩

/-- Going on from runs that mirror each other gives runs that do. -/
lemma bind {f g : α → Logged β} (h : Mirrors P x y) (hf : ∀ a, P a → Mirrors Q (f a) (g a)) :
    Mirrors Q (x >>= f) (y >>= g) := by
  refine ⟨h.ends.bind fun a ha => (hf a ha).ends, ?_⟩
  obtain ⟨ends, hunplaced⟩ := h
  obtain ⟨log, x⟩ := x
  obtain ⟨log', y⟩ := y
  obtain ⟨hlog, hresult⟩ := Logged.mk.inj hunplaced
  cases ends with
  | ok a holds left right =>
    obtain rfl : x = .ok a := left
    obtain rfl : y = .ok a := right
    obtain ⟨hlogs, hresults⟩ := Logged.mk.inj (hf a holds).unplaced
    unfold Logged.unplaced
    rw [ok_bind, ok_bind, List.map_append, List.map_append, hlog, hlogs, hresults]
  | unsupported u v kind detail left right =>
    obtain rfl : x = .error (.unsupported u) := left
    obtain rfl : y = .error (.unsupported v) := right
    have hfault : (Fault.unsupported u).unplaced = (Fault.unsupported v).unplaced :=
      Except.error.inj hresult
    change (⟨log.map Notice.unplaced, .error (Fault.unsupported u).unplaced⟩ : Logged β) =
      ⟨log'.map Notice.unplaced, .error (Fault.unsupported v).unplaced⟩
    rw [hlog, hfault]

/-- Changing the results of runs that mirror each other gives runs that do. -/
lemma map (h : Mirrors P x y) {f : α → β} (hf : ∀ a, P a → Q (f a)) :
    Mirrors Q (f <$> x) (f <$> y) := by
  rw [← bind_pure_comp, ← bind_pure_comp]
  exact h.bind fun a ha => pure (hf a ha)

/-- Runs mirror each other both ways. -/
lemma symm (h : Mirrors P x y) : Mirrors P y x := ⟨h.ends.symm, h.unplaced.symm⟩

/-- Runs that mirror the same run mirror each other. -/
lemma trans (hxy : Mirrors P x y) (hyz : Mirrors P y z) : Mirrors P x z :=
  ⟨hxy.ends.trans hyz.ends, hxy.unplaced.trans hyz.unplaced⟩

end Logged.Mirrors

namespace Render

open Logged (Echoes Mirrors)

/-- A value is a text. -/
def IsText (v : Value) : Prop := ∃ t, v = .text t

/-- A text that is given ends as itself. -/
lemma mirrors_text (t : Text) : Mirrors IsText (pure (.text t)) (pure (.text t)) := .pure ⟨t, rfl⟩

/-! ## The two runs over parts -/

/-- A literal is rendered alike wherever it stands. -/
lemma mirrors_literal (strict : Bool) (loc loc' : Location) (raw : Text) :
    Mirrors (fun _ => True) (literal strict loc raw) (literal strict loc' raw) := by
  rw [literal, literal]
  split
  · exact .pure trivial
  · cases strict with
    | true => exact .unsupported _ _ _ _
    | false => exact Mirrors.bind (.tell rfl) fun _ _ => .pure trivial

/-- An operator is rendered alike wherever it stands. -/
lemma mirrors_operator (strict : Bool) (kind : Kind) (loc loc' : Location) (t : Text) :
    Mirrors (fun _ => True) (operator strict kind loc (.text t))
      (operator strict kind loc' (.text t)) := by
  rw [operator, operator]
  split
  · exact .pure trivial
  · cases strict with
    | true => exact .unsupported _ _ _ _
    | false => exact Mirrors.bind (.tell rfl) fun _ _ => .pure trivial

/-- Texts are joined to a text. -/
lemma exists_joined (separator : Text) {pieces : List Value} (h : ∀ v ∈ pieces, IsText v) :
    ∃ t, joined separator pieces = pure t := by
  obtain ⟨ts, rfl⟩ : ∃ ts : List Text, pieces = ts.map Value.text := by
    induction pieces with
    | nil => exact ⟨[], rfl⟩
    | cons v rest ih =>
      obtain ⟨⟨t, rfl⟩, hrest⟩ := List.forall_mem_cons.mp h
      obtain ⟨ts, rfl⟩ := ih hrest
      exact ⟨t :: ts, rfl⟩
  exact ⟨_, Syntax.joined_text separator ts⟩

/-- Texts are joined. -/
lemma mirrors_joined (separator : Text) {pieces : List Value} (h : ∀ v ∈ pieces, IsText v) :
    Mirrors (fun _ => True) (joined separator pieces) (joined separator pieces) := by
  obtain ⟨t, ht⟩ := exists_joined separator h
  rw [ht]
  exact .pure trivial

/-- The pieces are texts. -/
def AreTexts (pieces : List Value) : Prop := ∀ v ∈ pieces, IsText v

/-- The first clauses of a loop mirror each other if their values do. -/
lemma mirrors_opening {strict : Bool} {m : Margin} {v : Value}
    (h : Mirrors IsText (value strict m v) (value strict m v.essence)) :
    Mirrors AreTexts (opening strict m v) (opening strict m v.essence) := by
  rw [opening, opening, isNull_essence, isDeclaration_essence]
  split
  · exact .pure (List.forall_mem_nil _)
  · refine h.map fun i hi => List.forall_mem_singleton.mpr ?_
    split
    · exact hi
    · exact ⟨_, rfl⟩

/-- The tests of a loop mirror each other if their values do. -/
lemma mirrors_condition {strict : Bool} {m : Margin} {v : Value}
    (h : Mirrors IsText (value strict m v) (value strict m v.essence)) :
    Mirrors IsText (condition strict m v) (condition strict m v.essence) := by
  rw [condition, condition, isNull_essence]
  split
  · exact .pure ⟨_, rfl⟩
  · exact h

/-- The last clauses of a loop mirror each other if their steps do. -/
lemma mirrors_closing {strict : Bool} {m : Margin} {v : Value}
    (h : Mirrors IsText (step strict m v) (step strict m v.essence)) :
    Mirrors AreTexts (closing strict m v) (closing strict m v.essence) := by
  rw [closing, closing, isNull_essence]
  split
  · exact .pure (List.forall_mem_nil _)
  · exact h.map fun u _ => List.forall_mem_singleton.mpr ⟨_, rfl⟩

/-- The two runs over a loop that is no count mirror each other if they do over its clauses and its
body. -/
lemma mirrors_loop {strict : Bool} {m : Margin} (loc : Location) {init test update body : Value}
    (hcount : isCount init test update = .ok false)
    (hinit : Mirrors IsText (value strict m init) (value strict m init.essence))
    (htest : Mirrors IsText (value strict m test) (value strict m test.essence))
    (hbody : Mirrors IsText (value strict m.enter body) (value strict m.enter body.essence))
    (hupdate : Mirrors IsText (step strict m update) (step strict m update.essence)) :
    Mirrors IsText (node strict m (.forStatement loc init test update body))
      (node strict m (Node.forStatement loc init test update body).essence) := by
  have hessence := (isCount_essence init test update).trans hcount
  rw [Node.essence, node_loop _ _ _ _ hcount, node_loop _ _ _ _ hessence]
  refine (mirrors_opening hinit).bind fun first hfirst => ?_
  refine (mirrors_condition htest).bind fun t _ => hbody.bind fun b hb => ?_
  refine (mirrors_closing hupdate).bind fun last hlast => ?_
  have header : AreTexts [.text (m.indent ("while " ++ t.plain ++ ":")), b] :=
    List.forall_mem_cons.mpr ⟨⟨_, rfl⟩, List.forall_mem_singleton.mpr hb⟩
  have texts := List.forall_mem_append.mpr ⟨List.forall_mem_append.mpr ⟨hfirst, header⟩, hlast⟩
  exact (mirrors_joined _ texts).map fun t _ => ⟨t, rfl⟩

/-- What declares a name in a typed declaration allows to ask for it. -/
lemma exists_declaresName {d : Value} (h : d.HasType (.node [Kind.variableDeclarator])) :
    ∃ b, declaresName d = .ok b := by
  cases h with
  | @node _ n k _ kind mem =>
    obtain rfl : k = Kind.variableDeclarator := List.mem_singleton.mp mem
    cases n <;> cases kind
    exact ⟨_, rfl⟩

/-- The clauses of a typed loop allow to ask whether it is a count. -/
lemma exists_isCount {init : Value} {kinds : List Kind} (h : init.HasType (.optional kinds))
    (test update : Value) : ∃ b, isCount init test update = .ok b := by
  cases init with
  | scalar s => exact ⟨false, rfl⟩
  | list items => exact ⟨false, rfl⟩
  | node n =>
    cases n with
    | variableDeclaration loc kind declarations =>
      obtain ⟨-, hdeclarations, -⟩ := h.isTyped.allHold rfl
      cases hdeclarations with
      | @nodes _ items hitems =>
        cases items with
        | nil => exact ⟨false, rfl⟩
        | cons d rest =>
          cases rest with
          | nil =>
            obtain ⟨b, hb⟩ := exists_declaresName (hitems d List.mem_cons_self)
            exact ⟨b && isBinary test && isIncrement update, by rw [isCount, hb]; rfl⟩
          | cons d' rest => exact ⟨false, rfl⟩
    | _ => exact ⟨false, rfl⟩

mutual

/-- The runs over a typed node and its essence mirror each other. -/
theorem mirrors_node (strict : Bool) (m : Margin) :
    ∀ n : Node, n.IsTyped → Mirrors IsText (node strict m n) (node strict m n.essence)
  | .identifier _ name, h => by
    obtain ⟨⟨t⟩, -⟩ := h.allHold rfl
    rw [Node.essence, node, node]
    exact mirrors_text t
  | .literal loc raw _, _ => by
    rw [Node.essence, node, node]
    exact (mirrors_literal strict loc _ raw).map fun t _ => ⟨t, rfl⟩
  | .arrayExpression _ elements, h => by
    obtain ⟨helements, -⟩ := h.allHold rfl
    rw [Node.essence, node, node]
    refine (mirrors_parts strict m (some uninitialized) elements helements).bind fun ps hps => ?_
    exact (mirrors_joined _ hps).bind fun t _ => mirrors_text _
  | .arrayPattern _ elements, h => by
    obtain ⟨helements, -⟩ := h.allHold rfl
    rw [Node.essence, node, node]
    refine (mirrors_parts strict m (some ignored) elements helements).bind fun ps hps => ?_
    exact (mirrors_joined _ hps).bind fun t _ => mirrors_text _
  | .binaryExpression loc op left right, h => by
    obtain ⟨⟨t⟩, hleft, hright, -⟩ := h.allHold rfl
    rw [Node.essence, node, node]
    refine (mirrors_value strict m left hleft.present).bind fun x _ => ?_
    refine (mirrors_value strict m right hright.present).bind fun y _ => ?_
    rw [wrapped_essence, wrapped_essence]
    exact (mirrors_operator strict _ loc _ t).bind fun o _ => mirrors_text _
  | .memberExpression _ object property _, h => by
    obtain ⟨hobject, hproperty, -⟩ := h.allHold rfl
    rw [Node.essence, node, node]
    refine (mirrors_value strict m object hobject.present).bind fun o _ => ?_
    exact (mirrors_value strict m property hproperty.present).bind fun p _ => mirrors_text _
  | .callExpression _ callee arguments, h => by
    obtain ⟨hcallee, harguments, -⟩ := h.allHold rfl
    rw [Node.essence, node, node]
    refine (mirrors_parts strict m none arguments harguments.holes_of_nodes).bind fun ps hps => ?_
    refine (mirrors_joined _ hps).bind fun args _ => ?_
    exact (mirrors_value strict m callee hcallee.present).bind fun f _ => mirrors_text _
  | .assignmentExpression loc op left right, h => by
    obtain ⟨⟨t⟩, hleft, hright, -⟩ := h.allHold rfl
    rw [Node.essence, node, node]
    refine (mirrors_operator strict _ loc _ t).bind fun o _ => ?_
    refine (mirrors_value strict m left hleft.present).bind fun x _ => ?_
    exact (mirrors_value strict m right hright.present).bind fun y _ => mirrors_text _
  | .updateExpression _ _ _ _, _ => by
    rw [Node.essence, node, node]
    exact .unsupported _ _ _ _
  | .variableDeclarator _ id init, h => by
    obtain ⟨hid, hinit, -⟩ := h.allHold rfl
    rw [Node.essence, node, node, isNull_essence]
    have target (i : Value) := (mirrors_value strict m id hid.present).bind fun n _ =>
      mirrors_text (n.plain ++ " = " ++ i.plain)
    split
    · exact target (.text uninitialized)
    · exact (mirrors_value strict m init hinit).bind fun i _ => target i
  | .program _ body _, h => by
    obtain ⟨hbody, -⟩ := h.allHold rfl
    rw [Node.essence, node, node]
    refine (mirrors_parts strict m none body hbody.holes_of_nodes).bind fun ps hps => ?_
    exact (mirrors_joined _ hps).bind fun t _ => mirrors_text t
  | .blockStatement _ body, h => by
    obtain ⟨hbody, -⟩ := h.allHold rfl
    rw [Node.essence, node, node]
    exact mirrors_block strict m body hbody
  | .classBody _ body, h => by
    obtain ⟨hbody, -⟩ := h.allHold rfl
    rw [Node.essence, node, node]
    exact mirrors_block strict m body hbody
  | .expressionStatement _ expression, h => by
    obtain ⟨hexpression, -⟩ := h.allHold rfl
    rw [Node.essence, node, node]
    exact (mirrors_step strict m expression hexpression.present).bind fun t _ => mirrors_text _
  | .variableDeclaration _ _ declarations, h => by
    obtain ⟨-, hdeclarations, -⟩ := h.allHold rfl
    rw [Node.essence, node, node]
    exact (mirrors_parts strict m none declarations hdeclarations.holes_of_nodes).bind fun ps _ =>
      mirrors_text _
  | .classDeclaration _ id superclass body, h => by
    obtain ⟨hid, hsuperclass, hbody, -⟩ := h.allHold rfl
    rw [Node.essence, node, node, isNull_essence]
    have rest (base : Text) := (mirrors_value strict m id hid.present).bind fun n _ =>
      (mirrors_value strict m.enter body hbody.present).bind fun b _ =>
        mirrors_text (m.indent ("class " ++ n.plain ++ base ++ ":") ++ "\n" ++ b.plain)
    split
    · exact rest []
    · exact (mirrors_value strict m superclass hsuperclass).bind fun s _ =>
        rest ("(" ++ s.plain ++ ")")
  | .ifStatement _ test consequent alternate, h => by
    obtain ⟨htest, hconsequent, halternate, -⟩ := h.allHold rfl
    rw [Node.essence, node, node, isNull_essence]
    refine (mirrors_value strict m test htest.present).bind fun t _ => ?_
    refine (mirrors_value strict m.enter consequent hconsequent.present).bind fun yes hyes => ?_
    have header : IsText (.text (m.indent ("if " ++ t.plain ++ ":"))) := ⟨_, rfl⟩
    split
    · have texts := List.forall_mem_cons.mpr ⟨header, List.forall_mem_singleton.mpr hyes⟩
      exact (mirrors_joined _ texts).bind fun t _ => mirrors_text t
    · refine (mirrors_value strict m.enter alternate halternate).bind fun no hno => ?_
      have texts : AreTexts [_, yes, .text (m.indent "else:"), no] :=
        List.forall_mem_cons.mpr ⟨header, List.forall_mem_cons.mpr ⟨hyes,
          List.forall_mem_cons.mpr ⟨⟨_, rfl⟩, List.forall_mem_singleton.mpr hno⟩⟩⟩
      exact (mirrors_joined _ texts).bind fun t _ => mirrors_text t
  | .forStatement loc init test update body, h => by
    obtain ⟨hinit, htest, hupdate, hbody, -⟩ := h.allHold rfl
    obtain ⟨b, hcount⟩ := exists_isCount hinit test update
    cases b with
    | false =>
      exact mirrors_loop loc hcount (mirrors_value strict m init hinit)
        (mirrors_value strict m test htest) (mirrors_value strict m.enter body hbody.present)
        (mirrors_step strict m update hupdate)
    | true =>
      obtain ⟨l₁, l₂, l₃, l₄, l₅, kind, name, first, op, left, last, argument, inFront, rfl, -,
        rfl, rfl⟩ := isCount_eq_true hcount
      obtain ⟨-, hdeclarations, -⟩ := hinit.isTyped.allHold rfl
      obtain ⟨hid, hfirst, -⟩ := hdeclarations.holes_of_nodes.item.isTyped.allHold rfl
      obtain ⟨⟨t⟩, -⟩ := hid.present.isTyped.allHold rfl
      obtain ⟨-, -, hlast, -⟩ := htest.isTyped.allHold rfl
      have hright := node_count strict m .unknown body.essence
        ((isCount_essence _ _ _).trans hcount)
      rw [node_count _ _ _ _ hcount]
      refine hright.symm ▸ ?_
      refine (mirrors_value strict m first hfirst).bind fun low _ => ?_
      refine (mirrors_value strict m last hlast.present).bind fun high _ => ?_
      refine Mirrors.bind (.tell rfl) fun _ _ => ?_
      exact (mirrors_value strict m.enter body hbody.present).bind fun b _ => mirrors_text _
  | .foreign _ _, h => by
    obtain ⟨kind, -⟩ := h
    exact absurd kind nofun
termination_by n => sizeOf n

/-- The runs over what a typed field holds and its essence mirror each other. -/
theorem mirrors_value (strict : Bool) (m : Margin) {kinds : List Kind} :
    ∀ v : Value, v.HasType (.optional kinds) →
      Mirrors IsText (value strict m v) (value strict m v.essence)
  | .scalar .null, _ => mirrors_text []
  | .node n, h => by
    rw [Value.essence, value, value]
    exact mirrors_node strict m n h.isTyped
termination_by v => sizeOf v

/-- The runs where a step may stand mirror each other. -/
theorem mirrors_step (strict : Bool) (m : Margin) {kinds : List Kind} :
    ∀ v : Value, v.HasType (.optional kinds) →
      Mirrors IsText (step strict m v) (step strict m v.essence)
  | .scalar .null, _ => mirrors_text []
  | .node n, h => by
    have hnode := mirrors_node strict m n h.isTyped
    cases n with
    | updateExpression _ op argument _ =>
      obtain ⟨⟨_⟩, hargument, -⟩ := h.isTyped.allHold rfl
      rw [Value.essence, Node.essence, step, step]
      exact (mirrors_value strict m argument hargument.present).bind fun a _ => mirrors_text _
    | _ => exact hnode
termination_by v => sizeOf v

/-- The runs over a typed block and its essence mirror each other. -/
theorem mirrors_block (strict : Bool) (m : Margin) {kinds : List Kind} :
    ∀ v : Value, v.HasType (.nodes kinds) →
      Mirrors IsText (block strict m v) (block strict m v.essence)
  | .list [], _ => mirrors_text _
  | .list (v :: rest), h => by
    rw [Value.essence, Value.essenceItems, block, block]
    cases h with
    | nodes h =>
      have items := mirrors_items strict m none (v :: rest) fun w hw => (h w hw).present
      refine items.bind fun ps hps => ?_
      exact (mirrors_joined _ hps).bind fun t _ => mirrors_text t
termination_by v => sizeOf v

/-- The runs over a typed list and its essence mirror each other. -/
theorem mirrors_parts (strict : Bool) (m : Margin) (hole : Option Text)
    {kinds : List Kind} : ∀ v : Value, v.HasType (.holes kinds) →
      Mirrors AreTexts (parts strict m hole v) (parts strict m hole v.essence)
  | .list vs, h => by
    rw [Value.essence, parts, parts]
    cases h with
    | holes h => exact mirrors_items strict m hole vs h
termination_by v => sizeOf v

/-- The runs over the items of a typed list and their essence mirror each other. -/
theorem mirrors_items (strict : Bool) (m : Margin) (hole : Option Text)
    {kinds : List Kind} : ∀ vs : List Value, (∀ v ∈ vs, v.HasType (.optional kinds)) →
      Mirrors AreTexts (items strict m hole vs) (items strict m hole (Value.essenceItems vs))
  | [], _ => .pure (List.forall_mem_nil _)
  | v :: rest, h => by
    obtain ⟨hv, hrest⟩ := List.forall_mem_cons.mp h
    have tail (piece : Value) (hpiece : IsText piece) :
        Mirrors AreTexts (items strict m hole rest >>= fun ps => pure (piece :: ps))
          (items strict m hole (Value.essenceItems rest) >>= fun ps => pure (piece :: ps)) :=
      (mirrors_items strict m hole rest hrest).bind fun ps hps =>
        .pure (List.forall_mem_cons.mpr ⟨hpiece, hps⟩)
    rw [Value.essenceItems]
    have hpiece := mirrors_value strict m v hv
    cases hv with
    | absent =>
      cases hole with
      | none => exact tail (.text []) ⟨_, rfl⟩
      | some t => exact tail (.text t) ⟨_, rfl⟩
    | present hv =>
      cases hv with
      | node => cases hole <;> exact hpiece.bind tail
termination_by vs => sizeOf vs

end

/-- A typed node is rendered alike when its locations change, or its numbers with a fraction. -/
theorem echoes_node (strict : Bool) (r : Retouch) (m : Margin) (n : Node) (h : n.IsTyped) :
    Echoes IsText (node strict m n) (node strict m (n.retouch r)) := by
  have hleft := mirrors_node strict m n h
  have hright := mirrors_node strict m (n.retouch r) ((isTyped_retouch r).1 n h)
  rw [(essence_retouch r).1 n h] at hright
  exact (hleft.trans hright.symm).ends

end Render

end Offside
