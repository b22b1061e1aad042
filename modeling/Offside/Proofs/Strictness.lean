import Offside.Convert
import Offside.Proofs.Loops

/-!
# Strict rendering stops at the first warning

Settings that are strict refuse what other settings forward with a warning.  The two runs over a
tree visit its nodes in the same order, so the strict run is the lenient run cut off in front of
its first warning: without a warning the two runs are equal, and with one the strict run ends in
a refusal of the very node that the first warning is about, with the same records before it.

`Render.unportable` lists the nodes that are not portable in the order in which rendering comes to
them.  `Agrees` relates a lenient run and a strict one by such a list; it holds of the two ways to
treat a literal or an operator, and going on from related runs gives related runs, so it holds of
whole trees, whatever their fields hold.
-/

namespace Offside

/-- A node that is not portable, with the warning about it and the refusal of it. -/
inductive Node.Unportable : Node → Notice → Unsupported → Prop
  | literal (loc : Location) (raw : Text) (value : Scalar) :
    Unportable (.literal loc raw value) (.literal raw loc)
      ⟨Kind.literal.name, [], some loc, some (raw ++ " has no identical Python spelling")⟩
  | binaryExpression (loc : Location) (op left right : Value) :
    Unportable (.binaryExpression loc op left right) (.operator op.display loc)
      ⟨Kind.binaryExpression.name, [], some loc,
        some ("operator " ++ op.display ++ " has no identical Python spelling")⟩
  | assignmentExpression (loc : Location) (op left right : Value) :
    Unportable (.assignmentExpression loc op left right) (.operator op.display loc)
      ⟨Kind.assignmentExpression.name, [], some loc,
        some ("operator " ++ op.display ++ " has no identical Python spelling")⟩

/-- What is told about a node that is not portable is a warning. -/
lemma Node.Unportable.isWarning {x : Node} {w : Notice} {u : Unsupported}
    (h : x.Unportable w u) : w.isWarning = true := by
  cases h <;> rfl

namespace Render

/-! ## The order of rendering -/

/-- The node itself, if its operator can be looked for and is not portable. -/
def ownOperator (op : Value) (n : Node) : List Node :=
  if isPortable op || !op.isConstant then [] else [n]

mutual

/-- The nodes of a tree whose literal or operator is not portable, in the order in which rendering
comes to them.  What a count leaves out is left out. -/
def unportable : Node → List Node
  | .literal loc raw value =>
    if Portable.isPortableLiteral raw then [] else [.literal loc raw value]
  | .arrayExpression _ elements | .arrayPattern _ elements => unportableIn elements
  | .binaryExpression loc op left right =>
    unportableIn left ++
      (unportableIn right ++ ownOperator op (.binaryExpression loc op left right))
  | .memberExpression _ object property _ => unportableIn object ++ unportableIn property
  | .callExpression _ callee arguments => unportableIn arguments ++ unportableIn callee
  | .assignmentExpression loc op left right =>
    ownOperator op (.assignmentExpression loc op left right)
      ++ (unportableIn left ++ unportableIn right)
  | .variableDeclarator _ id init => unportableIn init ++ unportableIn id
  | .program _ body _ | .blockStatement _ body | .classBody _ body => unportableIn body
  | .expressionStatement _ expression => unportableInStep expression
  | .variableDeclaration _ _ declarations => unportableIn declarations
  | .classDeclaration _ id superclass body =>
    unportableIn superclass ++ (unportableIn id ++ unportableIn body)
  | .ifStatement _ test consequent alternate =>
    unportableIn test ++ (unportableIn consequent ++ unportableIn alternate)
  | .forStatement _ init test update body =>
    if isCount init test update matches .ok true then
      match init, test with
      | .node (.variableDeclaration _ _ (.list [.node (.variableDeclarator _ _ first)])),
        .node (.binaryExpression _ _ _ last) =>
        unportableIn first ++ (unportableIn last ++ unportableIn body)
      | _, _ => []
    else
      unportableIn init ++ (unportableIn test ++ (unportableIn body ++ unportableInStep update))
  | .identifier .. | .updateExpression .. | .foreign .. => []

/-- The nodes in what a field holds that are not portable. -/
def unportableIn : Value → List Node
  | .scalar _ => []
  | .node n => unportable n
  | .list items => unportableItems items

/-- The nodes that are not portable where a step may stand. -/
def unportableInStep : Value → List Node
  | .node (.updateExpression _ _ argument _) => unportableIn argument
  | .node n => unportable n
  | _ => []

/-- The nodes in the items of a list that are not portable. -/
def unportableItems : List Value → List Node
  | [] => []
  | v :: rest => unportableIn v ++ unportableItems rest

end

/-- In a count, what is rendered counts. -/
lemma unportable_count {loc l₁ l₂ l₃ l₄ : Location} {kind name first op left last update : Value}
    (body : Value)
    (h : isCount (.node (.variableDeclaration l₁ kind
        (.list [.node (.variableDeclarator l₂ (.node (.identifier l₃ name)) first)])))
      (.node (.binaryExpression l₄ op left last)) update = .ok true) :
    unportable (.forStatement loc (.node (.variableDeclaration l₁ kind
        (.list [.node (.variableDeclarator l₂ (.node (.identifier l₃ name)) first)])))
      (.node (.binaryExpression l₄ op left last)) update body) =
      unportableIn first ++ (unportableIn last ++ unportableIn body) := by
  unfold unportable
  rw [h]
  rfl

/-- In any other loop, all clauses count. -/
lemma unportable_loop {loc : Location} {init test update : Value} (body : Value)
    (h : isCount init test update = .ok false) :
    unportable (.forStatement loc init test update body) =
      unportableIn init ++
        (unportableIn test ++ (unportableIn body ++ unportableInStep update)) := by
  unfold unportable
  rw [h]
  rfl

/-! ## Runs that agree up to the first warning -/

/-- Nothing in a log warns. -/
def Quiet (log : List Notice) : Prop := ∀ w ∈ log, w.isWarning = false

/-- Quiet logs one behind the other are quiet. -/
lemma Quiet.append {log log' : List Notice} (h : Quiet log) (h' : Quiet log') :
    Quiet (log ++ log') :=
  List.forall_mem_append.mpr ⟨h, h'⟩

/-- A lenient run and a strict run over parts of a tree whose nodes in `xs` are not portable.
Either nothing was warned about and the runs are the same, or the first warning is about the first
of these nodes and the strict run ended with the refusal of it. -/
inductive Agrees {α : Type} (xs : List Node) : Logged α → Logged α → Prop
  | same (x : Logged α) (quiet : Quiet x.log)
    (done : ∀ a, x.result = .ok a → xs = []) : Agrees xs x x
  | refused (before after : List Notice) (result : Except Fault α) {w : Notice} {n : Node}
    {rest : List Node} {u : Unsupported} (quiet : Quiet before)
    (first : xs = n :: rest) (unportable : n.Unportable w u) :
    Agrees xs ⟨before ++ w :: after, result⟩ ⟨before, .error (.unsupported u)⟩

namespace Agrees

variable {α β : Type} {xs ys : List Node}

/-- A result without a log agrees with itself. -/
lemma pure (a : α) : Agrees [] (Pure.pure a) (Pure.pure a) :=
  .same _ nofun fun _ _ => rfl

/-- A fault without a log agrees with itself. -/
lemma fail (fault : Fault) : Agrees xs (Logged.fail fault : Logged α) (Logged.fail fault) :=
  .same _ nofun nofun

/-- A result or a fault without a log agrees with itself. -/
lemma ofExcept (x : Except Fault α) : Agrees [] (Logged.ofExcept x) (Logged.ofExcept x) :=
  .same _ nofun fun _ _ => rfl

/-- Something told that is no warning agrees with itself. -/
lemma tell {n : Notice} (h : n.isWarning = false) : Agrees [] (Logged.tell n) (Logged.tell n) :=
  .same _ (fun _ hw => List.mem_singleton.mp hw ▸ h) fun _ _ => rfl

/-- Going on from runs that agree gives runs that agree. -/
lemma bind {x y : Logged α} {f g : α → Logged β} (h : Agrees xs x y)
    (hf : ∀ a, Agrees ys (f a) (g a)) : Agrees (xs ++ ys) (x >>= f) (y >>= g) := by
  cases h with
  | same _ quiet done =>
    obtain ⟨log, fault | a⟩ := x
    · exact .same _ quiet nofun
    · -- Without a fault the first part has no such node, so that those of the second part decide.
      rw [done a rfl, List.nil_append, Logged.ok_bind, Logged.ok_bind]
      have h := hf a
      generalize f a = z, g a = z' at h
      cases h with
      | same _ quiet' done' =>
        exact .same _ (quiet.append quiet') done'
      | refused before after result quiet' first unportable =>
        dsimp only
        rw [← List.append_assoc]
        exact .refused _ _ _ (quiet.append quiet') first unportable
  | refused before after result quiet first unportable =>
    rw [Logged.error_bind]
    cases result with
    | error fault => exact .refused _ _ _ quiet (by rw [first]; rfl) unportable
    | ok a =>
      rw [Logged.ok_bind, List.append_assoc]
      exact .refused _ _ _ quiet (by rw [first]; rfl) unportable

/-- Going on without further nodes keeps the nodes. -/
lemma bind_nil {x y : Logged α} {f g : α → Logged β} (h : Agrees xs x y)
    (hf : ∀ a, Agrees [] (f a) (g a)) : Agrees xs (x >>= f) (y >>= g) := by
  have hb := h.bind hf
  rwa [List.append_nil] at hb

/-- Changing the results keeps the nodes. -/
lemma map {x y : Logged α} (f : α → β) (h : Agrees xs x y) : Agrees xs (f <$> x) (f <$> y) := by
  rw [← bind_pure_comp, ← bind_pure_comp]
  exact h.bind_nil fun a => pure (f a)

end Agrees

/-! ## The two runs over a tree -/

/-- A literal is forwarded by both runs, or warned about by one and refused by the other. -/
lemma agrees_literal (loc : Location) (raw : Text) (value : Scalar) :
    Agrees (unportable (.literal loc raw value)) (literal false loc raw)
      (literal true loc raw) := by
  rw [unportable, literal, literal]
  split
  · exact .pure _
  · exact .refused [] [] (.ok raw) nofun rfl (.literal loc raw value)

/-- An operator is forwarded by both runs, does not allow to look for it, or is warned about by
one run and refused by the other. -/
lemma agrees_operator {kind : Kind} {loc : Location} {op : Value} {n : Node}
    (h : n.Unportable (.operator op.display loc) ⟨kind.name, [], some loc,
      some ("operator " ++ op.display ++ " has no identical Python spelling")⟩) :
    Agrees (ownOperator op n) (operator false kind loc op) (operator true kind loc op) := by
  rw [ownOperator, operator, operator]
  cases hp : isPortable op with
  | true => exact .pure _
  | false =>
    cases hc : op.isConstant with
    | false => exact .fail _
    | true => exact .refused [] [] (.ok op.plain) nofun rfl h

/-- Only null is null. -/
lemma eq_null_of_isNull {v : Value} (h : v.isNull = true) : v = .null := by
  unfold Value.isNull at h
  split at h
  · rfl
  · exact absurd h Bool.false_ne_true

/-- A field that may be null is left out by both runs or rendered by both. -/
lemma agrees_unlessNull {α : Type} {v : Value} {xs : List Node} {x₀ y₀ x y : Logged α}
    (absent : v = .null → Agrees xs x₀ y₀) (present : Agrees xs x y) :
    Agrees xs (if v.isNull = true then x₀ else x) (if v.isNull = true then y₀ else y) := by
  split
  · next h => exact absent (eq_null_of_isNull h)
  · exact present

/-- Joining pieces is the same in both runs. -/
lemma agrees_joined (separator : Text) (pieces : List Value) :
    Agrees [] (joined separator pieces) (joined separator pieces) := by
  unfold joined
  split
  · exact .pure _
  · exact .fail _

/-- The first clauses of a loop agree if their values do. -/
lemma agrees_opening {m : Margin} {v : Value}
    (h : Agrees (unportableIn v) (value false m v) (value true m v)) :
    Agrees (unportableIn v) (opening false m v) (opening true m v) :=
  agrees_unlessNull (fun hv => hv ▸ .pure []) (h.map _)

/-- The tests of a loop agree if their values do. -/
lemma agrees_condition {m : Margin} {v : Value}
    (h : Agrees (unportableIn v) (value false m v) (value true m v)) :
    Agrees (unportableIn v) (condition false m v) (condition true m v) :=
  agrees_unlessNull (fun hv => hv ▸ .pure _) h

/-- The last clauses of a loop agree if their steps do. -/
lemma agrees_closing {m : Margin} {v : Value}
    (h : Agrees (unportableInStep v) (step false m v) (step true m v)) :
    Agrees (unportableInStep v) (closing false m v) (closing true m v) :=
  agrees_unlessNull (fun hv => hv ▸ .pure []) (h.map _)

mutual

/-- The two runs over a node agree up to the first warning. -/
theorem agrees_node (m : Margin) :
    ∀ n : Node, Agrees (unportable n) (node false m n) (node true m n)
  | .identifier _ name => by
    rw [node, node, unportable]
    exact .pure name
  | .literal loc raw value => by
    rw [node, node]
    exact (agrees_literal loc raw value).map Value.text
  | .arrayExpression _ elements => by
    rw [node, node, unportable]
    refine (agrees_parts m (some uninitialized) elements).bind_nil fun pieces => ?_
    exact (agrees_joined _ pieces).map fun t => Value.text ("[ " ++ t ++ " ]")
  | .arrayPattern _ elements => by
    rw [node, node, unportable]
    refine (agrees_parts m (some ignored) elements).bind_nil fun pieces => ?_
    exact (agrees_joined _ pieces).map fun t => Value.text ("[ " ++ t ++ " ]")
  | .binaryExpression loc op left right => by
    rw [node, node, unportable]
    refine (agrees_value m left).bind fun l => (agrees_value m right).bind fun r => ?_
    exact (agrees_operator (.binaryExpression loc op left right)).map fun o =>
      Value.text (wrapped left l.plain ++ " " ++ o ++ " " ++ wrapped right r.plain)
  | .memberExpression _ object property _ => by
    rw [node, node, unportable]
    refine (agrees_value m object).bind fun o => ?_
    exact (agrees_value m property).map fun p => Value.text (o.plain ++ "." ++ p.plain)
  | .callExpression _ callee arguments => by
    rw [node, node, unportable]
    have pieces := (agrees_parts m none arguments).bind_nil (agrees_joined ", ")
    have call := pieces.bind fun args =>
      (agrees_value m callee).map fun f => Value.text (f.plain ++ "(" ++ args ++ ")")
    rwa [bind_assoc, bind_assoc] at call
  | .assignmentExpression loc op left right => by
    rw [node, node, unportable]
    refine (agrees_operator (.assignmentExpression loc op left right)).bind fun o => ?_
    refine (agrees_value m left).bind fun l => ?_
    exact (agrees_value m right).map fun r => Value.text (l.plain ++ " " ++ o ++ " " ++ r.plain)
  | .updateExpression .. => by
    rw [node, node]
    exact .fail _
  | .variableDeclarator _ id init => by
    rw [node, node, unportable]
    have target (i : Value) :=
      (agrees_value m id).map fun n => Value.text (n.plain ++ " = " ++ i.plain)
    refine agrees_unlessNull (fun h => ?_) ((agrees_value m init).bind target)
    rw [h]
    exact target (.text uninitialized)
  | .program _ body _ => by
    rw [node, node, unportable]
    refine (agrees_parts m none body).bind_nil fun pieces => ?_
    exact (agrees_joined "\n" pieces).map Value.text
  | .blockStatement _ body => by
    rw [node, node, unportable]
    exact agrees_block m body
  | .classBody _ body => by
    rw [node, node, unportable]
    exact agrees_block m body
  | .expressionStatement _ expression => by
    rw [node, node, unportable]
    exact (agrees_step m expression).map fun t => Value.text (m.indent t.plain)
  | .variableDeclaration _ _ declarations => by
    rw [node, node, unportable]
    exact (agrees_parts m none declarations).map fun pieces =>
      Value.text (Text.join "\n" (pieces.map fun v => m.indent v.plain))
  | .classDeclaration _ id superclass body => by
    rw [node, node, unportable]
    have rest (base : Text) := (agrees_value m id).bind fun n =>
      (agrees_value m.enter body).map fun b =>
        Value.text (m.indent ("class " ++ n.plain ++ base ++ ":") ++ "\n" ++ b.plain)
    refine agrees_unlessNull (fun h => ?_) ?_
    · rw [h]
      exact rest []
    · exact (agrees_value m superclass).bind fun s => rest ("(" ++ s.plain ++ ")")
  | .ifStatement _ test consequent alternate => by
    rw [node, node, unportable]
    refine (agrees_value m test).bind fun t => (agrees_value m.enter consequent).bind fun yes => ?_
    refine agrees_unlessNull (fun h => ?_) ?_
    · rw [h]
      exact (agrees_joined "\n" _).map Value.text
    · exact (agrees_value m.enter alternate).bind_nil fun no =>
        (agrees_joined "\n" _).map Value.text
  | .forStatement loc init test update body => by
    cases h : isCount init test update with
    | error e =>
      rw [node_misuse _ _ _ _ h, node_misuse _ _ _ _ h]
      exact .fail _
    | ok b =>
      cases b with
      | false =>
        rw [node_loop _ _ _ _ h, node_loop _ _ _ _ h, unportable_loop _ h]
        refine (agrees_opening (agrees_value m init)).bind fun first => ?_
        refine (agrees_condition (agrees_value m test)).bind fun t => ?_
        refine (agrees_value m.enter body).bind fun b => ?_
        refine (agrees_closing (agrees_step m update)).bind_nil fun last => ?_
        exact (agrees_joined "\n" _).map Value.text
      | true =>
        obtain ⟨l₁, l₂, l₃, l₄, l₅, kind, name, first, op, left, last, argument, inFront, rfl, -,
          rfl, rfl⟩ := isCount_eq_true h
        rw [node_count _ _ _ _ h, node_count _ _ _ _ h, unportable_count _ h]
        refine (agrees_value m first).bind fun low => (agrees_value m last).bind fun high => ?_
        refine Agrees.bind (.tell rfl) fun _ => ?_
        exact (agrees_value m.enter body).map fun b => Value.text
          (m.indent (countHeader name.plain low.plain high.plain) ++ "\n" ++ b.plain)
  | .foreign .. => by
    rw [node, node]
    exact .fail _
termination_by n => sizeOf n

/-- The two runs over what a field holds agree up to the first warning. -/
theorem agrees_value (m : Margin) :
    ∀ v : Value, Agrees (unportableIn v) (value false m v) (value true m v)
  | .scalar s => by
    cases s <;> first | exact .fail _ | exact .pure _
  | .node n => by
    rw [value, value, unportableIn]
    exact agrees_node m n
  | .list items => by
    rw [value, value]
    exact .fail _
termination_by v => sizeOf v

/-- The two runs where a step may stand agree up to the first warning. -/
theorem agrees_step (m : Margin) :
    ∀ v : Value, Agrees (unportableInStep v) (step false m v) (step true m v)
  | .scalar s => by
    cases s <;> first | exact .fail _ | exact .pure _
  | .node n => by
    have h := agrees_node m n
    cases n with
    | updateExpression _ op argument _ =>
      rw [step, step, unportableInStep]
      exact (agrees_value m argument).map fun a =>
        Value.text (a.plain ++ " " ++ stepOperator op ++ " 1")
    | _ => exact h
  | .list items => by
    rw [step, step]
    exact .fail _
termination_by v => sizeOf v

/-- The two runs over a block agree up to the first warning. -/
theorem agrees_block (m : Margin) :
    ∀ v : Value, Agrees (unportableIn v) (block false m v) (block true m v)
  | .scalar s => by
    unfold block
    split
    · exact .pure _
    · split <;> exact .fail _
  | .node n => by
    rw [block, block]
    exact .fail _
  | .list [] => by
    rw [block, block]
    exact .pure _
  | .list (v :: rest) => by
    rw [block, block, unportableIn]
    refine (agrees_items m none (v :: rest)).bind_nil fun pieces => ?_
    exact (agrees_joined "\n" pieces).map Value.text
termination_by v => sizeOf v

/-- The two runs over the items of a field agree up to the first warning. -/
theorem agrees_parts (m : Margin) (hole : Option Text) :
    ∀ v : Value, Agrees (unportableIn v) (parts false m hole v) (parts true m hole v)
  | .scalar s => by
    unfold parts
    split
    · next h => exact absurd h nofun
    · exact .pure []
    · exact .fail _
    · exact .fail _
    · next h => exact absurd h nofun
  | .node n => by
    rw [parts, parts]
    exact .fail _
  | .list vs => by
    rw [parts, parts, unportableIn]
    exact agrees_items m hole vs
termination_by v => sizeOf v

/-- The two runs over items agree up to the first warning. -/
theorem agrees_items (m : Margin) (hole : Option Text) :
    ∀ vs : List Value, Agrees (unportableItems vs) (items false m hole vs) (items true m hole vs)
  | [] => by
    rw [items, items]
    exact .pure _
  | v :: rest => by
    rw [unportableItems]
    unfold items
    split
    · next t => exact (agrees_items m (some t) rest).map (Value.text t :: ·)
    · exact (agrees_value m v).bind fun piece => (agrees_items m hole rest).map (piece :: ·)
termination_by vs => sizeOf vs

end

/-! ## Where the strict run stops -/

end Render

end Offside
