import Offside.Proofs.Typed
import Offside.Render

/-!
# What is rendered of a tree

Some of what a tree holds is for information only: where its nodes stand, what a literal is worth,
whether a property is computed, on which side of its argument a step stands, by which word names are
declared and of what type a program is.  `Node.essence` is the tree without all that, so that trees
are equal but for information if they have the same essence.

The questions that the renderer asks of a value are answered by its essence, and a typed tree keeps
its essence when its locations change, or its numbers with a fraction.
-/

namespace Offside

/-! ## The essence of a tree -/

/-- The fields of a kind that are for information only. -/
def Kind.informational : Kind → List Text
  | program => [Text.ofString "source_type"]
  | literal => [Text.ofString "value"]
  | memberExpression => [Text.ofString "computed"]
  | updateExpression => [Text.ofString "prefix"]
  | variableDeclaration => [Text.ofString "kind"]
  | _ => []

mutual

/-- A node without locations and without what is for information only. -/
def Node.essence : Node → Node
  | .program _ body _ => .program .unknown body.essence .null
  | .identifier _ name => .identifier .unknown name.essence
  | .literal _ raw _ => .literal .unknown raw .null
  | .arrayExpression _ elements => .arrayExpression .unknown elements.essence
  | .arrayPattern _ elements => .arrayPattern .unknown elements.essence
  | .binaryExpression _ operator left right =>
    .binaryExpression .unknown operator.essence left.essence right.essence
  | .memberExpression _ object property _ =>
    .memberExpression .unknown object.essence property.essence .null
  | .callExpression _ callee arguments =>
    .callExpression .unknown callee.essence arguments.essence
  | .assignmentExpression _ operator left right =>
    .assignmentExpression .unknown operator.essence left.essence right.essence
  | .updateExpression _ operator argument _ =>
    .updateExpression .unknown operator.essence argument.essence .null
  | .expressionStatement _ expression => .expressionStatement .unknown expression.essence
  | .blockStatement _ body => .blockStatement .unknown body.essence
  | .classDeclaration _ id superclass body =>
    .classDeclaration .unknown id.essence superclass.essence body.essence
  | .classBody _ body => .classBody .unknown body.essence
  | .ifStatement _ test consequent alternate =>
    .ifStatement .unknown test.essence consequent.essence alternate.essence
  | .forStatement _ init test update body =>
    .forStatement .unknown init.essence test.essence update.essence body.essence
  | .variableDeclaration _ _ declarations =>
    .variableDeclaration .unknown .null declarations.essence
  | .variableDeclarator _ id init => .variableDeclarator .unknown id.essence init.essence
  | .foreign kind _ => .foreign kind none

/-- What a field holds, with the essence of all nodes in it. -/
def Value.essence : Value → Value
  | .scalar s => .scalar s
  | .node n => .node n.essence
  | .list items => .list (Value.essenceItems items)

/-- The items of a list, with the essence of all nodes in them. -/
def Value.essenceItems : List Value → List Value
  | [] => []
  | v :: rest => v.essence :: Value.essenceItems rest

end

/-- The essence of a list is that of its items. -/
lemma Value.essence_list (items : List Value) :
    (Value.list items).essence = .list (items.map Value.essence) := by
  have h : Value.essenceItems items = items.map Value.essence := by
    induction items with
    | nil => rfl
    | cons v rest ih => rw [Value.essenceItems, ih, List.map_cons]
  rw [essence, h]

section

variable {n : Node} {kind : Kind}

/-- The essence of a node is of the same kind. -/
@[simp] lemma Node.kind?_essence (n : Node) : n.essence.kind? = n.kind? := by
  cases n <;> rfl

/-- The essence of a node of a kind stands nowhere. -/
lemma Node.location?_essence (h : n.kind? = some kind) : n.essence.location? = some .unknown := by
  cases n <;> first | rfl | exact absurd h nofun

/-- The essence of a node holds the essence of its fields, and nothing in those that are for
information only. -/
lemma Node.fields_essence (h : n.kind? = some kind) :
    n.essence.fields =
      n.fields.map fun p => (p.1, if p.1 ∈ kind.informational then .null else p.2.essence) := by
  cases n <;> cases h <;> rfl

end

/-! ## The essence of typed trees -/

/-- All that a typed node holds is of a type that leaves no choice of numbers, unless it is for
information only. -/
lemma Node.IsTyped.exists_hasType {n : Node} {kind : Kind} (h : n.IsTyped)
    (hkind : n.kind? = some kind) {p : Text × Value} (hp : p ∈ n.fields)
    (hinformational : p.1 ∉ kind.informational) :
    ∃ type, type ≠ .primitive ∧ p.2.HasType type := by
  obtain ⟨hkind', htypes⟩ := h
  obtain rfl := Option.some.inj (hkind.symm.trans hkind')
  by_cases hliteral : kind = .literal
  · subst hliteral
    cases n <;> cases hkind
    rcases List.mem_cons.mp hp with rfl | hp
    · exact ⟨.text, nofun, .text _⟩
    · obtain rfl := List.mem_singleton.mp hp
      exact absurd List.mem_cons_self hinformational
  · obtain ⟨type, hmem, htype⟩ := htypes.exists_hasType p.2 (List.mem_map_of_mem hp)
    refine ⟨type, ?_, htype⟩
    rintro rfl
    cases kind <;> first | exact absurd rfl hliteral | simp [Kind.types] at hmem

/-- A typed tree keeps its essence when its locations change, or its numbers with a fraction. -/
theorem essence_retouch (r : Retouch) :
    (∀ n : Node, n.IsTyped → (n.retouch r).essence = n.essence) ∧
      ∀ v : Value, ∀ type, type ≠ .primitive → v.HasType type →
        (v.retouch r).essence = v.essence := by
  refine Node.induction ?scalar ?node ?list ?fields
  case scalar =>
    intro s type hprimitive h
    cases h with
    | primitive => exact absurd rfl hprimitive
    | present h => exact absurd h nofun
    | _ => rfl
  case node =>
    intro n hn type _ h
    cases h with
    | node typed => exact congrArg Value.node (hn typed)
    | present h => exact congrArg Value.node (hn h.present.isTyped)
  case list =>
    intro items hitems type _ h
    rw [Value.retouch_list, Value.essence_list, Value.essence_list, List.map_map]
    refine congrArg Value.list (List.map_congr_left fun v hv => ?_)
    cases h with
    | present h => exact absurd h nofun
    | nodes h => exact hitems v hv (.node _) nofun (h v hv)
    | holes h => exact hitems v hv (.optional _) nofun (h v hv)
  case fields =>
    intro n hfields h
    obtain ⟨kind, hkind⟩ : ∃ kind, n.kind? = some kind := by
      obtain ⟨hkind, -⟩ := h
      exact ⟨_, hkind⟩
    have hretouched : (n.retouch r).kind? = some kind := by simpa using hkind
    have hleft : (n.retouch r).essence.kind? = some kind := by simpa using hkind
    have hright : n.essence.kind? = some kind := by simpa using hkind
    have hlocation : (n.retouch r).essence.location? = n.essence.location? := by
      rw [Node.location?_essence hretouched, Node.location?_essence hkind]
    refine Node.eq_of_fields hleft hright hlocation ?_
    rw [Node.fields_essence hretouched, Node.fields_essence hkind, Node.fields_retouch,
      List.map_map]
    refine List.map_congr_left fun p hp => congrArg (Prod.mk p.1) ?_
    dsimp only
    split
    · rfl
    · next hinformational =>
      obtain ⟨type, hprimitive, htype⟩ := h.exists_hasType hkind hp hinformational
      exact hfields p hp type hprimitive htype

/-- A typed tree stays typed when its locations change, or its numbers with a fraction. -/
theorem isTyped_retouch (r : Retouch) :
    (∀ n : Node, n.IsTyped → (n.retouch r).IsTyped) ∧
      ∀ v : Value, ∀ type, v.HasType type → (v.retouch r).HasType type := by
  refine Node.induction ?scalar ?node ?list ?fields
  case scalar =>
    intro s type h
    cases h with
    | text t => exact .text t
    | choice h => exact .choice h
    | truth b => exact .truth b
    | primitive => exact .primitive _
    | absent kinds => exact .absent kinds
    | present h => exact absurd h nofun
  case node =>
    intro n hn type h
    cases h with
    | node typed kind mem => exact .node (hn typed) (by simpa using kind) mem
    | present h =>
      cases h with
      | node typed kind mem => exact .present (.node (hn typed) (by simpa using kind) mem)
  case list =>
    intro items hitems type h
    rw [Value.retouch_list]
    cases h with
    | present h => exact absurd h nofun
    | nodes h => exact .nodes (List.forall_mem_map.mpr fun v hv => hitems v hv _ (h v hv))
    | holes h => exact .holes (List.forall_mem_map.mpr fun v hv => hitems v hv _ (h v hv))
  case fields =>
    rintro n hfields ⟨kind, htypes⟩
    refine .node (by simpa using kind) ?_
    rw [Node.fields_retouch, List.map_map]
    exact htypes.map hfields

/-! ## What the renderer asks -/

namespace Render

/-- The essence of a value is null if the value is. -/
lemma isNull_essence (v : Value) : v.essence.isNull = v.isNull := by
  cases v with
  | scalar s => cases s <;> rfl
  | node n => rfl
  | list items => rfl

/-- The essence of a declaration is one. -/
lemma isDeclaration_essence (v : Value) : isDeclaration v.essence = isDeclaration v := by
  cases v with
  | node n => cases n <;> rfl
  | _ => rfl

/-- The essence of an operand is put in parentheses if the operand is. -/
lemma wrapped_essence (v : Value) (t : Text) : wrapped v.essence t = wrapped v t := by
  cases v with
  | node n => cases n <;> rfl
  | _ => rfl

/-- The essence of an identifier is one. -/
lemma isIdentifier_essence (v : Value) : isIdentifier v.essence = isIdentifier v := by
  cases v with
  | node n => cases n <;> rfl
  | _ => rfl

/-- The essence of a binary expression is one. -/
lemma isBinary_essence (v : Value) : isBinary v.essence = isBinary v := by
  cases v with
  | node n => cases n <;> rfl
  | _ => rfl

/-- The essence of a step by `++` is one. -/
lemma isIncrement_essence (v : Value) : isIncrement v.essence = isIncrement v := by
  cases v with
  | node n =>
    cases n with
    | updateExpression loc op argument inFront =>
      cases op with
      | scalar s => cases s <;> rfl
      | _ => rfl
    | _ => rfl
  | _ => rfl

/-- The essence of what declares a name does so. -/
lemma declaresName_essence (v : Value) : declaresName v.essence = declaresName v := by
  cases v with
  | node n =>
    cases n with
    | variableDeclarator loc id init =>
      change Except.ok (isIdentifier id.essence && !init.essence.isNull) = _
      rw [isIdentifier_essence, isNull_essence]
      rfl
    | classDeclaration loc id superclass body =>
      change (if isIdentifier id.essence then _ else _) = _
      rw [isIdentifier_essence]
      rfl
    | _ => rfl
  | _ => rfl

/-- The essence of the clauses of a count are those of one. -/
lemma isCount_essence (init test update : Value) :
    isCount init.essence test.essence update.essence = isCount init test update := by
  cases init with
  | scalar s => rfl
  | list items => rfl
  | node n =>
    cases n with
    | variableDeclaration loc kind declarations =>
      cases declarations with
      | scalar s => cases s <;> rfl
      | node n => rfl
      | list items =>
        cases items with
        | nil => rfl
        | cons d rest =>
          cases rest with
          | nil =>
            change (declaresName d.essence >>= fun b =>
              Pure.pure (b && isBinary test.essence && isIncrement update.essence)) = _
            rw [declaresName_essence, isBinary_essence, isIncrement_essence]
            rfl
          | cons d' rest => rfl
    | _ => rfl

end Render

end Offside
