import Mathlib.Data.List.Basic
import Mathlib.Tactic.Lemma
import Offside.Proofs.Loading

/-!
# Retouching trees

A tree keeps its shape when the locations of its nodes change, or its numbers with a fraction.
`Retouch` says what becomes of each location and of each such number, and `Node.retouch` carries it
through a tree.  All other primitive values stay as they are.

Retouching sees a node only through its kind, its location and its fields (`Node.kind?_retouch`,
`Node.location?_retouch`, `Node.fields_retouch`), so that what is proved of retouched trees is
proved by `Node.induction`, which knows no kinds.
-/

namespace Offside

/-! ## Induction on trees -/

section

variable {P : Node → Prop} {Q : Value → Prop} (scalar : ∀ s, Q (.scalar s))
  (node : ∀ n, P n → Q (.node n)) (list : ∀ items, (∀ v ∈ items, Q v) → Q (.list items))
  (fields : ∀ n : Node, (∀ p ∈ n.fields, Q p.2) → P n)

include scalar node list fields

set_option linter.unusedSectionVars false in
mutual

/-- What holds of a node if it holds of all that its fields hold, holds of all nodes. -/
theorem Node.induct : ∀ n, P n
  | .program loc body sourceType =>
    fields _ (by simpa [Node.fields] using ⟨body.induct, sourceType.induct⟩)
  | .identifier loc name => fields _ (by simpa [Node.fields] using name.induct)
  | .literal loc raw value =>
    fields _ (by simpa [Node.fields] using ⟨scalar (.text raw), scalar value⟩)
  | .arrayExpression loc elements => fields _ (by simpa [Node.fields] using elements.induct)
  | .arrayPattern loc elements => fields _ (by simpa [Node.fields] using elements.induct)
  | .binaryExpression loc operator left right =>
    fields _ (by simpa [Node.fields] using ⟨operator.induct, left.induct, right.induct⟩)
  | .memberExpression loc object property computed =>
    fields _ (by simpa [Node.fields] using ⟨object.induct, property.induct, computed.induct⟩)
  | .callExpression loc callee arguments =>
    fields _ (by simpa [Node.fields] using ⟨callee.induct, arguments.induct⟩)
  | .assignmentExpression loc operator left right =>
    fields _ (by simpa [Node.fields] using ⟨operator.induct, left.induct, right.induct⟩)
  | .updateExpression loc operator argument inFront =>
    fields _ (by simpa [Node.fields] using ⟨operator.induct, argument.induct, inFront.induct⟩)
  | .expressionStatement loc expression =>
    fields _ (by simpa [Node.fields] using expression.induct)
  | .blockStatement loc body => fields _ (by simpa [Node.fields] using body.induct)
  | .classDeclaration loc id superclass body =>
    fields _ (by simpa [Node.fields] using ⟨id.induct, superclass.induct, body.induct⟩)
  | .classBody loc body => fields _ (by simpa [Node.fields] using body.induct)
  | .ifStatement loc test consequent alternate =>
    fields _ (by simpa [Node.fields] using ⟨test.induct, consequent.induct, alternate.induct⟩)
  | .forStatement loc init test update body =>
    fields _ (by simpa [Node.fields] using ⟨init.induct, test.induct, update.induct, body.induct⟩)
  | .variableDeclaration loc kind declarations =>
    fields _ (by simpa [Node.fields] using ⟨kind.induct, declarations.induct⟩)
  | .variableDeclarator loc id init =>
    fields _ (by simpa [Node.fields] using ⟨id.induct, init.induct⟩)
  | .foreign kind loc => fields _ (List.forall_mem_nil _)

/-- The values that fields hold, likewise. -/
theorem Value.induct : ∀ v, Q v
  | .scalar s => scalar s
  | .node n => node n n.induct
  | .list items => list items (Value.inductItems items)

/-- The items of a list, likewise. -/
theorem Value.inductItems : ∀ items : List Value, ∀ v ∈ items, Q v
  | [] => List.forall_mem_nil _
  | v :: rest => List.forall_mem_cons.mpr ⟨v.induct, Value.inductItems rest⟩

end

/-- What holds of primitive values, of a node in a field if it holds of the node, of a list if it
holds of its items, and of a node if it holds of all that its fields hold, holds of all trees. -/
theorem Node.induction : (∀ n, P n) ∧ ∀ v, Q v :=
  ⟨Node.induct scalar node list fields, Value.induct scalar node list fields⟩

end

/-! ## The locations in a tree -/

/-- The locations of the parts of a tree. -/
def locationFolder : Folder (List Location) where
  scalar _ := []
  list := List.flatten
  node n parts := n.location?.toList ++ parts.flatMap Prod.snd

/-- The locations of a node and of all nodes below it. -/
def Node.locations (n : Node) : List Location := n.fold locationFolder

/-- The locations of all nodes in a value. -/
def Value.locations (v : Value) : List Location := v.fold locationFolder

/-- The locations in a node are its own and those in its fields. -/
lemma Node.forall_mem_locations {P : Location → Prop} {n : Node} :
    (∀ loc ∈ n.locations, P loc) ↔
      (∀ loc, n.location? = some loc → P loc) ∧ ∀ p ∈ n.fields, ∀ loc ∈ p.2.locations, P loc := by
  have hown : (∀ loc ∈ n.location?.toList, P loc) ↔ ∀ loc, n.location? = some loc → P loc := by
    simp only [Option.mem_toList]
  have hfields : (∀ loc ∈ (n.fields.map fun p => (p.1, p.2.locations)).flatMap Prod.snd, P loc) ↔
      ∀ p ∈ n.fields, ∀ loc ∈ p.2.locations, P loc := by
    rw [List.flatMap_map, List.forall_mem_flatMap]
  rw [← hown, ← hfields, ← List.forall_mem_append, locations, Node.fold_eq_node_fields]
  rfl

/-- The locations in a list are those in its items. -/
lemma Value.forall_mem_locations_list {P : Location → Prop} {items : List Value} :
    (∀ loc ∈ (Value.list items).locations, P loc) ↔ ∀ v ∈ items, ∀ loc ∈ v.locations, P loc := by
  have hitems : (Value.list items).locations = items.flatMap Value.locations := by
    rw [locations, Value.fold, Value.foldItems_eq_map]
    rfl
  rw [hitems, List.forall_mem_flatMap]

/-! ## The primitive values in a tree -/

/-- Whether all primitive values of the parts of a tree are of some sort. -/
def scalarFolder (q : Scalar → Bool) : Folder Bool where
  scalar := q
  list parts := parts.all id
  node _ parts := parts.all Prod.snd

/-- All primitive values in a node and below it are of some sort. -/
def Node.everyScalar (q : Scalar → Bool) (n : Node) : Bool := n.fold (scalarFolder q)

/-- All primitive values in a value are of some sort. -/
def Value.everyScalar (q : Scalar → Bool) (v : Value) : Bool := v.fold (scalarFolder q)

/-- The primitive values of a node are those of its fields. -/
lemma Node.everyScalar_eq_true {q : Scalar → Bool} {n : Node} :
    n.everyScalar q = true ↔ ∀ p ∈ n.fields, p.2.everyScalar q = true := by
  have hfold : n.everyScalar q = (n.fields.map fun p => (p.1, p.2.everyScalar q)).all Prod.snd :=
    Node.fold_eq_node_fields (scalarFolder q) n
  rw [hfold, List.all_map, List.all_eq_true]
  rfl

/-- The primitive values of a list are those of its items. -/
lemma Value.everyScalar_list {q : Scalar → Bool} {items : List Value} :
    (Value.list items).everyScalar q = true ↔ ∀ v ∈ items, v.everyScalar q = true := by
  have hfold : (Value.list items).everyScalar q = (items.map (Value.everyScalar q)).all id := by
    rw [everyScalar, fold, foldItems_eq_map]
    rfl
  rw [hfold, List.all_map, List.all_eq_true]
  rfl

/-- Primitive values of a sort are of every wider sort. -/
lemma everyScalar_mono {q q' : Scalar → Bool} (h : ∀ s, q s = true → q' s = true) :
    (∀ n : Node, n.everyScalar q = true → n.everyScalar q' = true) ∧
      ∀ v : Value, v.everyScalar q = true → v.everyScalar q' = true := by
  refine Node.induction ?scalar ?node ?list ?fields
  case scalar => exact h
  case node => exact fun n hn => hn
  case list =>
    intro items hitems hq
    rw [Value.everyScalar_list] at hq ⊢
    exact fun v hv => hitems v hv (hq v hv)
  case fields =>
    intro n hfields hq
    rw [Node.everyScalar_eq_true] at hq ⊢
    exact fun p hp => hfields p hp (hq p hp)

/-- What stands under a key is changed with everything else. -/
lemma lookup_map_snd {β γ : Type} (f : β → γ) (entries : List (Text × β)) (key : Text) :
    (entries.map fun p => (p.1, f p.2)).lookup key = (entries.lookup key).map f := by
  induction entries with
  | nil => rfl
  | cons e rest ih =>
    obtain ⟨k, b⟩ := e
    rw [List.map_cons, List.lookup_cons, List.lookup_cons]
    cases key == k with
    | true => rfl
    | false => exact ih

/-! ## Retouching -/

/-- A primitive value with another number for one that has a fraction. -/
def Scalar.mapFloat (f : Double → Double) : Scalar → Scalar
  | .float x => .float (f x)
  | s => s

/-- A primitive value stays as it is if its number does. -/
lemma Scalar.mapFloat_eq_self {f : Double → Double} (h : ∀ x, f x = x) (s : Scalar) :
    s.mapFloat f = s := by
  cases s with
  | float x => exact congrArg Scalar.float (h x)
  | _ => rfl

/-- A change of locations and of numbers with a fraction. -/
structure Retouch where
  location : Location → Location
  float : Double → Double

/-- Retouch the locations only. -/
def Retouch.moving (f : Location → Location) : Retouch := ⟨f, id⟩

/-- Retouch by one after the other. -/
def Retouch.andThen (r s : Retouch) : Retouch := ⟨s.location ∘ r.location, s.float ∘ r.float⟩

mutual

/-- Retouch a node and all nodes below it. -/
def Node.retouch (r : Retouch) : Node → Node
  | .program loc body sourceType =>
    .program (r.location loc) (body.retouch r) (sourceType.retouch r)
  | .identifier loc name => .identifier (r.location loc) (name.retouch r)
  | .literal loc raw value => .literal (r.location loc) raw (value.mapFloat r.float)
  | .arrayExpression loc elements => .arrayExpression (r.location loc) (elements.retouch r)
  | .arrayPattern loc elements => .arrayPattern (r.location loc) (elements.retouch r)
  | .binaryExpression loc operator left right =>
    .binaryExpression (r.location loc) (operator.retouch r) (left.retouch r) (right.retouch r)
  | .memberExpression loc object property computed =>
    .memberExpression (r.location loc) (object.retouch r) (property.retouch r) (computed.retouch r)
  | .callExpression loc callee arguments =>
    .callExpression (r.location loc) (callee.retouch r) (arguments.retouch r)
  | .assignmentExpression loc operator left right =>
    .assignmentExpression (r.location loc) (operator.retouch r) (left.retouch r) (right.retouch r)
  | .updateExpression loc operator argument inFront =>
    .updateExpression (r.location loc) (operator.retouch r) (argument.retouch r) (inFront.retouch r)
  | .expressionStatement loc expression =>
    .expressionStatement (r.location loc) (expression.retouch r)
  | .blockStatement loc body => .blockStatement (r.location loc) (body.retouch r)
  | .classDeclaration loc id superclass body =>
    .classDeclaration (r.location loc) (id.retouch r) (superclass.retouch r) (body.retouch r)
  | .classBody loc body => .classBody (r.location loc) (body.retouch r)
  | .ifStatement loc test consequent alternate =>
    .ifStatement (r.location loc) (test.retouch r) (consequent.retouch r) (alternate.retouch r)
  | .forStatement loc init test update body =>
    .forStatement (r.location loc) (init.retouch r) (test.retouch r) (update.retouch r)
      (body.retouch r)
  | .variableDeclaration loc kind declarations =>
    .variableDeclaration (r.location loc) (kind.retouch r) (declarations.retouch r)
  | .variableDeclarator loc id init =>
    .variableDeclarator (r.location loc) (id.retouch r) (init.retouch r)
  | .foreign kind loc => .foreign kind (loc.map r.location)

/-- Retouch all nodes in what a field holds. -/
def Value.retouch (r : Retouch) : Value → Value
  | .scalar s => .scalar (s.mapFloat r.float)
  | .node n => .node (n.retouch r)
  | .list items => .list (Value.retouchItems r items)

/-- Retouch all nodes in the items of a list. -/
def Value.retouchItems (r : Retouch) : List Value → List Value
  | [] => []
  | v :: rest => v.retouch r :: Value.retouchItems r rest

end

section

variable (r s : Retouch) (n : Node)

/-- Items are retouched one by one. -/
lemma Value.retouch_list (items : List Value) :
    (Value.list items).retouch r = .list (items.map (Value.retouch r)) := by
  have h : Value.retouchItems r items = items.map (Value.retouch r) := by
    induction items with
    | nil => rfl
    | cons v rest ih => rw [Value.retouchItems, ih, List.map_cons]
  rw [retouch, h]

/-- Retouching keeps the kind of a node. -/
@[simp] lemma Node.kind?_retouch : (n.retouch r).kind? = n.kind? := by
  cases n <;> rfl

/-- Retouching keeps the name of the kind of a node. -/
@[simp] lemma Node.kindName_retouch : (n.retouch r).kindName = n.kindName := by
  cases n <;> rfl

/-- Retouching changes the location of a node. -/
@[simp] lemma Node.location?_retouch : (n.retouch r).location? = n.location?.map r.location := by
  cases n <;> rfl

/-- Retouching changes what the fields of a node hold. -/
@[simp] lemma Node.fields_retouch :
    (n.retouch r).fields = n.fields.map fun p => (p.1, p.2.retouch r) := by
  cases n <;> rfl

/-- The value of a field is retouched. -/
lemma Node.get_retouch (name : Text) : (n.retouch r).get name = (n.get name).retouch r := by
  rw [get, get, fields_retouch, lookup_map_snd]
  cases n.fields.lookup name with
  | none => rfl
  | some v => rfl

end

/-- A node of a known kind has a location. -/
lemma Node.exists_location {n : Node} {kind : Kind} (h : n.kind? = some kind) :
    ∃ loc, n.location? = some loc := by
  cases n <;> first | exact ⟨_, rfl⟩ | cases h

/-- A node is told by its kind, its location and its fields. -/
lemma Node.eq_of_fields {n m : Node} {kind : Kind} (hn : n.kind? = some kind)
    (hm : m.kind? = some kind) (hloc : n.location? = m.location?) (hfields : n.fields = m.fields) :
    n = m := by
  obtain ⟨loc, hlocated⟩ := exists_location hn
  have hsome := ofFields?_fields hn hlocated
  rw [hfields, ofFields?_fields hm (hloc ▸ hlocated)] at hsome
  exact (Option.some.inj hsome).symm

/-- Retouching twice is retouching once by both. -/
theorem retouch_retouch (r s : Retouch) :
    (∀ n : Node, (n.retouch r).retouch s = n.retouch (r.andThen s)) ∧
      ∀ v : Value, (v.retouch r).retouch s = v.retouch (r.andThen s) := by
  refine Node.induction ?scalar ?node ?list ?fields
  case scalar =>
    intro v
    cases v <;> rfl
  case node => exact fun n hn => congrArg Value.node hn
  case list =>
    intro items hitems
    rw [Value.retouch_list, Value.retouch_list, Value.retouch_list, List.map_map]
    exact congrArg Value.list (List.map_congr_left hitems)
  case fields =>
    intro n hfields
    cases hkind : n.kind? with
    | none => cases n <;> cases hkind; simp [Node.retouch, Retouch.andThen]
    | some kind =>
      have hleft : ((n.retouch r).retouch s).kind? = some kind := by simpa using hkind
      have hright : (n.retouch (r.andThen s)).kind? = some kind := by simpa using hkind
      refine Node.eq_of_fields hleft hright (by simp [Retouch.andThen]) ?_
      simp only [Node.fields_retouch, List.map_map]
      exact List.map_congr_left fun p hp => congrArg (Prod.mk p.1) (hfields p hp)

/-- Two ways of retouching come to the same if they do to the primitive values and the locations that
are there. -/
theorem retouch_congr {r s : Retouch} {q : Scalar → Bool}
    (hscalar : ∀ t, q t = true → t.mapFloat r.float = t.mapFloat s.float) :
    (∀ n : Node, n.everyScalar q = true → (∀ loc ∈ n.locations, r.location loc = s.location loc) →
      n.retouch r = n.retouch s) ∧
    ∀ v : Value, v.everyScalar q = true → (∀ loc ∈ v.locations, r.location loc = s.location loc) →
      v.retouch r = v.retouch s := by
  refine Node.induction ?scalar ?node ?list ?fields
  case scalar => exact fun t ht _ => congrArg Value.scalar (hscalar t ht)
  case node => exact fun n hn hq hloc => congrArg Value.node (hn hq hloc)
  case list =>
    intro items hitems hq hloc
    rw [Value.everyScalar_list] at hq
    rw [Value.forall_mem_locations_list] at hloc
    rw [Value.retouch_list, Value.retouch_list]
    exact congrArg Value.list (List.map_congr_left fun v hv => hitems v hv (hq v hv) (hloc v hv))
  case fields =>
    intro n hfields hq hloc
    rw [Node.everyScalar_eq_true] at hq
    rw [Node.forall_mem_locations] at hloc
    obtain ⟨hown, hbelow⟩ := hloc
    have hlocation : n.location?.map r.location = n.location?.map s.location :=
      Option.map_congr hown
    cases hkind : n.kind? with
    | none =>
      cases n <;> cases hkind
      exact congrArg (Node.foreign _) hlocation
    | some kind =>
      have hleft : (n.retouch r).kind? = some kind := by simpa using hkind
      have hright : (n.retouch s).kind? = some kind := by simpa using hkind
      refine Node.eq_of_fields hleft hright (by simpa using hlocation) ?_
      rw [Node.fields_retouch, Node.fields_retouch]
      exact List.map_congr_left fun p hp =>
        congrArg (Prod.mk p.1) (hfields p hp (hq p hp) (hbelow p hp))

/-- Retouching changes nothing if it changes no number and no location that is there. -/
theorem retouch_eq_self {r : Retouch} (hfloat : ∀ x, r.float x = x) :
    (∀ n : Node, (∀ loc ∈ n.locations, r.location loc = loc) → n.retouch r = n) ∧
      ∀ v : Value, (∀ loc ∈ v.locations, r.location loc = loc) → v.retouch r = v := by
  refine Node.induction ?scalar ?node ?list ?fields
  case scalar => exact fun s _ => congrArg Value.scalar (s.mapFloat_eq_self hfloat)
  case node => exact fun n hn hloc => congrArg Value.node (hn hloc)
  case list =>
    intro items hitems hloc
    rw [Value.forall_mem_locations_list] at hloc
    rw [Value.retouch_list, List.map_congr_left fun v hv => hitems v hv (hloc v hv), List.map_id']
  case fields =>
    intro n hfields hloc
    rw [Node.forall_mem_locations] at hloc
    obtain ⟨hown, hbelow⟩ := hloc
    have hlocation : n.location?.map r.location = n.location? := by
      cases hloc : n.location? with
      | none => rfl
      | some loc => exact congrArg some (hown loc hloc)
    cases hkind : n.kind? with
    | none =>
      cases n <;> cases hkind
      exact congrArg (Node.foreign _) hlocation
    | some kind =>
      have hleft : (n.retouch r).kind? = some kind := by simpa using hkind
      refine Node.eq_of_fields hleft hkind (by simpa) ?_
      rw [Node.fields_retouch]
      exact (List.map_congr_left fun p hp =>
        congrArg (Prod.mk p.1) (hfields p hp (hbelow p hp))).trans (List.map_id' _)

end Offside
