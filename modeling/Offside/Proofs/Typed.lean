import Offside.Proofs.Document
import Offside.Proofs.Syntax

/-!
# Typed trees

Every field of a node has a type: a text, one of some words, a truth value, a primitive value, a
node of certain kinds that may be missing, or a list of such nodes.  `Kind.types` gives the types
of the fields of a kind, and a tree is typed if every field holds what its type says.

The trees of `Syntax` are typed (`Syntax.Program.isTyped`); besides them there are typed
declarations that declare nothing.  A typed tree loads (`isLoadable_of_isTyped`), and if all its
texts are without surrogates, it can be spelled in a document (`isSpelled_toData`).
-/

namespace Offside

/-! ## Types of fields -/

/-- What a field of a node may hold. -/
inductive FieldType where
  | text
  /-- One of some words. -/
  | choice (words : List Text)
  | truth
  | primitive
  /-- A node of one of the kinds. -/
  | node (kinds : List Kind)
  /-- A node of one of the kinds, or nothing. -/
  | optional (kinds : List Kind)
  /-- Nodes of the kinds. -/
  | nodes (kinds : List Kind)
  /-- Nodes of the kinds, some of which may be missing. -/
  | holes (kinds : List Kind)

namespace Kind

/-- The kinds of expressions. -/
def expressions : List Kind :=
  [identifier, literal, arrayExpression, binaryExpression, memberExpression, callExpression,
    assignmentExpression, updateExpression]

/-- The kinds of what is assigned to. -/
def patterns : List Kind := [identifier, arrayPattern, memberExpression]

/-- The kinds of statements. -/
def statements : List Kind :=
  [expressionStatement, blockStatement, classDeclaration, ifStatement, forStatement,
    variableDeclaration]

/-- The types of the fields of a kind, in their order. -/
def types : Kind → List FieldType
  | program => [.nodes statements, .choice [Text.ofString "script", Text.ofString "module"]]
  | identifier => [.text]
  | literal => [.text, .primitive]
  | arrayExpression => [.holes expressions]
  | arrayPattern => [.holes patterns]
  | binaryExpression => [.text, .node expressions, .node expressions]
  | memberExpression => [.node expressions, .node expressions, .truth]
  | callExpression => [.node expressions, .nodes expressions]
  | assignmentExpression => [.text, .node patterns, .node expressions]
  | updateExpression =>
    [.choice [Text.ofString "++", Text.ofString "--"], .node expressions, .truth]
  | expressionStatement => [.node expressions]
  | blockStatement => [.nodes statements]
  | classDeclaration => [.node [identifier], .optional expressions, .node [classBody]]
  | classBody => [.nodes statements]
  | ifStatement => [.node expressions, .node statements, .optional statements]
  | forStatement =>
    [.optional (variableDeclaration :: expressions), .optional expressions, .optional expressions,
      .node statements]
  | variableDeclaration =>
    [.choice [Text.ofString "var", Text.ofString "let", Text.ofString "const"],
      .nodes [variableDeclarator]]
  | variableDeclarator => [.node patterns, .optional expressions]

end Kind

mutual

/-- A tree of known kinds whose fields hold what their types say. -/
inductive Node.IsTyped : Node → Prop
  | node {n : Node} {k : Kind} (kind : n.kind? = some k)
    (fields : Value.HaveTypes (n.fields.map Prod.snd) k.types) : Node.IsTyped n

/-- What a field of a type holds. -/
inductive Value.HasType : Value → FieldType → Prop
  | text (t : Text) : Value.HasType (.text t) .text
  | choice {words : List Text} {t : Text} (h : t ∈ words) : Value.HasType (.text t) (.choice words)
  | truth (b : Bool) : Value.HasType (.scalar (.bool b)) .truth
  | primitive (s : Scalar) : Value.HasType (.scalar s) .primitive
  | node {kinds : List Kind} {n : Node} {k : Kind} (typed : Node.IsTyped n)
    (kind : n.kind? = some k) (mem : k ∈ kinds) : Value.HasType (.node n) (.node kinds)
  | absent (kinds : List Kind) : Value.HasType .null (.optional kinds)
  | present {kinds : List Kind} {v : Value} (h : Value.HasType v (.node kinds)) :
    Value.HasType v (.optional kinds)
  | nodes {kinds : List Kind} {items : List Value}
    (h : ∀ v ∈ items, Value.HasType v (.node kinds)) : Value.HasType (.list items) (.nodes kinds)
  | holes {kinds : List Kind} {items : List Value}
    (h : ∀ v ∈ items, Value.HasType v (.optional kinds)) :
    Value.HasType (.list items) (.holes kinds)

/-- What the fields of a node hold, one by one. -/
inductive Value.HaveTypes : List Value → List FieldType → Prop
  | nil : Value.HaveTypes [] []
  | cons {v : Value} {type : FieldType} {vs : List Value} {types : List FieldType}
    (head : Value.HasType v type) (tail : Value.HaveTypes vs types) :
    Value.HaveTypes (v :: vs) (type :: types)

end

/-- Each field of a typed node has one of the types. -/
lemma Value.HaveTypes.exists_hasType : ∀ {vs : List Value} {types : List FieldType},
    HaveTypes vs types → ∀ v ∈ vs, ∃ type ∈ types, v.HasType type
  | [], _, _ => List.forall_mem_nil _
  | _ :: _, _, .cons head tail => by
    refine List.forall_mem_cons.mpr ⟨⟨_, List.mem_cons_self, head⟩, fun v hv => ?_⟩
    obtain ⟨type, hmem, htype⟩ := tail.exists_hasType v hv
    exact ⟨type, List.mem_cons_of_mem _ hmem, htype⟩

/-- Fields that are changed within their types keep them. -/
lemma Value.HaveTypes.map {f : Value → Value} : ∀ {fields : List (Text × Value)}
    {types : List FieldType}, HaveTypes (fields.map Prod.snd) types →
      (∀ p ∈ fields, ∀ type, p.2.HasType type → (f p.2).HasType type) →
      HaveTypes (fields.map fun p => f p.2) types
  | [], [], _, _ => .nil
  | (_, _) :: _, _ :: _, .cons head tail, hf => by
    obtain ⟨hfirst, hrest⟩ := List.forall_mem_cons.mp hf
    exact .cons (hfirst _ head) (tail.map hrest)

/-- Fields hold what their types say, as one conjunction. -/
def Value.AllHold : List (Text × Value) → List FieldType → Prop
  | (_, v) :: rest, type :: types => v.HasType type ∧ AllHold rest types
  | _, _ => True

/-- What holds of fields one by one, holds of all of them. -/
lemma Value.HaveTypes.allHold : ∀ {fields : List (Text × Value)} {types : List FieldType},
    HaveTypes (fields.map Prod.snd) types → AllHold fields types
  | [], [], _ => trivial
  | (_, _) :: _, _ :: _, .cons head tail => ⟨head, tail.allHold⟩

/-- The fields of a typed node hold what the types of its kind say. -/
lemma Node.IsTyped.allHold {n : Node} {k : Kind} (h : n.IsTyped) (hk : n.kind? = some k) :
    Value.AllHold n.fields k.types := by
  obtain ⟨kind, fields⟩ := h
  obtain rfl := Option.some.inj (hk.symm.trans kind)
  exact fields.allHold

/-- A list of nodes is one in which none is missing. -/
lemma Value.HasType.holes_of_nodes {v : Value} {kinds : List Kind} (h : v.HasType (.nodes kinds)) :
    v.HasType (.holes kinds) := by
  cases h with
  | nodes h => exact .holes fun v hv => (h v hv).present

/-- The first item of a typed list is typed. -/
lemma Value.HasType.item {v : Value} {rest : List Value} {kinds : List Kind}
    (h : (Value.list (v :: rest)).HasType (.holes kinds)) : v.HasType (.optional kinds) := by
  cases h with
  | holes h => exact h v List.mem_cons_self

/-- A typed node in a field is typed. -/
lemma Value.HasType.isTyped {n : Node} {kinds : List Kind}
    (h : (Value.node n).HasType (.optional kinds)) : n.IsTyped := by
  cases h with
  | present h =>
    cases h with
    | node typed => exact typed

/-! ## The trees of a source -/

namespace Syntax

mutual

/-- The node of an expression is a typed one. -/
theorem Expression.hasType : ∀ e : Expression,
    (Value.node e.toNode).HasType (.node Kind.expressions)
  | .identifier _ name => .node (.node rfl (.cons (.text name) .nil)) rfl (by decide)
  | .literal _ raw value =>
    .node (.node rfl (.cons (.text raw) (.cons (.primitive value) .nil))) rfl (by decide)
  | .array _ elements =>
    .node (.node rfl (.cons (.holes (hasType_elements elements)) .nil)) rfl (by decide)
  | .binary _ operator left right =>
    .node (.node rfl (.cons (.text operator) (.cons left.hasType (.cons right.hasType .nil))))
      rfl (by decide)
  | .member _ object property computed =>
    .node (.node rfl (.cons object.hasType (.cons property.hasType (.cons (.truth computed) .nil))))
      rfl (by decide)
  | .call _ callee arguments =>
    .node (.node rfl (.cons callee.hasType (.cons (.nodes (hasType_arguments arguments)) .nil)))
      rfl (by decide)
  | .assignment _ operator target value =>
    .node (.node rfl (.cons (.text operator) (.cons target.hasType (.cons value.hasType .nil))))
      rfl (by decide)
  | .step _ operator argument inFront =>
    .node (.node rfl (.cons (.choice (by cases operator <;> decide))
      (.cons argument.hasType (.cons (.truth inFront) .nil)))) rfl (by decide)

/-- The node of a pattern is a typed one. -/
theorem Pattern.hasType : ∀ p : Pattern, (Value.node p.toNode).HasType (.node Kind.patterns)
  | .identifier _ name => .node (.node rfl (.cons (.text name) .nil)) rfl (by decide)
  | .array _ elements =>
    .node (.node rfl (.cons (.holes (hasType_targets elements)) .nil)) rfl (by decide)
  | .member _ object property computed =>
    .node (.node rfl (.cons object.hasType (.cons property.hasType (.cons (.truth computed) .nil))))
      rfl (by decide)

/-- The elements of an array are typed. -/
theorem hasType_elements : ∀ elements : List (Option Expression),
    ∀ v ∈ elementsToValues elements, v.HasType (.optional Kind.expressions)
  | [] => List.forall_mem_nil _
  | none :: rest => List.forall_mem_cons.mpr ⟨.absent _, hasType_elements rest⟩
  | some e :: rest => List.forall_mem_cons.mpr ⟨.present e.hasType, hasType_elements rest⟩

/-- The elements of an array pattern are typed. -/
theorem hasType_targets : ∀ elements : List (Option Pattern),
    ∀ v ∈ targetsToValues elements, v.HasType (.optional Kind.patterns)
  | [] => List.forall_mem_nil _
  | none :: rest => List.forall_mem_cons.mpr ⟨.absent _, hasType_targets rest⟩
  | some p :: rest => List.forall_mem_cons.mpr ⟨.present p.hasType, hasType_targets rest⟩

/-- The arguments of a call are typed. -/
theorem hasType_arguments : ∀ arguments : List Expression,
    ∀ v ∈ argumentsToValues arguments, v.HasType (.node Kind.expressions)
  | [] => List.forall_mem_nil _
  | e :: rest => List.forall_mem_cons.mpr ⟨e.hasType, hasType_arguments rest⟩

end

/-- An expression that may be missing is typed. -/
lemma Expression.hasType_toValue (e : Option Expression) :
    (Expression.toValue e).HasType (.optional Kind.expressions) := by
  cases e with
  | none => exact .absent _
  | some e => exact .present e.hasType

/-- The node of a declaration is a typed one. -/
lemma Declaration.hasType {kinds : List Kind} (d : Declaration)
    (hkinds : Kind.variableDeclaration ∈ kinds) : (Value.node d.toNode).HasType (.node kinds) := by
  have declarator (x : Declarator) :
      (Value.node x.toNode).HasType (.node [Kind.variableDeclarator]) :=
    .node (.node rfl (.cons x.target.hasType (.cons (Expression.hasType_toValue x.value) .nil)))
      rfl List.mem_cons_self
  refine .node (.node rfl (.cons (.choice ?_) (.cons (.nodes ?_) .nil))) rfl hkinds
  · cases d.kind <;> decide
  · exact List.forall_mem_map.mpr fun x _ => declarator x

/-- The first clause of a loop is typed. -/
lemma Opening.hasType_toValue (o : Option Opening) :
    (Opening.toValue o).HasType (.optional (Kind.variableDeclaration :: Kind.expressions)) := by
  cases o with
  | none => exact .absent _
  | some o =>
    cases o with
    | declaration d => exact .present (d.hasType List.mem_cons_self)
    | expression e =>
      cases e.hasType with
      | node typed kind mem => exact .present (.node typed kind (List.mem_cons_of_mem _ mem))

mutual

/-- The node of a statement is a typed one. -/
theorem Statement.hasType : ∀ s : Statement, (Value.node s.toNode).HasType (.node Kind.statements)
  | .expression _ e => .node (.node rfl (.cons e.hasType .nil)) rfl (by decide)
  | .block _ body =>
    .node (.node rfl (.cons (.nodes (hasType_statements body)) .nil)) rfl (by decide)
  | .classDeclaration _ idLoc name base bodyLoc body => by
    have id : Node.IsTyped (.identifier idLoc (.text name)) := .node rfl (.cons (.text name) .nil)
    have body : Node.IsTyped (.classBody bodyLoc (.list (statementsToValues body))) :=
      .node rfl (.cons (.nodes (hasType_statements body)) .nil)
    exact .node (.node rfl (.cons (.node id rfl (by decide))
      (.cons (Expression.hasType_toValue base) (.cons (.node body rfl (by decide)) .nil))))
      rfl (by decide)
  | .conditional _ test yes none =>
    .node (.node rfl (.cons test.hasType (.cons yes.hasType (.cons (.absent _) .nil))))
      rfl (by decide)
  | .conditional _ test yes (some no) =>
    .node (.node rfl (.cons test.hasType (.cons yes.hasType (.cons (.present no.hasType) .nil))))
      rfl (by decide)
  | .loop _ init test update body =>
    .node (.node rfl (.cons (Opening.hasType_toValue init) (.cons (Expression.hasType_toValue test)
      (.cons (Expression.hasType_toValue update) (.cons body.hasType .nil))))) rfl (by decide)
  | .declaration d => d.hasType (by decide)

/-- The statements of a body are typed. -/
theorem hasType_statements : ∀ body : List Statement,
    ∀ v ∈ statementsToValues body, v.HasType (.node Kind.statements)
  | [] => List.forall_mem_nil _
  | s :: rest => List.forall_mem_cons.mpr ⟨s.hasType, hasType_statements rest⟩

end

/-- The node of a program is typed. -/
theorem Program.isTyped (p : Program) : p.toNode.IsTyped :=
  .node rfl (.cons (.nodes (hasType_statements p.body))
    (.cons (.choice (by cases p.sourceType <;> decide)) .nil))

end Syntax

/-! ## Loading typed trees -/

/-- What may be missing is an item of a list that the loader makes. -/
lemma Value.HasType.isItem {v : Value} {kinds : List Kind} (h : v.HasType (.optional kinds))
    (hv : v.IsLoadable) : v.IsItem := by
  cases h with
  | absent => exact .hole
  | present h =>
    cases h with
    | node =>
      cases hv with
      | node h => exact .node h

/-- A typed tree is one that the loader makes. -/
theorem isLoadable_of_isTyped :
    (∀ n : Node, n.IsTyped → n.IsLoadable) ∧
      ∀ v : Value, ∀ type, v.HasType type → v.IsLoadable := by
  refine Node.induction ?scalar ?node ?list ?fields
  case scalar => exact fun s _ _ => .scalar s
  case node =>
    intro n hn type h
    cases h with
    | node typed => exact .node (hn typed)
    | present h => exact .node (hn h.present.isTyped)
  case list =>
    intro items hitems type h
    cases h with
    | present h => exact absurd h nofun
    | nodes h => exact .list fun v hv => (h v hv).present.isItem (hitems v hv _ (h v hv))
    | holes h => exact .list fun v hv => (h v hv).isItem (hitems v hv _ (h v hv))
  case fields =>
    rintro n hfields ⟨kind, htypes⟩
    refine .node kind fun p hp => ?_
    obtain ⟨type, -, htype⟩ := htypes.exists_hasType p.2 (List.mem_map_of_mem hp)
    exact hfields p hp type htype

/-! ## Spelling trees -/

/-- All texts of the parts of a tree are without surrogates. -/
def unicodeFolder : Folder Bool where
  scalar := Scalar.isUnicode
  list parts := parts.all id
  node _ parts := parts.all Prod.snd

/-- All texts in a node and below it are without surrogates. -/
def Node.isUnicode (n : Node) : Bool := n.fold unicodeFolder

/-- All texts in a value are without surrogates. -/
def Value.isUnicode (v : Value) : Bool := v.fold unicodeFolder

/-- The texts of a node are those of its fields. -/
lemma Node.isUnicode_eq_true {n : Node} :
    n.isUnicode = true ↔ ∀ p ∈ n.fields, p.2.isUnicode = true :=
  Node.everyScalar_eq_true (q := Scalar.isUnicode)

/-- The texts of a list are those of its items. -/
lemma Value.isUnicode_list {items : List Value} :
    (Value.list items).isUnicode = true ↔ ∀ v ∈ items, v.isUnicode = true :=
  Value.everyScalar_list (q := Scalar.isUnicode)

/-- Integers are spelled. -/
lemma Data.isSpelled_int (n : Int) : (Data.int n).IsSpelled := .scalar rfl

/-- Two entries under different keys are spelled if what they keep is. -/
lemma Data.isSpelled_pair {k l : Text} {a b : Data} (hkeys : k ≠ l) (hk : k.isUnicode = true)
    (hl : l.isUnicode = true) (ha : a.IsSpelled) (hb : b.IsSpelled) :
    (Data.dict [(k, a), (l, b)]).IsSpelled := by
  refine .dict ?_ ?_ ?_
  · simpa using hkeys
  · exact List.forall_mem_cons.mpr ⟨hk, List.forall_mem_singleton.mpr hl⟩
  · exact List.forall_mem_cons.mpr ⟨ha, List.forall_mem_singleton.mpr hb⟩

/-- A column that is written is spelled if the column is. -/
lemma Data.IsSpelled.oneLess {d : Data} (h : d.IsSpelled) : (Offside.oneLess d).IsSpelled := by
  cases h with
  | @scalar s h => cases s <;> exact .scalar h
  | list h => exact .list h
  | dict distinct keys values => exact .dict distinct keys values

/-- What a location tells of its place in a source. -/
def Location.parts (loc : Location) : List Data :=
  [loc.line, loc.column, loc.offset, loc.endOffset, loc.endLine, loc.endColumn]

/-- A location is spelled if its parts are. -/
lemma Location.isSpelled {loc : Location} (h : ∀ d ∈ loc.parts, d.IsSpelled) :
    ∀ e ∈ locationEntries loc, e.2.IsSpelled := by
  simp only [parts, List.forall_mem_cons] at h
  obtain ⟨hline, hcolumn, hoffset, hendOffset, hendLine, hendColumn, -⟩ := h
  have hplace {line column : Data} (hline : line.IsSpelled) (hcolumn : column.IsSpelled) :
      (placeData line column).IsSpelled :=
    Data.isSpelled_pair (by decide) (by decide) (by decide) hline hcolumn.oneLess
  have hlastLine : (if loc.endLine.isNull then loc.line else loc.endLine).IsSpelled := by
    split
    · exact hline
    · exact hendLine
  have hlastColumn : (if loc.endColumn.truthy then loc.endColumn else loc.column).IsSpelled := by
    split
    · exact hendColumn
    · exact hcolumn
  unfold locationEntries
  rw [List.forall_mem_append]
  constructor
  · split
    · exact List.forall_mem_singleton.mpr (Data.isSpelled_pair (by decide) (by decide) (by decide)
        (hplace hline hcolumn) (hplace hlastLine hlastColumn))
    · exact List.forall_mem_nil _
  · split
    · refine List.forall_mem_singleton.mpr (.list (List.forall_mem_cons.mpr ⟨hoffset, ?_⟩))
      exact List.forall_mem_singleton.mpr hendOffset
    · exact List.forall_mem_nil _

/-- A location in numbers is spelled. -/
lemma Location.IsNumbered.isSpelled {loc : Location} (h : loc.IsNumbered) :
    ∀ e ∈ locationEntries loc, e.2.IsSpelled := by
  obtain ⟨line, column, offset, endOffset, endLine, endColumn, file⟩ := h
  have hoption (n : Option Int) : (Data.ofInt? n).IsSpelled := by
    cases n with
    | none => exact .scalar rfl
    | some n => exact Data.isSpelled_int n
  refine Location.isSpelled ?_
  simp only [parts, List.forall_mem_cons]
  exact ⟨Data.isSpelled_int line, Data.isSpelled_int column, Data.isSpelled_int offset,
    Data.isSpelled_int endOffset, hoption endLine, hoption endColumn, List.forall_mem_nil _⟩

/-- The keys of a node that is written are without surrogates. -/
lemma Kind.isUnicode_keys (kind : Kind) :
    ∀ key ∈ Text.ofString "type" :: kind.fields.map Field.key ++
      [Text.ofString "loc", Text.ofString "range"], key.isUnicode = true := by
  cases kind <;> decide

/-- A tree is spelled if there are no surrogates in its texts and its locations are spelled. -/
theorem isSpelled_toData :
    (∀ n : Node, n.IsLoadable → (∀ loc ∈ n.locations, ∀ e ∈ locationEntries loc, e.2.IsSpelled) →
      n.isUnicode = true → n.toData.IsSpelled) ∧
    ∀ v : Value, v.IsLoadable → (∀ loc ∈ v.locations, ∀ e ∈ locationEntries loc, e.2.IsSpelled) →
      v.isUnicode = true → v.toData.IsSpelled := by
  refine Node.induction ?scalar ?node ?list ?fields
  case scalar => exact fun s _ _ h => .scalar h
  case node =>
    rintro n hn ⟨⟩ hlocations hunicode
    rename_i h
    exact hn h hlocations hunicode
  case list =>
    rintro items hitems ⟨⟩ hlocations hunicode
    rename_i h
    rw [Value.forall_mem_locations_list] at hlocations
    rw [Value.isUnicode_list] at hunicode
    rw [Value.toData_list]
    refine .list ?_
    rw [List.forall_mem_map]
    exact fun v hv => hitems v hv (h v hv).isLoadable (hlocations v hv) (hunicode v hv)
  case fields =>
    rintro n hfields ⟨hkind, hloadable⟩ hlocations hunicode
    rename_i kind
    obtain ⟨loc, hloc⟩ := Node.exists_location hkind
    obtain ⟨hown, hbelow⟩ := Node.forall_mem_locations.mp hlocations
    rw [Node.isUnicode_eq_true] at hunicode
    have hname : (kind.name).isUnicode = true := by
      cases kind <;> decide
    rw [Node.toData_eq hkind hloc]
    refine .dict (n.nodup_entries kind loc) (fun e he => ?_) ?_
    · exact kind.isUnicode_keys e.1
        ((n.keys_entries kind loc).subset (List.mem_map_of_mem he))
    · rw [Node.entries, List.cons_append, List.forall_mem_cons, List.forall_mem_append,
        List.forall_mem_map]
      refine ⟨.scalar hname, fun f hf => ?_, hown loc hloc⟩
      have hmem : (f.name, n.get f.name) ∈ n.fields := by
        rw [Node.fields_eq_map_get hkind]
        exact List.mem_map_of_mem hf
      exact hfields _ hmem (hloadable _ hmem) (hbelow _ hmem) (hunicode _ hmem)

end Offside
