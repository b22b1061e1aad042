import Mathlib.Tactic.Choose
import Mathlib.Tactic.Lemma
import Offside.Tree.Encode
import Offside.Tree.Load

/-!
# The loader, field by field

The loader loads every entry of an object first and then takes the fields of its kind out of what
it has loaded.  What it does can be said without the entries that no field asks for: `loadField`
loads one field of a node, and `loadEach` loads fields one after the other up to the first fault.
`load_eq` says that loading a node is reading its kind, locating it, loading the fields of its kind
and putting the node together; `fields_of_load_eq_ok` says what a node is that has been loaded, and
`load_of_fields` when a node is what is loaded.

The theorems about loaded trees go by induction on tree data, `Data.induction`, and use the laws
of this file in place of the loader.
-/

namespace Offside

/-! ## Induction on tree data -/

/-- What holds of primitive values, of a list if it holds of its items and of an object if it holds
of all that it keeps, holds of all tree data. -/
theorem Data.induction {P : Data → Prop} (scalar : ∀ s, P (.scalar s))
    (list : ∀ items, (∀ d ∈ items, P d) → P (.list items))
    (object : ∀ shape entries, (∀ key d, (key, d) ∈ entries → P d) → P (.object shape entries)) :
    ∀ d, P d
  | .scalar s => scalar s
  | .list items => list items fun d hd =>
    have := List.sizeOf_lt_of_mem hd
    Data.induction scalar list object d
  | .object shape entries => object shape entries fun key d hd =>
    have := List.sizeOf_lt_of_mem hd
    Data.induction scalar list object d
termination_by d => sizeOf d
decreasing_by
  all_goals simp_wf
  · omega
  · simp only [Prod.mk.sizeOf_spec] at this
    omega

/-- Only null is null. -/
lemma Data.eq_null_of_isNull {d : Data} (h : d.isNull = true) : d = .null := by
  unfold isNull at h
  split at h
  · rfl
  · exact absurd h Bool.false_ne_true

/-- An entry that is found is kept. -/
lemma mem_of_lookup_eq_some {β : Type} {entries : List (Text × β)} {key : Text} {b : β}
    (h : entries.lookup key = some b) : (key, b) ∈ entries := by
  obtain ⟨before, after, rfl, -⟩ := List.lookup_eq_some_iff.mp h
  exact List.mem_append_right before List.mem_cons_self

/-- Of the entries whose keys pass a test, one is found under a key if the key passes it. -/
lemma lookup_filter {α β : Type} [BEq α] [LawfulBEq α] (q : α → Bool) (entries : List (α × β))
    (key : α) :
    (entries.filter fun e => q e.1).lookup key = if q key then entries.lookup key else none := by
  induction entries with
  | nil => exact (ite_self _).symm
  | cons e rest ih =>
    obtain ⟨k, b⟩ := e
    rw [List.filter_cons, List.lookup_cons]
    cases hk : key == k with
    | true =>
      obtain rfl := eq_of_beq hk
      by_cases hq : q key = true
      · rw [if_pos hq, if_pos hq, List.lookup_cons_self]
      · rw [if_neg hq, ih, if_neg hq, if_neg hq]
    | false =>
      rw [← ih]
      split
      · rw [List.lookup_cons, hk]
      · rfl

/-- Putting something under a key keeps what is found under all others. -/
lemma lookup_cons_filter_of_ne {α β : Type} [BEq α] [LawfulBEq α] {key other : α} (h : other ≠ key)
    (b : β) (entries : List (α × β)) :
    List.lookup other ((key, b) :: entries.filter fun e => e.1 != key) = entries.lookup other := by
  rw [List.lookup_cons, beq_eq_false_iff_ne.mpr h]
  exact (lookup_filter (· != key) entries other).trans (if_pos (bne_iff_ne.mpr h))

/-! ## Properties -/

namespace Data

/-- What stands under a key is kept in a slot beside an instance dictionary. -/
def isApart (d : Data) (key : Text) : Bool :=
  match d with
  | .object (.instanceDict slotted) _ => slotted.contains key
  | _ => false

section

variable {d part : Data} {key : Text}

/-- A property is read as what stands under its key. -/
lemma get_eq (d : Data) (key : Text) : d.get key = d.entry key := by
  cases d with
  | scalar s => rfl
  | list items => rfl
  | object shape entries => cases shape <;> rfl

/-- A property is there if something stands under its key, and not in a slot beside an instance
dictionary. -/
lemma has_eq (d : Data) (key : Text) : d.has key = (!d.isApart key && (d.entry? key).isSome) := by
  cases d with
  | scalar s => rfl
  | list items => rfl
  | object shape entries =>
    cases shape with
    | dict => rfl
    | slots => rfl
    | instanceDict slotted =>
      change ((entries.filter fun e => !slotted.contains e.1).lookup key).isSome =
        (!slotted.contains key && (entries.lookup key).isSome)
      rw [lookup_filter fun k => !slotted.contains k]
      cases slotted.contains key <;> rfl

/-- The property of an object under a key, if the object is found to have it. -/
def held? (d : Data) (key : Text) : Option Data := if d.has key then some (d.get key) else none

/-- An object is found to have what stands under a key, unless it is kept apart. -/
lemma held?_eq (d : Data) (key : Text) :
    d.held? key = if d.isApart key then none else d.entry? key := by
  rw [held?, has_eq, get_eq, entry]
  cases d.isApart key with
  | true => rfl
  | false => cases d.entry? key <;> rfl

/-- A property is there if the object is found to have one. -/
lemma has_eq_isSome (d : Data) (key : Text) : d.has key = (d.held? key).isSome := by
  rw [held?]
  cases d.has key <;> rfl

/-- What an object is found to have stands under the key. -/
lemma entry?_of_held? (h : d.held? key = some part) : d.entry? key = some part := by
  rw [held?_eq] at h
  split at h
  · exact absurd h nofun
  · exact h

/-- What an object is found to have is what is read. -/
lemma entry_of_held? (h : d.held? key = some part) : d.entry key = part := by
  rw [entry, entry?_of_held? h, Option.getD_some]

/-- What an object is found to have is kept in it. -/
lemma mem_of_held? {shape : Shape} {entries : List (Text × Data)}
    (h : held? (.object shape entries) key = some part) : (key, part) ∈ entries :=
  mem_of_lookup_eq_some (entry?_of_held? h)

/-- A dictionary is found to have all its entries. -/
lemma held?_dict (entries : List (Text × Data)) (key : Text) :
    (dict entries).held? key = entries.lookup key := held?_eq _ key

end

end Data

/-! ## Results -/

/-- A computation that goes on after another one and gives a result has had a result before. -/
lemma exists_of_bind_eq_ok {ε α β : Type} {x : Except ε α} {f : α → Except ε β} {b : β}
    (h : x >>= f = .ok b) : ∃ a, x = .ok a ∧ f a = .ok b := by
  cases x with
  | error e => exact absurd h nofun
  | ok a => exact ⟨a, rfl, h⟩

/-- A result that has been changed was a result before. -/
lemma exists_of_map_eq_ok {ε α β : Type} {x : Except ε α} {f : α → β} {b : β}
    (h : x.map f = .ok b) : ∃ a, x = .ok a ∧ f a = b := by
  cases x with
  | error e => exact absurd h nofun
  | ok a => exact ⟨a, rfl, Except.ok.inj h⟩

/-- A result whose fault has been renamed was a result before. -/
lemma eq_ok_of_mapError_eq_ok {ε ε' α : Type} {x : Except ε α} {f : ε → ε'} {a : α}
    (h : x.mapError f = .ok a) : x = .ok a := by
  cases x with
  | error e => exact absurd h nofun
  | ok b => exact congrArg _ (Except.ok.inj h)

section

variable (file : Data)

/-! ## Locations -/

/-- What is said about an edge of a node, its `start` or its `end`: the `line` or the `column`. -/
def Data.mark (d : Data) (edge axis : Text) : Data := ((d.entry "loc").entry edge).entry axis

/-- The last column of a node, if it is told. -/
def lastColumn (d : Data) : Except Misuse Data := if d.isNull then .ok .null else oneMore d

/-- A location without lines and columns; nothing at all is known without a source and an end. -/
def bareLocation (offset endOffset : Data) : Location :=
  if file.isNull && !endOffset.truthy then .unknown
  else ⟨.int 0, .int 0, offset, endOffset, .null, .null, file⟩

/-- A location is read from the span of a node and from the lines and columns of its two edges. -/
lemma locationOf_eq (d : Data) : locationOf file d = (do
    let (offset, endOffset) ← spanEnds (d.entry "range")
    if (d.entry "loc").isNull then return bareLocation file offset endOffset
    else do
      let column ← oneMore (orZero (d.mark "start" "column"))
      let endColumn ← lastColumn (d.mark "end" "column")
      return ⟨orZero (d.mark "start" "line"), column, offset, endOffset, d.mark "end" "line",
        endColumn, file⟩) := by
  unfold locationOf bareLocation lastColumn Data.mark
  simp only [Data.get_eq]
  cases spanEnds (d.entry "range") with
  | error e => rfl
  | ok ends =>
    dsimp only [bind, Except.bind]
    split
    · split <;> rfl
    · cases oneMore (orZero (((d.entry "loc").entry "start").entry "column")) with
      | error e => rfl
      | ok column => dsimp only; split <;> rfl

/-- A location that is told by lines and columns. -/
lemma locationOf_of_loc {d offset endOffset column endColumn : Data}
    (hloc : (d.entry "loc").isNull = false)
    (hspan : spanEnds (d.entry "range") = .ok (offset, endOffset))
    (hcolumn : oneMore (orZero (d.mark "start" "column")) = .ok column)
    (hlast : lastColumn (d.mark "end" "column") = .ok endColumn) :
    locationOf file d = .ok ⟨orZero (d.mark "start" "line"), column, offset, endOffset,
      d.mark "end" "line", endColumn, file⟩ := by
  rw [locationOf_eq, hspan, hcolumn, hlast, hloc]
  rfl

/-- A location that is told by a span at most. -/
lemma locationOf_of_no_loc {d offset endOffset : Data} (hloc : (d.entry "loc").isNull = true)
    (hspan : spanEnds (d.entry "range") = .ok (offset, endOffset)) :
    locationOf file d = .ok (bareLocation file offset endOffset) := by
  rw [locationOf_eq, hspan, hloc]
  rfl

/-! ## Fields -/

/-- The entries of an object are loaded one by one, so what is loaded under a key is what stands
under it, loaded. -/
lemma lookup_loadEntries (entries : List (Text × Data)) (key : Text) :
    (loadEntries file entries).lookup key = (entries.lookup key).map (loadValue file key) := by
  induction entries with
  | nil => rfl
  | cons e rest ih =>
    obtain ⟨k, d⟩ := e
    rw [loadEntries, List.lookup_cons, List.lookup_cons]
    cases hk : key == k with
    | true =>
      rw [eq_of_beq hk]
      rfl
    | false => exact ih

/-- Load a field of a node: what the node has under its key, or its default. -/
def loadField (d : Data) (kind : Kind) (loc : Location) (field : Field) : Except Fault Value :=
  match d.held? field.key, field.fallback with
  | some part, _ => loadValue file field.key part
  | none, some s => .ok (.scalar s)
  | none, none => .error (.malformed (.missing kind.name loc field.key))

/-- A field that loads is loaded from what the node has under its key, or has its default. -/
lemma loadField_eq_ok {d : Data} {kind : Kind} {loc : Location} {field : Field} {v : Value}
    (h : loadField file d kind loc field = .ok v) :
    (∃ part, d.held? field.key = some part ∧ loadValue file field.key part = .ok v) ∨
      d.held? field.key = none ∧ ∃ s, field.fallback = some s ∧ v = .scalar s := by
  rw [loadField] at h
  cases hpart : d.held? field.key with
  | some part =>
    rw [hpart] at h
    exact Or.inl ⟨part, rfl, h⟩
  | none =>
    rw [hpart] at h
    cases hfallback : field.fallback with
    | none => rw [hfallback] at h; exact absurd h nofun
    | some s => rw [hfallback] at h; exact Or.inr ⟨rfl, s, rfl, (Except.ok.inj h).symm⟩

/-- A field without a default is loaded from what the node has under its key. -/
lemma exists_of_loadField_needed {d : Data} {kind : Kind} {loc : Location} {field : Field}
    {v : Value}
    (hneeded : field.fallback = none) (h : loadField file d kind loc field = .ok v) :
    ∃ part, d.held? field.key = some part ∧ loadValue file field.key part = .ok v := by
  rcases loadField_eq_ok file h with hpart | ⟨-, s, hs, -⟩
  · exact hpart
  · exact absurd (hneeded.symm.trans hs) nofun

/-- Load fields of a node one after the other, up to the first fault. -/
def loadEach (d : Data) (kind : Kind) (loc : Location) :
    List Field → Except Fault (List (Text × Value))
  | [] => .ok []
  | field :: rest => do
    let value ← loadField file d kind loc field
    return (field.name, value) :: (← loadEach d kind loc rest)

/-- The fields of a node are loaded from the entries that they ask for. -/
lemma loadFields_eq {d : Data} {kind : Kind} {loc : Location}
    {parts : List (Text × Except Fault Value)}
    (h : ∀ key, parts.lookup key = (d.entry? key).map (loadValue file key)) (fields : List Field) :
    loadFields d kind loc parts fields = loadEach file d kind loc fields := by
  induction fields with
  | nil => rfl
  | cons field rest ih =>
    rw [loadFields, loadEach, ih, loadField, h, Data.has_eq, Data.held?_eq]
    cases d.isApart field.key with
    | true => cases field.fallback <;> rfl
    | false =>
      cases d.entry? field.key with
      | some part => rfl
      | none => cases field.fallback <;> rfl

/-- Fields that all load give their values in order. -/
lemma loadEach_eq_ok {d : Data} {kind : Kind} {loc : Location} {get : Field → Value}
    {fields : List Field} (h : ∀ f ∈ fields, loadField file d kind loc f = .ok (get f)) :
    loadEach file d kind loc fields = .ok (fields.map fun f => (f.name, get f)) := by
  induction fields with
  | nil => rfl
  | cons field rest ih =>
    rw [List.forall_mem_cons] at h
    rw [loadEach, h.1, ih h.2]
    rfl

/-- If fields give values, then each of them loads. -/
lemma exists_of_loadEach_eq_ok {d : Data} {kind : Kind} {loc : Location} {fields : List Field}
    {values : List (Text × Value)} (h : loadEach file d kind loc fields = .ok values) :
    ∀ f ∈ fields, ∃ v, loadField file d kind loc f = .ok v := by
  induction fields generalizing values with
  | nil => exact nofun
  | cons field rest ih =>
    obtain ⟨v, hv, h⟩ := exists_of_bind_eq_ok h
    obtain ⟨others, hrest, -⟩ := exists_of_bind_eq_ok h
    rw [List.forall_mem_cons]
    exact ⟨⟨v, hv⟩, ih hrest⟩

/-! ## Nodes -/

/-- Load a node whose kind and location are known: its fields in order, and the node of them. -/
def loadAs (d : Data) (kind : Kind) (loc : Location) : Except Fault Node := do
  let values ← loadEach file d kind loc kind.fields
  match Node.ofFields? kind loc fun name => (values.lookup (Text.ofString name)).getD .null with
  | some node => return node
  | none => throw (.malformed (.noText loc))

/-- Loading a node is reading its kind, locating it and loading it as a node of this kind. -/
theorem load_eq (d : Data) : load file d =
    match d.entry "type" with
    | .scalar (.text name) => do
      let loc ← (locationOf file d).mapError .misuse
      match Kind.ofName? name with
      | none => throw (.unsupported ⟨name, Kind.names, some loc, none⟩)
      | some kind => loadAs file d kind loc
    | _ => throw (.malformed (.noKind d.display)) := by
  have h (parts : List (Text × Except Fault Value))
      (hparts : ∀ key, parts.lookup key = (d.entry? key).map (loadValue file key)) :
      assemble file d parts =
        match d.entry "type" with
        | .scalar (.text name) => do
          let loc ← (locationOf file d).mapError .misuse
          match Kind.ofName? name with
          | none => throw (.unsupported ⟨name, Kind.names, some loc, none⟩)
          | some kind => loadAs file d kind loc
        | _ => throw (.malformed (.noKind d.display)) := by
    unfold assemble
    rw [Data.get_eq]
    cases d.entry "type" with
    | list items => rfl
    | object shape entries => rfl
    | scalar s =>
      cases s with
      | text name =>
        cases locationOf file d with
        | error e => rfl
        | ok loc =>
          cases hkind : Kind.ofName? name with
          | none => simp only [hkind]
          | some kind =>
            simp only [hkind]
            change loadFields d kind loc parts kind.fields >>= _ = loadAs file d kind loc
            rw [loadFields_eq file hparts]
            rfl
      | _ => rfl
  cases d with
  | scalar s => exact h [] fun _ => rfl
  | list items => exact h [] fun _ => rfl
  | object shape entries => exact h (loadEntries file entries) (lookup_loadEntries file entries)

/-- An object in a field is loaded as a node, unless it is the value of a literal. -/
lemma loadValue_object {key : Text} (shape : Shape) (entries : List (Text × Data))
    (h : key ≠ Text.ofString "value") :
    loadValue file key (.object shape entries) =
      (load file (.object shape entries)).map .node := by
  rw [loadValue, if_neg h]
  rfl

/-- What an object in a field loads as: nothing if it is the value of a literal, and else a node. -/
lemma loadValue_object_eq_ok {key : Text} {shape : Shape} {entries : List (Text × Data)} {v : Value}
    (h : loadValue file key (.object shape entries) = .ok v) :
    (key = Text.ofString "value" ∧ v = .null) ∨
      (key ≠ Text.ofString "value" ∧
        ∃ n, load file (.object shape entries) = .ok n ∧ v = .node n) := by
  by_cases hkey : key = Text.ofString "value"
  · rw [loadValue, if_pos hkey] at h
    exact .inl ⟨hkey, (Except.ok.inj h).symm⟩
  · rw [loadValue_object file shape entries hkey] at h
    obtain ⟨n, hn, hv⟩ := exists_of_map_eq_ok h
    exact .inr ⟨hkey, n, hn, hv.symm⟩

/-- Load an item of a list; null stays where one is missing. -/
def loadItem (d : Data) : Except Fault Value :=
  if d.isNull then .ok .null else (load file d).map .node

/-- What an item loads as: nothing where it is missing, and else a node. -/
lemma loadItem_eq_ok {d : Data} {v : Value} (h : loadItem file d = .ok v) :
    (d = .null ∧ v = .null) ∨ ∃ n, load file d = .ok n ∧ v = .node n := by
  unfold loadItem at h
  split at h
  · next hnull => exact .inl ⟨Data.eq_null_of_isNull hnull, (Except.ok.inj h).symm⟩
  · obtain ⟨n, hn, hv⟩ := exists_of_map_eq_ok h
    exact .inr ⟨n, hn, hv.symm⟩

/-- The items of a list are loaded in order, up to the first fault. -/
lemma loadItems_cons (d : Data) (rest : List Data) : loadItems file (d :: rest) = (do
    let v ← loadItem file d
    (loadItems file rest).map (v :: ·)) := by
  rw [loadItems, loadItem]
  split <;> rename_i h <;> rw [h] <;> rfl

/-- Items that all load give their values in order. -/
lemma loadItems_map_eq_ok {ι : Type} {get : ι → Data} {value : ι → Value} {items : List ι}
    (h : ∀ i ∈ items, loadItem file (get i) = .ok (value i)) :
    loadItems file (items.map get) = .ok (items.map value) := by
  induction items with
  | nil => rfl
  | cons i rest ih =>
    rw [List.forall_mem_cons] at h
    rw [List.map_cons, loadItems_cons, h.1, ih h.2]
    rfl

/-- If items give values, then each of them loads as the value in its place. -/
lemma exists_of_loadItems_eq_ok {items : List Data} {values : List Value}
    (h : loadItems file items = .ok values) :
    ∃ get : Data → Value, (∀ d ∈ items, loadItem file d = .ok (get d)) ∧
      values = items.map get := by
  have hloads : ∀ d ∈ items, ∃ v, loadItem file d = .ok v := by
    induction items generalizing values with
    | nil => exact nofun
    | cons d rest ih =>
      rw [loadItems_cons] at h
      obtain ⟨v, hv, h⟩ := exists_of_bind_eq_ok h
      obtain ⟨others, hrest, -⟩ := exists_of_map_eq_ok h
      rw [List.forall_mem_cons]
      exact ⟨⟨v, hv⟩, ih hrest⟩
  choose! get hget using hloads
  have hvalues : loadItems file (items.map id) = .ok (items.map get) :=
    loadItems_map_eq_ok file hget
  rw [List.map_id, h] at hvalues
  exact ⟨get, hget, Except.ok.inj hvalues⟩

end

/-! ## The fields of a node -/

/-- A primitive value as it is, and null for all else. -/
def Value.primitive : Value → Value
  | .scalar s => .scalar s
  | _ => .null

/-- What a field keeps of a value: of the value of a literal, a primitive one. -/
def Field.keep (field : Field) (v : Value) : Value :=
  if field.key = Text.ofString "value" then v.primitive else v

/-- The kind of a node that is not foreign. -/
def Node.kind? : Node → Option Kind
  | .program .. => some .program
  | .identifier .. => some .identifier
  | .literal .. => some .literal
  | .arrayExpression .. => some .arrayExpression
  | .arrayPattern .. => some .arrayPattern
  | .binaryExpression .. => some .binaryExpression
  | .memberExpression .. => some .memberExpression
  | .callExpression .. => some .callExpression
  | .assignmentExpression .. => some .assignmentExpression
  | .updateExpression .. => some .updateExpression
  | .expressionStatement .. => some .expressionStatement
  | .blockStatement .. => some .blockStatement
  | .classDeclaration .. => some .classDeclaration
  | .classBody .. => some .classBody
  | .ifStatement .. => some .ifStatement
  | .forStatement .. => some .forStatement
  | .variableDeclaration .. => some .variableDeclaration
  | .variableDeclarator .. => some .variableDeclarator
  | .foreign .. => none

/-- A kind is found by its name. -/
lemma Kind.ofName?_name (kind : Kind) : Kind.ofName? kind.name = some kind := by
  cases kind <;> rfl

/-- What is found by a name has this name. -/
lemma Kind.name_of_ofName?_eq_some {name : Text} {kind : Kind} (h : Kind.ofName? name = some kind) :
    kind.name = name := by
  simpa using List.find?_some h

/-- A node has the name of its kind. -/
lemma Node.kindName_eq {n : Node} {kind : Kind} (h : n.kind? = some kind) :
    n.kindName = kind.name := by
  cases n <;> cases h <;> rfl

/-- Fields make a node, unless they are those of a literal that has no text. -/
lemma Node.isSome_ofFields? (kind : Kind) (loc : Location) (get : String → Value) :
    (Node.ofFields? kind loc get).isSome = true ↔
      (kind = .literal → ∃ t, get "raw" = .text t) := by
  cases kind
  case literal =>
    rw [Node.ofFields?]
    split
    · next raw value hraw _ => exact ⟨fun _ _ => ⟨raw, hraw⟩, fun _ => rfl⟩
    · next raw hraw _ => exact ⟨fun _ _ => ⟨raw, hraw⟩, fun _ => rfl⟩
    · next hother _ =>
      refine ⟨nofun, fun htext => ?_⟩
      obtain ⟨t, ht⟩ := htext rfl
      exact absurd ht (hother t)
  all_goals exact ⟨fun _ => nofun, fun _ => rfl⟩

/-- A literal that has been put together has the text that was given, and the value if it is a
primitive one. -/
lemma Node.of_ofFields?_literal_eq_some {loc : Location} {get : String → Value} {n : Node}
    (h : Node.ofFields? .literal loc get = some n) :
    n.kind? = some .literal ∧ n.location? = some loc ∧
      n.fields = [(Text.ofString "raw", get "raw"),
        (Text.ofString "value", (get "value").primitive)] := by
  rw [Node.ofFields?] at h
  split at h
  · next raw value hraw hvalue =>
    rw [← Option.some.inj h, hraw, hvalue]
    exact ⟨rfl, rfl, rfl⟩
  · next raw hraw hvalue =>
    have hprimitive : (get "value").primitive = .null := by
      unfold Value.primitive
      split
      · next s hs => exact absurd hs (hvalue s)
      · rfl
    rw [← Option.some.inj h, hraw, hprimitive]
    exact ⟨rfl, rfl, rfl⟩
  · exact absurd h (Option.some_ne_none n).symm

/-- A node that has been put together is of the kind that was asked for and stands where it was
put; its fields are those of its kind, with the values that were given. -/
lemma Node.of_ofFields?_eq_some {kind : Kind} {loc : Location} {get : Field → Value} {n : Node}
    (h : Node.ofFields? kind loc (fun name =>
      ((kind.fields.map fun f => (f.name, get f)).lookup (Text.ofString name)).getD .null) =
        some n) :
    n.kind? = some kind ∧ n.location? = some loc ∧
      n.fields = kind.fields.map fun f => (f.name, f.keep (get f)) := by
  cases kind
  case literal => exact Node.of_ofFields?_literal_eq_some h
  all_goals
    obtain rfl := Option.some.inj h
    exact ⟨rfl, rfl, rfl⟩

/-- The value of a field of a node, by its name. -/
def Node.get (n : Node) (name : Text) : Value := (n.fields.lookup name).getD .null

/-- The fields of a node are those of its kind. -/
lemma Node.fields_eq_map_get {n : Node} {kind : Kind} (h : n.kind? = some kind) :
    n.fields = kind.fields.map fun f => (f.name, n.get f.name) := by
  cases n <;> cases h <;> rfl

/-- A node is put together from its own fields. -/
lemma Node.ofFields?_fields {n : Node} {kind : Kind} {loc : Location} (h : n.kind? = some kind)
    (hloc : n.location? = some loc) :
    Node.ofFields? kind loc (fun name => (n.fields.lookup (Text.ofString name)).getD .null) =
      some n := by
  cases n <;> cases h <;> cases hloc <;> rfl

section

variable {file d : Data} {n : Node}

/-- What has been loaded as a node of a kind holds in each field what has been loaded for it. -/
lemma fields_of_loadAs_eq_ok {kind : Kind} {loc : Location} (h : loadAs file d kind loc = .ok n) :
    ∃ get : Field → Value, (∀ f ∈ kind.fields, loadField file d kind loc f = .ok (get f)) ∧
      n.kind? = some kind ∧ n.location? = some loc ∧
      n.fields = kind.fields.map fun f => (f.name, f.keep (get f)) := by
  obtain ⟨values, hvalues, h⟩ := exists_of_bind_eq_ok h
  have hloads := exists_of_loadEach_eq_ok file hvalues
  choose! get hget using hloads
  rw [loadEach_eq_ok file hget, Except.ok.injEq] at hvalues
  subst hvalues
  split at h
  · next m hm =>
    obtain rfl := Except.ok.inj h
    exact ⟨get, hget, Node.of_ofFields?_eq_some hm⟩
  · exact absurd h nofun

/-- What has been loaded is of the kind that is named, stands where it is located, and holds in
each field what has been loaded for it. -/
theorem fields_of_load_eq_ok (h : load file d = .ok n) :
    ∃ kind loc, d.entry "type" = .text kind.name ∧ locationOf file d = .ok loc ∧
      n.kind? = some kind ∧ n.location? = some loc ∧
      ∃ get : Field → Value, (∀ f ∈ kind.fields, loadField file d kind loc f = .ok (get f)) ∧
        n.fields = kind.fields.map fun f => (f.name, f.keep (get f)) := by
  rw [load_eq] at h
  split at h
  · next name htype =>
    obtain ⟨loc, hlocated, h⟩ := exists_of_bind_eq_ok h
    split at h
    · exact absurd h nofun
    · next kind hkind =>
      obtain ⟨get, hget, hloaded⟩ := fields_of_loadAs_eq_ok h
      obtain rfl := Kind.name_of_ofName?_eq_some hkind
      exact ⟨kind, loc, htype, eq_ok_of_mapError_eq_ok hlocated, hloaded.1, hloaded.2.1, get, hget,
        hloaded.2.2⟩
  · exact absurd h nofun

/-- A node is what is loaded if the data name its kind and locate it, and each field loads as what
the node holds there. -/
theorem load_of_fields {kind : Kind} {loc : Location} (hkind : n.kind? = some kind)
    (hloc : n.location? = some loc) (htype : d.entry "type" = .text kind.name)
    (hlocated : locationOf file d = .ok loc)
    (hfields : ∀ f ∈ kind.fields, loadField file d kind loc f = .ok (n.get f.name)) :
    load file d = .ok n := by
  rw [load_eq, htype, hlocated]
  simp only [Kind.ofName?_name]
  change loadAs file d kind loc = .ok n
  rw [loadAs, loadEach_eq_ok file hfields, ← Node.fields_eq_map_get hkind]
  change (match Node.ofFields? kind loc _ with
    | some node => Except.ok node
    | none => _) = _
  rw [Node.ofFields?_fields hkind hloc]

end

end Offside
