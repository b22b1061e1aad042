import Offside.Proofs.Grammar
import Offside.Proofs.Retouch

/-!
# Loading what has been written

A tree that is written as data loads again.  What comes back is the tree with its locations
retouched by `Location.reloaded`: a missing end is the beginning, and what has no line or no end
offset is not kept.

`load_toData` says this for data that have been rewritten on the way, such as data that have been
written and read as a document, so that it also tells what becomes of the numbers.  Its hypotheses
say of the tree what the loader makes sure of, `Node.IsLoadable`, and of its locations that they come
through the rewriting, `Rewriting.Keeps`, as locations in numbers always do.
-/

namespace Offside

/-! ## Trees that are loaded -/

mutual

/-- A tree of known kinds, in which the items of lists are nodes and holes. -/
inductive Node.IsLoadable : Node → Prop
  | node {n : Node} {k : Kind} (kind : n.kind? = some k)
    (fields : ∀ p ∈ n.fields, Value.IsLoadable p.2) : Node.IsLoadable n

/-- What a field of such a tree may hold. -/
inductive Value.IsLoadable : Value → Prop
  | scalar (s : Scalar) : Value.IsLoadable (.scalar s)
  | node {n : Node} (h : Node.IsLoadable n) : Value.IsLoadable (.node n)
  | list {items : List Value} (h : ∀ v ∈ items, Value.IsItem v) : Value.IsLoadable (.list items)

/-- What a list in such a tree may hold. -/
inductive Value.IsItem : Value → Prop
  | hole : Value.IsItem .null
  | node {n : Node} (h : Node.IsLoadable n) : Value.IsItem (.node n)

end

/-! ## Locations in numbers -/

/-- An integer, or null where there is none. -/
def Data.ofInt? : Option Int → Data
  | none => .null
  | some n => .int n

/-- A location whose parts are integers; its end may be missing. -/
inductive Location.IsNumbered : Location → Prop
  | mk (line column offset endOffset : Int) (endLine endColumn : Option Int) (file : Data) :
    Location.IsNumbered ⟨.int line, .int column, .int offset, .int endOffset, Data.ofInt? endLine,
      Data.ofInt? endColumn, file⟩

/-- What a location is after it has been written and loaded from a source. -/
def Location.reloaded (file : Data) (loc : Location) : Location :=
  let offset := if loc.endOffset.truthy then loc.offset else .int 0
  let endOffset := if loc.endOffset.truthy then loc.endOffset else .int 0
  if loc.line.truthy then
    ⟨loc.line, loc.column, offset, endOffset,
      if loc.endLine.isNull then loc.line else loc.endLine,
      if loc.endColumn.truthy then loc.endColumn else loc.column, file⟩
  else bareLocation file offset endOffset

/-! ## Rewriting tree data -/

/-- A change of tree data that keeps lists, what dictionaries keep under each key, and all primitive
values other than numbers with a fraction. -/
structure Rewriting where
  data : Data → Data
  float : Double → Double
  data_scalar (s : Scalar) : data (.scalar s) = .scalar (s.mapFloat float)
  data_list (items : List Data) : data (.list items) = .list (items.map data)
  data_dict {entries : List (Text × Data)} (h : (entries.map Prod.fst).Nodup) :
    ∃ others, data (.dict entries) = .dict others ∧
      ∀ key, others.lookup key = (entries.lookup key).map data

namespace Rewriting

/-- Tree data as they are. -/
def refl : Rewriting where
  data := id
  float := id
  data_scalar s := congrArg Data.scalar (s.mapFloat_eq_self fun _ => rfl).symm
  data_list items := congrArg Data.list (List.map_id items).symm
  data_dict {entries} _ :=
    ⟨entries, rfl, fun key => (congrFun Option.map_id (entries.lookup key)).symm⟩

variable (φ : Rewriting)

/-- Null stays null. -/
lemma data_null : φ.data .null = .null := φ.data_scalar .null

/-- Integers stay as they are. -/
lemma data_int (n : Int) : φ.data (.int n) = .int n := φ.data_scalar (.int n)

/-- What a dictionary keeps under a key is rewritten. -/
lemma entry?_data {entries : List (Text × Data)} (h : (entries.map Prod.fst).Nodup) (key : Text) :
    Data.entry? (φ.data (.dict entries)) key = (entries.lookup key).map φ.data := by
  obtain ⟨others, hdata, hlookup⟩ := φ.data_dict h
  rw [hdata]
  exact hlookup key

/-- What a dictionary is found to have under a key is rewritten. -/
lemma held?_data {entries : List (Text × Data)} (h : (entries.map Prod.fst).Nodup) (key : Text) :
    (φ.data (.dict entries)).held? key = (entries.lookup key).map φ.data := by
  obtain ⟨others, hdata, hlookup⟩ := φ.data_dict h
  rw [hdata, Data.held?_dict]
  exact hlookup key

/-- What a dictionary keeps under a key is rewritten; nothing stays nothing. -/
lemma entry_data {entries : List (Text × Data)} (h : (entries.map Prod.fst).Nodup) (key : Text) :
    (φ.data (.dict entries)).entry key = φ.data ((Data.dict entries).entry key) := by
  rw [Data.entry, φ.entry?_data h, Data.entry, Data.entry?]
  cases entries.lookup key with
  | none => exact φ.data_null.symm
  | some d => rfl

end Rewriting

/-- A location with its parts rewritten. -/
def Location.rewritten (φ : Rewriting) (loc : Location) : Location :=
  { loc with
    line := φ.data loc.line
    offset := φ.data loc.offset
    endOffset := φ.data loc.endOffset
    endLine := φ.data loc.endLine }

/-- A location that comes through a rewriting: what is written of it is there afterwards, and the
columns that are written are integers. -/
structure Rewriting.Keeps (φ : Rewriting) (loc : Location) : Prop where
  line : loc.line.truthy = true → (φ.data loc.line).truthy = true
  endOffset : loc.endOffset.truthy = true → (φ.data loc.endOffset).truthy = true
  column : loc.line.truthy = true → ∃ k : Int, loc.column = .int k
  endColumn : loc.line.truthy = true → loc.endColumn.truthy = true →
    ∃ k : Int, loc.endColumn = .int k

/-- A location in numbers comes through every rewriting. -/
lemma Location.IsNumbered.keeps {loc : Location} (h : loc.IsNumbered) (φ : Rewriting) :
    φ.Keeps loc := by
  obtain ⟨line, column, offset, endOffset, endLine, endColumn, file⟩ := h
  constructor
  case line => exact fun h => (congrArg Data.truthy (φ.data_int line)).trans h
  case endOffset => exact fun h => (congrArg Data.truthy (φ.data_int endOffset)).trans h
  case column => exact fun _ => ⟨column, rfl⟩
  case endColumn =>
    intro _ htruthy
    cases endColumn with
    | none => exact absurd htruthy Bool.false_ne_true
    | some k => exact ⟨k, rfl⟩

/-! ## What is written for a node -/

/-- A value as data. -/
def Value.toData (v : Value) : Data := v.fold encodeFolder

/-- The items of a list are written one by one. -/
lemma Value.toData_list (items : List Value) :
    (Value.list items).toData = .list (items.map Value.toData) := by
  rw [toData, fold, foldItems_eq_map]
  rfl

/-- A field is written under its key. -/
lemma Kind.keyOf_name (kind : Kind) : ∀ f ∈ kind.fields, keyOf f.name = f.key := by
  cases kind <;> decide

/-- The keys of a node that is written are different. -/
lemma Kind.nodup_keys (kind : Kind) :
    (Text.ofString "type" :: kind.fields.map Field.key ++
      [Text.ofString "loc", Text.ofString "range"]).Nodup := by
  cases kind <;> decide

/-- The entries that are written for a node of a kind. -/
def Node.entries (n : Node) (kind : Kind) (loc : Location) : List (Text × Data) :=
  (Text.ofString "type", .text kind.name) ::
    kind.fields.map (fun f => (f.key, (n.get f.name).toData)) ++ locationEntries loc

/-- A node is written with its kind, its fields and its location. -/
lemma Node.toData_eq {n : Node} {kind : Kind} {loc : Location} (hkind : n.kind? = some kind)
    (hloc : n.location? = some loc) : n.toData = .dict (n.entries kind loc) := by
  have hfields : (n.fields.map fun p => (keyOf p.1, p.2.toData)) =
      kind.fields.map fun f => (f.key, (n.get f.name).toData) := by
    rw [Node.fields_eq_map_get hkind, List.map_map]
    exact List.map_congr_left fun f hf => congrArg (·, _) (kind.keyOf_name f hf)
  rw [toData, fold_eq_node_fields, entries, ← hfields, ← Node.kindName_eq hkind]
  simp [encodeFolder, hloc, Value.toData]

/-- A location is written under two keys at most. -/
lemma keys_locationEntries (loc : Location) :
    ((locationEntries loc).map Prod.fst).Sublist [Text.ofString "loc", Text.ofString "range"] := by
  unfold locationEntries
  rw [List.map_append]
  change List.Sublist _ ([Text.ofString "loc"] ++ [Text.ofString "range"])
  refine List.Sublist.append ?_ ?_
  · split
    · exact List.Sublist.refl _
    · exact List.nil_sublist _
  · split
    · exact List.Sublist.refl _
    · exact List.nil_sublist _

/-- The keys of a node that is written are among those of its kind. -/
lemma Node.keys_entries (n : Node) (kind : Kind) (loc : Location) :
    ((n.entries kind loc).map Prod.fst).Sublist (Text.ofString "type" :: kind.fields.map Field.key ++
      [Text.ofString "loc", Text.ofString "range"]) := by
  rw [entries, List.map_append, List.map_cons, List.map_map]
  exact (List.Sublist.refl _).append (keys_locationEntries loc)

/-- What is written for a node stands under different keys. -/
lemma Node.nodup_entries (n : Node) (kind : Kind) (loc : Location) :
    ((n.entries kind loc).map Prod.fst).Nodup :=
  kind.nodup_keys.sublist (n.keys_entries kind loc)

/-- What is kept among different keys is found. -/
lemma lookup_eq_some_of_mem {β : Type} {entries : List (Text × β)} {key : Text} {b : β}
    (hkeys : (entries.map Prod.fst).Nodup) (h : (key, b) ∈ entries) :
    entries.lookup key = some b := by
  obtain ⟨before, after, rfl⟩ := List.append_of_mem h
  refine List.lookup_eq_some_iff.mpr ⟨before, after, rfl, fun p hp => ?_⟩
  rw [List.map_append, List.nodup_append] at hkeys
  exact bne_iff_ne.mpr (hkeys.2.2 p.1 (List.mem_map_of_mem hp) key List.mem_cons_self).symm

section

variable {n : Node} {kind : Kind} {loc : Location}

/-- A field is found under its key. -/
lemma Node.lookup_entries_field {f : Field} (hf : f ∈ kind.fields) :
    (n.entries kind loc).lookup f.key = some (n.get f.name).toData :=
  lookup_eq_some_of_mem (n.nodup_entries kind loc) <|
    List.mem_append_left _ (List.mem_cons_of_mem _ (List.mem_map_of_mem hf))

/-- The location of a node is found behind its fields. -/
lemma Node.lookup_entries_place {key : Text}
    (hkey : key ∈ [Text.ofString "loc", Text.ofString "range"]) :
    (n.entries kind loc).lookup key = (locationEntries loc).lookup key := by
  have hkeys := (List.nodup_append.mp kind.nodup_keys).2.2
  rw [entries, List.lookup_append]
  have hnone : (((Text.ofString "type", Data.text kind.name) ::
      kind.fields.map fun f => (f.key, (n.get f.name).toData)).lookup key) = none := by
    refine List.lookup_eq_none_iff.mpr fun p hp => ?_
    refine bne_iff_ne.mpr (hkeys p.1 ?_ key hkey).symm
    have hp' := List.mem_map_of_mem (f := Prod.fst) hp
    rwa [List.map_cons, List.map_map] at hp'
  rw [hnone, Option.none_or]

end

/-! ## What is loaded -/

section

variable (φ : Rewriting) (file : Data)

/-- The lines and columns that are written for a location. -/
lemma entry_loc_locationEntries (loc : Location) :
    (Data.dict (locationEntries loc)).entry "loc" =
      if loc.line.truthy then
        .dict [("start", placeData loc.line loc.column),
          ("end", placeData (if loc.endLine.isNull then loc.line else loc.endLine)
            (if loc.endColumn.truthy then loc.endColumn else loc.column))]
      else .null := by
  unfold locationEntries
  cases loc.line.truthy <;> cases loc.endOffset.truthy <;> rfl

/-- The span that is written for a location. -/
lemma entry_range_locationEntries (loc : Location) :
    (Data.dict (locationEntries loc)).entry "range" =
      if loc.endOffset.truthy then .list [loc.offset, loc.endOffset] else .null := by
  unfold locationEntries
  cases loc.line.truthy <;> cases loc.endOffset.truthy <;> rfl

/-- A written span is read as its two ends. -/
lemma spanEnds_written (loc : Location) :
    spanEnds (φ.data ((Data.dict (locationEntries loc)).entry "range")) =
      .ok (φ.data (if loc.endOffset.truthy then loc.offset else .int 0),
        φ.data (if loc.endOffset.truthy then loc.endOffset else .int 0)) := by
  rw [entry_range_locationEntries]
  cases loc.endOffset.truthy with
  | true =>
    rw [if_pos rfl, φ.data_list]
    rfl
  | false =>
    simp only [Bool.false_eq_true, if_false, φ.data_null, φ.data_int]
    rfl

/-- The lines and columns of two written places are read as they are. -/
lemma locationOf_places {d line endLine offset endOffset : Data} {column endColumn : Int}
    (hline : (φ.data line).truthy = true)
    (hloc : d.entry "loc" = φ.data (.dict [("start", placeData line (.int column)),
      ("end", placeData endLine (.int endColumn))]))
    (hspan : spanEnds (d.entry "range") = .ok (offset, endOffset)) :
    locationOf file d = .ok ⟨φ.data line, .int column, offset, endOffset, φ.data endLine,
      .int endColumn, file⟩ := by
  have hplaces (a b : Data) :
      ([(Text.ofString "start", a), (Text.ofString "end", b)].map Prod.fst).Nodup :=
    show [Text.ofString "start", Text.ofString "end"].Nodup by decide
  have haxes (a b : Data) :
      ([(Text.ofString "line", a), (Text.ofString "column", b)].map Prod.fst).Nodup :=
    show [Text.ofString "line", Text.ofString "column"].Nodup by decide
  have hzero (k : Int) : orZero (.int k) = .int k := by
    by_cases hk : k = 0 <;> simp [orZero, Data.truthy, Scalar.truthy, hk]
  have hmore (k : Int) : oneMore (oneLess (.int k)) = .ok (.int k) :=
    congrArg (fun n => Except.ok (Data.int n)) (Int.sub_add_cancel k 1)
  have hstart (axis : Text) : d.mark "start" axis =
      φ.data ((placeData line (.int column)).entry axis) := by
    rw [Data.mark, hloc, φ.entry_data (hplaces _ _)]
    exact φ.entry_data (haxes _ _) axis
  have hstop (axis : Text) : d.mark "end" axis =
      φ.data ((placeData endLine (.int endColumn)).entry axis) := by
    rw [Data.mark, hloc, φ.entry_data (hplaces _ _)]
    exact φ.entry_data (haxes _ _) axis
  have hobject : (d.entry "loc").isNull = false := by
    obtain ⟨others, hdata, -⟩ := φ.data_dict
      (hplaces (placeData line (.int column)) (placeData endLine (.int endColumn)))
    rw [hloc, hdata]
    rfl
  have hcolumn : oneMore (orZero (d.mark "start" "column")) = .ok (.int column) := by
    rw [hstart]
    change oneMore (orZero (φ.data (.int (column - 1)))) = _
    rw [φ.data_int, hzero]
    exact hmore column
  have hlast : lastColumn (d.mark "end" "column") = .ok (.int endColumn) := by
    rw [hstop]
    change lastColumn (φ.data (.int (endColumn - 1))) = _
    rw [φ.data_int]
    exact hmore endColumn
  rw [locationOf_of_loc file hobject hspan hcolumn hlast, hstart, hstop]
  change Except.ok (Location.mk (orZero (φ.data line)) _ _ _ (φ.data endLine) _ _) = _
  rw [orZero, if_pos hline]

/-- What is read of a span alone is rewritten. -/
lemma rewritten_bareLocation {offset endOffset : Data}
    (h : (φ.data endOffset).truthy = endOffset.truthy) :
    (bareLocation file offset endOffset).rewritten φ =
      bareLocation file (φ.data offset) (φ.data endOffset) := by
  unfold bareLocation
  rw [h]
  split
  · simp only [Location.rewritten, Location.unknown, φ.data_int, φ.data_null]
  · simp only [Location.rewritten, φ.data_int, φ.data_null]

/-- A location that has been written is read as it is after reloading, rewritten. -/
lemma locationOf_written {d : Data} {loc : Location} (h : φ.Keeps loc)
    (hloc : d.entry "loc" = φ.data ((Data.dict (locationEntries loc)).entry "loc"))
    (hrange : d.entry "range" = φ.data ((Data.dict (locationEntries loc)).entry "range")) :
    locationOf file d = .ok ((loc.reloaded file).rewritten φ) := by
  have hspan := (congrArg spanEnds hrange).trans (spanEnds_written φ loc)
  rw [entry_loc_locationEntries] at hloc
  unfold Location.reloaded
  dsimp only
  by_cases hline : loc.line.truthy = true
  · obtain ⟨column, hcolumn⟩ := h.column hline
    obtain ⟨endColumn, hendColumn⟩ : ∃ k : Int,
        (if loc.endColumn.truthy then loc.endColumn else loc.column) = .int k := by
      split
      · next hend => exact h.endColumn hline hend
      · exact ⟨column, hcolumn⟩
    rw [if_pos hline, hendColumn, hcolumn] at hloc
    rw [if_pos hline, hendColumn, hcolumn]
    exact locationOf_places φ file (h.line hline) hloc hspan
  · rw [if_neg hline, φ.data_null] at hloc
    rw [if_neg hline, rewritten_bareLocation]
    · exact locationOf_of_no_loc file (by rw [hloc]; rfl) hspan
    · split
      · next hend => rw [hend, h.endOffset hend]
      · rw [φ.data_int]

/-- What loading makes of a tree that has been written and rewritten. -/
def Rewriting.reloading : Retouch :=
  ⟨fun loc => (loc.reloaded file).rewritten φ, φ.float⟩

/-- The value of a literal is a primitive one. -/
lemma Node.exists_scalar_of_value {n : Node} {kind : Kind} (hkind : n.kind? = some kind) {f : Field}
    (hf : f ∈ kind.fields) (hkey : f.key = Text.ofString "value") :
    ∃ s, n.get f.name = .scalar s := by
  have hvalue : ∀ k : Kind, ∀ f ∈ k.fields, f.key = Text.ofString "value" →
      k = .literal ∧ f.name = Text.ofString "value" := by
    intro k
    cases k <;> decide
  obtain ⟨rfl, hname⟩ := hvalue kind f hf hkey
  cases n <;> cases hkind
  rw [hname]
  exact ⟨_, rfl⟩

/-- What a list may hold, a field may. -/
lemma Value.IsItem.isLoadable {v : Value} (h : v.IsItem) : v.IsLoadable := by
  cases h with
  | hole => exact .scalar .null
  | node h => exact .node h

/-- A node that has been written is an object. -/
lemma exists_object_of_toData {n : Node} (h : n.IsLoadable) :
    ∃ entries, φ.data n.toData = .dict entries := by
  obtain ⟨hkind, -⟩ := h
  obtain ⟨loc, hloc⟩ := Node.exists_location hkind
  obtain ⟨others, hdata, -⟩ := φ.data_dict (n.nodup_entries _ loc)
  rw [Node.toData_eq hkind hloc, hdata]
  exact ⟨others, rfl⟩

/-- A node of which the fields load is loaded, retouched. -/
lemma load_toData_of_fields {n : Node} {kind : Kind} (hkind : n.kind? = some kind)
    (hlocations : ∀ loc ∈ n.locations, φ.Keeps loc)
    (hfields : ∀ f ∈ kind.fields, loadValue file f.key (φ.data (n.get f.name).toData) =
      .ok ((n.get f.name).retouch (φ.reloading file))) :
    load file (φ.data n.toData) = .ok (n.retouch (φ.reloading file)) := by
  obtain ⟨loc, hloc⟩ := Node.exists_location hkind
  have hkeys := n.nodup_entries kind loc
  have hentry (key : Text) : Data.entry? (φ.data n.toData) key =
      ((n.entries kind loc).lookup key).map φ.data := by
    rw [Node.toData_eq hkind hloc, φ.entry?_data hkeys]
  have hplace {key : Text} (hkey : key ∈ [Text.ofString "loc", Text.ofString "range"]) :
      (φ.data n.toData).entry key = φ.data ((Data.dict (locationEntries loc)).entry key) := by
    rw [Node.toData_eq hkind hloc, φ.entry_data hkeys]
    exact congrArg (fun d => φ.data (Option.getD d .null)) (Node.lookup_entries_place hkey)
  have hkind' : (n.retouch (φ.reloading file)).kind? = some kind := by rwa [Node.kind?_retouch]
  have hloc' : (n.retouch (φ.reloading file)).location? =
      some ((loc.reloaded file).rewritten φ) := by
    rw [Node.location?_retouch, hloc]
    rfl
  refine load_of_fields hkind' hloc' ?_ ?_ ?_
  · rw [Data.entry, hentry]
    change φ.data (.text kind.name) = _
    rw [φ.data_scalar]
    rfl
  · exact locationOf_written φ file ((Node.forall_mem_locations.mp hlocations).1 loc hloc)
      (hplace List.mem_cons_self) (hplace (List.mem_cons_of_mem _ List.mem_cons_self))
  · intro f hf
    rw [loadField, Node.toData_eq hkind hloc, φ.held?_data hkeys, Node.lookup_entries_field hf,
      Node.get_retouch]
    exact hfields f hf

/-- A tree that has been written, and rewritten on the way, loads as the tree with its locations
reloaded and its primitive values rewritten. -/
theorem load_toData :
    (∀ n : Node, n.IsLoadable → (∀ loc ∈ n.locations, φ.Keeps loc) →
      load file (φ.data n.toData) = .ok (n.retouch (φ.reloading file))) ∧
    ∀ v : Value, v.IsLoadable → (∀ loc ∈ v.locations, φ.Keeps loc) →
      ∀ key, (key = Text.ofString "value" → ∃ s, v = .scalar s) →
        loadValue file key (φ.data v.toData) = .ok (v.retouch (φ.reloading file)) := by
  refine Node.induction ?scalar ?node ?list ?fields
  case scalar =>
    intro s _ _ key _
    change loadValue file key (φ.data (.scalar s)) = _
    rw [φ.data_scalar]
    rfl
  case node =>
    rintro n hn ⟨⟩ hlocations key hkey
    rename_i h
    obtain ⟨entries, hdata⟩ := exists_object_of_toData φ h
    have hvalue : key ≠ Text.ofString "value" := fun heq => by
      obtain ⟨s, hs⟩ := hkey heq
      exact absurd hs nofun
    have hload := hn h hlocations
    rw [hdata] at hload
    change loadValue file key (φ.data n.toData) = _
    rw [hdata, loadValue_object file _ _ hvalue, hload]
    rfl
  case list =>
    rintro items hitems ⟨⟩ hlocations key -
    rename_i h
    rw [Value.forall_mem_locations_list] at hlocations
    have hitem : ∀ v ∈ items, loadItem file (φ.data v.toData) =
        .ok (v.retouch (φ.reloading file)) := by
      intro v hv
      have hload := hitems v hv (h v hv).isLoadable (hlocations v hv) []
      cases h v hv with
      | hole =>
        change loadItem file (φ.data .null) = .ok .null
        rw [φ.data_null]
        rfl
      | node h =>
        obtain ⟨entries, hdata⟩ := exists_object_of_toData φ h
        change loadItem file (φ.data (Node.toData _)) = _
        change _ → loadValue file [] (φ.data (Node.toData _)) = _ at hload
        rw [hdata] at hload ⊢
        exact hload nofun
    rw [Value.toData_list, φ.data_list, List.map_map, loadValue, Value.retouch_list]
    exact congrArg (Except.map Value.list) (loadItems_map_eq_ok file hitem)
  case fields =>
    rintro n hfields ⟨hkind, hloadable⟩ hlocations
    refine load_toData_of_fields φ file hkind hlocations fun f hf => ?_
    have hmem : (f.name, n.get f.name) ∈ n.fields := by
      rw [Node.fields_eq_map_get hkind]
      exact List.mem_map_of_mem hf
    exact hfields _ hmem (hloadable _ hmem)
      ((Node.forall_mem_locations.mp hlocations).2 _ hmem) f.key
      (Node.exists_scalar_of_value hkind hf)

end

/-! ## Trees placed by natural numbers -/

/-- A natural number, or null where there is none. -/
def Data.ofNat? : Option Nat → Data
  | none => .null
  | some n => .int n

namespace Data

/-- A natural number. -/
def isNatural : Data → Bool
  | .scalar (.int n) => 0 ≤ n
  | _ => false

/-- Where a node stands is told by natural numbers; any of them may be missing. -/
def isNaturallyPlaced (d : Data) : Bool :=
  (["start", "end"] : List Text).all (fun edge => (["line", "column"] : List Text).all fun axis =>
    (d.mark edge axis).isNull || (d.mark edge axis).isNatural) &&
  match d.entry "range" with
  | .list [first, last] => first.isNatural && last.isNatural
  | .scalar (.text [_, _]) => false
  | _ => true

/-- A natural number is one. -/
lemma exists_nat_of_isNatural {d : Data} (h : d.isNatural = true) : ∃ n : Nat, d = .int n := by
  unfold isNatural at h
  split at h
  · next n => exact ⟨n.toNat, by rw [Int.toNat_of_nonneg (of_decide_eq_true h)]⟩
  · exact absurd h Bool.false_ne_true

/-- A mark that is a natural number or missing. -/
lemma exists_ofNat?_of_isNatural {d : Data} (h : (d.isNull || d.isNatural) = true) :
    ∃ n : Option Nat, d = Data.ofNat? n := by
  rcases Bool.or_eq_true _ _ ▸ h with hnull | hnatural
  · exact ⟨none, eq_null_of_isNull hnull⟩
  · obtain ⟨n, rfl⟩ := exists_nat_of_isNatural hnatural
    exact ⟨some n, rfl⟩

end Data

/-- A location that has been read from natural numbers, in a source. -/
inductive Location.IsNatural (file : Data) : Location → Prop
  | mk (line column offset endOffset : Nat) (endLine endColumn : Option Nat) :
    Location.IsNatural file ⟨.int line, .int column, .int offset, .int endOffset,
      Data.ofNat? endLine, Data.ofNat? (endColumn.map (· + 1)), file⟩

section

variable {file d : Data} {loc : Location}

/-- A span that is told by natural numbers has two of them; else there is none. -/
lemma exists_nat_of_spanEnds {ends : Data × Data} (h : d.isNaturallyPlaced = true)
    (hspan : spanEnds (d.entry "range") = .ok ends) :
    ∃ offset endOffset : Nat, ends = (.int offset, .int endOffset) ∧
      (d.entry "range" = .list [.int offset, .int endOffset] ∨
        offset = 0 ∧ endOffset = 0 ∧ ∀ first last, d.entry "range" ≠ .list [first, last]) := by
  have hrange := (Bool.and_eq_true _ _ ▸ h).2
  cases hd : d.entry "range" with
  | scalar s =>
    rw [hd] at hrange hspan
    unfold spanEnds at hspan
    split at hspan
    · exact ⟨0, 0, (Except.ok.inj hspan).symm, .inr ⟨rfl, rfl, nofun⟩⟩
    · split at hspan
      · next heq => exact absurd heq nofun
      · next heq => exact absurd heq nofun
      · next heq => rw [heq] at hrange; exact absurd hrange nofun
      · exact ⟨0, 0, (Except.ok.inj hspan).symm, .inr ⟨rfl, rfl, nofun⟩⟩
      · next heq => exact absurd heq nofun
      · exact absurd hspan nofun
  | list items =>
    rw [hd] at hrange hspan
    match items with
    | [first, last] =>
      rw [Bool.and_eq_true] at hrange
      obtain ⟨m, rfl⟩ := Data.exists_nat_of_isNatural hrange.1
      obtain ⟨n, rfl⟩ := Data.exists_nat_of_isNatural hrange.2
      exact ⟨m, n, (Except.ok.inj hspan).symm, .inl rfl⟩
    | [] | [_] | _ :: _ :: _ :: _ =>
      exact ⟨0, 0, (Except.ok.inj hspan).symm, .inr ⟨rfl, rfl, nofun⟩⟩
  | object shape entries =>
    rw [hd] at hspan
    have hzero : ends = (.int 0, .int 0) := by
      unfold spanEnds at hspan
      split at hspan
      · exact (Except.ok.inj hspan).symm
      · split at hspan
        · next heq => exact absurd heq nofun
        · next heq => exact absurd heq nofun
        · next heq => exact absurd heq nofun
        · next heq => exact absurd heq nofun
        · split at hspan
          · exact absurd hspan nofun
          · exact (Except.ok.inj hspan).symm
        · exact absurd hspan nofun
    exact ⟨0, 0, hzero, .inr ⟨rfl, rfl, nofun⟩⟩

/-- A location is read from natural numbers as they are told: columns from zero, and missing ones
as zero or null. -/
lemma locationOf_natural (h : d.isNaturallyPlaced = true) (hloc : locationOf file d = .ok loc) :
    ∃ (line column endLine endColumn : Option Nat) (offset endOffset : Nat),
      d.mark "start" "line" = Data.ofNat? line ∧ d.mark "start" "column" = Data.ofNat? column ∧
      d.mark "end" "line" = Data.ofNat? endLine ∧ d.mark "end" "column" = Data.ofNat? endColumn ∧
      (d.entry "range" = .list [.int offset, .int endOffset] ∨
        offset = 0 ∧ endOffset = 0 ∧ ∀ first last, d.entry "range" ≠ .list [first, last]) ∧
      loc = if (d.entry "loc").isNull then bareLocation file (.int offset) (.int endOffset)
        else ⟨.int (line.getD 0), .int (column.getD 0 + 1 : Nat), .int offset, .int endOffset,
          Data.ofNat? endLine, Data.ofNat? (endColumn.map (· + 1)), file⟩ := by
  have hmarks := (Bool.and_eq_true _ _ ▸ h).1
  simp only [List.all_cons, List.all_nil, Bool.and_true, Bool.and_eq_true] at hmarks
  obtain ⟨⟨hline, hcolumn⟩, hendLine, hendColumn⟩ := hmarks
  obtain ⟨line, hline⟩ := Data.exists_ofNat?_of_isNatural hline
  obtain ⟨column, hcolumn⟩ := Data.exists_ofNat?_of_isNatural hcolumn
  obtain ⟨endLine, hendLine⟩ := Data.exists_ofNat?_of_isNatural hendLine
  obtain ⟨endColumn, hendColumn⟩ := Data.exists_ofNat?_of_isNatural hendColumn
  rw [locationOf_eq] at hloc
  obtain ⟨ends, hspan, hloc⟩ := exists_of_bind_eq_ok hloc
  obtain ⟨offset, endOffset, rfl, hrange⟩ := exists_nat_of_spanEnds h hspan
  refine ⟨line, column, endLine, endColumn, offset, endOffset, hline, hcolumn, hendLine,
    hendColumn, hrange, ?_⟩
  dsimp only at hloc
  split
  · next hnull =>
    rw [if_pos hnull] at hloc
    exact (Except.ok.inj hloc).symm
  · next hnull =>
    have hzero (k : Option Nat) : orZero (Data.ofNat? k) = .int (k.getD 0) := by
      cases k with
      | none => rfl
      | some k => by_cases hk : k = 0 <;> simp [Data.ofNat?, orZero, Data.truthy, Scalar.truthy, hk]
    have hmore (k : Nat) : oneMore (.int k) = .ok (.int (k + 1 : Nat)) := rfl
    have hlast (k : Option Nat) :
        lastColumn (Data.ofNat? k) = .ok (Data.ofNat? (k.map (· + 1))) := by
      cases k <;> rfl
    rw [if_neg hnull, hline, hcolumn, hendLine, hendColumn, hzero, hzero, hmore, hlast] at hloc
    exact (Except.ok.inj hloc).symm

/-- Where natural numbers tell a location, it is a natural one. -/
lemma Location.isNatural_of_locationOf (h : d.isNaturallyPlaced = true)
    (hloc : locationOf file d = .ok loc) : loc.IsNatural file := by
  obtain ⟨line, column, endLine, endColumn, offset, endOffset, -, -, -, -, -, rfl⟩ :=
    locationOf_natural h hloc
  split
  · unfold bareLocation
    split
    · next hbare =>
      have hfile := Data.eq_null_of_isNull (Bool.and_eq_true _ _ ▸ hbare).1
      exact hfile ▸ .mk 0 0 0 0 none none
    · exact .mk 0 0 offset endOffset none none
  · exact .mk (line.getD 0) (column.getD 0 + 1) offset endOffset endLine endColumn

/-- A natural location is in numbers. -/
lemma Location.IsNatural.isNumbered (h : loc.IsNatural file) : loc.IsNumbered := by
  obtain ⟨line, column, offset, endOffset, endLine, endColumn⟩ := h
  have hint (k : Option Nat) : Data.ofNat? k = Data.ofInt? (k.map Int.ofNat) := by
    cases k <;> rfl
  rw [hint, hint]
  exact .mk line column offset endOffset _ _ file

end

/-! ## Trees that have been loaded -/

section

variable {P : Location → Prop} {p : Data → Bool} (file : Data)

/-- A field whose data load as what fields may hold keeps what fields may hold. -/
lemma Field.isLoadable_keep (f : Field) {v : Value}
    (h : v.IsLoadable ∧ ∀ loc ∈ v.locations, P loc) :
    (f.keep v).IsLoadable ∧ ∀ loc ∈ (f.keep v).locations, P loc := by
  unfold keep
  split
  · cases v with
    | scalar s => exact h
    | node n => exact ⟨.scalar .null, List.forall_mem_nil _⟩
    | list items => exact ⟨.scalar .null, List.forall_mem_nil _⟩
  · exact h

/-- A node that has been loaded can be written and loaded, if all that its fields hold can. -/
lemma isLoadable_of_load_object {shape : Shape} {entries : List (Text × Data)} {n : Node}
    (hplace : ∀ loc, locationOf file (.object shape entries) = .ok loc → P loc)
    (hn : load file (.object shape entries) = .ok n)
    (hparts : ∀ key part, Data.held? (.object shape entries) key = some part →
      ∀ v, loadValue file key part = .ok v → v.IsLoadable ∧ ∀ loc ∈ v.locations, P loc) :
    n.IsLoadable ∧ ∀ loc ∈ n.locations, P loc := by
  obtain ⟨kind, loc, -, hlocated, hkind, hloc, get, hget, hfields⟩ := fields_of_load_eq_ok hn
  have hfield : ∀ p ∈ n.fields, p.2.IsLoadable ∧ ∀ loc ∈ p.2.locations, P loc := by
    rw [hfields, List.forall_mem_map]
    intro f hf
    refine f.isLoadable_keep ?_
    rcases loadField_eq_ok file (hget f hf) with ⟨part, hpart, hload⟩ | ⟨-, s, -, hs⟩
    · exact hparts f.key part hpart _ hload
    · rw [hs]
      exact ⟨.scalar s, List.forall_mem_nil _⟩
  refine ⟨.node hkind fun p hp => (hfield p hp).1, Node.forall_mem_locations.mpr ⟨?_,
    fun p hp => (hfield p hp).2⟩⟩
  rw [hloc]
  rintro _ ⟨⟩
  exact hplace loc hlocated

/-- What has been loaded can be written and loaded, and its locations are those that have been
read. -/
theorem isLoadable_of_load
    (hp : ∀ d loc, p d = true → locationOf file d = .ok loc → P loc) (d : Data) :
    d.everyObject p = true →
    (∀ n, load file d = .ok n → n.IsLoadable ∧ ∀ loc ∈ n.locations, P loc) ∧
      ∀ key v, loadValue file key d = .ok v → v.IsLoadable ∧ ∀ loc ∈ v.locations, P loc := by
  induction d using Data.induction with
  | scalar s =>
    intro _
    constructor
    · intro n hn
      obtain ⟨kind, loc, htype, -⟩ := fields_of_load_eq_ok hn
      exact absurd htype nofun
    · intro key v hv
      obtain rfl := Except.ok.inj hv
      exact ⟨.scalar s, List.forall_mem_nil _⟩
  | list items ih =>
    intro h
    constructor
    · intro n hn
      obtain ⟨kind, loc, htype, -⟩ := fields_of_load_eq_ok hn
      exact absurd htype nofun
    · intro key v hv
      obtain ⟨values, hvalues, rfl⟩ := exists_of_map_eq_ok hv
      obtain ⟨get, hget, rfl⟩ := exists_of_loadItems_eq_ok file hvalues
      have hitem : ∀ d ∈ items, (get d).IsItem ∧ ∀ loc ∈ (get d).locations, P loc := by
        intro d hd
        obtain ⟨-, hnull⟩ | ⟨n, hn, hnode⟩ := loadItem_eq_ok file (hget d hd)
        · rw [hnull]
          exact ⟨.hole, List.forall_mem_nil _⟩
        · rw [hnode]
          obtain ⟨hn, hlocations⟩ := (ih d hd (Data.everyObject_of_mem h d hd)).1 n hn
          exact ⟨.node hn, hlocations⟩
      rw [Value.forall_mem_locations_list]
      exact ⟨.list (List.forall_mem_map.mpr fun d hd => (hitem d hd).1),
        List.forall_mem_map.mpr fun d hd => (hitem d hd).2⟩
  | object shape entries ih =>
    intro h
    have hnode (n : Node) (hn : load file (.object shape entries) = .ok n) :=
      isLoadable_of_load_object file (hp _ · (Data.of_everyObject h)) hn fun key part hpart =>
        have hmem := Data.mem_of_held? hpart
        (ih key part hmem (Data.everyObject_of_entry h key part hmem)).2 key
    refine ⟨hnode, fun key v hv => ?_⟩
    obtain ⟨-, rfl⟩ | ⟨-, n, hn, rfl⟩ := loadValue_object_eq_ok file hv
    · exact ⟨.scalar .null, List.forall_mem_nil _⟩
    · obtain ⟨hn, hlocations⟩ := hnode n hn
      exact ⟨.node hn, hlocations⟩

end

/-! ## Comparing what is loaded -/

/-- Primitive values are equal to themselves. -/
lemma Scalar.eqv_refl (s : Scalar) : s.eqv s = true := by
  cases s with
  | float x => exact Bool.or_eq_true_iff.mpr (Or.inl (beq_self_eq_true x))
  | int n => exact beq_self_eq_true n
  | bool b => exact beq_self_eq_true _
  | _ => exact beq_self_eq_true _

/-- Tree data are equal to themselves. -/
lemma Data.eqv_refl (d : Data) : d.eqv d = true := by
  induction d using Data.induction with
  | scalar s => exact s.eqv_refl
  | list items ih =>
    rw [eqv]
    induction items with
    | nil => rfl
    | cons d rest ih' =>
      rw [List.forall_mem_cons] at ih
      rw [eqvItems, ih.1, ih' ih.2]
      rfl
  | object shape entries ih =>
    rw [eqv]
    induction entries with
    | nil => rfl
    | cons e rest ih' =>
      obtain ⟨k, d⟩ := e
      rw [eqvEntries, beq_self_eq_true, ih k d List.mem_cons_self,
        ih' fun key d hd => ih key d (List.mem_cons_of_mem _ hd)]
      rfl

/-- Locations are compared part by part. -/
lemma Location.eqv_eq (a b : Location) :
    a.eqv b = (Data.dict a.fields).eqv (.dict b.fields) := by
  simp [eqv, fields, Data.eqv, Data.eqvItems, Data.eqvEntries]

/-- If the records of two nodes are equal, so are their locations and what their fields hold. -/
lemma eqv_recordFolder {n m : Node} {xs ys : List (Text × Data)}
    (h : (recordFolder.node n xs).eqv (recordFolder.node m ys) = true) :
    (match n.location? with | some loc => Data.dict loc.fields | none => .null).eqv
        (match m.location? with | some loc => Data.dict loc.fields | none => .null) = true ∧
      Data.eqvEntries xs ys = true := by
  simp only [recordFolder, Data.eqv, Data.eqvEntries, Bool.and_eq_true] at h
  exact ⟨h.2.1.2, h.2.2⟩

/-- Trees that are equal but for a change of locations have locations that are equal to the changed
ones. -/
theorem eqv_locations_of_retouch (r : Retouch) :
    (∀ n : Node, (n.retouch r).eqv n = true →
      ∀ loc ∈ n.locations, (r.location loc).eqv loc = true) ∧
    ∀ v : Value, ((v.retouch r).fold recordFolder).eqv (v.fold recordFolder) = true →
      ∀ loc ∈ v.locations, (r.location loc).eqv loc = true := by
  refine Node.induction ?scalar ?node ?list ?fields
  case scalar => exact fun s _ => List.forall_mem_nil _
  case node => exact fun n hn h => hn h
  case list =>
    intro items hitems h
    rw [Value.forall_mem_locations_list]
    rw [Value.retouch_list, Value.fold, Value.fold, Value.foldItems_eq_map,
      Value.foldItems_eq_map] at h
    replace h : Data.eqvItems ((items.map (Value.retouch r)).map (Value.fold recordFolder))
      (items.map (Value.fold recordFolder)) = true := h
    induction items with
    | nil => exact List.forall_mem_nil _
    | cons v rest ih =>
      rw [List.map_cons, List.map_cons, List.map_cons, Data.eqvItems, Bool.and_eq_true] at h
      rw [List.forall_mem_cons] at hitems ⊢
      exact ⟨hitems.1 h.1, ih hitems.2 h.2⟩
  case fields =>
    intro n hfields h
    rw [Node.eqv, Node.fold_eq_node_fields, Node.fold_eq_node_fields, Node.fields_retouch,
      List.map_map] at h
    obtain ⟨hplace, hparts⟩ := eqv_recordFolder h
    rw [Node.forall_mem_locations]
    constructor
    · intro loc hloc
      rw [Node.location?_retouch, hloc] at hplace
      exact (Location.eqv_eq _ _).trans hplace
    · clear h hplace
      generalize n.fields = fields at hfields hparts ⊢
      induction fields with
      | nil => exact List.forall_mem_nil _
      | cons p rest ih =>
        rw [List.forall_mem_cons] at hfields ⊢
        rw [List.map_cons, List.map_cons, Data.eqvEntries, Bool.and_eq_true, Bool.and_eq_true]
          at hparts
        exact ⟨hfields.1 hparts.1.2, ih hfields.2 hparts.2⟩

/-! ## Complete locations -/

/-- A location that loses nothing when it is written: it has a line and an end, or no line, no
column and no end; and it has no offset, or an end offset. -/
def Location.IsComplete (loc : Location) : Prop :=
  ((loc.line ≠ .int 0 ∧ loc.endLine ≠ .null ∧ loc.endColumn ≠ .null) ∨
    (loc.line = .int 0 ∧ loc.column = .int 0 ∧ loc.endLine = .null ∧ loc.endColumn = .null)) ∧
  (loc.offset = .int 0 ∨ loc.endOffset ≠ .int 0)

section

variable {file : Data} {loc : Location}

/-- What a location in natural numbers is after reloading. -/
lemma Location.reloaded_ofNat (line column offset endOffset : Nat)
    (endLine endColumn : Option Nat) (source : Data) :
    reloaded file ⟨.int line, .int column, .int offset, .int endOffset, Data.ofNat? endLine,
      Data.ofNat? (endColumn.map (· + 1)), source⟩ =
    ⟨.int line, .int (if line = 0 then 0 else column : Nat),
      .int (if endOffset = 0 then 0 else offset : Nat), .int endOffset,
      Data.ofNat? (if line = 0 then none else some (endLine.getD line)),
      Data.ofNat? (if line = 0 then none else some ((endColumn.map (· + 1)).getD column)), file⟩ := by
  cases line with
  | succ line => cases endOffset <;> cases endLine <;> cases endColumn <;> rfl
  | zero =>
    have hbare (m n : Nat) : bareLocation file (.int (if n = 0 then 0 else m : Nat)) (.int n) =
        ⟨.int 0, .int 0, .int (if n = 0 then 0 else m : Nat), .int n, .null, .null, file⟩ := by
      unfold bareLocation
      split
      · next h =>
        obtain ⟨hfile, hend⟩ := Bool.and_eq_true _ _ ▸ h
        cases n with
        | zero => rw [Data.eq_null_of_isNull hfile]; rfl
        | succ n => exact absurd hend Bool.false_ne_true
      · rfl
    have hends : reloaded file ⟨.int 0, .int column, .int offset, .int endOffset,
        Data.ofNat? endLine, Data.ofNat? (endColumn.map (· + 1)), source⟩ =
          bareLocation file (.int (if endOffset = 0 then 0 else offset : Nat)) (.int endOffset) := by
      cases endOffset <;> rfl
    exact hends.trans (hbare offset endOffset)

/-- Locations in natural numbers are equal if their numbers are. -/
lemma Location.eqv_ofNat {line column offset endOffset line' column' offset' endOffset' : Nat}
    {endLine endColumn endLine' endColumn' : Option Nat} :
    eqv ⟨.int line, .int column, .int offset, .int endOffset, Data.ofNat? endLine,
        Data.ofNat? endColumn, file⟩
      ⟨.int line', .int column', .int offset', .int endOffset', Data.ofNat? endLine',
        Data.ofNat? endColumn', file⟩ = true ↔
    line = line' ∧ column = column' ∧ offset = offset' ∧ endOffset = endOffset' ∧
      endLine = endLine' ∧ endColumn = endColumn' := by
  have hint (m n : Nat) : (Data.int m).eqv (.int n) = true ↔ m = n := by
    change ((m : Int) == n) = true ↔ m = n
    rw [beq_iff_eq, Int.natCast_inj]
  have hoption (m n : Option Nat) : (Data.ofNat? m).eqv (Data.ofNat? n) = true ↔ m = n := by
    cases m with
    | none => cases n <;> simp [Data.ofNat?, Data.eqv, Scalar.eqv, Scalar.toInt?]
    | some m =>
      cases n with
      | none => simp [Data.ofNat?, Data.eqv, Scalar.eqv, Scalar.toInt?]
      | some n => exact (hint m n).trans (Option.some_inj).symm
  simp [eqv, fields, Data.eqvItems, hint, hoption, Data.eqv_refl]

/-- A location in natural numbers is complete exactly if these numbers make it so. -/
lemma Location.isComplete_ofNat (line column offset endOffset : Nat)
    (endLine endColumn : Option Nat) :
    IsComplete ⟨.int line, .int column, .int offset, .int endOffset, Data.ofNat? endLine,
      Data.ofNat? (endColumn.map (· + 1)), file⟩ ↔
    ((line ≠ 0 ∧ endLine ≠ none ∧ endColumn ≠ none) ∨
      (line = 0 ∧ column = 0 ∧ endLine = none ∧ endColumn = none)) ∧
    (offset = 0 ∨ endOffset ≠ 0) := by
  unfold IsComplete
  cases endLine <;> cases endColumn <;> simp [Data.ofNat?]

/-- A location in natural numbers is complete exactly if it is equal to what it is after
reloading. -/
lemma Location.IsNatural.isComplete_iff_eqv (h : loc.IsNatural file) :
    loc.IsComplete ↔ (loc.reloaded file).eqv loc = true := by
  obtain ⟨line, column, offset, endOffset, endLine, endColumn⟩ := h
  rw [isComplete_ofNat, reloaded_ofNat, eqv_ofNat]
  by_cases hline : line = 0 <;> by_cases hend : endOffset = 0 <;>
    cases endLine <;> cases endColumn <;> simp [hline, hend, eq_comm]

/-- A complete location stays as it is when it is reloaded. -/
lemma Location.IsNatural.reloaded_eq (h : loc.IsNatural file) (hcomplete : loc.IsComplete) :
    loc.reloaded file = loc := by
  have heqv := h.isComplete_iff_eqv.mp hcomplete
  obtain ⟨line, column, offset, endOffset, endLine, endColumn⟩ := h
  rw [reloaded_ofNat, eqv_ofNat] at heqv
  obtain ⟨-, hcolumn, hoffset, -, hendLine, hendColumn⟩ := heqv
  rw [reloaded_ofNat, hcolumn, hoffset, hendLine, hendColumn]

end

/-- A tree without the locations of its nodes. -/
def Node.unplaced (n : Node) : Node := n.retouch (.moving fun _ => .unknown)

/-- What has been loaded from data that are placed by natural numbers can be written and loaded
again.  What comes back differs in locations at most; it is the same tree, and an equal one, exactly
if all locations are complete. -/
theorem load_toData_eq_iff_isComplete {file raw : Data} {n : Node}
    (hraw : raw.everyObject Data.isNaturallyPlaced = true) (hload : load file raw = .ok n) :
    ∃ m, load file n.toData = .ok m ∧ m.unplaced = n.unplaced ∧
      (m = n ↔ ∀ loc ∈ n.locations, loc.IsComplete) ∧
      (m.eqv n = true ↔ ∀ loc ∈ n.locations, loc.IsComplete) := by
  obtain ⟨hloadable, hnatural⟩ := (isLoadable_of_load file
    (fun _ _ => Location.isNatural_of_locationOf) raw hraw).1 n hload
  let r := Rewriting.refl.reloading file
  have hagain : load file n.toData = .ok (n.retouch r) :=
    (load_toData .refl file).1 n hloadable fun loc hloc =>
      (hnatural loc hloc).isNumbered.keeps .refl
  have hsame : (∀ loc ∈ n.locations, loc.IsComplete) → n.retouch r = n := fun h =>
    (retouch_eq_self fun _ => rfl).1 n fun loc hloc => (hnatural loc hloc).reloaded_eq (h loc hloc)
  have hcomplete (h : (n.retouch r).eqv n = true) : ∀ loc ∈ n.locations, loc.IsComplete := by
    intro loc hloc
    rw [(hnatural loc hloc).isComplete_iff_eqv]
    exact (eqv_locations_of_retouch r).1 n h loc hloc
  have hrefl : n.eqv n = true := Data.eqv_refl _
  refine ⟨n.retouch r, hagain, (retouch_retouch r (.moving fun _ => .unknown)).1 n,
    ⟨fun h => hcomplete (h.symm ▸ hrefl), hsame⟩, ⟨hcomplete, fun h => (hsame h).symm ▸ hrefl⟩⟩

/-- A program of an empty source stands on line zero, so that it loses its column when it is
written. -/
theorem load_toData_ne_of_empty_source :
    let raw : Data := .dict [("type", .text "Program"), ("body", .list []),
      ("loc", .dict [("start", .dict [("line", .int 0), ("column", .int 0)]),
        ("end", .dict [("line", .int 0), ("column", .int 0)])])]
    let n : Node := .program ⟨.int 0, .int 1, .int 0, .int 0, .int 0, .int 1, .text "a.js"⟩
      (.list []) (.text "script")
    raw.everyObject Data.isNaturallyPlaced = true ∧ load (.text "a.js") raw = .ok n ∧
      ∃ m, load (.text "a.js") n.toData = .ok m ∧ m.unplaced = n.unplaced ∧ m ≠ n ∧
        m.eqv n = false := by
  intro raw n
  have hraw : raw.everyObject Data.isNaturallyPlaced = true := rfl
  have hload : load (.text "a.js") raw = .ok n := rfl
  obtain ⟨m, hm, hunplaced, hsame, hequal⟩ := load_toData_eq_iff_isComplete hraw hload
  have hincomplete : ¬∀ loc ∈ n.locations, loc.IsComplete := by
    intro h
    rcases (h _ List.mem_cons_self).1 with ⟨hline, -⟩ | ⟨-, hcolumn, -⟩
    · exact hline rfl
    · exact absurd hcolumn nofun
  exact ⟨hraw, hload, m, hm, hunplaced, fun h => hincomplete (hsame.mp h),
    Bool.eq_false_iff.mpr fun h => hincomplete (hequal.mp h)⟩

end Offside
