import Offside.Proofs.Reload

/-!
# The normal form of tree data

Data that are loaded and written again come out in normal form, `Data.normal`: at every node only
its kind, the fields of its kind, each under its key and with its default if it was left out, and
where the node stands.  The lines and columns are kept if the node begins on a line other than
zero, and the span if it ends at an offset other than zero.

The normal form does not know the source, and loading and writing it changes nothing.
-/

namespace Offside

/-! ## The normal form -/

namespace Data

/-- The number that a mark tells, if it does. -/
def number? : Data → Option Int
  | .scalar (.int n) => some n
  | _ => none

/-- A primitive value as it is, and null for all else. -/
def primitive : Data → Data
  | .scalar s => .scalar s
  | _ => .null

/-- A line and a column. -/
def lineColumn (line column : Int) : Data := .dict [("line", .int line), ("column", .int column)]

/-- The entry that tells the lines and columns of a node. -/
def linesEntry (line column endLine endColumn : Int) : Text × Data :=
  ("loc", .dict [("start", lineColumn line column), ("end", lineColumn endLine endColumn)])

/-- The entry that tells the two offsets of a node. -/
def spanEntry (offset endOffset : Data) : Text × Data := ("range", .list [offset, endOffset])

/-- The lines and columns of a node in normal form, if its first line is not zero: what is missing
of the end is taken from the beginning. -/
def normalLines (d : Data) : List (Text × Data) :=
  let line := (d.mark "start" "line").number?.getD 0
  let column := (d.mark "start" "column").number?.getD 0
  let endLine := (d.mark "end" "line").number?.getD line
  let endColumn := (d.mark "end" "column").number?.getD column
  if line = 0 then [] else [linesEntry line column endLine endColumn]

/-- The span of a node in normal form, if it has two ends and the second is not zero. -/
def normalSpan (d : Data) : List (Text × Data) :=
  match d.entry "range" with
  | .list [first, last] => if last.number? = some 0 then [] else [spanEntry first last]
  | _ => []

/-- A field in normal form, from the normal forms of the entries of a node: its default if the node
is not found to have it, and of the value of a literal no more than a primitive one. -/
def normalField (d : Data) (parts : List (Text × Data)) (f : Field) : Data :=
  if d.has f.key then
    let part := (parts.lookup f.key).getD .null
    if f.key = "value" then part.primitive else part
  else .scalar (f.fallback.getD .null)

/-- A node in normal form, from the normal forms of its entries. -/
def normalNode (d : Data) (parts : List (Text × Data)) : Data :=
  match (d.entry "type").text?.bind Kind.ofName? with
  | some kind =>
    .dict ((Text.ofString "type", .text kind.name) ::
      kind.fields.map (fun f => (f.key, normalField d parts f)) ++ (d.normalLines ++ d.normalSpan))
  | none => d

mutual

/-- Tree data in normal form. -/
def normal : Data → Data
  | .scalar s => .scalar s
  | .list items => .list (normalItems items)
  | .object shape entries => normalNode (.object shape entries) (normalEntries entries)

/-- The items of a list in normal form; null stays where one is missing. -/
def normalItems : List Data → List Data
  | [] => []
  | d :: rest => normal d :: normalItems rest

/-- The entries of an object in normal form. -/
def normalEntries : List (Text × Data) → List (Text × Data)
  | [] => []
  | (key, d) :: rest => (key, normal d) :: normalEntries rest

end

/-- The items of a list are brought into normal form one by one. -/
lemma normalItems_eq_map (items : List Data) : normalItems items = items.map normal := by
  induction items with
  | nil => rfl
  | cons d rest ih => rw [normalItems, ih, List.map_cons]

/-- The entries of an object are brought into normal form one by one. -/
lemma normalEntries_eq_map (entries : List (Text × Data)) :
    normalEntries entries = entries.map fun p => (p.1, p.2.normal) := by
  induction entries with
  | nil => rfl
  | cons e rest ih => rw [normalEntries, ih, List.map_cons]

/-- A node in normal form is an object. -/
lemma primitive_normal_object (shape : Shape) (entries : List (Text × Data)) :
    (normal (.object shape entries)).primitive = .null := by
  rw [normal, normalNode]
  split <;> rfl

end Data

/-! ## Where a node stands -/

section

variable {file d : Data} {loc : Location} (file' : Data)

/-- Whether data have a location does not depend on the source. -/
lemma exists_locationOf_of_source (h : locationOf file d = .ok loc) :
    ∃ loc', locationOf file' d = .ok loc' := by
  rw [locationOf_eq] at h
  obtain ⟨⟨offset, endOffset⟩, hspan, h⟩ := exists_of_bind_eq_ok h
  cases hloc : (d.entry "loc").isNull with
  | true => exact ⟨_, locationOf_of_no_loc file' hloc hspan⟩
  | false =>
    dsimp only at h
    rw [hloc] at h
    obtain ⟨column, hcolumn, h⟩ := exists_of_bind_eq_ok h
    obtain ⟨endColumn, hlast, -⟩ := exists_of_bind_eq_ok h
    exact ⟨_, locationOf_of_loc file' hloc hspan hcolumn hlast⟩

/-- The span that is written for a location that has been read is that of the normal form. -/
lemma normalSpan_eq {offset endOffset : Nat}
    (h : d.entry "range" = .list [.int offset, .int endOffset] ∨
      offset = 0 ∧ endOffset = 0 ∧ ∀ first last, d.entry "range" ≠ .list [first, last]) :
    d.normalSpan = if (Data.int endOffset).truthy then
      [Data.spanEntry (.int offset) (.int endOffset)] else [] := by
  unfold Data.normalSpan
  rcases h with hrange | ⟨-, rfl, hrange⟩
  · rw [hrange]
    cases endOffset <;> rfl
  · split
    · next first last heq => exact absurd heq (hrange first last)
    · rfl

/-- Lines and columns are written as they have been read. -/
lemma locationEntries_eq_lines (line column offset endOffset : Nat) (endLine endColumn : Option Nat)
    (hline : line ≠ 0) :
    locationEntries ⟨.int line, .int (column + 1 : Nat), .int offset, .int endOffset,
        Data.ofNat? endLine, Data.ofNat? (endColumn.map (· + 1)), file⟩ =
      [Data.linesEntry line column (endLine.getD line : Nat) (endColumn.getD column : Nat)] ++
        if (Data.int endOffset).truthy then [Data.spanEntry (.int offset) (.int endOffset)]
        else [] := by
  have hplace (l c : Nat) : placeData (.int l) (.int (c + 1 : Nat)) = Data.lineColumn l c :=
    congrArg (fun n : Int => Data.dict [("line", .int l), ("column", .int n)])
      (Int.add_sub_cancel (c : Int) 1)
  have hendLine : (if (Data.ofNat? endLine).isNull then Data.int line else Data.ofNat? endLine) =
      .int (endLine.getD line : Nat) := by
    cases endLine <;> rfl
  have hendColumn : (if (Data.ofNat? (endColumn.map (· + 1))).truthy then
      Data.ofNat? (endColumn.map (· + 1)) else Data.int (column + 1 : Nat)) =
        .int (endColumn.getD column + 1 : Nat) := by
    cases endColumn <;> rfl
  have htruthy : (Data.int line).truthy = true := by
    cases line with
    | zero => exact absurd rfl hline
    | succ line => rfl
  unfold locationEntries
  dsimp only
  rw [htruthy, if_pos rfl, hendLine, hendColumn, hplace, hplace]
  rfl

/-- What is written for a location that has been read is where the node stands in normal form. -/
lemma locationEntries_eq_normal (h : d.isNaturallyPlaced = true)
    (hloc : locationOf file d = .ok loc) : locationEntries loc = d.normalLines ++ d.normalSpan := by
  obtain ⟨line, column, endLine, endColumn, offset, endOffset, hline, hcolumn, hendLine,
    hendColumn, hrange, rfl⟩ := locationOf_natural h hloc
  have hlines (hzero : line.getD 0 = 0) : d.normalLines = [] := by
    unfold Data.normalLines
    rw [hline]
    cases line with
    | none => rfl
    | some line => cases hzero; rfl
  rw [normalSpan_eq hrange]
  split
  · next hnull =>
    have hnone : Data.ofNat? line = .null := by
      rw [← hline, Data.mark, Data.eq_null_of_isNull hnull]
      rfl
    rw [hlines (by cases line <;> first | rfl | cases hnone)]
    unfold bareLocation
    split
    · next hbare =>
      have hend : (Data.int endOffset).truthy = false := by
        cases hend : (Data.int endOffset).truthy with
        | true => rw [hend, Bool.not_true, Bool.and_false] at hbare; exact hbare.symm
        | false => rfl
      rw [hend]
      rfl
    · rfl
  · by_cases hzero : line.getD 0 = 0
    · rw [hlines hzero, hzero]
      rfl
    · have hnumber (k : Option Nat) (n : Nat) :
          (Data.ofNat? k).number?.getD n = (k.getD n : Nat) := by
        cases k <;> rfl
      have hkeep : d.normalLines = [Data.linesEntry (line.getD 0 : Nat) (column.getD 0 : Nat)
          (endLine.getD (line.getD 0) : Nat) (endColumn.getD (column.getD 0) : Nat)] := by
        have hfirst := hnumber line 0
        have hcol := hnumber column 0
        unfold Data.normalLines
        rw [hline, hcolumn, hendLine, hendColumn]
        dsimp only
        rw [show (0 : Int) = ((0 : Nat) : Int) from rfl, hfirst, hcol, hnumber, hnumber,
          if_neg (by simpa using hzero)]
      rw [hkeep]
      exact locationEntries_eq_lines _ _ _ _ _ _ hzero

/-! ## Writing what has been loaded -/

/-- What a field is in normal form, from the normal form of what the node has under its key. -/
lemma Data.normalField_of_held? {shape : Shape} {entries : List (Text × Data)} {f : Field}
    {part : Data} (h : Data.held? (.object shape entries) f.key = some part) :
    normalField (.object shape entries) (normalEntries entries) f =
      if f.key = Text.ofString "value" then part.normal.primitive else part.normal := by
  have hpart : entries.lookup f.key = some part := entry?_of_held? h
  rw [normalField, has_eq_isSome, h, normalEntries_eq_map, lookup_map_snd, hpart]
  rfl

/-- A field that the node is not found to have is its default in normal form. -/
lemma Data.normalField_of_not_held? {d : Data} {f : Field} (h : d.held? f.key = none)
    (parts : List (Text × Data)) : normalField d parts f = .scalar (f.fallback.getD .null) := by
  rw [normalField, has_eq_isSome, h]
  rfl

/-- A node that has been loaded is written in normal form, if all that its fields hold is. -/
lemma toData_of_load_object {file : Data} {shape : Shape} {entries : List (Text × Data)} {n : Node}
    (hplaced : Data.isNaturallyPlaced (.object shape entries) = true)
    (hn : load file (.object shape entries) = .ok n)
    (hparts : ∀ key part, Data.held? (.object shape entries) key = some part →
      ∀ (f : Field) (v : Value), loadValue file f.key part = .ok v → (f.keep v).toData =
        if f.key = Text.ofString "value" then part.normal.primitive else part.normal) :
    n.toData = Data.normal (.object shape entries) := by
  obtain ⟨kind, loc, htype, hlocated, hkind, hloc, get, hget, hfields⟩ := fields_of_load_eq_ok hn
  rw [Node.fields_eq_map_get hkind, List.map_inj_left] at hfields
  have hfield : ∀ f ∈ kind.fields, (n.get f.name).toData =
      Data.normalField (.object shape entries) (Data.normalEntries entries) f := by
    intro f hf
    rw [(Prod.mk.inj (hfields f hf)).2]
    rcases loadField_eq_ok file (hget f hf) with ⟨part, hpart, hload⟩ | ⟨hnone, s, hs, hv⟩
    · rw [Data.normalField_of_held? hpart]
      exact hparts _ part hpart f _ hload
    · rw [Data.normalField_of_not_held? hnone, hs, hv]
      unfold Field.keep
      split <;> rfl
  have hname : ((Data.object shape entries).entry "type").text?.bind Kind.ofName? = some kind := by
    rw [htype]
    exact kind.ofName?_name
  rw [Node.toData_eq hkind hloc, Node.entries, Data.normal, Data.normalNode, hname,
    locationEntries_eq_normal hplaced hlocated,
    List.map_congr_left fun f hf => congrArg (Prod.mk f.key) (hfield f hf)]

/-- What has been loaded is written in normal form. -/
theorem toData_of_load (file d : Data) : d.everyObject Data.isNaturallyPlaced = true →
    (∀ n, load file d = .ok n → n.toData = d.normal) ∧
      ∀ (f : Field) (v : Value), loadValue file f.key d = .ok v → (f.keep v).toData =
        if f.key = Text.ofString "value" then d.normal.primitive else d.normal := by
  induction d using Data.induction with
  | scalar s =>
    intro _
    constructor
    · intro n hn
      obtain ⟨kind, loc, htype, -⟩ := fields_of_load_eq_ok hn
      exact absurd htype nofun
    · intro f v hv
      obtain rfl := Except.ok.inj hv
      unfold Field.keep
      split <;> rfl
  | list items ih =>
    intro h
    constructor
    · intro n hn
      obtain ⟨kind, loc, htype, -⟩ := fields_of_load_eq_ok hn
      exact absurd htype nofun
    · intro f v hv
      obtain ⟨values, hvalues, rfl⟩ := exists_of_map_eq_ok hv
      obtain ⟨get, hget, rfl⟩ := exists_of_loadItems_eq_ok file hvalues
      have hitem : ∀ d ∈ items, (get d).toData = d.normal := by
        intro d hd
        obtain ⟨rfl, hnull⟩ | ⟨n, hn, hnode⟩ := loadItem_eq_ok file (hget d hd)
        · rw [hnull]
          rfl
        · rw [hnode]
          exact (ih d hd (Data.everyObject_of_mem h d hd)).1 n hn
      unfold Field.keep
      split
      · rfl
      · rw [Value.toData_list, List.map_map, Data.normal, Data.normalItems_eq_map]
        exact congrArg Data.list (List.map_congr_left hitem)
  | object shape entries ih =>
    intro h
    have hnode (n : Node) (hn : load file (.object shape entries) = .ok n) :=
      toData_of_load_object (Data.of_everyObject h) hn fun key part hpart =>
        have hmem := Data.mem_of_held? hpart
        (ih key part hmem (Data.everyObject_of_entry h key part hmem)).2
    refine ⟨hnode, fun f v hv => ?_⟩
    unfold Field.keep
    obtain ⟨hkey, rfl⟩ | ⟨hkey, n, hn, rfl⟩ := loadValue_object_eq_ok file hv
    · rw [if_pos hkey, if_pos hkey, Data.primitive_normal_object]
      rfl
    · rw [if_neg hkey, if_neg hkey]
      exact hnode n hn

/-! ## Other sources -/

/-- A sight without a fault has none for another source. -/
lemma Sight.fault?_eq_none_of_source {x : Sight} (h : x.fault? file = none) :
    x.fault? file' = none := by
  cases x with
  | type name => cases name <;> exact h
  | kind name place =>
    cases hloc : locationOf file place with
    | error e => rw [fault?, hloc] at h; exact absurd h (Option.some_ne_none _)
    | ok loc =>
      obtain ⟨loc', hloc'⟩ := exists_locationOf_of_source file' hloc
      rw [fault?, hloc] at h
      rw [fault?, hloc']
      cases hkind : Kind.ofName? name with
      | none => rw [hkind] at h; exact absurd h (Option.some_ne_none _)
      | some kind => rfl
  | field kind place f isThere =>
    cases hloc' : locationOf file' place with
    | error e => rw [fault?, hloc']
    | ok loc' =>
      obtain ⟨loc, hloc⟩ := exists_locationOf_of_source file hloc'
      rw [fault?, hloc] at h
      rw [fault?, hloc']
      dsimp only at h ⊢
      split at h
      · next hthere => exact if_pos hthere
      · exact absurd h (Option.some_ne_none _)
  | wording place isText =>
    cases hloc' : locationOf file' place with
    | error e => rw [fault?, hloc']
    | ok loc' =>
      obtain ⟨loc, hloc⟩ := exists_locationOf_of_source file hloc'
      rw [fault?, hloc] at h
      rw [fault?, hloc']
      dsimp only at h ⊢
      split at h
      · next htext => exact if_pos htext
      · exact absurd h (Option.some_ne_none _)

/-- What loads from one source loads from every other one. -/
lemma exists_load_of_source {n : Node} (h : load file d = .ok n) : ∃ n', load file' d = .ok n' := by
  have hnone : firstFault file d.sights = none := by
    rw [← faultOf_load, h]
    rfl
  rw [firstFault_eq_none_iff] at hnone
  have hnone' : faultOf (load file' d) = none := by
    rw [faultOf_load, firstFault_eq_none_iff]
    exact fun x hx => Sight.fault?_eq_none_of_source file' (hnone x hx)
  cases hload : load file' d with
  | error fault => rw [hload] at hnone'; exact absurd hnone' nofun
  | ok n' => exact ⟨n', rfl⟩

/-- The same is written for a tree whose locations have changed, if the same is written for each
location. -/
theorem toData_retouch {r : Retouch} (hfloat : ∀ x, r.float x = x) :
    (∀ n : Node, (∀ loc ∈ n.locations, locationEntries (r.location loc) = locationEntries loc) →
      (n.retouch r).toData = n.toData) ∧
    ∀ v : Value, (∀ loc ∈ v.locations, locationEntries (r.location loc) = locationEntries loc) →
      (v.retouch r).toData = v.toData := by
  refine Node.induction ?scalar ?node ?list ?fields
  case scalar => exact fun s _ => congrArg Data.scalar (s.mapFloat_eq_self hfloat)
  case node => exact fun n hn hloc => hn hloc
  case list =>
    intro items hitems hloc
    rw [Value.forall_mem_locations_list] at hloc
    rw [Value.retouch_list, Value.toData_list, Value.toData_list, List.map_map]
    exact congrArg Data.list (List.map_congr_left fun v hv => hitems v hv (hloc v hv))
  case fields =>
    intro n hfields hloc
    rw [Node.forall_mem_locations] at hloc
    obtain ⟨hown, hbelow⟩ := hloc
    have hparts : (n.retouch r).fields.map (fun p => (p.1, p.2.toData)) =
        n.fields.map fun p => (p.1, p.2.toData) := by
      rw [Node.fields_retouch, List.map_map]
      exact List.map_congr_left fun p hp => congrArg (Prod.mk p.1) (hfields p hp (hbelow p hp))
    have hfold (m : Node) : m.toData =
        encodeFolder.node m (m.fields.map fun p => (p.1, p.2.toData)) :=
      Node.fold_eq_node_fields encodeFolder m
    rw [hfold, hfold, hparts, encodeFolder]
    dsimp only
    rw [Node.kindName_retouch, Node.location?_retouch]
    cases hplace : n.location? with
    | none => rfl
    | some loc =>
      dsimp only [Option.map_some]
      rw [hown loc hplace]

/-- The same is written for a location in numbers after it has been reloaded. -/
lemma Location.IsNatural.locationEntries_reloaded (h : loc.IsNatural file) :
    locationEntries (loc.reloaded file') = locationEntries loc := by
  obtain ⟨line, column, offset, endOffset, endLine, endColumn⟩ := h
  rw [reloaded_ofNat]
  cases line <;> cases column <;> cases endOffset <;> cases endLine <;> cases endColumn <;> rfl

/-- Whatever loads is written in normal form, from every source.  What has been written loads again,
from every source, and is written in the same way. -/
theorem toData_load_eq_normal {file raw : Data} {n : Node}
    (hraw : raw.everyObject Data.isNaturallyPlaced = true) (hload : load file raw = .ok n) :
    ∀ file', ∃ n', load file' raw = .ok n' ∧ n'.toData = raw.normal ∧
      ∀ file'', ∃ m, load file'' n'.toData = .ok m ∧ m.toData = n'.toData := by
  intro file'
  obtain ⟨n', hn'⟩ := exists_load_of_source file' hload
  refine ⟨n', hn', (toData_of_load file' raw hraw).1 n' hn', fun file'' => ?_⟩
  obtain ⟨hloadable, hnatural⟩ := (isLoadable_of_load file'
    (fun _ _ => Location.isNatural_of_locationOf) raw hraw).1 n' hn'
  let r := Rewriting.refl.reloading file''
  have hagain : load file'' n'.toData = .ok (n'.retouch r) :=
    (load_toData .refl file'').1 n' hloadable fun loc hloc =>
      (hnatural loc hloc).isNumbered.keeps .refl
  exact ⟨n'.retouch r, hagain, (toData_retouch fun _ => rfl).1 n' fun loc hloc =>
    (hnatural loc hloc).locationEntries_reloaded file''⟩

end

/-- A program with a hole and a regular expression, whose value is an object and whose last column
is missing: the value becomes null, the entries that no field asks for go, and the place of the
program, on line zero, goes as well. -/
theorem toData_load_eq_normal_hole :
    let raw : Data := .dict [("range", .list [.int 0, .int 0]), ("type", .text "Program"),
      ("loc", .dict [("start", .dict [("line", .int 0), ("column", .int 3)])]),
      ("body", .list [.null, .dict [("type", .text "ExpressionStatement"), ("flags", .list []),
        ("expression", .dict [("type", .text "Literal"), ("value", .dict [("source", .text "a")]),
          ("raw", .text "/a/"), ("range", .list [.int 3, .int 6]),
          ("loc", .dict [("start", .dict [("line", .int 2), ("column", .int 4)]),
            ("end", .dict [("line", .int 5)])])])]])]
    let normal : Data := .dict [("type", .text "Program"),
      ("body", .list [.null, .dict [("type", .text "ExpressionStatement"),
        ("expression", .dict [("type", .text "Literal"), ("raw", .text "/a/"), ("value", .null),
          ("loc", .dict [("start", .dict [("line", .int 2), ("column", .int 4)]),
            ("end", .dict [("line", .int 5), ("column", .int 4)])]),
          ("range", .list [.int 3, .int 6])])]]),
      ("sourceType", .text "script")]
    raw.everyObject Data.isNaturallyPlaced = true ∧ (∃ n, load .null raw = .ok n) ∧
      raw.normal = normal ∧ ∀ file', ∃ n', load file' raw = .ok n' ∧ n'.toData = normal ∧
        ∀ file'', ∃ m, load file'' n'.toData = .ok m ∧ m.toData = n'.toData := by
  intro raw normal
  have hraw : raw.everyObject Data.isNaturallyPlaced = true := rfl
  obtain ⟨n, hload⟩ : ∃ n, load .null raw = .ok n := ⟨_, rfl⟩
  have hnormal : raw.normal = normal := rfl
  exact ⟨hraw, ⟨n, hload⟩, hnormal, hnormal ▸ toData_load_eq_normal hraw hload⟩

end Offside
