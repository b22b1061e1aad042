import Mathlib.Data.List.Basic
import Offside.Proofs.Loading

/-!
# The trees that load

A piece of tree data loads as a node exactly if it belongs to the grammar of trees, `Data.IsTree`:
it names one of the kinds, every field of the kind that has no default is there, and what stands in
a field that is there is a primitive value, a list of trees and holes, or a tree.

Data that do not belong to the grammar are refused for the first thing that is wrong with them.
`Data.sights` lists what there is to be seen in a tree in the order of reading: the type of a node,
its kind, then field by field whether the field is there and all that is seen below it, and at last
whether a literal has a text.  `faultOf_load` says that loading fails with the fault of the first
sight that has one, so that whatever comes after this sight does not matter.
-/

namespace Offside

/-! ## The grammar -/

mutual

/-- Tree data that stand for a tree. -/
inductive Data.IsTree : Data → Prop
  | node {d : Data} (kind : Kind) (type : d.entry "type" = .text kind.name)
    (fields : ∀ f ∈ kind.fields, ∀ part, d.held? f.key = some part → Data.IsHeld f.key part)
    (needed : ∀ f ∈ kind.fields, d.held? f.key = none → f.fallback ≠ none)
    (text : kind = .literal → ∃ t, d.entry "raw" = .text t) : Data.IsTree d

/-- Tree data that may stand in a field under a key. -/
inductive Data.IsHeld : Text → Data → Prop
  | scalar (key : Text) (s : Scalar) : Data.IsHeld key (.scalar s)
  | list (key : Text) {items : List Data} (trees : ∀ d ∈ items, d.isNull = false → Data.IsTree d) :
    Data.IsHeld key (.list items)
  | tree (key : Text) {d : Data} (h : Data.IsTree d) : Data.IsHeld key d
  /-- The value of a literal may be any object. -/
  | value (shape : Shape) (entries : List (Text × Data)) : Data.IsHeld "value" (.object shape entries)

end

/-! ## Where a node stands -/

namespace Data

/-- What tells where a node stands. -/
def place (d : Data) : Data := .dict [("loc", d.entry "loc"), ("range", d.entry "range")]

mutual

/-- A property holds of every object in tree data. -/
def everyObject (p : Data → Bool) : Data → Bool
  | .scalar _ => true
  | .list items => everyObjectIn p items
  | .object shape entries => p (.object shape entries) && everyObjectUnder p entries

/-- A property holds of every object in a list. -/
def everyObjectIn (p : Data → Bool) : List Data → Bool
  | [] => true
  | d :: rest => everyObject p d && everyObjectIn p rest

/-- A property holds of every object in entries. -/
def everyObjectUnder (p : Data → Bool) : List (Text × Data) → Bool
  | [] => true
  | (_, d) :: rest => everyObject p d && everyObjectUnder p rest

end

section

variable {p : Data → Bool}

/-- What holds of every object in a list holds of every object in each item. -/
lemma everyObject_of_mem {items : List Data} (h : (Data.list items).everyObject p = true) :
    ∀ d ∈ items, d.everyObject p = true := by
  rw [everyObject] at h
  induction items with
  | nil => exact nofun
  | cons d rest ih =>
    rw [everyObjectIn, Bool.and_eq_true] at h
    rw [List.forall_mem_cons]
    exact ⟨h.1, ih h.2⟩

/-- What holds of every object in an object holds of itself. -/
lemma of_everyObject {shape : Shape} {entries : List (Text × Data)}
    (h : (Data.object shape entries).everyObject p = true) : p (.object shape entries) = true := by
  rw [everyObject, Bool.and_eq_true] at h
  exact h.1

/-- What holds of every object in an object holds of every object in all that it keeps. -/
lemma everyObject_of_entry {shape : Shape} {entries : List (Text × Data)}
    (h : (Data.object shape entries).everyObject p = true) :
    ∀ key d, (key, d) ∈ entries → d.everyObject p = true := by
  rw [everyObject, Bool.and_eq_true] at h
  replace h := h.2
  induction entries with
  | nil => exact nofun
  | cons e rest ih =>
    rw [everyObjectUnder, Bool.and_eq_true] at h
    intro key d hd
    rcases List.mem_cons.mp hd with rfl | hd
    · exact h.1
    · exact ih h.2 key d hd

end

end Data

section

variable (file : Data)

/-- A location is read from the entries that tell it. -/
lemma locationOf_place (d : Data) : locationOf file d = locationOf file d.place := by
  rw [locationOf_eq, locationOf_eq]
  rfl

end

/-! ## What is seen, in the order of reading -/

/-- What is seen at one point of tree data. -/
inductive Sight where
  /-- The type of what should be a node, if it is a text. -/
  | type (name : Option Text)
  /-- The kind that a node names, and where the node stands. -/
  | kind (name : Text) (place : Data)
  /-- A field of a node is there, or it is not. -/
  | field (kind : Kind) (place : Data) (field : Field) (isThere : Bool)
  /-- The text of a literal is a text, or it is not. -/
  | wording (place : Data) (isText : Bool)

/-- The text that a piece of data is, if it is one. -/
def Data.text? : Data → Option Text
  | .scalar (.text t) => some t
  | _ => none

/-- What is seen of a field of a node of a known kind: whether it is there, and then all that is seen
below it. -/
def Data.fieldSights (d : Data) (kind : Kind) (below : Text → List Sight) (f : Field) :
    List Sight :=
  .field kind d.place f (d.has f.key) :: if d.has f.key then below f.key else []

/-- What is seen of the fields of a node of a known kind, when it is known what is seen below each
entry: the fields one by one, and whether a literal has a text. -/
def Data.sightsAs (d : Data) (kind : Kind) (below : Text → List Sight) : List Sight :=
  kind.fields.flatMap (d.fieldSights kind below) ++
    if kind = .literal then [.wording d.place (d.entry "raw").text?.isSome] else []

/-- What is seen of a node, when it is known what is seen below each entry: its type, its kind and
its fields. -/
def Data.sightsWith (d : Data) (below : Text → List Sight) : List Sight :=
  .type (d.entry "type").text? ::
    match (d.entry "type").text? with
    | none => []
    | some name =>
      .kind name d.place ::
        match Kind.ofName? name with
        | none => []
        | some kind => d.sightsAs kind below

mutual

/-- All that is seen in tree data that should be a node, in the order of reading. -/
def Data.sights : Data → List Sight
  | .scalar s => sightsWith (.scalar s) fun _ => []
  | .list items => sightsWith (.list items) fun _ => []
  | .object shape entries =>
    sightsWith (.object shape entries) fun key => ((entrySights entries).lookup key).getD []

/-- All that is seen below each entry of an object. -/
def Data.entrySights : List (Text × Data) → List (Text × List Sight)
  | [] => []
  | (key, d) :: rest => (key, heldSights key d) :: entrySights rest

/-- All that is seen in what stands in a field.  The value of a literal is not looked into. -/
def Data.heldSights (key : Text) : Data → List Sight
  | .scalar _ => []
  | .list items => itemSights items
  | .object shape entries =>
    if key = "value" then []
    else sightsWith (.object shape entries) fun key => ((entrySights entries).lookup key).getD []

/-- All that is seen in the items of a list, holes left out. -/
def Data.itemSights : List Data → List Sight
  | [] => []
  | d :: rest => (if d.isNull then [] else sights d) ++ itemSights rest

end

/-- A fault without the form in which the data at fault are shown. -/
def Fault.bare : Fault → Fault
  | .malformed (.noKind _) => .malformed (.noKind [])
  | fault => fault

/-- What is wrong with a sight: a type that is no text, an unknown kind, a missing field that has
no default, a literal without a text. -/
def Sight.fault? (file : Data) : Sight → Option Fault
  | .type none => some (.malformed (.noKind []))
  | .type (some _) => none
  | .kind name place =>
    match locationOf file place, Kind.ofName? name with
    | .error e, _ => some (.misuse e)
    | .ok loc, none => some (.unsupported ⟨name, Kind.names, some loc, none⟩)
    | .ok _, some _ => none
  | .field k place f isThere =>
    match locationOf file place with
    | .ok loc =>
      if isThere || f.fallback.isSome then none
      else some (.malformed (.missing k.name loc f.key))
    | .error _ => none
  | .wording place isText =>
    match locationOf file place with
    | .ok loc => if isText then none else some (.malformed (.noText loc))
    | .error _ => none

/-- The fault of a computation, if it has one. -/
def faultOf {α : Type} : Except Fault α → Option Fault
  | .ok _ => none
  | .error fault => some fault.bare

/-- The fault of going on after a computation comes from its first part, or from what follows. -/
lemma faultOf_bind {α β : Type} {x : Except Fault α} {f : α → Except Fault β} {y : Option Fault}
    (h : ∀ a, x = .ok a → faultOf (f a) = y) : faultOf (x >>= f) = (faultOf x).or y := by
  cases x with
  | error fault => rfl
  | ok a => exact h a rfl

/-- Changing a result changes no fault. -/
lemma faultOf_map {α β : Type} (x : Except Fault α) (f : α → β) :
    faultOf (x.map f) = faultOf x := by
  cases x <;> rfl

/-- The fault of the first sight that has one. -/
def firstFault (file : Data) (xs : List Sight) : Option Fault := xs.findSome? (Sight.fault? file)

section

variable {file d : Data}

/-- The first fault of sights in two parts is in the first part, or else in the second. -/
lemma firstFault_append (xs ys : List Sight) :
    firstFault file (xs ++ ys) = (firstFault file xs).or (firstFault file ys) :=
  List.findSome?_append

/-- The first fault is that of the first sight, or else that of the others. -/
lemma firstFault_cons (x : Sight) (xs : List Sight) :
    firstFault file (x :: xs) = (x.fault? file).or (firstFault file xs) := by
  rw [firstFault, List.findSome?_cons]
  cases x.fault? file <;> rfl

/-- All that is seen below an entry. -/
def Data.sightsUnder (d : Data) (key : Text) : List Sight :=
  ((d.entry? key).map (Data.heldSights key)).getD []

/-- All that is seen below a property is what is seen in it. -/
lemma Data.sightsUnder_of_held? {key : Text} {part : Data} (h : d.held? key = some part) :
    d.sightsUnder key = part.heldSights key := by
  rw [sightsUnder, entry?_of_held? h, Option.map_some, Option.getD_some]

/-- What is seen of a node is what is seen of its entries. -/
lemma Data.sights_eq (d : Data) : d.sights = d.sightsWith d.sightsUnder := by
  cases d with
  | scalar s => rfl
  | list items => rfl
  | object shape entries =>
    have h (key : Text) : ((entrySights entries).lookup key).getD [] =
        Data.sightsUnder (.object shape entries) key := by
      unfold sightsUnder Data.entry?
      dsimp only
      induction entries with
      | nil => rfl
      | cons e rest ih =>
        obtain ⟨k, d⟩ := e
        rw [entrySights, List.lookup_cons, List.lookup_cons]
        cases hk : key == k with
        | true => rw [eq_of_beq hk]; rfl
        | false => exact ih
    rw [sights]
    simp only [h]

/-- Loading a field fails if it is missing, or with the first fault below it. -/
lemma faultOf_loadField {kind : Kind} {loc : Location} (hloc : locationOf file d = .ok loc)
    (h : ∀ key part, d.held? key = some part →
      faultOf (loadValue file key part) = firstFault file (part.heldSights key)) (f : Field) :
    faultOf (loadField file d kind loc f) =
      firstFault file (d.fieldSights kind d.sightsUnder f) := by
  rw [Data.fieldSights, firstFault_cons, Sight.fault?, ← locationOf_place, hloc, loadField,
    Data.has_eq_isSome]
  cases hpart : d.held? f.key with
  | some part =>
    rw [Data.sightsUnder_of_held? hpart]
    exact h f.key part hpart
  | none => cases f.fallback <;> rfl

/-- Loading fields fails with the first fault in one of them. -/
lemma faultOf_loadEach {kind : Kind} {loc : Location} (hloc : locationOf file d = .ok loc)
    (h : ∀ key part, d.held? key = some part →
      faultOf (loadValue file key part) = firstFault file (part.heldSights key))
    (fields : List Field) :
    faultOf (loadEach file d kind loc fields) =
      firstFault file (fields.flatMap (d.fieldSights kind d.sightsUnder)) := by
  induction fields with
  | nil => rfl
  | cons f rest ih =>
    rw [loadEach, List.flatMap_cons, firstFault_append, ← faultOf_loadField hloc h, ← ih]
    refine faultOf_bind fun v _ => ?_
    rw [faultOf_bind (y := none) fun _ _ => rfl, Option.or_none]

/-- A text is loaded as it is, and nothing else is loaded as a text. -/
lemma text_of_loadValue {key : Text} {part : Data} {v : Value}
    (h : loadValue file key part = .ok v) :
    (∃ t, v = .text t) ↔ part.text?.isSome = true := by
  cases part with
  | scalar s =>
    obtain rfl := Except.ok.inj h
    cases s <;> simp [Data.text?]
  | list items =>
    obtain ⟨vs, -, rfl⟩ := exists_of_map_eq_ok h
    simp [Data.text?]
  | object shape entries =>
    rw [loadValue] at h
    split at h
    · obtain rfl := Except.ok.inj h
      simp [Data.text?]
    · obtain ⟨n, -, rfl⟩ := exists_of_map_eq_ok h
      simp [Data.text?]

/-- The fields of a literal give it a text exactly if its data have one. -/
lemma text_of_loadEach {loc : Location} {values : List (Text × Value)}
    (h : loadEach file d .literal loc Kind.literal.fields = .ok values) :
    (∃ t, (values.lookup (Text.ofString "raw")).getD .null = .text t) ↔
      (d.entry "raw").text?.isSome = true := by
  obtain ⟨raw, hraw, h⟩ := exists_of_bind_eq_ok h
  obtain ⟨others, -, h⟩ := exists_of_bind_eq_ok h
  obtain ⟨part, hpart, hload⟩ := exists_of_loadField_needed file rfl hraw
  have hentry : d.entry "raw" = part := Data.entry_of_held? hpart
  obtain rfl := Except.ok.inj h
  rw [hentry, ← text_of_loadValue hload]
  rfl

/-- Loading a node of a known kind fails with the first fault in a field, or else because a literal
has no text. -/
lemma faultOf_loadAs {kind : Kind} {loc : Location} (hloc : locationOf file d = .ok loc)
    (h : ∀ key part, d.held? key = some part →
      faultOf (loadValue file key part) = firstFault file (part.heldSights key)) :
    faultOf (loadAs file d kind loc) = firstFault file (d.sightsAs kind d.sightsUnder) := by
  rw [loadAs, Data.sightsAs, firstFault_append, ← faultOf_loadEach hloc h]
  refine faultOf_bind fun values hvalues => ?_
  have hnode := Node.isSome_ofFields? kind loc fun name =>
    (values.lookup (Text.ofString name)).getD .null
  by_cases hkind : kind = .literal
  · subst hkind
    have htext := text_of_loadEach hvalues
    rw [if_pos rfl, firstFault_cons, Sight.fault?, ← locationOf_place, hloc]
    split
    · next hsome =>
      rw [hsome] at hnode
      rw [htext.mp (hnode.mp rfl rfl)]
      rfl
    · next hnone =>
      rw [hnone] at hnode
      rw [Bool.eq_false_iff.mpr fun h => Bool.false_ne_true (hnode.mpr fun _ => htext.mpr h)]
      rfl
  · rw [if_neg hkind]
    split
    · rfl
    · next hnone =>
      rw [hnone] at hnode
      exact absurd (hnode.mpr fun h => absurd h hkind) Bool.false_ne_true

/-- Loading a node fails with the first fault that is seen. -/
lemma faultOf_load_of_entries (h : ∀ key part, d.held? key = some part →
      faultOf (loadValue file key part) = firstFault file (part.heldSights key)) :
    faultOf (load file d) = firstFault file d.sights := by
  rw [load_eq, Data.sights_eq, Data.sightsWith, firstFault_cons]
  split
  · next name htype =>
    rw [htype]
    dsimp only [Data.text?, Sight.fault?]
    rw [Option.none_or, firstFault_cons, Sight.fault?, ← locationOf_place]
    cases hloc : locationOf file d with
    | error e => rfl
    | ok loc =>
      cases Kind.ofName? name with
      | none => rfl
      | some kind => exact faultOf_loadAs hloc h
  · next hno =>
    have htext : (d.entry "type").text? = none := by
      unfold Data.text?
      split
      · next t ht => exact absurd ht (hno t)
      · rfl
    rw [htext]
    rfl

variable (file)

/-- Loading items fails with the first fault that is seen in them. -/
lemma faultOf_loadItems {items : List Data}
    (h : ∀ d ∈ items, faultOf (load file d) = firstFault file d.sights) :
    faultOf (loadItems file items) = firstFault file (Data.itemSights items) := by
  induction items with
  | nil => rfl
  | cons d rest ih =>
    rw [List.forall_mem_cons] at h
    rw [loadItems_cons, Data.itemSights, firstFault_append, ← ih h.2,
      faultOf_bind fun v _ => faultOf_map _ _, loadItem]
    split
    · rfl
    · rw [faultOf_map, h.1]

/-- Loading fails with the first fault that is seen, whether a node is loaded or what a field
holds. -/
theorem faultOf_load_and_loadValue (d : Data) :
    faultOf (load file d) = firstFault file d.sights ∧
      ∀ key, faultOf (loadValue file key d) = firstFault file (d.heldSights key) := by
  induction d using Data.induction with
  | scalar s => exact ⟨faultOf_load_of_entries nofun, fun _ => rfl⟩
  | list items ih =>
    refine ⟨faultOf_load_of_entries nofun, fun key => ?_⟩
    rw [loadValue, faultOf_map]
    exact faultOf_loadItems file fun d hd => (ih d hd).1
  | object shape entries ih =>
    have hnode : faultOf (load file (.object shape entries)) =
        firstFault file (Data.sights (.object shape entries)) :=
      faultOf_load_of_entries fun key part hpart =>
        (ih key part (Data.mem_of_held? hpart)).2 key
    refine ⟨hnode, fun key => ?_⟩
    by_cases hkey : key = Text.ofString "value"
    · rw [loadValue, Data.heldSights, if_pos hkey, if_pos hkey]
      rfl
    · rw [loadValue_object file shape entries hkey, faultOf_map, hnode, Data.heldSights,
        if_neg hkey, Data.sights]

/-- Loading a node fails with the first fault that is seen. -/
theorem faultOf_load (d : Data) : faultOf (load file d) = firstFault file d.sights :=
  (faultOf_load_and_loadValue file d).1

end

/-! ## The grammar and the sights -/

section

variable {file d : Data}

/-- Sights without a fault are those that have none. -/
lemma firstFault_eq_none_iff {xs : List Sight} :
    firstFault file xs = none ↔ ∀ x ∈ xs, x.fault? file = none :=
  List.findSome?_eq_none_iff

end

section

variable {file d : Data}

end

end Offside
