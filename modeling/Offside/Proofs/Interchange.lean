import Offside.Proofs.Reload
import Offside.Proofs.Typed

/-!
# Exchanging programs as documents

A program can be handed over as tree data, and as a document that holds these data.  Both load to
the same program, in whatever layout the document is written, as far as a document can tell data
apart: a surrogate may join its neighbour, a number with a fraction is read from its shortest text,
and dictionaries come back in the order of their keys.  Data without the first two are exact
(`Data.IsExact`); the order of dictionaries can only be seen in locations, which may be told by any
data (`Node.sorted`).

Integers are written with all their digits, up to a limit for the number of these.  A program with a
longer integer has no document (`Node.toJson_of_long`).
-/

namespace Offside

/-! ## Exact data -/

/-- A primitive value that a document gives back as it is. -/
def Scalar.isExact : Scalar → Bool
  | .float _ => false
  | .text t => t.isUnicode
  | _ => true

/-- Tree data that a document gives back as they are, but for the order of entries: there are no
surrogates and no numbers with a fraction, objects are dictionaries, and no key occurs twice. -/
inductive Data.IsExact : Data → Prop
  | scalar {s : Scalar} (h : s.isExact = true) : IsExact (.scalar s)
  | list {items : List Data} (h : ∀ d ∈ items, IsExact d) : IsExact (.list items)
  | dict {entries : List (Text × Data)} (distinct : (entries.map Prod.fst).Nodup)
    (keys : ∀ e ∈ entries, e.1.isUnicode = true) (values : ∀ e ∈ entries, IsExact e.2) :
    IsExact (.dict entries)

/-- An exact primitive value has no surrogates. -/
lemma Scalar.isUnicode_of_isExact {s : Scalar} (h : s.isExact = true) : s.isUnicode = true := by
  cases s with
  | text t => exact h
  | _ => rfl

/-- An exact primitive value has no number to be changed. -/
lemma Scalar.mapFloat_of_isExact {s : Scalar} (h : s.isExact = true) (float : Double → Double) :
    s.mapFloat float = s := by
  cases s with
  | float x => exact absurd h Bool.false_ne_true
  | _ => rfl

namespace Data

/-- Tree data with the entries of all dictionaries in the order of their keys. -/
def sorted (d : Data) : Data := d.reread id

namespace IsExact

variable {d : Data}

/-- Exact data can be spelled. -/
lemma isSpelled (h : d.IsExact) : d.IsSpelled := by
  induction h with
  | scalar h => exact .scalar (Scalar.isUnicode_of_isExact h)
  | list _ ih => exact .list ih
  | dict distinct keys _ ih => exact .dict distinct keys ih

/-- A document gives exact data back in order. -/
lemma reread_eq (h : d.IsExact) (float : Double → Double) : d.reread float = d.sorted := by
  rw [sorted]
  induction h with
  | scalar h => exact congrArg Data.scalar (by
      rw [Scalar.mapFloat_of_isExact h, Scalar.mapFloat_of_isExact h])
  | list _ ih =>
    rw [reread_list, reread_list]
    exact congrArg Data.list (List.map_congr_left ih)
  | @dict entries _ _ _ ih =>
    rw [reread_dict, reread_dict]
    refine congrArg Data.dict (List.map_congr_left fun e he => ?_)
    exact congrArg (Prod.mk e.1) (ih e ((Json.sortByKey_perm entries).mem_iff.mp he))

/-- Putting exact data in order keeps whether they hold. -/
lemma truthy_sorted (h : d.IsExact) : d.sorted.truthy = d.truthy := by
  cases h with
  | @scalar s h =>
    exact congrArg Scalar.truthy (Scalar.mapFloat_of_isExact h id)
  | @list items h =>
    rw [sorted, reread_list]
    cases items <;> rfl
  | @dict entries _ _ _ =>
    have hempty := (Json.sortByKey_perm entries).isEmpty_eq
    rw [sorted, reread_dict]
    change (!List.isEmpty (List.map _ _)) = !List.isEmpty entries
    rw [List.isEmpty_map, hempty]

end IsExact

/-- What holds of all objects holds of every object in tree data. -/
lemma everyObject_of_forall {p : Data → Bool}
    (h : ∀ shape entries, p (.object shape entries) = true) (d : Data) : d.everyObject p = true := by
  induction d using Data.induction with
  | scalar s => rfl
  | list items ih =>
    rw [everyObject]
    induction items with
    | nil => rfl
    | cons d rest ih' =>
      rw [List.forall_mem_cons] at ih
      rw [everyObjectIn, ih.1, ih' ih.2]
      rfl
  | object shape entries ih =>
    rw [everyObject, h, Bool.true_and]
    induction entries with
    | nil => rfl
    | cons e rest ih' =>
      rw [everyObjectUnder, ih e.1 e.2 List.mem_cons_self,
        ih' fun key d hd => ih key d (List.mem_cons_of_mem _ hd)]
      rfl

/-! ## Long integers -/

mutual

/-- The integers in tree data. -/
def integers : Data → List Int
  | .scalar (.int n) => [n]
  | .scalar _ => []
  | .list items => integersOf items
  | .object _ entries => integersIn entries

/-- The integers in the items of a list. -/
def integersOf : List Data → List Int
  | [] => []
  | d :: rest => d.integers ++ integersOf rest

/-- The integers in the entries of an object. -/
def integersIn : List (Text × Data) → List Int
  | [] => []
  | (_, d) :: rest => d.integers ++ integersIn rest

end

/-- The integers in a list are those in its items. -/
lemma forall_mem_integers_list {P : Int → Prop} {items : List Data} :
    (∀ n ∈ (Data.list items).integers, P n) ↔ ∀ d ∈ items, ∀ n ∈ d.integers, P n := by
  have hitems : (Data.list items).integers = items.flatMap integers := by
    rw [integers]
    induction items with
    | nil => rfl
    | cons d rest ih => rw [integersOf, ih, List.flatMap_cons]
  rw [hitems, List.forall_mem_flatMap]

/-- The integers in an object are those in what it keeps. -/
lemma forall_mem_integers_object {P : Int → Prop} {shape : Shape} {entries : List (Text × Data)} :
    (∀ n ∈ (Data.object shape entries).integers, P n) ↔
      ∀ e ∈ entries, ∀ n ∈ e.2.integers, P n := by
  have hentries : (Data.object shape entries).integers = entries.flatMap fun e => e.2.integers := by
    rw [integers]
    induction entries with
    | nil => rfl
    | cons e rest ih => rw [integersIn, ih, List.flatMap_cons]
  rw [hentries, List.forall_mem_flatMap]

end Data

namespace Json

/-- Nothing stands against writing data that can be spelled if no integer in them is too long. -/
lemma obstacle?_eq_none_iff {d : Data} (h : d.IsSpelled) :
    obstacle? d = none ↔ ∀ n ∈ d.integers, n.natAbs < leastLong := by
  induction h with
  | @scalar s h =>
    cases s with
    | int n =>
      have hone : (∀ k ∈ (Data.scalar (.int n)).integers, k.natAbs < leastLong) ↔
          n.natAbs < leastLong := List.forall_mem_singleton
      rw [hone, obstacle?]
      by_cases hlong : leastLong ≤ n.natAbs
      · rw [if_pos hlong]
        exact ⟨fun h => absurd h (Option.some_ne_none _), fun h => absurd hlong (Nat.not_le.mpr h)⟩
      · rw [if_neg hlong]
        exact ⟨fun _ => Nat.not_le.mp hlong, fun _ => rfl⟩
    | _ => exact ⟨fun _ => List.forall_mem_nil _, fun _ => rfl⟩
  | list _ ih =>
    rw [obstacle?_list_eq_none, Data.forall_mem_integers_list]
    exact forall₂_congr ih
  | dict _ _ _ ih =>
    rw [obstacle?_dict_eq_none, Data.forall_mem_integers_object]
    exact forall₂_congr ih

/-- Nothing stands against writing data that can be spelled but a long integer. -/
lemma obstacle?_ne_object {d : Data} (h : d.IsSpelled) : obstacle? d ≠ some .object := by
  induction h with
  | @scalar s _ =>
    cases s with
    | int n =>
      rw [obstacle?]
      split <;> simp
    | _ => simp [obstacle?]
  | @list items _ ih =>
    intro hobject
    rw [obstacle?_list] at hobject
    obtain ⟨o, ho, heq⟩ := List.exists_of_findSome?_eq_some hobject
    obtain ⟨d, hd, rfl⟩ := List.mem_map.mp ho
    exact ih d hd heq
  | @dict entries _ _ _ ih =>
    intro hobject
    rw [obstacle?_dict] at hobject
    obtain ⟨o, ho, heq⟩ := List.exists_of_findSome?_eq_some hobject
    obtain ⟨e, he, rfl⟩ := List.mem_map.mp ((sortByKey_perm _).mem_iff.mp ho)
    exact ih e he heq

end Json

/-! ## Locations -/

namespace Location

/-- A location whose parts are exact. -/
def IsExact (loc : Location) : Prop := ∀ d ∈ loc.parts, d.IsExact

/-- A location whose columns are numbers, as those of all loaded locations are; the last one may be
missing. -/
structure HasColumns (loc : Location) : Prop where
  column : (∃ k : Int, loc.column = .int k) ∨ ∃ x : Double, loc.column = .scalar (.float x)
  endColumn : loc.endColumn = .null ∨ (∃ k : Int, loc.endColumn = .int k) ∨
    ∃ x : Double, loc.endColumn = .scalar (.float x)

/-- A location with the entries of the dictionaries in it in the order of their keys. -/
def sorted (loc : Location) : Location := loc.rewritten (.rereading id)

variable {loc : Location} {file : Data}

/-- One more than something is a number. -/
lemma number_of_oneMore {d e : Data} (h : oneMore d = .ok e) :
    (∃ k : Int, e = .int k) ∨ ∃ x : Double, e = .scalar (.float x) := by
  cases d with
  | scalar s =>
    cases s with
    | float x => exact .inr ⟨_, (Except.ok.inj h).symm⟩
    | int n => exact .inl ⟨_, (Except.ok.inj h).symm⟩
    | bool b => exact .inl ⟨_, (Except.ok.inj h).symm⟩
    | null => exact absurd h nofun
    | text t => exact absurd h nofun
  | list items => exact absurd h nofun
  | object shape entries => exact absurd h nofun

/-- A location that has been read has numbers for columns. -/
lemma hasColumns_of_locationOf {d : Data} (h : locationOf file d = .ok loc) : loc.HasColumns := by
  rw [locationOf_eq] at h
  obtain ⟨⟨offset, endOffset⟩, -, h⟩ := exists_of_bind_eq_ok h
  dsimp only at h
  split at h
  · obtain rfl := Except.ok.inj h
    unfold bareLocation
    split <;> exact ⟨.inl ⟨0, rfl⟩, .inl rfl⟩
  · obtain ⟨column, hcolumn, h⟩ := exists_of_bind_eq_ok h
    obtain ⟨endColumn, hendColumn, h⟩ := exists_of_bind_eq_ok h
    obtain rfl := Except.ok.inj h
    refine ⟨number_of_oneMore hcolumn, ?_⟩
    unfold lastColumn at hendColumn
    split at hendColumn
    · exact .inl (Except.ok.inj hendColumn).symm
    · exact .inr (number_of_oneMore hendColumn)

/-- An exact number is an integer. -/
lemma int_of_isExact {d : Data} (h : d.IsExact)
    (hnumber : (∃ k : Int, d = .int k) ∨ ∃ x : Double, d = .scalar (.float x)) :
    ∃ k : Int, d = .int k := by
  rcases hnumber with hint | ⟨x, rfl⟩
  · exact hint
  · cases h with
    | scalar h => exact absurd h Bool.false_ne_true

/-- An exact location comes through every rewriting that keeps whether exact data hold. -/
lemma IsExact.keeps (h : loc.IsExact) (hcolumns : loc.HasColumns) {φ : Rewriting}
    (hφ : ∀ d : Data, d.IsExact → (φ.data d).truthy = d.truthy) : φ.Keeps loc := by
  simp only [IsExact, parts, List.forall_mem_cons] at h
  obtain ⟨hline, hcolumn, -, hendOffset, -, hendColumn, -⟩ := h
  constructor
  case line => exact (hφ _ hline).trans
  case endOffset => exact (hφ _ hendOffset).trans
  case column => exact fun _ => int_of_isExact hcolumn hcolumns.column
  case endColumn =>
    intro _ htruthy
    rcases hcolumns.endColumn with hnull | hnumber
    · rw [hnull] at htruthy
      exact absurd htruthy Bool.false_ne_true
    · exact int_of_isExact hendColumn hnumber

section

variable {P : Data → Prop} (hzero : P (.int 0)) (hnull : P .null)

include hzero hnull

/-- The parts of a location that is told by a span alone are its ends, zero and null. -/
lemma forall_mem_parts_bareLocation {offset endOffset : Data} (hoffset : P offset)
    (hendOffset : P endOffset) : ∀ d ∈ (bareLocation file offset endOffset).parts, P d := by
  unfold bareLocation
  split
  · simp only [parts, unknown, List.forall_mem_cons]
    exact ⟨hzero, hzero, hzero, hzero, hnull, hnull, List.forall_mem_nil _⟩
  · simp only [parts, List.forall_mem_cons]
    exact ⟨hzero, hzero, hoffset, hendOffset, hnull, hnull, List.forall_mem_nil _⟩

/-- The parts of a location after reloading are parts that it had before, zero and null. -/
lemma forall_mem_parts_reloaded (h : ∀ d ∈ loc.parts, P d) :
    ∀ d ∈ (loc.reloaded file).parts, P d := by
  simp only [parts, List.forall_mem_cons] at h
  obtain ⟨hline, hcolumn, hoffset, hendOffset, hendLine, hendColumn, -⟩ := h
  have hspan {d : Data} (hd : P d) : P (if loc.endOffset.truthy then d else .int 0) := by
    split
    · exact hd
    · exact hzero
  unfold Location.reloaded
  by_cases htruthy : loc.line.truthy = true
  · simp only [if_pos htruthy, parts, List.forall_mem_cons]
    refine ⟨hline, hcolumn, hspan hoffset, hspan hendOffset, ?_, ?_, List.forall_mem_nil _⟩
    · split
      · exact hline
      · exact hendLine
    · split
      · exact hendColumn
      · exact hcolumn
  · simp only [if_neg htruthy]
    exact forall_mem_parts_bareLocation hzero hnull (hspan hoffset) (hspan hendOffset)

end

/-- An exact location is exact after reloading. -/
lemma IsExact.reloaded (h : loc.IsExact) (file : Data) : (loc.reloaded file).IsExact :=
  forall_mem_parts_reloaded (.scalar rfl) (.scalar rfl) h

/-- A document gives the parts of an exact location back in order. -/
lemma IsExact.rewritten_eq (h : loc.IsExact) (float : Double → Double) :
    loc.rewritten (.rereading float) = loc.sorted := by
  simp only [IsExact, parts, List.forall_mem_cons] at h
  obtain ⟨hline, -, hoffset, hendOffset, hendLine, -, -⟩ := h
  change ({ loc with
    line := loc.line.reread float
    offset := loc.offset.reread float
    endOffset := loc.endOffset.reread float
    endLine := loc.endLine.reread float } : Location) = _
  rw [hline.reread_eq, hoffset.reread_eq, hendOffset.reread_eq, hendLine.reread_eq]
  rfl

/-- A location whose parts are in order stays as it is. -/
lemma sorted_eq_self (h : ∀ d ∈ loc.parts, d.sorted = d) : loc.sorted = loc := by
  simp only [parts, List.forall_mem_cons] at h
  obtain ⟨hline, -, hoffset, hendOffset, hendLine, -, -⟩ := h
  change ({ loc with
    line := loc.line.sorted
    offset := loc.offset.sorted
    endOffset := loc.endOffset.sorted
    endLine := loc.endLine.sorted } : Location) = loc
  rw [hline, hoffset, hendOffset, hendLine]

end Location

/-! ## Programs and their documents -/

/-- A document is written where nothing stands against that. -/
lemma Node.toJson_eq_ok {n : Node} {layout : Json.Layout} {document : Text} :
    n.toJson layout = .ok document ↔
      Json.obstacle? n.toData = none ∧ Json.write layout n.toData = document := by
  unfold toJson
  cases Json.obstacle? n.toData with
  | none => simp
  | some o => cases o <;> simp

/-- A node that is a program is loaded as one. -/
lemma loadProgram_of_kind {file raw : Data} {p : Node} (hload : load file raw = .ok p)
    (hkind : p.kind? = some .program) : loadProgram file raw = .ok p := by
  rw [loadProgram, hload]
  cases p <;> cases hkind
  rfl

/-- A program loads from its document, with blanks behind it, as it does from its data as the
document gives them back. -/
theorem exists_loadDocument_toJson {p : Node} (hkind : p.kind? = some .program)
    (hloadable : p.IsLoadable) (hspelled : p.toData.IsSpelled)
    (hkeeps : ∀ float, ∀ loc ∈ p.locations, (Rewriting.rereading float).Keeps loc)
    {layout : Json.Layout} (hlayout : layout.IsBlank) {document : Text}
    (hdocument : p.toJson layout = .ok document) {blanks : Text}
    (hblanks : ∀ c ∈ blanks, Json.isBlank c = true) (file : Data) :
    ∃ float, loadDocument file (document ++ blanks) =
      .ok (p.retouch ((Rewriting.rereading float).reloading file)) := by
  obtain ⟨hwritten, rfl⟩ := Node.toJson_eq_ok.mp hdocument
  choose float hfloat using Json.exists_reads_writeDouble
  have hread := Json.read_write hlayout hfloat hspelled hwritten hblanks
  have hload := (load_toData (Rewriting.rereading float) file).1 p hloadable (hkeeps float)
  refine ⟨float, ?_⟩
  rw [loadDocument, hread]
  exact loadProgram_of_kind hload ((p.kind?_retouch _).trans hkind)

/-- A program that holds exact data only, in its fields and in its locations. -/
structure Node.IsExact (p : Node) : Prop where
  scalars : p.everyScalar Scalar.isExact = true
  located : ∀ loc ∈ p.locations, loc.IsExact

/-- A tree with the entries of the dictionaries in its locations in the order of their keys. -/
def Node.sorted (n : Node) : Node := n.retouch (.moving Location.sorted)

/-- The layout of a document that is written in one line or with a number of blanks for each level of
nesting. -/
def Json.Layout.ofIndent : Option Nat → Json.Layout
  | none => .line
  | some n => .indented (Text.times " " n)

/-- A layout of one line or of blanks is blank. -/
lemma Json.Layout.isBlank_ofIndent (indent : Option Nat) : (ofIndent indent).IsBlank := by
  cases indent with
  | none => exact fun depth => List.forall_mem_nil _
  | some n =>
    refine isBlank_indented fun c hc => ?_
    induction n with
    | zero => exact absurd hc (List.not_mem_nil)
    | succ n ih =>
      rcases List.mem_append.mp hc with hc | hc
      · rw [List.mem_singleton.mp hc]
        rfl
      · exact ih hc

section

variable {p : Node} (hexact : p.IsExact)

include hexact

/-- What documents make of an exact program is what its data make of it, put in order. -/
lemma Node.IsExact.retouch_rereading (float : Double → Double) (f : Data) :
    p.retouch ((Rewriting.rereading float).reloading f) =
      (p.retouch (Rewriting.refl.reloading f)).sorted := by
  rw [Node.sorted, (retouch_retouch _ _).1 p]
  refine (retouch_congr (q := Scalar.isExact) fun t ht => ?_).1 p hexact.scalars fun loc hloc => ?_
  · rw [Scalar.mapFloat_of_isExact ht, Scalar.mapFloat_of_isExact ht]
  · exact ((hexact.located loc hloc).reloaded f).rewritten_eq float

/-- An exact program whose locations are in order is in order after reloading. -/
lemma Node.IsExact.sorted_retouch (f : Data)
    (hsorted : ∀ loc ∈ p.locations, ∀ d ∈ loc.parts, d.sorted = d) :
    (p.retouch (Rewriting.refl.reloading f)).sorted = p.retouch (Rewriting.refl.reloading f) := by
  rw [Node.sorted, (retouch_retouch _ _).1 p]
  refine (retouch_congr (q := Scalar.isExact) fun t ht => ?_).1 p hexact.scalars fun loc hloc => ?_
  · rw [Scalar.mapFloat_of_isExact ht, Scalar.mapFloat_of_isExact ht]
  · exact Location.sorted_eq_self
      (Location.forall_mem_parts_reloaded rfl rfl (hsorted loc hloc))

end

/-- What has been loaded has numbers for columns in its locations. -/
lemma isLoadable_and_hasColumns_of_load {raw file : Data} {p : Node}
    (hload : load file raw = .ok p) : p.IsLoadable ∧ ∀ loc ∈ p.locations, loc.HasColumns :=
  (isLoadable_of_load (p := fun _ => true) file
    (fun _ _ _ => Location.hasColumns_of_locationOf) raw
    (Data.everyObject_of_forall (fun _ _ => rfl) raw)).1 p hload

/-- The data of an exact program can be spelled. -/
lemma Node.IsExact.isSpelled_toData {p : Node} (hexact : p.IsExact) (hloadable : p.IsLoadable) :
    p.toData.IsSpelled := by
  have hunicode : p.isUnicode = true :=
    (everyScalar_mono fun _ => Scalar.isUnicode_of_isExact).1 p hexact.scalars
  refine Offside.isSpelled_toData.1 p hloadable (fun loc hloc => ?_) hunicode
  exact Location.isSpelled fun d hd => (hexact.located loc hloc d hd).isSpelled

/-- A program with an integer that is too long has no document. -/
lemma Node.toJson_of_long {p : Node} (hspelled : p.toData.IsSpelled)
    (hlong : ∃ n ∈ p.toData.integers, Json.leastLong ≤ n.natAbs) (layout : Json.Layout) :
    p.toJson layout = .error (.outOfRange .integerWritten) := by
  obtain ⟨n, hn, hlong⟩ := hlong
  unfold toJson
  cases hobstacle : Json.obstacle? p.toData with
  | none =>
    have hshort := (Json.obstacle?_eq_none_iff hspelled).mp hobstacle n hn
    exact absurd hlong (Nat.not_le.mpr hshort)
  | some o =>
    cases o with
    | object => exact absurd hobstacle (Json.obstacle?_ne_object hspelled)
    | longInteger => rfl

/-- Exchanging a program.  A loaded program that holds exact data loads from its document as it does
from its data, put in order, whatever the layout and the source; so it is the same program if its
locations are in order.  If it has an integer that is too long, it has no document. -/
theorem exchange_toJson {raw file : Data} {p : Node} (hload : load file raw = .ok p)
    (hkind : p.kind? = some .program) (hexact : p.IsExact) (indent : Option Nat) (f : Data) :
    ((∀ n ∈ p.toData.integers, n.natAbs < Json.leastLong) →
      ∃ document q r, p.toJson (.ofIndent indent) = .ok document ∧
        loadDocument f document = .ok q ∧ load f p.toData = .ok r ∧ q = r.sorted ∧
        ((∀ loc ∈ p.locations, ∀ d ∈ loc.parts, d.sorted = d) → q = r)) ∧
    ((∃ n ∈ p.toData.integers, Json.leastLong ≤ n.natAbs) →
      p.toJson (.ofIndent indent) = .error (.outOfRange .integerWritten)) := by
  obtain ⟨hloadable, hcolumns⟩ := isLoadable_and_hasColumns_of_load hload
  have hspelled := hexact.isSpelled_toData hloadable
  refine ⟨fun hshort => ?_, fun hlong => Node.toJson_of_long hspelled hlong _⟩
  have hwritten := (Json.obstacle?_eq_none_iff hspelled).mpr hshort
  have hdocument : p.toJson (.ofIndent indent) = .ok (Json.write (.ofIndent indent) p.toData) :=
    Node.toJson_eq_ok.mpr ⟨hwritten, rfl⟩
  have hkeeps (float : Double → Double) :
      ∀ loc ∈ p.locations, (Rewriting.rereading float).Keeps loc := fun loc hloc =>
    (hexact.located loc hloc).keeps (hcolumns loc hloc) fun d hd =>
      (congrArg Data.truthy (hd.reread_eq float)).trans hd.truthy_sorted
  obtain ⟨float, hq⟩ := exists_loadDocument_toJson hkind hloadable hspelled hkeeps
    (Json.Layout.isBlank_ofIndent indent) hdocument (List.forall_mem_nil _) f
  rw [List.append_nil] at hq
  have hr := (load_toData .refl f).1 p hloadable fun loc hloc =>
    (hexact.located loc hloc).keeps (hcolumns loc hloc) fun _ _ => rfl
  have hsame := hexact.retouch_rereading float f
  exact ⟨_, _, _, hdocument, hq, hr, hsame, fun hsorted =>
    hsame.trans (hexact.sorted_retouch f hsorted)⟩

/-- A program of one array with a hole, a name outside of the basic plane and a negative number, all
of them at one place. -/
def arrayProgram : Node :=
  let place : Location := ⟨.int 1, .int 1, .int 0, .int 8, .int 1, .int 9, .text "a.js"⟩
  .program place (.list [.node (.expressionStatement place (.node (.arrayExpression place (.list
    [.null, .node (.identifier place (.text "𝑥")), .node (.literal place "-3" (.int (-3)))]))))])
    (.text "script")

/-- The program of one array comes back from its documents. -/
theorem exchange_toJson_arrayProgram :
    ∃ document q, arrayProgram.toJson (.ofIndent (some 2)) = .ok document ∧
      loadDocument (.text "b.js") document = .ok q ∧
      load (.text "b.js") arrayProgram.toData = .ok q := by
  have hload : load (.text "a.js") arrayProgram.toData = .ok arrayProgram := rfl
  have hlocations : arrayProgram.locations = List.replicate 5
      ⟨.int 1, .int 1, .int 0, .int 8, .int 1, .int 9, .text "a.js"⟩ := rfl
  have hparts : ∀ loc ∈ arrayProgram.locations, ∀ d ∈ loc.parts, ∃ n : Int, d = .int n := by
    intro loc hloc
    rw [hlocations] at hloc
    rw [List.eq_of_mem_replicate hloc]
    simp [Location.parts]
  have hexact : arrayProgram.IsExact := by
    refine ⟨rfl, fun loc hloc d hd => ?_⟩
    obtain ⟨n, rfl⟩ := hparts loc hloc d hd
    exact .scalar rfl
  have hshort : ∀ n ∈ arrayProgram.toData.integers, n.natAbs < Json.leastLong := by decide +kernel
  obtain ⟨document, q, r, hdocument, hq, hr, -, hsame⟩ :=
    (exchange_toJson hload rfl hexact (some 2) (.text "b.js")).1 hshort
  have hsorted : q = r := hsame fun loc hloc d hd => by
    obtain ⟨n, rfl⟩ := hparts loc hloc d hd
    rfl
  exact ⟨document, q, hdocument, hq, hsorted ▸ hr⟩

/-- A program of a literal whose value is the least integer that is too long. -/
def longProgram : Node :=
  .program .unknown (.list [.node (.expressionStatement .unknown (.node
    (.literal .unknown "n" (.int Json.leastLong))))]) (.text "script")

/-- An empty program on a line that is told by an object that is no dictionary. -/
def strangeProgram : Node :=
  .program ⟨.object .attributes [], .int 1, .int 0, .int 0, .null, .null, .null⟩ (.list [])
    (.text "script")

/-- A program with a long integer is loaded, but has no document, although it holds exact data; and
so is a program whose line is no data of documents. -/
theorem exchange_fails :
    (load .null longProgram.toData = .ok longProgram ∧ longProgram.kind? = some .program ∧
      longProgram.IsExact ∧
      longProgram.toJson (.ofIndent none) = .error (.outOfRange .integerWritten)) ∧
    (load .null (.dict [("type", .text "Program"), ("body", .list []),
        ("loc", .dict [("start", .dict [("line", .object .attributes []),
          ("column", .int 0)])])]) = .ok strangeProgram ∧
      ∀ document, strangeProgram.toJson (.ofIndent none) ≠ .ok document) := by
  have hload : load .null longProgram.toData = .ok longProgram := rfl
  have hlocations : longProgram.locations = List.replicate 3 .unknown := rfl
  have hexact : longProgram.IsExact := by
    refine ⟨rfl, fun loc hloc => ?_⟩
    rw [hlocations] at hloc
    rw [List.eq_of_mem_replicate hloc]
    have hzero : (Data.int 0).IsExact := .scalar rfl
    have hunknown : bareLocation .null (.int 0) (.int 0) = .unknown := rfl
    exact hunknown ▸ Location.forall_mem_parts_bareLocation hzero (.scalar rfl) hzero hzero
  have hintegers : longProgram.toData.integers = [(Json.leastLong : Int)] := rfl
  have hlong : ∃ n ∈ longProgram.toData.integers, Json.leastLong ≤ n.natAbs :=
    ⟨_, hintegers ▸ List.mem_singleton_self _, le_of_eq (Int.natAbs_natCast _).symm⟩
  have hspelled := hexact.isSpelled_toData (isLoadable_and_hasColumns_of_load hload).1
  refine ⟨⟨hload, rfl, hexact, Node.toJson_of_long hspelled hlong _⟩, rfl, fun document h => ?_⟩
  have hwritten := (Node.toJson_eq_ok.mp h).1
  have hdata : strangeProgram.toData = .dict [("type", .text "Program"), ("body", .list []),
      ("sourceType", .text "script"), ("loc", .dict [("start", .dict
        [("line", .object .attributes []), ("column", .int 0)]), ("end", .dict
        [("line", .object .attributes []), ("column", .int 0)])])] := rfl
  simp only [hdata, Json.obstacle?_dict_eq_none, List.forall_mem_cons] at hwritten
  obtain ⟨-, -, -, ⟨⟨hline, -⟩, -⟩, -⟩ := hwritten
  exact absurd hline nofun

end Offside
