import Mathlib.Data.List.Forall2
import Mathlib.Data.Option.Basic
import Offside.Proofs.Retouch

/-!
# Loading data that correspond

The loader looks at tree data through few questions: what primitive value there is, what items a
list has, whether an object has a property, and what it keeps under a key.  Two pieces of tree data correspond if all these are
answered alike, and then by data that correspond again; `Data.Correspondence` says this of a
relation.

If moreover all that correspond are located alike, up to a view of locations, then data that
correspond load alike (`Data.Correspondence.load_agrees`): as nodes that are the same in this view,
or with faults that correspond.  The files need not be the same.
-/

namespace Offside

/-! ## Computations that agree -/

/-- Two computations agree: both give results that correspond, or both fail with faults that do. -/
inductive Agree {ε α : Type} (E : ε → ε → Prop) (A : α → α → Prop) :
    Except ε α → Except ε α → Prop
  | ok {a b : α} (h : A a b) : Agree E A (.ok a) (.ok b)
  | error {e f : ε} (h : E e f) : Agree E A (.error e) (.error f)

namespace Agree

variable {ε ε' α β : Type} {E : ε → ε → Prop} {F : ε' → ε' → Prop} {A : α → α → Prop}
  {B : β → β → Prop} {x y : Except ε α}

/-- Computations that go on alike after computations that agree, agree. -/
lemma bind {f g : α → Except ε β} (h : Agree E A x y)
    (hf : ∀ a b, A a b → Agree E B (f a) (g b)) : Agree E B (x >>= f) (y >>= g) := by
  cases h with
  | ok h => exact hf _ _ h
  | error h => exact .error h

/-- Changing results of computations that agree. -/
lemma map {f g : α → β} (h : Agree E A x y) (hf : ∀ a b, A a b → B (f a) (g b)) :
    Agree E B (x.map f) (y.map g) := by
  cases h with
  | ok h => exact .ok (hf _ _ h)
  | error h => exact .error h

/-- Changing faults of computations that agree. -/
lemma mapError {f g : ε → ε'} (h : Agree E A x y) (hf : ∀ e e', E e e' → F (f e) (g e')) :
    Agree F A (x.mapError f) (y.mapError g) := by
  cases h with
  | ok h => exact .ok h
  | error h => exact .error (hf _ _ h)

end Agree

/-! ## Data that correspond -/

namespace Data

/-- Data that are related are alike on the outside, and related inside: lists item by item, and
objects in what they keep under each key.  They have the same properties. -/
structure Correspondence (R : Data → Data → Prop) : Prop where
  null : R .null .null
  scalar {s : Scalar} {b : Data} (h : R (.scalar s) b) : b = .scalar s
  list {items : List Data} {b : Data} (h : R (.list items) b) :
    ∃ others, b = .list others ∧ List.Forall₂ R items others
  object {shape : Shape} {entries : List (Text × Data)} {b : Data}
    (h : R (.object shape entries) b) :
    ∃ other others, b = .object other others ∧
      ∀ key, Option.Rel R (entries.lookup key) (others.lookup key)
  has {a b : Data} (h : R a b) (key : Text) : b.has key = a.has key

namespace Correspondence

variable {R : Data → Data → Prop} (hR : Correspondence R) {a b : Data}

include hR

/-- Data that correspond keep under a key what corresponds, if they keep anything there. -/
lemma entry? (h : R a b) (key : Text) : Option.Rel R (a.entry? key) (b.entry? key) := by
  cases a with
  | scalar s =>
    rw [hR.scalar h]
    exact .none
  | list items =>
    obtain ⟨others, rfl, -⟩ := hR.list h
    exact .none
  | object shape entries =>
    obtain ⟨other, others, rfl, hentries⟩ := hR.object h
    exact hentries key

/-- The entries of data that correspond do. -/
lemma entry (h : R a b) (key : Text) : R (a.entry key) (b.entry key) := by
  unfold Data.entry
  generalize a.entry? key = x, b.entry? key = y, hR.entry? h key = hentry
  cases hentry with
  | some h => exact h
  | none => exact hR.null

/-- Data that correspond are found to have under a key what corresponds, if they are found to have
anything there. -/
lemma held? (h : R a b) (key : Text) : Option.Rel R (a.held? key) (b.held? key) := by
  rw [Data.held?, Data.held?, hR.has h, Data.get_eq, Data.get_eq]
  cases a.has key with
  | true => exact .some (hR.entry h key)
  | false => exact .none

/-- Null corresponds to null only. -/
lemma isNull (h : R a b) : b.isNull = a.isNull := by
  cases a with
  | scalar s => rw [hR.scalar h]
  | list items =>
    obtain ⟨others, rfl, -⟩ := hR.list h
    rfl
  | object shape entries =>
    obtain ⟨other, others, rfl, -⟩ := hR.object h
    rfl

end Correspondence

end Data

/-! ## Loading -/

/-- Faults that correspond: those that name a location do so up to a view of locations, and those
that show data show data that are related. -/
inductive Fault.Corresponds (R : Data → Data → Prop) (view : Location → Location) :
    Fault → Fault → Prop
  | misuse (e : Misuse) : Corresponds R view (.misuse e) (.misuse e)
  | noKind {a b : Data} (h : R a b) :
    Corresponds R view (.malformed (.noKind a.display)) (.malformed (.noKind b.display))
  | unknownKind (name : Text) {l m : Location} (h : view l = view m) :
    Corresponds R view (.unsupported ⟨name, Kind.names, some l, none⟩)
      (.unsupported ⟨name, Kind.names, some m, none⟩)
  | missing (kind key : Text) {l m : Location} (h : view l = view m) :
    Corresponds R view (.malformed (.missing kind l key)) (.malformed (.missing kind m key))
  | noText {l m : Location} (h : view l = view m) :
    Corresponds R view (.malformed (.noText l)) (.malformed (.noText m))

/-- Nodes that are the same in a view of their locations. -/
def Node.AlikeIn (view : Location → Location) (n m : Node) : Prop :=
  n.retouch (.moving view) = m.retouch (.moving view)

/-- Values that are the same in a view of their locations. -/
def Value.AlikeIn (view : Location → Location) (v w : Value) : Prop :=
  v.retouch (.moving view) = w.retouch (.moving view)

/-- Moving nodes changes no primitive value. -/
lemma Value.retouch_moving_scalar (view : Location → Location) (s : Scalar) :
    (Value.scalar s).retouch (.moving view) = .scalar s :=
  congrArg Value.scalar (s.mapFloat_eq_self fun _ => rfl)

/-- Moving the parts of a node and moving the node is the same. -/
lemma Node.ofFields?_retouch (view : Location → Location) (kind : Kind) (loc : Location)
    (get : String → Value) :
    (ofFields? kind loc get).map (Node.retouch (.moving view)) =
      ofFields? kind (view loc) fun name => (get name).retouch (.moving view) := by
  cases kind
  case literal =>
    unfold ofFields?
    dsimp only
    cases get "raw" with
    | node n => rfl
    | list items => rfl
    | scalar s =>
      rw [Value.retouch_moving_scalar]
      cases s with
      | text raw =>
        cases get "value" with
        | scalar s => rfl
        | node n => rfl
        | list items => rfl
      | _ => rfl
  all_goals rfl

section

variable {R : Data → Data → Prop} {view : Location → Location} {f g a b : Data} {l m : Location}

/-- Fields load alike if what the nodes have under their keys does. -/
lemma loadField_agrees (hentry : ∀ key, Option.Rel
      (fun p q => Agree (Fault.Corresponds R view) (Value.AlikeIn view) (loadValue f key p)
        (loadValue g key q)) (a.held? key) (b.held? key))
    (hlm : view l = view m) (kind : Kind) (field : Field) :
    Agree (Fault.Corresponds R view) (Value.AlikeIn view) (loadField f a kind l field)
      (loadField g b kind m field) := by
  unfold loadField
  generalize a.held? field.key = x, b.held? field.key = y, hentry field.key = hxy
  cases hxy with
  | some h => exact h
  | none =>
    cases field.fallback with
    | some s => exact .ok rfl
    | none => exact .error (.missing _ _ hlm)

/-- Fields with values that are the same in a view. -/
def AreAlikeIn (view : Location → Location) (x y : List (Text × Value)) : Prop :=
  (x.map fun p => (p.1, p.2.retouch (.moving view))) =
    y.map fun p => (p.1, p.2.retouch (.moving view))

/-- Fields load alike one after the other. -/
lemma loadEach_agrees {kind : Kind} (hfield : ∀ field,
      Agree (Fault.Corresponds R view) (Value.AlikeIn view) (loadField f a kind l field)
        (loadField g b kind m field)) (fields : List Field) :
    Agree (Fault.Corresponds R view) (AreAlikeIn view) (loadEach f a kind l fields)
      (loadEach g b kind m fields) := by
  induction fields with
  | nil => exact .ok rfl
  | cons field rest ih =>
    rw [loadEach, loadEach]
    refine (hfield field).bind fun v w hvw => ih.bind fun x y hxy => .ok ?_
    unfold Value.AlikeIn at hvw
    unfold AreAlikeIn at hxy ⊢
    rw [List.map_cons, List.map_cons, hvw, hxy]

/-- The values under a name are the same in a view if all are. -/
lemma AreAlikeIn.lookup {x y : List (Text × Value)} (h : AreAlikeIn view x y) (name : Text) :
    ((x.lookup name).getD .null).retouch (.moving view) =
      ((y.lookup name).getD .null).retouch (.moving view) := by
  have hlookup : (x.lookup name).map (Value.retouch (.moving view)) =
      (y.lookup name).map (Value.retouch (.moving view)) := by
    rw [← lookup_map_snd, ← lookup_map_snd]
    exact congrArg (List.lookup name) h
  cases hx : x.lookup name <;> cases hy : y.lookup name <;> rw [hx, hy] at hlookup
  · exact absurd hlookup nofun
  · exact absurd hlookup nofun
  · exact Option.some.inj hlookup

/-- Nodes of a kind load alike. -/
lemma loadAs_agrees {kind : Kind} (hlm : view l = view m) (hfield : ∀ field,
      Agree (Fault.Corresponds R view) (Value.AlikeIn view) (loadField f a kind l field)
        (loadField g b kind m field)) :
    Agree (Fault.Corresponds R view) (Node.AlikeIn view) (loadAs f a kind l)
      (loadAs g b kind m) := by
  rw [loadAs, loadAs]
  refine (loadEach_agrees hfield kind.fields).bind fun x y hxy => ?_
  have hnodes : (Node.ofFields? kind l fun name =>
        (x.lookup (Text.ofString name)).getD .null).map (Node.retouch (.moving view)) =
      (Node.ofFields? kind m fun name =>
        (y.lookup (Text.ofString name)).getD .null).map (Node.retouch (.moving view)) := by
    rw [Node.ofFields?_retouch, Node.ofFields?_retouch, hlm]
    exact congrArg _ (funext fun name => hxy.lookup (Text.ofString name))
  revert hnodes
  cases Node.ofFields? kind l fun name => (x.lookup (Text.ofString name)).getD .null with
  | none =>
    cases Node.ofFields? kind m fun name => (y.lookup (Text.ofString name)).getD .null with
    | none => exact fun _ => .error (.noText hlm)
    | some q => exact fun h => absurd h.symm (Option.some_ne_none _)
  | some p =>
    cases Node.ofFields? kind m fun name => (y.lookup (Text.ofString name)).getD .null with
    | none => exact fun h => absurd h (Option.some_ne_none _)
    | some q => exact fun h => .ok (Option.some.inj h)

/-- Items that load alike one by one load alike. -/
lemma loadItems_agrees (hR : Data.Correspondence R) {items others : List Data}
    (h : List.Forall₂ R items others)
    (hload : ∀ d ∈ items, ∀ d', R d d' →
      Agree (Fault.Corresponds R view) (Node.AlikeIn view) (load f d) (load g d')) :
    Agree (Fault.Corresponds R view) (fun x y => Value.AlikeIn view (.list x) (.list y))
      (loadItems f items) (loadItems g others) := by
  induction h with
  | nil => exact .ok rfl
  | @cons d d' rest rest' hd _ ih =>
    obtain ⟨hfirst, hrest⟩ := List.forall_mem_cons.mp hload
    have hitem : Agree (Fault.Corresponds R view) (Value.AlikeIn view) (loadItem f d)
        (loadItem g d') := by
      unfold loadItem
      rw [hR.isNull hd]
      split
      · exact .ok rfl
      · exact (hfirst d' hd).map fun n m hnm => congrArg Value.node hnm
    rw [loadItems_cons, loadItems_cons]
    refine hitem.bind fun v w hvw => (ih hrest).map fun x y hxy => ?_
    unfold Value.AlikeIn at hvw hxy ⊢
    rw [Value.retouch_list, Value.retouch_list] at hxy ⊢
    rw [List.map_cons, List.map_cons, hvw, Value.list.inj hxy]

namespace Data.Correspondence

variable (hR : Correspondence R)
  (hlocation : ∀ a b, R a b →
    Agree Eq (fun l m => view l = view m) (locationOf f a) (locationOf g b))

include hR hlocation

/-- Data that correspond load alike if what they keep does. -/
lemma load_agrees_of_entries (hab : R a b) (hentry : ∀ key, Option.Rel
      (fun p q => Agree (Fault.Corresponds R view) (Value.AlikeIn view) (loadValue f key p)
        (loadValue g key q)) (a.held? key) (b.held? key)) :
    Agree (Fault.Corresponds R view) (Node.AlikeIn view) (load f a) (load g b) := by
  have htype := hR.entry hab "type"
  rw [load_eq, load_eq]
  cases ha : a.entry "type" with
  | list items =>
    obtain ⟨others, hb, -⟩ := hR.list (ha ▸ htype)
    rw [hb]
    exact .error (.noKind hab)
  | object shape entries =>
    obtain ⟨other, others, hb, -⟩ := hR.object (ha ▸ htype)
    rw [hb]
    exact .error (.noKind hab)
  | scalar s =>
    have hb : b.entry "type" = .scalar s := hR.scalar (ha ▸ htype)
    rw [hb]
    cases s with
    | text name =>
      have hlocated := (hlocation a b hab).mapError (f := Fault.misuse) (g := Fault.misuse)
        (F := Fault.Corresponds R view) fun e e' he => he ▸ .misuse e
      refine hlocated.bind fun l m hlm => ?_
      cases Kind.ofName? name with
      | none => exact .error (.unknownKind name hlm)
      | some kind => exact loadAs_agrees hlm (loadField_agrees hentry hlm kind)
    | _ => exact .error (.noKind hab)

/-- Data that correspond load alike, as a node and in a field. -/
theorem load_agrees (a : Data) :
    (∀ b, R a b → Agree (Fault.Corresponds R view) (Node.AlikeIn view) (load f a) (load g b)) ∧
      ∀ key b, R a b →
        Agree (Fault.Corresponds R view) (Value.AlikeIn view) (loadValue f key a)
          (loadValue g key b) := by
  induction a using Data.induction with
  | scalar s =>
    refine ⟨fun b hab => ?_, fun key b hab => ?_⟩
    · obtain rfl := hR.scalar hab
      exact hR.load_agrees_of_entries hlocation hab fun key => .none
    · obtain rfl := hR.scalar hab
      exact .ok rfl
  | list items ih =>
    refine ⟨fun b hab => ?_, fun key b hab => ?_⟩
    · obtain ⟨others, rfl, -⟩ := hR.list hab
      exact hR.load_agrees_of_entries hlocation hab fun key => .none
    · obtain ⟨others, rfl, hitems⟩ := hR.list hab
      exact (loadItems_agrees hR hitems fun d hd => (ih d hd).1).map fun _ _ h => h
  | object shape entries ih =>
    have hload (b : Data) (hab : R (.object shape entries) b) :
        Agree (Fault.Corresponds R view) (Node.AlikeIn view) (load f (.object shape entries))
          (load g b) := by
      refine hR.load_agrees_of_entries hlocation hab fun key => ?_
      have hheld := hR.held? hab key
      cases hp : Data.held? (.object shape entries) key with
      | none =>
        rw [hp] at hheld
        generalize b.held? key = q at hheld ⊢
        cases hheld
        exact .none
      | some p =>
        rw [hp] at hheld
        generalize b.held? key = q at hheld ⊢
        cases hheld with
        | some h => exact .some ((ih key p (Data.mem_of_held? hp)).2 key _ h)
    refine ⟨hload, fun key b hab => ?_⟩
    obtain ⟨other, others, rfl, -⟩ := hR.object hab
    by_cases hkey : key = Text.ofString "value"
    · rw [loadValue, loadValue, if_pos hkey, if_pos hkey]
      exact .ok rfl
    · rw [loadValue_object f shape entries hkey, loadValue_object g other others hkey]
      exact (hload _ hab).map fun n m hnm => congrArg Value.node hnm

end Data.Correspondence

end

end Offside
