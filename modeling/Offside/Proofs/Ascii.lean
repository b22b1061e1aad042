import Offside.Command.Files
import Offside.Proofs.Encoding
import Offside.Proofs.Escape
import Offside.Proofs.Figure
import Offside.Proofs.Loading

/-!
# Documents are ASCII

A document is made of printable ASCII code points and of the breaks of its layout,
`forall_mem_writeAt`: every other code point stands in a string, where it is escaped.  A text of
ASCII code points without a carriage return is the same after it has been put into a file and read
from there, `ofBytes_of_isPlain`, and after it has been typed in.
-/

namespace Offside

/-- A printable ASCII code point. -/
def CodePoint.isGraphic (c : CodePoint) : Bool := c.between ' ' '~'

/-- A printable ASCII code point is one. -/
lemma CodePoint.lt_of_isGraphic {c : CodePoint} (h : c.isGraphic = true) : c.val < 0x80 := by
  rw [isGraphic, between, Bool.and_eq_true_iff] at h
  exact Nat.lt_succ_of_le (Nat.le_succ_of_le (of_decide_eq_true h.2))

/-- An ASCII code point that is no carriage return. -/
def CodePoint.IsPlain (c : CodePoint) : Prop :=
  c.val < 0x80 ∧ (c == CodePoint.ofChar '\r') = false

instance (c : CodePoint) : Decidable c.IsPlain := inferInstanceAs (Decidable (_ ∧ _))

/-- A printable ASCII code point is plain. -/
lemma CodePoint.isPlain_of_isGraphic {c : CodePoint} (h : c.isGraphic = true) : c.IsPlain := by
  refine ⟨lt_of_isGraphic h, beq_eq_false_iff_ne.mpr fun hc => ?_⟩
  rw [hc] at h
  exact absurd h (by decide)

/-- A plain code point is no surrogate. -/
lemma CodePoint.IsPlain.isSurrogate {c : CodePoint} (h : c.IsPlain) : c.isSurrogate = false :=
  isSurrogate_eq_false (h.1.trans (by decide))

namespace Json

/-! ## Strings and numbers -/

/-- A hexadecimal digit is printable. -/
lemma isGraphic_of_isHexDigit {c : CodePoint} (h : c.isHexDigit = true) : c.isGraphic = true := by
  have hval : ' '.toNat ≤ c.val ∧ c.val ≤ '~'.toNat := by
    simp only [CodePoint.isHexDigit, CodePoint.isDigit, CodePoint.between, Bool.or_eq_true,
      Bool.and_eq_true, decide_eq_true_eq] at h
    change (48 ≤ c.val ∧ c.val ≤ 57 ∨ 97 ≤ c.val ∧ c.val ≤ 102) ∨ 65 ≤ c.val ∧ c.val ≤ 70 at h
    change 32 ≤ c.val ∧ c.val ≤ 126
    omega
  rw [CodePoint.isGraphic, CodePoint.between, decide_eq_true hval.1, decide_eq_true hval.2]
  rfl

/-- A decimal digit is printable. -/
lemma isGraphic_of_isDigit {c : CodePoint} (h : c.isDigit = true) : c.isGraphic = true :=
  isGraphic_of_isHexDigit (by rw [CodePoint.isHexDigit, h]; rfl)

/-- What is written for a code point is printable. -/
lemma isGraphic_of_mem_writePoint (c : CodePoint) : ∀ x ∈ writePoint c, x.isGraphic = true := by
  have hnumber (n : Nat) : ∀ x ∈ Text.ofString "\\u" ++ Text.ofHex 4 n, x.isGraphic = true := by
    rw [List.forall_mem_append]
    exact ⟨by decide, fun x hx => isGraphic_of_isHexDigit (Text.isHexDigit_of_mem_ofHex 4 n x hx)⟩
  unfold writePoint
  -- The short escapes come first.
  iterate 7 (split; · decide)
  split
  · next h => exact List.forall_mem_singleton.mpr h
  split
  · exact hnumber _
  · rw [List.append_assoc, List.forall_mem_append]
    exact ⟨hnumber _, hnumber _⟩

/-- What is written for a text is printable. -/
lemma isGraphic_of_mem_writeText (t : Text) : ∀ c ∈ writeText t, c.isGraphic = true := by
  rw [writeText, List.forall_mem_append, List.forall_mem_append, List.forall_mem_flatMap]
  exact ⟨⟨by decide, fun c _ => isGraphic_of_mem_writePoint c⟩, by decide⟩

/-- What is written for a number is printable. -/
lemma Figure.isGraphic_of_mem_toText {f : Figure} (hwhole : ∀ c ∈ f.whole, c.isDigit = true)
    (hfraction : ∀ c ∈ f.fraction, c.isDigit = true)
    (hexponent : ∀ p ∈ f.exponent, ∀ c ∈ p.2, c.isDigit = true) :
    ∀ c ∈ f.toText, c.isGraphic = true := by
  have hsign : ∀ c ∈ signText f.negative, c.isGraphic = true := by
    cases f.negative <;> decide
  have hpoint : ∀ c ∈ fractionText f.fraction, c.isGraphic = true := by
    rw [fractionText]
    split
    · exact List.forall_mem_nil _
    · exact List.forall_mem_cons.mpr ⟨rfl, fun c hc => isGraphic_of_isDigit (hfraction c hc)⟩
  have hpower : ∀ c ∈ exponentText f.exponent, c.isGraphic = true := by
    cases h : f.exponent with
    | none => exact List.forall_mem_nil _
    | some p =>
      refine List.forall_mem_cons.mpr ⟨rfl, List.forall_mem_cons.mpr ⟨?_, fun c hc => ?_⟩⟩
      · split <;> rfl
      · exact isGraphic_of_isDigit (hexponent p h c hc)
  rw [toText, List.forall_mem_append, List.forall_mem_append, List.forall_mem_append]
  exact ⟨hsign, fun c hc => isGraphic_of_isDigit (hwhole c hc), hpoint, hpower⟩

/-- What is written for a primitive value is printable. -/
lemma isGraphic_of_mem_writeScalar (s : Scalar) : ∀ c ∈ writeScalar s, c.isGraphic = true := by
  cases s with
  | null => decide
  | bool b => cases b <;> decide
  | int n =>
    rw [writeScalar, ← Figure.toText_ofInt]
    exact Figure.isGraphic_of_mem_toText (Text.isDigit_of_mem_ofNat _) (List.forall_mem_nil _) nofun
  | float x =>
    cases x with
    | nan => decide
    | infinite negative => cases negative <;> decide
    | finite negative mantissa exponent =>
      obtain ⟨f, hf, -, htext⟩ := isFloatText_writeDouble negative mantissa exponent
      rw [writeScalar, htext]
      exact Figure.isGraphic_of_mem_toText hf.whole hf.fraction fun p hp => (hf.exponent p hp).2
  | text t => exact isGraphic_of_mem_writeText t

/-! ## Documents -/

/-- Sorting by key does not look at what stands under the keys. -/
lemma sortByKey_map {α β : Type} (f : Text × α → β) (entries : List (Text × α)) :
    sortByKey (entries.map fun e => (e.1, f e)) = (sortByKey entries).map fun e => (e.1, f e) := by
  unfold sortByKey
  symm
  exact List.map_mergeSort fun _ _ _ _ => rfl

/-- Sorting by key keeps what is there. -/
lemma sortByKey_perm {α : Type} (entries : List (Text × α)) : (sortByKey entries).Perm entries :=
  List.mergeSort_perm _ _

/-- The items of a list are written one by one. -/
lemma writeItems_eq_map (layout : Layout) (depth : Nat) (items : List Data) :
    writeItems layout depth items = items.map (writeAt layout depth) := by
  induction items with
  | nil => rfl
  | cons d rest ih => rw [writeItems, ih, List.map_cons]

/-- The values of an object are written one by one. -/
lemma writeEntries_eq_map (layout : Layout) (depth : Nat) (entries : List (Text × Data)) :
    writeEntries layout depth entries = entries.map fun e => (e.1, writeAt layout depth e.2) := by
  induction entries with
  | nil => rfl
  | cons e rest ih => rw [writeEntries, ih, List.map_cons]

/-- Joined texts are made of their parts. -/
lemma forall_mem_join {P : CodePoint → Prop} {separator : Text} {ts : List Text}
    (hseparator : ∀ c ∈ separator, P c) (hts : ∀ t ∈ ts, ∀ c ∈ t, P c) :
    ∀ c ∈ Text.join separator ts, P c := by
  induction ts with
  | nil => exact List.forall_mem_nil _
  | cons t ts ih =>
    obtain ⟨ht, hts⟩ := List.forall_mem_cons.mp hts
    cases ts with
    | nil => exact ht
    | cons u ts =>
      refine List.forall_mem_append.mpr ⟨List.forall_mem_append.mpr ⟨ht, hseparator⟩, ?_⟩
      exact ih hts

section

variable {P : CodePoint → Prop} (hgraphic : ∀ c, c.isGraphic = true → P c) {layout : Layout}
  (hbreak : ∀ depth, ∀ c ∈ layout.break depth, P c)

include hgraphic hbreak

/-- Items between brackets are made of printable code points and breaks if the items are. -/
lemma forall_mem_enclose (depth : Nat) {opening closing : Text}
    (hopening : ∀ c ∈ opening, c.isGraphic = true) (hclosing : ∀ c ∈ closing, c.isGraphic = true)
    {items : List Text} (hitems : ∀ t ∈ items, ∀ c ∈ t, P c) :
    ∀ c ∈ layout.enclose depth opening closing items, P c := by
  have hseparator : ∀ c ∈ layout.separator (depth + 1), P c := by
    cases layout with
    | line => exact fun c hc => hgraphic c ((show ∀ c ∈ Text.ofString ", ", c.isGraphic = true by
        decide) c hc)
    | indented unit =>
      exact List.forall_mem_cons.mpr ⟨hgraphic (CodePoint.ofChar ',') rfl, hbreak (depth + 1)⟩
  have hopening : ∀ c ∈ opening, P c := fun c hc => hgraphic c (hopening c hc)
  have hclosing : ∀ c ∈ closing, P c := fun c hc => hgraphic c (hclosing c hc)
  rw [Layout.enclose]
  split
  · exact List.forall_mem_append.mpr ⟨hopening, hclosing⟩
  · simp only [List.forall_mem_append]
    exact ⟨⟨⟨⟨hopening, hbreak _⟩, forall_mem_join hseparator hitems⟩, hbreak _⟩, hclosing⟩

/-- A document is made of printable code points and of the breaks of its layout. -/
theorem forall_mem_writeAt (d : Data) (depth : Nat) : ∀ c ∈ writeAt layout depth d, P c := by
  induction d using Data.induction generalizing depth with
  | scalar s => exact fun c hc => hgraphic c (isGraphic_of_mem_writeScalar s c hc)
  | list items ih =>
    rw [writeAt, writeItems_eq_map]
    refine forall_mem_enclose hgraphic hbreak depth (by decide) (by decide) ?_
    rw [List.forall_mem_map]
    exact fun d hd => ih d hd (depth + 1)
  | object shape entries ih =>
    rw [writeAt, writeEntries_eq_map, sortByKey_map, List.map_map]
    refine forall_mem_enclose hgraphic hbreak depth (by decide) (by decide) ?_
    rw [List.forall_mem_map]
    intro e he
    have hkey : ∀ c ∈ writeText e.1, P c := fun c hc =>
      hgraphic c (isGraphic_of_mem_writeText e.1 c hc)
    have hcolon : ∀ c ∈ Text.ofString ": ", P c := fun c hc =>
      hgraphic c ((show ∀ c ∈ Text.ofString ": ", c.isGraphic = true by decide) c hc)
    have hvalue := ih e.1 e.2 ((sortByKey_perm entries).mem_iff.mp he) (depth + 1)
    exact List.forall_mem_append.mpr ⟨List.forall_mem_append.mpr ⟨hkey, hcolon⟩, hvalue⟩

end

/-- A break is made of a line feed and of units. -/
lemma Layout.forall_mem_break {P : CodePoint → Prop} (hfeed : P (CodePoint.ofChar '\n'))
    {unit : Text} (hunit : ∀ c ∈ unit, P c) (depth : Nat) :
    ∀ c ∈ (Layout.indented unit).break depth, P c := by
  refine List.forall_mem_cons.mpr ⟨hfeed, ?_⟩
  induction depth with
  | zero => exact List.forall_mem_nil _
  | succ depth ih => exact List.forall_mem_append.mpr ⟨hunit, ih⟩

end Json

/-! ## Files -/

/-- A text without carriage returns has line feeds only. -/
lemma Text.withLineFeeds_eq_self : ∀ {t : Text},
    (∀ c ∈ t, (c == CodePoint.ofChar '\r') = false) → t.withLineFeeds = t
  | [], _ => rfl
  | [c], h => by
    have hc := h c List.mem_cons_self
    rw [withLineFeeds, hc]
    rfl
  | c :: d :: rest, h => by
    obtain ⟨hc, hrest⟩ := List.forall_mem_cons.mp h
    rw [withLineFeeds, hc, withLineFeeds_eq_self hrest]
    rfl

/-- A text of ASCII code points without carriage returns is read from a file as it has been
written. -/
theorem Text.ofBytes_of_isPlain {t : Text}
    (h : ∀ c ∈ t, c.IsPlain) {bytes : List UInt8} (hbytes : Utf8.encode t = .ok bytes) :
    Text.ofBytes bytes = .ok t := by
  rw [ofBytes, Utf8.decode_of_encode hbytes]
  exact congrArg Except.ok (withLineFeeds_eq_self fun c hc => (h c hc).2)

end Offside
