import Offside.Proofs.LegibleOutline

/-!
# The rendered text is well indented

`WellIndented` says of a text what the indentation of its lines has to be like: every line is its
content behind whole units of indentation, exactly the headers end with a colon, and the levels
of the lines fit the headers.  `render_wellIndented` says that whatever is rendered for a
statement or a program is of this sort, for every unit and at every margin.

The levels come from the outline alone; that lines are what they seem comes from their pieces.
Strict rendering has only portable literals to write, which are legible; in front of other
settings the literals have to be legible by themselves.
-/

namespace Offside

namespace Layout

/-- Only a line feed ends a line, and no word is special. -/
def plainRules : Rules where
  isBreak c := c == '\n'
  special := []
  isBreak_imp _ hc := .inl (eq_of_beq hc)
  special_imp := nofun

/-- A text whose lines are the given rows, indented by a unit from a level on. -/
structure WellIndented (u : Text) (d : Nat) (t : Text) (rows : List Row) : Prop where
  /-- The lines are the rows, each behind as many units as its level says. -/
  lines : List.splitOn ('\n' : CodePoint) t = rows.map (Row.text u)
  /-- Behind the units something stands, and it begins with no blank. -/
  content : ∀ r ∈ rows, ∃ c ∈ r.line.text.head?, isBlank c = false
  /-- Exactly the headers end with a colon. -/
  headers : ∀ r ∈ rows, r.line.text.getLast? = some ':' ↔ r.line.isHeader = true
  /-- The levels tell the blocks apart. -/
  laid : Laid d rows
  /-- Nothing stands behind the last line. -/
  ending : t.getLast? ≠ some '\n'

/-- Units of indentation are blank. -/
lemma isBlank_times {u : Text} (hu : isIndentUnit u = true) (n : Nat) :
    ∀ c ∈ u.times n, isBlank c = true := by
  induction n with
  | zero => exact nofun
  | succ n ih =>
    exact List.forall_mem_append.mpr
      ⟨List.all_eq_true.mp (Bool.and_eq_true_iff.mp hu).2, ih⟩

/-- Units of indentation stay on their line. -/
lemma unbroken_times {R : Rules} {u : Text} (hu : isIndentUnit u = true) (n : Nat) :
    Unbroken R (u.times n) := by
  refine .of_ne fun c hc => ?_
  rcases Bool.or_eq_true_iff.mp (isBlank_times hu n c hc) with hc | hc <;>
  · rw [eq_of_beq hc]
    decide

/-- A row whose line is legible stays on its line. -/
lemma unbroken_row {R : Rules} {u : Text} (hu : isIndentUnit u = true) {r : Row}
    (hr : r.line.IsLegible R) : Unbroken R (r.text u) :=
  (unbroken_times hu r.level).append hr.unbroken

/-- The text of legible rows is cut into the rows again. -/
lemma splitOnP_text {R : Rules} {u : Text} (hu : isIndentUnit u = true) {rows : List Row}
    (hne : rows ≠ []) (h : ∀ r ∈ rows, r.line.IsLegible R) (hbreak : R.isBreak '\n' = true) :
    (text u rows).splitOnP R.isBreak = rows.map (Row.text u) := by
  refine Text.splitOnP_join hbreak (by simpa using hne) fun t ht => ?_
  obtain ⟨r, hr, rfl⟩ := List.mem_map.mp ht
  exact unbroken_row hu (h r hr)

/-- Legible rows without empty suites are well indented. -/
theorem wellIndented_text {u : Text} (hu : isIndentUnit u = true) (d : Nat) {bs : List Block}
    (hne : bs ≠ []) (h : AreSound (Line.IsLegible plainRules) bs) :
    WellIndented u d (text u (rowsOf d bs)) (rowsOf d bs) := by
  have hlegible := AreSound.rows d bs h
  have hlines : List.splitOn ('\n' : CodePoint) (text u (rowsOf d bs)) =
      (rowsOf d bs).map (Row.text u) :=
    splitOnP_text hu (rowsOf_ne_nil d hne) hlegible rfl
  refine ⟨hlines, fun r hr => (hlegible r hr).head?_text, fun r hr => (hlegible r hr).getLast?_text,
    laid_rowsOf d bs h, ?_⟩
  intro hlast
  -- Behind a line feed at the end there would be one more line, an empty one.
  obtain ⟨front, hfront⟩ := List.getLast?_eq_some_iff.mp hlast
  rw [hfront, List.splitOn_append_cons_self] at hlines
  have hempty : [] ∈ (rowsOf d bs).map (Row.text u) := by
    rw [← hlines]
    exact List.mem_append_right _ List.mem_cons_self
  obtain ⟨r, hr, htext⟩ := List.mem_map.mp hempty
  obtain ⟨c, hc, -⟩ := (hlegible r hr).head?_text
  rw [(List.append_eq_nil_iff.mp htext).2] at hc
  exact absurd hc nofun

end Layout

namespace Syntax

open Layout

/-- A literal that is rendered in strict mode is portable. -/
lemma isPortableLiteral_of_meet {loc : Location} {raw : Text}
    (h : ((Encounter.literal loc raw).meet true).result = .ok ()) :
    Portable.isPortableLiteral raw = true := by
  obtain ⟨t, ht, -⟩ := Logged.map_result_eq_ok h
  unfold Render.literal at ht
  split at ht
  · assumption
  · exact absurd ht nofun

/-- What a tree may come with so that its text is well indented: names are words, operators stay
on their line, and so do literals, which neither begin with a blank nor end with a colon, unless
it is rendered in strict mode. -/
def Encounter.IsPlain (strict : Bool) : Encounter → Prop
  | name t => t ≠ [] ∧ ∀ c ∈ t, isWordPart c = true
  | operator _ _ t => CodePoint.ofChar '\n' ∉ t
  | literal _ raw => strict = true ∨
    (CodePoint.ofChar '\n' ∉ raw ∧ (∃ c ∈ raw.head?, isBlank c = false) ∧
      raw.getLast? ≠ some (CodePoint.ofChar ':'))
  | step _ | count _ _ => True

instance (strict : Bool) : (x : Encounter) → Decidable (x.IsPlain strict)
  | .name _ => inferInstanceAs (Decidable (_ ∧ _))
  | .operator _ _ _ => inferInstanceAs (Decidable (_ ∉ _))
  | .literal _ _ => inferInstanceAs (Decidable (_ ∨ _ ∧ _ ∧ _))
  | .step _ | .count _ _ => inferInstanceAs (Decidable True)

/-- What is rendered is legible line by line. -/
lemma Encounter.IsPlain.isLegible {strict : Bool} {x : Encounter} (h : x.IsPlain strict)
    (hmeet : (x.meet strict).result = .ok ()) : x.IsLegible plainRules := by
  have hstill {t : Text} (ht : CodePoint.ofChar '\n' ∉ t) : Unbroken plainRules t := by
    intro c hc
    refine beq_eq_false_iff_ne.mpr ?_
    rintro rfl
    exact ht hc
  cases x with
  | name t => exact ⟨h.1, h.2, List.not_mem_nil⟩
  | operator _ _ t => exact hstill h
  | literal loc raw =>
    rcases h with rfl | ⟨hn, hhead, hlast⟩
    · exact legible_of_isPortableLiteral (isPortableLiteral_of_meet hmeet)
    · have hne : raw ≠ [] := by
        rintro rfl
        obtain ⟨c, hc, -⟩ := hhead
        exact absurd hc nofun
      refine ⟨hstill hn, ⟨hhead, List.not_mem_nil⟩, raw.getLast hne,
        List.getLast?_eq_some_getLast hne, fun hcolon => hlast ?_⟩
      rw [List.getLast?_eq_some_getLast hne, hcolon]
  | step _ => exact absurd hmeet nofun
  | count _ _ => trivial

end Syntax

/-- Whatever is rendered for a statement or a program is well indented: the rows of its outline,
from the level of the margin on. -/
theorem render_wellIndented (s : Settings) (u : Text) (hu : isIndentUnit u = true) (d : Nat)
    (x : Syntax.Passage) (hx : ∀ y ∈ x.encounters, y.IsPlain s.isStrict) {v : Value}
    (h : (x.toNode.render s.isStrict ⟨u, d⟩).result = .ok v) (hv : v ≠ .text []) :
    ∃ t, v = .text t ∧ Layout.WellIndented u d t (Layout.rowsOf d x.outline) := by
  obtain ⟨rfl, hmeet⟩ := Syntax.Passage.render_eq_ok h
  have hne : x.outline ≠ [] := by
    intro hnil
    rw [hnil] at hv
    exact hv rfl
  have hlegible : Syntax.AreLegible Layout.plainRules x.encounters :=
    fun y hy => (hx y hy).isLegible (hmeet y hy)
  exact ⟨_, rfl, Layout.wellIndented_text hu d hne (x.legible hlegible)⟩

/-- A loop without a count is well indented next to a choice. -/
theorem render_wellIndented_loop_choice :
    let x : Syntax.Passage := .program ⟨.unknown,
      [.loop .unknown none (some (.identifier .unknown "a"))
        (some (.step .unknown .increment (.identifier .unknown "i") false)) (.block .unknown []),
       .conditional .unknown (.identifier .unknown "b")
        (.declaration ⟨.unknown, .lexical, ⟨.unknown, .identifier .unknown "x", none⟩, []⟩)
        (some (.expression .unknown (.call .unknown (.identifier .unknown "f")
          [.literal .unknown "'s:'" (.text "s:")])))], .script⟩
    let t : Text := "while a:\n\tpass\n\ti += 1\nif b:\n\tx = None\nelse:\n\tf('s:')"
    isIndentUnit "\t" = true ∧ (∀ y ∈ x.encounters, y.IsPlain Settings.default.isStrict) ∧
      (x.toNode.render Settings.default.isStrict ⟨"\t", 0⟩).result = .ok (.text t) ∧
      Value.text t ≠ .text [] ∧
      Layout.WellIndented "\t" 0 t (Layout.rowsOf 0 x.outline) := by
  intro x t
  have hne : Value.text t ≠ .text [] := fun h =>
    absurd (Syntax.text_injective h) (by decide)
  have hplain : ∀ y ∈ x.encounters, y.IsPlain Settings.default.isStrict := by decide
  have hrender : (x.toNode.render Settings.default.isStrict ⟨"\t", 0⟩).result = .ok (.text t) := rfl
  obtain ⟨t', ht, h⟩ := render_wellIndented .default "\t" rfl 0 x hplain hrender hne
  rw [← Syntax.text_injective ht] at h
  exact ⟨rfl, hplain, hrender, hne, h⟩

end Offside
