import Offside.Proofs.Ascii
import Offside.Proofs.Reload

/-!
# Documents read back

Tree data that are written as a document are read again, `read_write`: lists as they are,
dictionaries with their entries in the order of their keys, and all primitive values as they are,
except that a double may become another one.

`Reads` says that a text is read as a piece of tree data wherever it stands in a document.  It holds
of what is written for primitive values, and of what is written between brackets if it holds of the
parts; the theorem follows by induction on the data.
-/

namespace Offside

/-- A primitive value that is no text, or a text without surrogates. -/
def Scalar.isUnicode : Scalar → Bool
  | .text t => t.isUnicode
  | _ => true

namespace Json

/-! ## Blanks -/

/-- The unit of a layout is blank. -/
def Layout.IsBlank (layout : Layout) : Prop :=
  ∀ depth, ∀ c ∈ layout.break depth, isBlank c = true

/-- A unit of blanks makes blank breaks. -/
lemma Layout.isBlank_indented {unit : Text} (h : ∀ c ∈ unit, isBlank c = true) :
    Layout.IsBlank (.indented unit) :=
  @Layout.forall_mem_break (fun c => isBlank c = true) rfl unit h

/-- The separator of a layout is a comma with blanks behind it. -/
lemma Layout.separator_eq {layout : Layout} (h : layout.IsBlank) (depth : Nat) :
    ∃ blanks, layout.separator depth = CodePoint.ofChar ',' :: blanks ∧
      ∀ c ∈ blanks, isBlank c = true := by
  cases layout with
  | line => exact ⟨[CodePoint.ofChar ' '], rfl, List.forall_mem_singleton.mpr rfl⟩
  | indented unit => exact ⟨_, rfl, h depth⟩

/-- Blanks are skipped up to what is not blank. -/
lemma skipBlanks_append {blanks rest : Text} (hblanks : ∀ c ∈ blanks, isBlank c = true)
    (hrest : ∀ c ∈ rest.head?, isBlank c = false) (offset : Nat) :
    skipBlanks ⟨blanks ++ rest, offset⟩ = ⟨rest, offset + blanks.length⟩ := by
  rw [skipBlanks, takeWhile_append hblanks hrest]
  exact congrArg (Cursor.mk · _) List.drop_left

/-- A blank is an ASCII code point. -/
lemma lt_of_isBlank {c : CodePoint} (h : isBlank c = true) : c.val < 0x80 := by
  rw [isBlank, Bool.or_eq_true_iff, Bool.or_eq_true_iff, Bool.or_eq_true_iff] at h
  rcases h with ((h | h) | h) | h <;> obtain rfl := eq_of_beq h <;> decide

/-- A blank does not go on with a number. -/
lemma stopsNumber_append {blanks rest : Text} (hblanks : ∀ c ∈ blanks, isBlank c = true)
    (hrest : StopsNumber rest) : StopsNumber (blanks ++ rest) := by
  cases blanks with
  | nil => exact hrest
  | cons b blanks =>
    rintro c ⟨⟩
    have hb := hblanks b List.mem_cons_self
    rw [isBlank, Bool.or_eq_true_iff, Bool.or_eq_true_iff, Bool.or_eq_true_iff] at hb
    rcases hb with ((hb | hb) | hb) | hb <;> obtain rfl := eq_of_beq hb <;> decide

/-! ## What is read -/

/-- A text begins neither with a blank nor with the end of a list. -/
def Opens (t : Text) : Prop :=
  ∃ c u, t = c :: u ∧ isBlank c = false ∧ (c == CodePoint.ofChar ']') = false

/-- More text does not change how a text begins. -/
lemma Opens.append {t : Text} (h : Opens t) (rest : Text) : Opens (t ++ rest) := by
  obtain ⟨c, u, rfl, hc⟩ := h
  exact ⟨c, u ++ rest, rfl, hc⟩

/-- Joined texts begin as the first of them. -/
lemma Opens.join {t : Text} (h : Opens t) (separator : Text) (ts : List Text) :
    Opens (Text.join separator (t :: ts)) := by
  cases ts with
  | nil => exact h
  | cons u ts => exact (h.append separator).append _

/-- Blanks are skipped in front of a text that begins with none. -/
lemma Opens.skipBlanks {t blanks : Text} (h : Opens t) (hblanks : ∀ c ∈ blanks, isBlank c = true)
    (offset : Nat) : skipBlanks ⟨blanks ++ t, offset⟩ = ⟨t, offset + blanks.length⟩ := by
  obtain ⟨c, u, rfl, hc, -⟩ := h
  refine skipBlanks_append hblanks ?_ offset
  rintro x ⟨⟩
  exact hc

/-- A text is read as a piece of tree data in front of whatever does not go on with a number; two
steps for each code point are enough. -/
structure Reads (t : Text) (d : Data) : Prop where
  opens : Opens t
  value_eq : ∀ fuel offset rest, 2 * t.length ≤ fuel → StopsNumber rest →
    ∃ offset', value fuel ⟨t ++ rest, offset⟩ = .ok (d, ⟨rest, offset'⟩)

/-- What is read in a single step is read. -/
lemma reads_of_step {t : Text} {d : Data} (opens : Opens t)
    (step : ∀ fuel offset rest, StopsNumber rest →
      ∃ offset', value (fuel + 1) ⟨t ++ rest, offset⟩ = .ok (d, ⟨rest, offset'⟩)) : Reads t d where
  opens := opens
  value_eq := by
    intro fuel offset rest hfuel hrest
    obtain ⟨c, u, rfl, -⟩ := opens
    have hpos : fuel ≠ 0 := by
      rw [List.length_cons] at hfuel
      omega
    obtain ⟨fuel, rfl⟩ := Nat.exists_eq_succ_of_ne_zero hpos
    exact step fuel offset rest hrest

/-! ## Primitive values -/

/-- A constant is read as what it stands for. -/
lemma reads_constant : ∀ p ∈ constants, Reads p.1 (.scalar p.2) := by
  simp only [constants, List.forall_mem_cons]
  refine ⟨?_, ?_, ?_, ?_, ?_, ?_, List.forall_mem_nil _⟩
  all_goals
    exact reads_of_step ⟨_, _, rfl, rfl, rfl⟩ fun _ offset _ _ => ⟨_, rfl⟩

/-- A text without surrogates is read from its string. -/
lemma reads_writeText {t : Text} (h : t.isUnicode = true) : Reads (writeText t) (.text t) := by
  refine reads_of_step ⟨_, _, rfl, rfl, rfl⟩ fun fuel offset rest _ => ?_
  obtain ⟨offset', hstring⟩ := string_writeText offset rest h
  have hquote : (Cursor.mk (writeText t ++ rest) offset).at? '"' = true := rfl
  refine ⟨offset', ?_⟩
  rw [value, hquote, if_pos rfl, hstring]

/-- No constant begins with a digit, nor with a digit behind a sign. -/
lemma constant?_of_isDigit {d : CodePoint} (hd : d.isDigit = true) (negative : Bool) (rest : Text) :
    constant? (signText negative ++ d :: rest) = none := by
  have hne {c : CodePoint} (hc : c.isDigit = false) : ¬(c == d) = true := by
    intro h
    rw [eq_of_beq h, hd] at hc
    exact Bool.noConfusion hc
  rw [constant?, List.find?_eq_none, constants]
  cases negative with
  | false =>
    have hfirst {c : CodePoint} (word : Text) (hc : c.isDigit = false) :
        ¬(c :: word).isPrefixOf (d :: rest) = true :=
      fun h => hne hc (Bool.and_eq_true_iff.mp h).1
    simp only [List.forall_mem_cons]
    exact ⟨hfirst _ rfl, hfirst _ rfl, hfirst _ rfl, hfirst _ rfl, hfirst _ rfl, hfirst _ rfl,
      List.forall_mem_nil _⟩
  | true =>
    have hsecond {c : CodePoint} (word : Text) (hc : c.isDigit = false) :
        ¬(CodePoint.ofChar '-' :: c :: word).isPrefixOf (CodePoint.ofChar '-' :: d :: rest) = true :=
      fun h => hne hc (Bool.and_eq_true_iff.mp (Bool.and_eq_true_iff.mp h).2).1
    simp only [List.forall_mem_cons]
    exact ⟨nofun, nofun, nofun, nofun, nofun, hsecond _ rfl, List.forall_mem_nil _⟩

/-- A number is read as what it writes. -/
lemma reads_figure {f : Figure} (hf : f.IsWritten) : Reads f.toText (.scalar f.scalar) := by
  obtain ⟨d, more, hwhole⟩ := List.exists_cons_of_ne_nil hf.whole_ne_nil
  have hd : d.isDigit = true := hf.whole d (hwhole ▸ List.mem_cons_self)
  obtain ⟨u, htext⟩ : ∃ u, f.toText = signText f.negative ++ d :: u :=
    ⟨more ++ (fractionText f.fraction ++ exponentText f.exponent), by
      rw [Figure.toText, hwhole, List.cons_append]⟩
  obtain ⟨c, t, hcons, hc⟩ : ∃ c t, f.toText = c :: t ∧ (c = CodePoint.ofChar '-' ∨ c = d) := by
    rw [htext]
    cases f.negative with
    | true => exact ⟨_, _, rfl, .inl rfl⟩
    | false => exact ⟨_, _, rfl, .inr rfl⟩
  have hne {x : CodePoint} (hx : x.isDigit = false) (hminus : x ≠ CodePoint.ofChar '-') :
      (c == x) = false := by
    refine beq_eq_false_iff_ne.mpr fun h => ?_
    rcases hc with hc | hc
    · exact hminus (h.symm.trans hc)
    · rw [← h, hc, hd] at hx
      exact Bool.noConfusion hx
  refine reads_of_step ⟨c, t, hcons, ?_, ?_⟩ fun fuel offset rest hrest => ?_
  · rw [isBlank, hne rfl (by decide), hne rfl (by decide), hne rfl (by decide), hne rfl (by decide)]
    rfl
  · exact hne rfl (by decide)
  · obtain ⟨offset', hnumber⟩ := number_toText hf hrest offset
    refine ⟨offset', ?_⟩
    have hconstant : constant? (f.toText ++ rest) = none := by
      rw [htext, List.append_assoc]
      exact constant?_of_isDigit hd f.negative (u ++ rest)
    have hat {ch : Char} (hx : (CodePoint.ofChar ch).isDigit = false)
        (hminus : CodePoint.ofChar ch ≠ CodePoint.ofChar '-') :
        (Cursor.mk (f.toText ++ rest) offset).at? ch = false := by
      rw [hcons]
      exact hne hx hminus
    rw [value, hat rfl (by decide), hat rfl (by decide), hat rfl (by decide), hconstant, hnumber]
    rfl

/-- A double is read as some double. -/
lemma exists_reads_writeDouble (x : Double) : ∃ y, Reads (writeDouble x) (.scalar (.float y)) := by
  cases x with
  | nan => exact ⟨.nan, reads_constant ("NaN", .float .nan) (by decide)⟩
  | infinite negative =>
    cases negative with
    | false => exact ⟨_, reads_constant ("Infinity", .float (.infinite false)) (by decide)⟩
    | true => exact ⟨_, reads_constant ("-Infinity", .float (.infinite true)) (by decide)⟩
  | finite negative mantissa exponent =>
    obtain ⟨f, hf, hinteger, htext⟩ := isFloatText_writeDouble negative mantissa exponent
    refine ⟨Double.ofDecimal f.negative (Text.numeral 10 (f.whole ++ f.fraction))
      (f.power - f.fraction.length), ?_⟩
    have hreads := reads_figure hf
    rw [Figure.scalar, hinteger] at hreads
    rw [htext]
    exact hreads

section

variable {float : Double → Double}
  (hfloat : ∀ x, Reads (writeDouble x) (.scalar (.float (float x))))

include hfloat

/-- A primitive value is read as it is, but for a double. -/
lemma reads_writeScalar {s : Scalar} (hlong : obstacle? (.scalar s) = none)
    (hunicode : s.isUnicode = true) : Reads (writeScalar s) (.scalar (s.mapFloat float)) := by
  cases s with
  | null => exact reads_constant ("null", .null) (by decide)
  | bool b =>
    cases b with
    | true => exact reads_constant ("true", .bool true) (by decide)
    | false => exact reads_constant ("false", .bool false) (by decide)
  | int n =>
    have hn : n.natAbs < leastLong := by
      rw [obstacle?] at hlong
      split at hlong
      · exact absurd hlong (Option.some_ne_none _)
      · next hn => exact Nat.lt_of_not_le hn
    have hreads := reads_figure (Figure.isWritten_ofInt hn)
    rw [Figure.toText_ofInt, Figure.scalar_ofInt] at hreads
    exact hreads
  | float x => exact hfloat x
  | text t => exact reads_writeText hunicode

end

/-! ## Lists -/

/-- What goes on with no number by itself does not do so in front of anything. -/
lemma stopsNumber_cons {c : CodePoint} (rest : Text)
    (h : c.isDigit = false ∧ c ≠ CodePoint.ofChar '.' ∧ c ≠ CodePoint.ofChar 'e' ∧
      c ≠ CodePoint.ofChar 'E') : StopsNumber (c :: rest) := by
  rintro x ⟨⟩
  exact h

section

variable {fuel offset : Nat} {c : Cursor} {d : Data} {acc : List Data} {blanks rest : Text}

/-- The last element of a list is read up to the closing bracket. -/
lemma elements_last (hblanks : ∀ c ∈ blanks, isBlank c = true)
    (hvalue : value fuel c = .ok (d, ⟨blanks ++ CodePoint.ofChar ']' :: rest, offset⟩)) :
    elements (fuel + 1) c acc = .ok (.list (acc ++ [d]), ⟨rest, offset + blanks.length + 1⟩) := by
  have hhead : ∀ c ∈ (CodePoint.ofChar ']' :: rest).head?, isBlank c = false := by
    rintro c ⟨⟩
    rfl
  rw [elements, hvalue]
  dsimp only
  rw [skipBlanks_append hblanks hhead]
  rfl

/-- Any other element is read up to the next one. -/
lemma elements_next (hblanks : ∀ c ∈ blanks, isBlank c = true)
    (hrest : Opens rest)
    (hvalue : value fuel c = .ok (d, ⟨CodePoint.ofChar ',' :: (blanks ++ rest), offset⟩)) :
    elements (fuel + 1) c acc =
      elements fuel ⟨rest, offset + 1 + blanks.length⟩ (acc ++ [d]) := by
  have hcomma : skipBlanks ⟨CodePoint.ofChar ',' :: (blanks ++ rest), offset⟩ =
      ⟨CodePoint.ofChar ',' :: (blanks ++ rest), offset⟩ := rfl
  have hskip := hrest.skipBlanks hblanks (offset + 1)
  rw [elements, hvalue]
  dsimp only
  rw [hcomma, ← hskip]
  rfl

end

/-- Written elements are read one by one. -/
lemma elements_join {gaps closing : Text} (hgaps : ∀ c ∈ gaps, isBlank c = true)
    (hclosing : ∀ c ∈ closing, isBlank c = true) {ps : List (Text × Data)}
    (hps : ∀ p ∈ ps, Reads p.1 p.2) (hne : ps ≠ []) (rest : Text) (fuel offset : Nat)
    (acc : List Data)
    (hfuel : 2 * (Text.join (CodePoint.ofChar ',' :: gaps) (ps.map Prod.fst)).length < fuel) :
    ∃ offset', elements fuel ⟨Text.join (CodePoint.ofChar ',' :: gaps) (ps.map Prod.fst) ++
        (closing ++ CodePoint.ofChar ']' :: rest), offset⟩ acc =
      .ok (.list (acc ++ ps.map Prod.snd), ⟨rest, offset'⟩) := by
  induction ps generalizing fuel offset acc with
  | nil => exact absurd rfl hne
  | cons p ps ih =>
    obtain ⟨fuel, rfl⟩ := Nat.exists_eq_succ_of_ne_zero (Nat.ne_zero_of_lt hfuel)
    obtain ⟨hp, hps⟩ := List.forall_mem_cons.mp hps
    cases ps with
    | nil =>
      have hstop : StopsNumber (closing ++ CodePoint.ofChar ']' :: rest) :=
        stopsNumber_append hclosing (stopsNumber_cons rest (by decide))
      obtain ⟨offset', hvalue⟩ := hp.value_eq fuel offset _ (Nat.le_of_lt_succ hfuel) hstop
      exact ⟨_, elements_last hclosing hvalue⟩
    | cons q ps =>
      obtain ⟨hq, -⟩ := List.forall_mem_cons.mp hps
      have hjoin : Text.join (CodePoint.ofChar ',' :: gaps) (List.map Prod.fst (p :: q :: ps)) =
          p.1 ++ (CodePoint.ofChar ',' :: gaps) ++
            Text.join (CodePoint.ofChar ',' :: gaps) (List.map Prod.fst (q :: ps)) := rfl
      rw [hjoin, List.length_append, List.length_append, List.length_cons] at hfuel
      obtain ⟨offset', hvalue⟩ := hp.value_eq fuel offset
        (CodePoint.ofChar ',' :: (gaps ++ (Text.join (CodePoint.ofChar ',' :: gaps)
          (List.map Prod.fst (q :: ps)) ++ (closing ++ CodePoint.ofChar ']' :: rest))))
        (by omega) (stopsNumber_cons _ (by decide))
      have hopens := (hq.opens.join (CodePoint.ofChar ',' :: gaps) (ps.map Prod.fst)).append
        (closing ++ CodePoint.ofChar ']' :: rest)
      obtain ⟨offset'', hrest⟩ := ih hps (List.cons_ne_nil _ _) fuel (offset' + 1 + gaps.length)
        (acc ++ [p.2]) (by omega)
      refine ⟨offset'', ?_⟩
      rw [List.append_assoc] at hrest
      rw [hjoin, List.append_assoc, List.append_assoc]
      exact (elements_next hgaps hopens hvalue).trans hrest

/-- Items between brackets stand behind a break and in front of one. -/
lemma Layout.enclose_eq {layout : Layout} (hlayout : layout.IsBlank) (depth : Nat)
    (opening closing : Text) {items : List Text} (hne : items ≠ []) :
    ∃ gaps first last, (∀ c ∈ gaps, isBlank c = true) ∧ (∀ c ∈ first, isBlank c = true) ∧
      (∀ c ∈ last, isBlank c = true) ∧
      layout.enclose depth opening closing items =
        opening ++ (first ++ (Text.join (CodePoint.ofChar ',' :: gaps) items ++ (last ++ closing))) := by
  obtain ⟨gaps, hseparator, hgaps⟩ := Layout.separator_eq hlayout (depth + 1)
  refine ⟨gaps, layout.break (depth + 1), layout.break depth, hgaps, hlayout _, hlayout _, ?_⟩
  have hempty : items.isEmpty = false := List.isEmpty_eq_false_iff.mpr hne
  rw [Layout.enclose, hempty, hseparator]
  simp only [Bool.false_eq_true, if_false, List.append_assoc]

/-- Behind an opening bracket and blanks the first element is read. -/
lemma value_bracket {blanks t : Text} (hblanks : ∀ c ∈ blanks, isBlank c = true) (ht : Opens t)
    (fuel offset : Nat) :
    value (fuel + 1) ⟨CodePoint.ofChar '[' :: (blanks ++ t), offset⟩ =
      elements fuel ⟨t, offset + 1 + blanks.length⟩ [] := by
  have hskip : skipBlanks ((Cursor.mk (CodePoint.ofChar '[' :: (blanks ++ t)) offset).advance 1) =
      ⟨t, offset + 1 + blanks.length⟩ := ht.skipBlanks hblanks (offset + 1)
  obtain ⟨c, u, rfl, -, hc⟩ := ht
  have hclosed : (Cursor.mk (c :: u) (offset + 1 + blanks.length)).at? ']' = false := hc
  have hquote : (Cursor.mk (CodePoint.ofChar '[' :: (blanks ++ c :: u)) offset).at? '"' = false :=
    rfl
  have hbrace : (Cursor.mk (CodePoint.ofChar '[' :: (blanks ++ c :: u)) offset).at? '\x7b' = false :=
    rfl
  have hopen : (Cursor.mk (CodePoint.ofChar '[' :: (blanks ++ c :: u)) offset).at? '[' = true := rfl
  rw [value, hquote, hbrace, hopen]
  simp only [Bool.false_eq_true, if_false, if_true, hskip, hclosed]

/-- A list is read from its written items. -/
lemma reads_list {layout : Layout} (hlayout : layout.IsBlank) (depth : Nat)
    {ps : List (Text × Data)} (hps : ∀ p ∈ ps, Reads p.1 p.2) :
    Reads (layout.enclose depth "[" "]" (ps.map Prod.fst)) (.list (ps.map Prod.snd)) := by
  cases ps with
  | nil => exact reads_of_step ⟨_, _, rfl, rfl, rfl⟩ fun _ _ _ _ => ⟨_, rfl⟩
  | cons p ps =>
    obtain ⟨gaps, first, last, hgaps, hfirst, hlast, htext⟩ :=
      Layout.enclose_eq hlayout depth "[" "]" (List.cons_ne_nil p.1 (ps.map Prod.fst))
    obtain ⟨hp, -⟩ := List.forall_mem_cons.mp hps
    rw [List.map_cons, htext]
    refine ⟨⟨CodePoint.ofChar '[', _, rfl, rfl, rfl⟩, fun fuel offset rest hfuel hrest => ?_⟩
    rw [List.length_append, List.length_append, List.length_append] at hfuel
    have hopening : (Text.ofString "[").length = 1 := rfl
    obtain ⟨fuel, rfl⟩ := Nat.exists_eq_succ_of_ne_zero (show fuel ≠ 0 by omega)
    obtain ⟨offset', helements⟩ := elements_join hgaps hlast hps (List.cons_ne_nil _ _) rest fuel
      (offset + 1 + first.length) [] (by rw [List.map_cons]; omega)
    have hopens := (hp.opens.join (CodePoint.ofChar ',' :: gaps) (ps.map Prod.fst)).append
      (last ++ CodePoint.ofChar ']' :: rest)
    refine ⟨offset', ?_⟩
    have hvalue := (value_bracket hfirst hopens fuel offset).trans helements
    simp only [List.append_assoc]
    exact hvalue

/-! ## Dictionaries -/

/-- A member of a dictionary: its key, a colon and its value. -/
def memberText (key t : Text) : Text := writeText key ++ ": " ++ t

section

variable {key t : Text} {d : Data} (hkey : key.isUnicode = true) (ht : Reads t d)
  (fuel offset : Nat)
  (hfuel : 2 * (memberText key t).length ≤ fuel) (entries : List (Text × Data))

include hkey ht hfuel

/-- The key and the value of a member are read, up to what stands behind it. -/
lemma members_memberText {behind : Text} (hbehind : StopsNumber behind) :
    ∃ offset', members (fuel + 1) ⟨memberText key t ++ behind, offset⟩ entries =
      if (skipBlanks ⟨behind, offset'⟩).at? '\x7d' then
        .ok (.dict (putEntry key d entries), (skipBlanks ⟨behind, offset'⟩).advance 1)
      else if (skipBlanks ⟨behind, offset'⟩).at? ',' then
        members fuel (skipBlanks ((skipBlanks ⟨behind, offset'⟩).advance 1)) (putEntry key d entries)
      else (skipBlanks ⟨behind, offset'⟩).fail .expectingComma := by
  obtain ⟨tail, htail⟩ : ∃ u : Text, u = [CodePoint.ofChar ' '] ++ (t ++ behind) := ⟨_, rfl⟩
  have htext : memberText key t ++ behind = writeText key ++ CodePoint.ofChar ':' :: tail := by
    rw [memberText, List.append_assoc, List.append_assoc, htail]
    rfl
  have hshort : 2 * t.length ≤ fuel := by
    rw [memberText, List.length_append] at hfuel
    omega
  have hquote : (Cursor.mk (writeText key ++ CodePoint.ofChar ':' :: tail) offset).at? '"' = true :=
    rfl
  obtain ⟨colon, hstring⟩ := string_writeText offset (CodePoint.ofChar ':' :: tail) hkey
  have hcolon : skipBlanks ⟨CodePoint.ofChar ':' :: tail, colon⟩ =
      ⟨CodePoint.ofChar ':' :: tail, colon⟩ := rfl
  have hat : (Cursor.mk (CodePoint.ofChar ':' :: tail) colon).at? ':' = true := rfl
  have hskip : skipBlanks ((Cursor.mk (CodePoint.ofChar ':' :: tail) colon).advance 1) =
      ⟨t ++ behind, colon + 1 + 1⟩ := by
    have hblank : ∀ c ∈ [CodePoint.ofChar ' '], isBlank c = true :=
      List.forall_mem_singleton.mpr rfl
    rw [htail]
    exact (ht.opens.append behind).skipBlanks hblank (colon + 1)
  obtain ⟨offset', hvalue⟩ := ht.value_eq fuel (colon + 1 + 1) behind hshort hbehind
  refine ⟨offset', ?_⟩
  rw [htext, members, hquote, hstring]
  simp only [Bool.not_true, Bool.false_eq_true, if_false, hcolon, hat, hskip, hvalue]

/-- The last member of a dictionary is read up to the closing bracket. -/
lemma members_last {blanks : Text} (hblanks : ∀ c ∈ blanks, isBlank c = true) (rest : Text) :
    ∃ offset', members (fuel + 1) ⟨memberText key t ++ (blanks ++ CodePoint.ofChar '\x7d' :: rest),
      offset⟩ entries = .ok (.dict (putEntry key d entries), ⟨rest, offset'⟩) := by
  have hhead : ∀ c ∈ (CodePoint.ofChar '\x7d' :: rest).head?, isBlank c = false := by
    rintro c ⟨⟩
    rfl
  obtain ⟨offset', hmember⟩ := members_memberText hkey ht fuel offset hfuel entries
    (stopsNumber_append hblanks (stopsNumber_cons rest (c := CodePoint.ofChar '\x7d') (by decide)))
  refine ⟨offset' + blanks.length + 1, ?_⟩
  rw [hmember, skipBlanks_append hblanks hhead]
  rfl

/-- Any other member is read up to the next one. -/
lemma members_next {blanks rest : Text} (hblanks : ∀ c ∈ blanks, isBlank c = true)
    (hrest : Opens rest) :
    ∃ offset', members (fuel + 1) ⟨memberText key t ++ CodePoint.ofChar ',' :: (blanks ++ rest),
      offset⟩ entries = members fuel ⟨rest, offset'⟩ (putEntry key d entries) := by
  obtain ⟨offset', hmember⟩ := members_memberText hkey ht fuel offset hfuel entries
    (stopsNumber_cons (blanks ++ rest) (c := CodePoint.ofChar ',') (by decide))
  have hcomma : skipBlanks ⟨CodePoint.ofChar ',' :: (blanks ++ rest), offset'⟩ =
      ⟨CodePoint.ofChar ',' :: (blanks ++ rest), offset'⟩ := rfl
  refine ⟨offset' + 1 + blanks.length, ?_⟩
  rw [hmember, hcomma, ← hrest.skipBlanks hblanks (offset' + 1)]
  rfl

end

/-- A new entry stands behind the old ones. -/
lemma putEntry_of_not_mem {key : Text} {entries : List (Text × Data)}
    (h : key ∉ entries.map Prod.fst) (d : Data) :
    putEntry key d entries = entries ++ [(key, d)] := by
  induction entries with
  | nil => rfl
  | cons e entries ih =>
    rw [List.map_cons, List.mem_cons, not_or] at h
    rw [putEntry, if_neg (Ne.symm h.1), ih h.2, List.cons_append]

/-- A member begins with the quote of its key. -/
lemma opens_memberText (key t : Text) : Opens (memberText key t) := ⟨_, _, rfl, rfl, rfl⟩

/-- A member as it is written, from its key and what its value is written as and read as. -/
def written (p : Text × Text × Data) : Text := memberText p.1 p.2.1

/-- A member as it is read. -/
def reread (p : Text × Text × Data) : Text × Data := (p.1, p.2.2)

/-- Written members are read one by one. -/
lemma members_join {gaps closing : Text} (hgaps : ∀ c ∈ gaps, isBlank c = true)
    (hclosing : ∀ c ∈ closing, isBlank c = true) {ps : List (Text × Text × Data)}
    (hps : ∀ p ∈ ps, p.1.isUnicode = true ∧ Reads p.2.1 p.2.2) (hne : ps ≠ []) (rest : Text)
    (fuel offset : Nat) (entries : List (Text × Data))
    (hkeys : ((entries ++ ps.map reread).map Prod.fst).Nodup)
    (hfuel : 2 * (Text.join (CodePoint.ofChar ',' :: gaps) (ps.map written)).length < fuel) :
    ∃ offset', members fuel ⟨Text.join (CodePoint.ofChar ',' :: gaps) (ps.map written) ++
        (closing ++ CodePoint.ofChar '\x7d' :: rest), offset⟩ entries =
      .ok (.dict (entries ++ ps.map reread), ⟨rest, offset'⟩) := by
  induction ps generalizing fuel offset entries with
  | nil => exact absurd rfl hne
  | cons p ps ih =>
    obtain ⟨fuel, rfl⟩ := Nat.exists_eq_succ_of_ne_zero (Nat.ne_zero_of_lt hfuel)
    obtain ⟨⟨hkey, hp⟩, hps⟩ := List.forall_mem_cons.mp hps
    have hnew : p.1 ∉ entries.map Prod.fst := by
      rw [List.map_append, List.nodup_append] at hkeys
      exact fun h => hkeys.2.2 p.1 h p.1 List.mem_cons_self rfl
    have hput := putEntry_of_not_mem hnew p.2.2
    cases ps with
    | nil =>
      obtain ⟨offset', hlast⟩ := members_last hkey hp fuel offset (Nat.le_of_lt_succ hfuel) entries
        hclosing rest
      rw [hput] at hlast
      exact ⟨offset', hlast⟩
    | cons q ps =>
      have hjoin : Text.join (CodePoint.ofChar ',' :: gaps) ((p :: q :: ps).map written) =
          written p ++ (CodePoint.ofChar ',' :: gaps) ++
            Text.join (CodePoint.ofChar ',' :: gaps) ((q :: ps).map written) := rfl
      rw [hjoin, List.length_append, List.length_append, List.length_cons] at hfuel
      have hopens := ((opens_memberText q.1 q.2.1).join (CodePoint.ofChar ',' :: gaps)
        (ps.map written)).append (closing ++ CodePoint.ofChar '\x7d' :: rest)
      have hshort : 2 * (memberText p.1 p.2.1).length ≤ fuel := by
        change 2 * ((memberText p.1 p.2.1).length + _ + _) < _ at hfuel
        omega
      obtain ⟨offset', hnext⟩ := members_next hkey hp fuel offset hshort entries hgaps hopens
      rw [hput] at hnext
      have hkeys' : (((entries ++ [(p.1, p.2.2)]) ++ (q :: ps).map reread).map Prod.fst).Nodup := by
        rw [List.append_assoc]
        exact hkeys
      obtain ⟨offset'', hrest⟩ := ih hps (List.cons_ne_nil _ _) fuel offset'
        (entries ++ [(p.1, p.2.2)]) hkeys' (by omega)
      refine ⟨offset'', ?_⟩
      rw [List.append_assoc] at hrest
      rw [hjoin, List.append_assoc, List.append_assoc]
      exact hnext.trans hrest

/-- Behind an opening brace and blanks the first member is read. -/
lemma value_brace {blanks t : Text} (hblanks : ∀ c ∈ blanks, isBlank c = true)
    (ht : t.head? = some (CodePoint.ofChar '"')) (fuel offset : Nat) :
    value (fuel + 1) ⟨CodePoint.ofChar '\x7b' :: (blanks ++ t), offset⟩ =
      members fuel ⟨t, offset + 1 + blanks.length⟩ [] := by
  have hhead : ∀ c ∈ t.head?, isBlank c = false := by
    rw [ht]
    rintro c ⟨⟩
    rfl
  have hskip : skipBlanks ((Cursor.mk (CodePoint.ofChar '\x7b' :: (blanks ++ t)) offset).advance 1) =
      ⟨t, offset + 1 + blanks.length⟩ := skipBlanks_append hblanks hhead (offset + 1)
  have hclosed : (Cursor.mk t (offset + 1 + blanks.length)).at? '\x7d' = false := by
    rw [Cursor.at?, ht]
    rfl
  have hquote : (Cursor.mk (CodePoint.ofChar '\x7b' :: (blanks ++ t)) offset).at? '"' = false := rfl
  have hopen : (Cursor.mk (CodePoint.ofChar '\x7b' :: (blanks ++ t)) offset).at? '\x7b' = true :=
    rfl
  rw [value, hquote, hopen]
  simp only [Bool.false_eq_true, if_false, if_true, hskip, hclosed]

/-- A dictionary is read from its written members. -/
lemma reads_dict {layout : Layout} (hlayout : layout.IsBlank) (depth : Nat)
    {ps : List (Text × Text × Data)} (hps : ∀ p ∈ ps, p.1.isUnicode = true ∧ Reads p.2.1 p.2.2)
    (hkeys : (ps.map Prod.fst).Nodup) :
    Reads (layout.enclose depth "\x7b" "\x7d" (ps.map written)) (.dict (ps.map reread)) := by
  cases ps with
  | nil => exact reads_of_step ⟨_, _, rfl, rfl, rfl⟩ fun _ _ _ _ => ⟨_, rfl⟩
  | cons p ps =>
    obtain ⟨gaps, first, last, hgaps, hfirst, hlast, htext⟩ :=
      Layout.enclose_eq hlayout depth "\x7b" "\x7d" (List.cons_ne_nil (written p) (ps.map written))
    rw [List.map_cons, htext]
    refine ⟨⟨CodePoint.ofChar '\x7b', _, rfl, rfl, rfl⟩, fun fuel offset rest hfuel hrest => ?_⟩
    rw [List.length_append, List.length_append, List.length_append] at hfuel
    have hopening : (Text.ofString "\x7b").length = 1 := rfl
    obtain ⟨fuel, rfl⟩ := Nat.exists_eq_succ_of_ne_zero (show fuel ≠ 0 by omega)
    have hkeys' : ((([] : List (Text × Data)) ++ (p :: ps).map reread).map Prod.fst).Nodup := by
      rw [List.nil_append, List.map_map]
      exact hkeys
    obtain ⟨offset', hmembers⟩ := members_join hgaps hlast hps (List.cons_ne_nil _ _) rest fuel
      (offset + 1 + first.length) [] hkeys' (by rw [List.map_cons]; omega)
    have hhead : (Text.join (CodePoint.ofChar ',' :: gaps) (written p :: ps.map written) ++
        (last ++ CodePoint.ofChar '\x7d' :: rest)).head? = some (CodePoint.ofChar '"') := by
      cases ps <;> rfl
    refine ⟨offset', ?_⟩
    have hvalue := (value_brace hfirst hhead fuel offset).trans hmembers
    simp only [List.append_assoc]
    exact hvalue

end Json

/-! ## Tree data -/

mutual

/-- Tree data as a document gives them back: the entries of an object stand in the order of their
keys, and a double may have become another one. -/
def Data.reread (float : Double → Double) : Data → Data
  | .scalar s => .scalar (s.mapFloat float)
  | .list items => .list (rereadItems float items)
  | .object _ entries => .dict (Json.sortByKey (rereadEntries float entries))

/-- The items of a list as a document gives them back. -/
def Data.rereadItems (float : Double → Double) : List Data → List Data
  | [] => []
  | d :: rest => d.reread float :: rereadItems float rest

/-- The entries of an object as a document gives them back, in their old order. -/
def Data.rereadEntries (float : Double → Double) : List (Text × Data) → List (Text × Data)
  | [] => []
  | (key, d) :: rest => (key, d.reread float) :: rereadEntries float rest

end

/-- Tree data that a document can spell: texts and keys have no surrogates, objects are
dictionaries, and no key occurs twice. -/
inductive Data.IsSpelled : Data → Prop
  | scalar {s : Scalar} (h : s.isUnicode = true) : IsSpelled (.scalar s)
  | list {items : List Data} (h : ∀ d ∈ items, IsSpelled d) : IsSpelled (.list items)
  | dict {entries : List (Text × Data)} (distinct : (entries.map Prod.fst).Nodup)
    (keys : ∀ e ∈ entries, e.1.isUnicode = true) (values : ∀ e ∈ entries, IsSpelled e.2) :
    IsSpelled (.dict entries)

section

variable (float : Double → Double)

/-- The items of a list are given back one by one. -/
lemma Data.reread_list (items : List Data) :
    (Data.list items).reread float = .list (items.map (Data.reread float)) := by
  have hitems : rereadItems float items = items.map (Data.reread float) := by
    induction items with
    | nil => rfl
    | cons d rest ih => rw [rereadItems, ih, List.map_cons]
  rw [reread, hitems]

/-- The entries of a dictionary are given back one by one. -/
lemma Data.reread_dict (entries : List (Text × Data)) :
    (Data.dict entries).reread float =
      .dict ((Json.sortByKey entries).map fun e => (e.1, e.2.reread float)) := by
  have hentries : rereadEntries float entries = entries.map fun e => (e.1, e.2.reread float) := by
    induction entries with
    | nil => rfl
    | cons e rest ih => rw [rereadEntries, ih, List.map_cons]
  rw [reread, hentries, Json.sortByKey_map]

end

namespace Json

/-- What stands against writing a list is what stands against writing its items. -/
lemma obstacle?_list (items : List Data) :
    obstacle? (.list items) = (items.map obstacle?).findSome? id := by
  have hmap : obstacles items = items.map obstacle? := by
    induction items with
    | nil => rfl
    | cons d rest ih => rw [obstacles, ih, List.map_cons]
  rw [obstacle?, hmap]

/-- What stands against writing a dictionary is what stands against writing its values. -/
lemma obstacle?_dict (entries : List (Text × Data)) :
    obstacle? (.dict entries) =
      (sortByKey (entries.map fun e => (e.1, obstacle? e.2))).findSome? Prod.snd := by
  have hmap : entryObstacles entries = entries.map fun e => (e.1, obstacle? e.2) := by
    induction entries with
    | nil => rfl
    | cons e rest ih => rw [entryObstacles, ih, List.map_cons]
  rw [obstacle?, hmap]

/-- Nothing stands against writing a list if nothing stands against writing its items. -/
lemma obstacle?_list_eq_none {items : List Data} :
    obstacle? (.list items) = none ↔ ∀ d ∈ items, obstacle? d = none := by
  rw [obstacle?_list, List.findSome?_eq_none_iff, List.forall_mem_map]
  rfl

/-- Nothing stands against writing a dictionary if nothing stands against writing its values. -/
lemma obstacle?_dict_eq_none {entries : List (Text × Data)} :
    obstacle? (.dict entries) = none ↔ ∀ e ∈ entries, obstacle? e.2 = none := by
  have hperm := sortByKey_perm (entries.map fun e => (e.1, obstacle? e.2))
  rw [obstacle?_dict, List.findSome?_eq_none_iff]
  simp only [hperm.mem_iff, List.forall_mem_map]

section

variable {layout : Layout} (hlayout : layout.IsBlank) {float : Double → Double}
  (hfloat : ∀ x, Reads (writeDouble x) (.scalar (.float (float x))))

include hlayout hfloat

/-- What is written for tree data is read as the document gives it back. -/
theorem reads_writeAt {d : Data} (hspelled : d.IsSpelled) (hwritten : obstacle? d = none)
    (depth : Nat) : Reads (writeAt layout depth d) (d.reread float) := by
  induction d using Data.induction generalizing depth with
  | scalar s =>
    cases hspelled with
    | scalar h => exact reads_writeScalar hfloat hwritten h
  | list items ih =>
    cases hspelled with
    | list h =>
      have hitems : ∀ p ∈ items.map fun d => (writeAt layout (depth + 1) d, d.reread float),
          Reads p.1 p.2 := by
        rw [List.forall_mem_map]
        exact fun d hd => ih d hd (h d hd) (obstacle?_list_eq_none.mp hwritten d hd) (depth + 1)
      have hreads := reads_list hlayout depth hitems
      rw [List.map_map, List.map_map] at hreads
      rw [writeAt, writeItems_eq_map, Data.reread_list]
      exact hreads
  | object shape entries ih =>
    cases hspelled with
    | dict distinct keys values =>
      have hperm := sortByKey_perm entries
      have hmembers : ∀ p ∈ (sortByKey entries).map
          fun e => (e.1, writeAt layout (depth + 1) e.2, e.2.reread float),
          p.1.isUnicode = true ∧ Reads p.2.1 p.2.2 := by
        rw [List.forall_mem_map]
        intro e he
        have he := hperm.mem_iff.mp he
        have hvalue := obstacle?_dict_eq_none.mp hwritten e he
        exact ⟨keys e he, ih e.1 e.2 he (values e he) hvalue (depth + 1)⟩
      have hkeys : (((sortByKey entries).map fun e =>
          (e.1, writeAt layout (depth + 1) e.2, e.2.reread float)).map Prod.fst).Nodup := by
        rw [List.map_map]
        exact (hperm.map Prod.fst).nodup_iff.mpr distinct
      have hreads := reads_dict hlayout depth hmembers hkeys
      rw [List.map_map, List.map_map] at hreads
      rw [writeAt, writeEntries_eq_map, sortByKey_map, List.map_map, Data.reread_dict]
      exact hreads

/-- Tree data that have been written as a document are read from it, with blanks behind them. -/
theorem read_write {d : Data} (hspelled : d.IsSpelled) (hwritten : obstacle? d = none)
    {blanks : Text} (hblanks : ∀ c ∈ blanks, isBlank c = true) :
    read (write layout d ++ blanks) = .ok (d.reread float) := by
  obtain ⟨opens, hvalue⟩ := reads_writeAt hlayout hfloat hspelled hwritten 0
  change Opens (write layout d) at opens
  change ∀ fuel offset rest, 2 * (write layout d).length ≤ fuel → StopsNumber rest →
    ∃ offset', value fuel ⟨write layout d ++ rest, offset⟩ = _ at hvalue
  have hmark : ((write layout d ++ blanks).head? == some (CodePoint.ofNat 0xFEFF)) = false := by
    have hascii : ∀ c ∈ write layout d, c.val < 0x80 :=
      forall_mem_writeAt (fun c hc => CodePoint.lt_of_isGraphic hc)
        (fun depth c hc => lt_of_isBlank (hlayout depth c hc)) d 0
    obtain ⟨c, u, hcons, -⟩ := opens
    rw [hcons] at hascii ⊢
    refine beq_eq_false_iff_ne.mpr fun h => ?_
    have hc := hascii c List.mem_cons_self
    rw [Option.some.inj h] at hc
    exact absurd hc (by decide)
  have hstart : skipBlanks ⟨write layout d ++ blanks, 0⟩ = ⟨write layout d ++ blanks, 0⟩ :=
    (opens.append blanks).skipBlanks (List.forall_mem_nil _) 0
  have hstops : StopsNumber blanks := by
    rw [← List.append_nil blanks]
    exact stopsNumber_append hblanks nofun
  have hfuel : 2 * (write layout d).length ≤ 2 * (write layout d ++ blanks).length + 1 := by
    rw [List.length_append]
    omega
  obtain ⟨offset, hvalue⟩ := hvalue _ 0 blanks hfuel hstops
  have hend : skipBlanks ⟨blanks ++ [], offset⟩ = ⟨[], offset + blanks.length⟩ :=
    @skipBlanks_append blanks [] hblanks nofun offset
  rw [List.append_nil] at hend
  rw [read, hmark, hstart, hvalue]
  simp only [Bool.false_eq_true, if_false, hend, List.isEmpty_nil, if_true]

end

end Json

/-! ## Documents as rewriting -/

/-- What stands under different keys is found whatever the order. -/
lemma lookup_eq_of_perm {β : Type} {entries others : List (Text × β)} (h : others.Perm entries)
    (hkeys : (entries.map Prod.fst).Nodup) (key : Text) :
    others.lookup key = entries.lookup key := by
  cases hlookup : entries.lookup key with
  | none =>
    rw [List.lookup_eq_none_iff] at hlookup ⊢
    exact fun p hp => hlookup p (h.mem_iff.mp hp)
  | some b =>
    have hmem := h.mem_iff.mpr (mem_of_lookup_eq_some hlookup)
    exact lookup_eq_some_of_mem ((h.map Prod.fst).nodup_iff.mpr hkeys) hmem

/-- What a document gives back, as a change of tree data. -/
def Rewriting.rereading (float : Double → Double) : Rewriting where
  data := Data.reread float
  float := float
  data_scalar _ := rfl
  data_list := Data.reread_list float
  data_dict {entries} h := by
    refine ⟨_, Data.reread_dict float entries, fun key => ?_⟩
    rw [lookup_map_snd, lookup_eq_of_perm (Json.sortByKey_perm entries) h]

end Offside
