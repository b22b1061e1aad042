import Offside.Json.Reader
import Offside.Json.Writer
import Offside.Proofs.Numeral

/-!
# Numbers of documents

A number in a document has a sign, digits in front of the point and behind it, and an exponent.
`Figure` keeps these parts, and `number_toText` says that the reader takes all of them and makes of
them the number that they write.

Both kinds of numbers are written as figures: an integer as one without fraction and exponent, which
is read as the integer again, and a finite double as one that has one of the two, whichever layout
its shortest decimal has.  Which double the reader makes of such a figure is left open here.
-/

namespace Offside

namespace Json

/-! ## Figures -/

/-- A number as it stands in a document. -/
structure Figure where
  negative : Bool
  /-- The digits in front of the point. -/
  whole : Text
  /-- The digits behind the point. -/
  fraction : Text
  /-- The digits of the exponent, and whether it is negative. -/
  exponent : Option (Bool × Text)

/-- The sign in front of a number. -/
def signText (negative : Bool) : Text := if negative then "-" else []

/-- The digits of a fraction behind their point. -/
def fractionText (t : Text) : Text := if t.isEmpty then [] else '.' :: t

/-- An exponent behind its letter. -/
def exponentText (exponent : Option (Bool × Text)) : Text :=
  exponent.elim [] fun p => 'e' :: (if p.1 then '-' else '+') :: p.2

namespace Figure

/-- A number as it is written. -/
def toText (f : Figure) : Text :=
  signText f.negative ++ (f.whole ++ (fractionText f.fraction ++ exponentText f.exponent))

/-- A number without fraction and exponent is an integer. -/
def isInteger (f : Figure) : Bool := f.fraction.isEmpty && f.exponent.isNone

/-- The exponent as a number. -/
def power (f : Figure) : Int :=
  f.exponent.elim 0 fun p => (if p.1 then -1 else 1) * Text.numeral 10 p.2

/-- The number that is written. -/
def scalar (f : Figure) : Scalar :=
  if f.isInteger then
    .int (if f.negative then -Text.numeral 10 f.whole else Text.numeral 10 f.whole)
  else
    .float (Double.ofDecimal f.negative (Text.numeral 10 (f.whole ++ f.fraction))
      (f.power - f.fraction.length))

/-- The parts of a number are digits, there are some where there must be, and the first of several
is no zero. -/
structure IsWritten (f : Figure) : Prop where
  whole : ∀ c ∈ f.whole, c.isDigit = true
  whole_ne_nil : f.whole ≠ []
  leading : f.whole.head? = some (CodePoint.ofChar '0') → f.whole = [CodePoint.ofChar '0']
  fraction : ∀ c ∈ f.fraction, c.isDigit = true
  exponent : ∀ p ∈ f.exponent, p.2 ≠ [] ∧ ∀ c ∈ p.2, c.isDigit = true
  /-- An integer is not too long to be read. -/
  short : f.isInteger = true → f.whole.length ≤ Text.maxDigits

end Figure

/-! ## Reading figures -/

/-- Nothing that goes on with a number. -/
def StopsNumber (t : Text) : Prop :=
  ∀ c ∈ t.head?, c.isDigit = false ∧ c ≠ CodePoint.ofChar '.' ∧ c ≠ CodePoint.ofChar 'e' ∧
    c ≠ CodePoint.ofChar 'E'

/-- Code points of a class are taken up to the first one that is not of the class. -/
lemma takeWhile_append {p : CodePoint → Bool} {t rest : Text} (ht : ∀ c ∈ t, p c = true)
    (hrest : ∀ c ∈ rest.head?, p c = false) : (t ++ rest).takeWhile p = t := by
  rw [List.takeWhile_append_of_pos ht]
  cases rest with
  | nil => exact List.append_nil t
  | cons c rest =>
    rw [List.takeWhile_cons_of_neg (by rw [hrest c rfl]; exact Bool.false_ne_true), List.append_nil]

/-- An exponent begins with its letter, or something else follows. -/
lemma head?_exponentText_append {P : CodePoint → Prop} (e : Option (Bool × Text)) {rest : Text}
    (hletter : P (CodePoint.ofChar 'e')) (hrest : ∀ c ∈ rest.head?, P c) :
    ∀ c ∈ (exponentText e ++ rest).head?, P c := by
  cases e with
  | none => exact hrest
  | some p =>
    rintro c ⟨⟩
    exact hletter

/-- A fraction begins with its point, or something else follows. -/
lemma head?_fractionText_append {P : CodePoint → Prop} (t : Text) {rest : Text}
    (hpoint : P (CodePoint.ofChar '.')) (hrest : ∀ c ∈ rest.head?, P c) :
    ∀ c ∈ (fractionText t ++ rest).head?, P c := by
  cases t with
  | nil => exact hrest
  | cons d t =>
    rintro c ⟨⟩
    exact hpoint

/-- A fraction is read up to what is no digit; without one, no point follows. -/
lemma fraction_fractionText {t rest : Text} (ht : ∀ c ∈ t, c.isDigit = true)
    (hrest : ∀ c ∈ rest.head?, c.isDigit = false ∧ c ≠ CodePoint.ofChar '.') :
    fraction (fractionText t ++ rest) = t := by
  cases t with
  | nil =>
    cases rest with
    | nil => rfl
    | cons c rest => exact if_neg fun h => (hrest c rfl).2 (eq_of_beq h)
  | cons d t => exact takeWhile_append ht fun c hc => (hrest c hc).1

/-- An exponent is read up to what is no digit; without one, no letter follows. -/
lemma exponent?_exponentText {e : Option (Bool × Text)} {rest : Text}
    (he : ∀ p ∈ e, p.2 ≠ [] ∧ ∀ c ∈ p.2, c.isDigit = true) (hrest : StopsNumber rest) :
    exponent? (exponentText e ++ rest) =
      e.map fun p => ((if p.1 then -1 else 1) * (Text.numeral 10 p.2 : Int), 2 + p.2.length) := by
  cases e with
  | none =>
    cases rest with
    | nil => rfl
    | cons c rest =>
      obtain ⟨-, -, hlower, hupper⟩ := hrest c rfl
      exact if_neg fun h => (Bool.or_eq_true_iff.mp h).elim (fun h => hlower (eq_of_beq h))
        fun h => hupper (eq_of_beq h)
  | some p =>
    obtain ⟨negative, digits⟩ := p
    obtain ⟨hne, hdigits⟩ := he _ rfl
    have htake := takeWhile_append hdigits fun c hc => (hrest c hc).1
    have hempty : digits.isEmpty = false := List.isEmpty_eq_false_iff.mpr hne
    cases negative with
    | true =>
      change (if ((digits ++ rest).takeWhile CodePoint.isDigit).isEmpty then none
        else some (-1 * (Text.numeral 10 ((digits ++ rest).takeWhile CodePoint.isDigit) : Int),
          1 + 1 + ((digits ++ rest).takeWhile CodePoint.isDigit).length)) = _
      rw [htake, hempty]
      rfl
    | false =>
      change (if ((digits ++ rest).takeWhile CodePoint.isDigit).isEmpty then none
        else some (1 * (Text.numeral 10 ((digits ++ rest).takeWhile CodePoint.isDigit) : Int),
          1 + 1 + ((digits ++ rest).takeWhile CodePoint.isDigit).length)) = _
      rw [htake, hempty]
      rfl

/-- Going on by the length of a text leaves what stands behind it. -/
lemma advance_append (t rest : Text) (offset : Nat) :
    (Cursor.mk (t ++ rest) offset).advance t.length = ⟨rest, offset + t.length⟩ :=
  congrArg (Cursor.mk · (offset + t.length)) List.drop_left

/-- A sign is read if it is there, and what is left stands behind it. -/
lemma signText_append (negative : Bool) {t : Text}
    (ht : (t.head? == some (CodePoint.ofChar '-')) = false) (offset : Nat) :
    (Cursor.mk (signText negative ++ t) offset).at? '-' = negative ∧
      ∃ start, (if negative = true then (Cursor.mk (signText negative ++ t) offset).advance 1
        else Cursor.mk (signText negative ++ t) offset) = ⟨t, start⟩ := by
  cases negative with
  | true => exact ⟨rfl, offset + 1, rfl⟩
  | false => exact ⟨ht, offset, rfl⟩

/-- A fraction is gone past if it is there. -/
lemma exists_behind_fractionText (t rest : Text) (offset : Nat) :
    ∃ offset', (if t.isEmpty = true then Cursor.mk (fractionText t ++ rest) offset
      else (Cursor.mk (fractionText t ++ rest) offset).advance (1 + t.length)) =
      ⟨rest, offset'⟩ := by
  cases t with
  | nil => exact ⟨offset, rfl⟩
  | cons c t =>
    rw [Nat.add_comm]
    exact ⟨_, advance_append (fractionText (c :: t)) rest offset⟩

/-- An exponent is gone past. -/
lemma advance_exponentText (p : Bool × Text) (rest : Text) (offset : Nat) :
    (Cursor.mk (exponentText (some p) ++ rest) offset).advance (2 + p.2.length) =
      ⟨rest, offset + (2 + p.2.length)⟩ := by
  rw [Nat.add_comm 2]
  exact advance_append (exponentText (some p)) rest offset

/-- Digits that begin with a zero are that zero alone, so that all of them count. -/
lemma take_one_of_leading {whole behind : Text} (hne : whole ≠ [])
    (hleading : whole.head? = some (CodePoint.ofChar '0') → whole = [CodePoint.ofChar '0'])
    (offset : Nat) :
    (if (Cursor.mk (whole ++ behind) offset).at? '0' = true then whole.take 1 else whole) =
      whole := by
  obtain ⟨d, more, rfl⟩ := List.exists_cons_of_ne_nil hne
  split
  · next h =>
    rw [hleading (congrArg some (Option.some.inj (eq_of_beq h)))]
    rfl
  · rfl

/-- A number is read as what it writes, up to what does not go on with it. -/
theorem number_toText {f : Figure} (hf : f.IsWritten) {rest : Text} (hrest : StopsNumber rest)
    (offset : Nat) :
    ∃ offset', number ⟨f.toText ++ rest, offset⟩ = .ok (f.scalar, ⟨rest, offset'⟩) := by
  obtain ⟨negative, whole, digits, exponent⟩ := f
  obtain ⟨hwhole, hne, hleading, hdigits, hexponent, hshort⟩ := hf
  dsimp only at hwhole hne hleading hdigits hexponent hshort
  -- What is left behind the digits in front of the point, and behind the fraction.
  obtain ⟨tail, htail⟩ : ∃ t, t = exponentText exponent ++ rest := ⟨_, rfl⟩
  obtain ⟨after, hafter⟩ : ∃ t, t = fractionText digits ++ tail := ⟨_, rfl⟩
  have htext : (Figure.mk negative whole digits exponent).toText ++ rest =
      signText negative ++ (whole ++ after) := by
    simp only [Figure.toText, List.append_assoc, hafter, htail]
  have htailHead : ∀ c ∈ tail.head?, c.isDigit = false ∧ c ≠ CodePoint.ofChar '.' :=
    htail ▸ head?_exponentText_append exponent (by decide)
      fun c hc => ⟨(hrest c hc).1, (hrest c hc).2.1⟩
  have hafterHead : ∀ c ∈ after.head?, c.isDigit = false :=
    hafter ▸ head?_fractionText_append digits rfl fun c hc => (htailHead c hc).1
  have hminus : ((whole ++ after).head? == some (CodePoint.ofChar '-')) = false := by
    obtain ⟨d, more, rfl⟩ := List.exists_cons_of_ne_nil hne
    refine beq_eq_false_iff_ne.mpr fun h => ?_
    have hd := hwhole d List.mem_cons_self
    rw [Option.some.inj h] at hd
    exact absurd hd (by decide)
  obtain ⟨hnegative, start, hstart⟩ := signText_append negative hminus offset
  have htake := takeWhile_append hwhole hafterHead
  have hzero := @take_one_of_leading whole after hne hleading start
  have hempty : whole.isEmpty = false := List.isEmpty_eq_false_iff.mpr hne
  have hbehind := advance_append whole after start
  have hfraction : fraction after = digits := hafter ▸ fraction_fractionText hdigits htailHead
  obtain ⟨middle, hmiddle⟩ := exists_behind_fractionText digits tail (start + whole.length)
  rw [← hafter] at hmiddle
  have hexp := htail ▸ exponent?_exponentText hexponent hrest
  rw [htext, number]
  simp only [hnegative, hstart, htake, hzero, hempty, Bool.false_eq_true, if_false, hbehind,
    hfraction, hmiddle, hexp]
  cases exponent with
  | some p =>
    have hadvance := htail ▸ advance_exponentText p rest middle
    have hfloat : (Figure.mk negative whole digits (some p)).isInteger = false := Bool.and_false _
    refine ⟨middle + (2 + p.2.length), ?_⟩
    rw [Figure.scalar, hfloat, ← hadvance]
    rfl
  | none =>
    obtain rfl : tail = rest := htail
    cases digits with
    | nil =>
      obtain rfl : after = tail := hafter
      have hlong : ¬Text.maxDigits < whole.length := Nat.not_lt.mpr (hshort rfl)
      refine ⟨start + whole.length, ?_⟩
      simp only [Option.map_none, List.isEmpty_nil, if_true, hlong, if_false]
      rfl
    | cons c t =>
      have hpower : (-((c :: t).length : Int)) = 0 - ((c :: t).length : Int) :=
        (Int.zero_sub _).symm
      refine ⟨middle, ?_⟩
      simp only [Option.map_none, List.isEmpty_cons, Bool.false_eq_true, if_false, hpower]
      rfl

/-! ## Integers -/

/-- An integer as a figure. -/
def Figure.ofInt (n : Int) : Figure := ⟨decide (n < 0), Text.ofNat n.natAbs, [], none⟩

/-- An integer is written as its figure. -/
lemma Figure.toText_ofInt (n : Int) : (ofInt n).toText = Text.ofInt n := by
  have htext : (ofInt n).toText = signText (decide (n < 0)) ++ Text.ofNat n.natAbs :=
    congrArg (_ ++ ·) (List.append_nil _)
  rw [htext]
  cases n with
  | ofNat n =>
    have hsign : decide (Int.ofNat n < 0) = false :=
      decide_eq_false (Int.not_lt.mpr (Int.zero_le_ofNat n))
    rw [hsign]
    rfl
  | negSucc n =>
    have hsign : decide (Int.negSucc n < 0) = true := decide_eq_true (Int.negSucc_lt_zero n)
    rw [hsign]
    rfl

/-- An integer that is too long is not less than the power of ten with so many zeros. -/
lemma leastLong_eq : leastLong = 10 ^ Text.maxDigits := by
  unfold leastLong
  generalize Text.maxDigits = k
  rfl

/-- An integer that is not too long is read back. -/
lemma Figure.isWritten_ofInt {n : Int} (h : n.natAbs < leastLong) : (ofInt n).IsWritten where
  whole := Text.isDigit_of_mem_ofNat _
  whole_ne_nil := Text.ofNat_ne_nil _
  leading := Text.ofNat_of_head?
  fraction := List.forall_mem_nil _
  exponent := nofun
  short _ := (Text.length_ofNat_le_iff (by decide)).mpr (leastLong_eq ▸ h)

/-- An integer is the number that its figure writes. -/
lemma Figure.scalar_ofInt (n : Int) : (ofInt n).scalar = .int n := by
  have hinteger : (ofInt n).isInteger = true := rfl
  rw [scalar, hinteger, if_pos rfl, ofInt, Text.numeral_ofNat]
  refine congrArg Scalar.int ?_
  split
  · next h =>
    have hneg : n < 0 := of_decide_eq_true h
    omega
  · next h =>
    have hnonneg : ¬n < 0 := of_decide_eq_false (Bool.eq_false_iff.mpr h)
    omega

/-! ## Doubles -/

/-- Zeros are digits. -/
lemma isDigit_of_mem_zeros (k : Nat) :
    ∀ c ∈ List.replicate k (CodePoint.ofChar '0'), c.isDigit = true := by
  intro c hc
  rw [List.eq_of_mem_replicate hc]
  rfl

/-- A text is a number with a fraction or an exponent. -/
def IsFloatText (t : Text) : Prop :=
  ∃ f : Figure, f.IsWritten ∧ f.isInteger = false ∧ t = f.toText

section

variable (negative : Bool) {whole digits : Text} (hwhole : ∀ c ∈ whole, c.isDigit = true)
  (hne : whole ≠ [])
  (hleading : whole.head? = some (CodePoint.ofChar '0') → whole = [CodePoint.ofChar '0'])
  (hdigits : ∀ c ∈ digits, c.isDigit = true)

include hwhole hne hleading hdigits

/-- Digits in front of a point and behind it are a number with a fraction. -/
lemma isFloatText_of_fraction (hdigitsNe : digits ≠ []) :
    IsFloatText (signText negative ++ (whole ++ (CodePoint.ofChar '.' :: digits))) := by
  have hempty : digits.isEmpty = false := List.isEmpty_eq_false_iff.mpr hdigitsNe
  have hinteger : (Figure.mk negative whole digits none).isInteger = false := by
    rw [Figure.isInteger, hempty, Bool.false_and]
  refine ⟨_, ⟨hwhole, hne, hleading, hdigits, fun p hp => ?_, fun h => ?_⟩, hinteger, ?_⟩
  · exact absurd hp (Option.not_mem_none p)
  · exact absurd (hinteger.symm.trans h) Bool.false_ne_true
  · rw [Figure.toText, fractionText, hempty]
    exact congrArg (fun t => signText negative ++ (whole ++ t)) (List.append_nil _).symm

/-- Digits with an exponent behind them are a number with an exponent. -/
lemma isFloatText_of_exponent (below : Bool) {power : Text} (hpower : ∀ c ∈ power, c.isDigit = true)
    (hpowerNe : power ≠ []) :
    IsFloatText (signText negative ++ (whole ++ (fractionText digits ++
      exponentText (some (below, power))))) := by
  have hinteger : (Figure.mk negative whole digits (some (below, power))).isInteger = false :=
    Bool.and_false _
  refine ⟨_, ⟨hwhole, hne, hleading, hdigits, fun p hp => ?_, fun h => ?_⟩, hinteger, rfl⟩
  · obtain rfl := Option.mem_some.mp hp
    exact ⟨hpowerNe, hpower⟩
  · exact absurd (hinteger.symm.trans h) Bool.false_ne_true

end

/-- Digits with a point between them are a number with a fraction. -/
lemma isFloatText_of_split (negative : Bool) {digits : Text}
    (hdigits : ∀ c ∈ digits, c.isDigit = true)
    (hleading : digits.head? = some (CodePoint.ofChar '0') → digits = [CodePoint.ofChar '0'])
    {count : Nat} (hcount : 0 < count) (hlong : count < digits.length) :
    IsFloatText (signText negative ++
      (digits.take count ++ (CodePoint.ofChar '.' :: digits.drop count))) := by
  refine isFloatText_of_fraction negative (fun c hc => hdigits c (List.mem_of_mem_take hc)) ?_
    (fun hhead => ?_) (fun c hc => hdigits c (List.mem_of_mem_drop hc)) ?_
  · refine List.ne_nil_of_length_pos ?_
    rw [List.length_take]
    omega
  · rw [List.head?_take, if_neg (Nat.ne_of_gt hcount)] at hhead
    rw [hleading hhead] at hlong
    exact absurd (Nat.lt_of_le_of_lt hcount hlong) (Nat.lt_irrefl 1)
  · refine List.ne_nil_of_length_pos ?_
    rw [List.length_drop]
    omega

/-- Digits with a power of ten behind them are a number with an exponent. -/
lemma isFloatText_of_power (negative : Bool) {c : CodePoint} {more : Text}
    (hdigits : ∀ x ∈ c :: more, x.isDigit = true) (power : Int) :
    IsFloatText (signText negative ++ (c :: (fractionText more ++
      (CodePoint.ofChar 'e' :: Text.ofString (if power < 0 then "-" else "+") ++
        (List.replicate (2 - (Text.ofNat power.natAbs).length) (CodePoint.ofChar '0') ++
          Text.ofNat power.natAbs))))) := by
  have hsign : Text.ofString (if power < 0 then "-" else "+") =
      [if decide (power < 0) = true then CodePoint.ofChar '-' else CodePoint.ofChar '+'] := by
    by_cases h : power < 0
    · rw [if_pos h, decide_eq_true h]; rfl
    · rw [if_neg h, decide_eq_false h]; rfl
  rw [List.forall_mem_cons] at hdigits
  rw [hsign]
  exact @isFloatText_of_exponent negative [c] more (List.forall_mem_singleton.mpr hdigits.1)
    (List.cons_ne_nil _ _) (fun hhead => congrArg (fun x => [x]) (Option.some.inj hhead)) hdigits.2
    (decide (power < 0)) _
    (List.forall_mem_append.mpr ⟨isDigit_of_mem_zeros (2 - (Text.ofNat power.natAbs).length),
      Text.isDigit_of_mem_ofNat power.natAbs⟩)
    (List.append_ne_nil_of_right_ne_nil _ (Text.ofNat_ne_nil _))

/-- A decimal with digits, or too great to be written without exponent, is written as a number with
a fraction or an exponent. -/
lemma isFloatText_toText {d : Decimal} (h : d.digits = 0 → 16 ≤ d.exponent) (negative : Bool) :
    IsFloatText (signText negative ++ d.toText) := by
  have hdigits := Text.isDigit_of_mem_ofNat d.digits
  have hne := Text.ofNat_ne_nil d.digits
  have hleading := @Text.ofNat_of_head? d.digits
  have hzero : Text.ofNat d.digits = [CodePoint.ofChar '0'] → 16 ≤ d.exponent := by
    intro hd
    refine h ?_
    rw [← Text.numeral_ofNat d.digits, hd]
    rfl
  rw [Decimal.toText]
  generalize Text.ofNat d.digits = digits at hdigits hne hleading hzero ⊢
  dsimp only
  split
  · next hrange =>
    rw [Bool.and_eq_true, decide_eq_true_eq, decide_eq_true_eq] at hrange
    split
    · exact @isFloatText_of_fraction negative [CodePoint.ofChar '0'] _
        (List.forall_mem_singleton.mpr rfl) (List.cons_ne_nil _ _) (fun _ => rfl)
        (List.forall_mem_append.mpr ⟨isDigit_of_mem_zeros _, hdigits⟩)
        (List.append_ne_nil_of_right_ne_nil _ hne)
    · split
      · refine @isFloatText_of_fraction negative _ [CodePoint.ofChar '0']
          (List.forall_mem_append.mpr ⟨hdigits, isDigit_of_mem_zeros _⟩)
          (List.append_ne_nil_of_left_ne_nil hne _) (fun hhead => ?_)
          (List.forall_mem_singleton.mpr rfl) (List.cons_ne_nil _ _)
        obtain ⟨c, more, rfl⟩ := List.exists_cons_of_ne_nil hne
        have hgreat := hzero (hleading hhead)
        omega
      · next hlong =>
        rw [List.append_assoc]
        exact isFloatText_of_split negative hdigits hleading (by omega) (Nat.not_le.mp hlong)
  · obtain ⟨c, more, rfl⟩ := List.exists_cons_of_ne_nil hne
    have hpower := isFloatText_of_power negative hdigits
      (d.exponent + (((c :: more).length - 1 : Nat) : Int))
    simp only [List.append_assoc]
    cases more <;> exact hpower

/-- Dropping zeros at the end leaves digits where there were some, and moves on from none. -/
lemma digits_trimmed_ne_zero {d : Decimal} (h : d.digits ≠ 0) (fuel : Nat) :
    (d.trimmed fuel).digits ≠ 0 := by
  induction fuel generalizing d with
  | zero => exact h
  | succ fuel ih =>
    rw [Decimal.trimmed]
    split
    · next hzero =>
      have hpos : d.digits / 10 ≠ 0 := by omega
      exact @ih ⟨d.digits / 10, d.exponent + 1⟩ hpos
    · exact h

/-- A decimal in an interval has digits. -/
lemma digits_ne_zero_of_onGrid? {i : Double.Interval} {exponent : Int} {d : Decimal}
    (h : i.onGrid? exponent = some d) : d.digits ≠ 0 := by
  have hpos {n : Nat} {b : Bool} (h : (decide (0 < n) && b) = true) : n ≠ 0 :=
    Nat.ne_of_gt (of_decide_eq_true (Bool.and_eq_true_iff.mp h).1)
  unfold Double.Interval.onGrid? at h
  dsimp only at h
  split at h
  · next hlower _ =>
    split at h
    · obtain rfl := Option.some.inj h
      exact hpos hlower
    · obtain rfl := Option.some.inj h
      exact Nat.succ_ne_zero _
  · next hlower _ =>
    obtain rfl := Option.some.inj h
    exact hpos hlower
  · obtain rfl := Option.some.inj h
    exact Nat.succ_ne_zero _
  · exact absurd h (Option.some_ne_none d).symm

/-- A search for a decimal finds one with digits, or ends with none. -/
lemma search_digits (i : Double.Interval) (exponent : Int) (fuel : Nat) :
    (i.search exponent fuel).digits ≠ 0 ∨ i.search exponent fuel = ⟨0, 0⟩ := by
  induction fuel generalizing exponent with
  | zero => exact .inr rfl
  | succ fuel ih =>
    rw [Double.Interval.search]
    split
    · next d hd => exact .inl (digits_ne_zero_of_onGrid? hd)
    · exact ih _

/-- The shortest decimal of a double has digits, unless it has been searched for too long. -/
lemma digits_shortest (mantissa : Nat) (exponent : Int)
    (h : (Double.shortest mantissa exponent).digits = 0) :
    16 ≤ (Double.shortest mantissa exponent).exponent := by
  rw [Double.shortest] at h ⊢
  generalize Double.Interval.ofParts mantissa exponent = i at h ⊢
  rcases search_digits i i.leading 24 with hdigits | hnone
  · exact absurd h (digits_trimmed_ne_zero hdigits 24)
  · rw [hnone]
    decide

/-- A finite double is written as a number with a fraction or an exponent. -/
theorem isFloatText_writeDouble (negative : Bool) (mantissa : Nat) (exponent : Int) :
    IsFloatText (writeDouble (.finite negative mantissa exponent)) := by
  have hsign (t : Text) : (if negative = true then CodePoint.ofChar '-' :: t else t) =
      signText negative ++ t := by
    cases negative <;> rfl
  rw [writeDouble, Double.toText, hsign]
  · split
    · exact @isFloatText_of_fraction negative [CodePoint.ofChar '0'] [CodePoint.ofChar '0']
        (List.forall_mem_singleton.mpr rfl)
        (List.cons_ne_nil _ _) (fun _ => rfl) (List.forall_mem_singleton.mpr rfl)
        (List.cons_ne_nil _ _)
    · exact isFloatText_toText (digits_shortest mantissa exponent) negative
  all_goals exact nofun

end Json

end Offside
