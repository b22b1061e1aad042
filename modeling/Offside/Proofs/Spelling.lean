import Mathlib.Data.List.TakeWhile
import Mathlib.Tactic.Lemma
import Offside.Portable

/-!
# How portable literals are spelled

A portable literal is an integer behind a mark for its radix, a decimal number or a string.
`Portable.IsLiteral` is the grammar of these, without a word about how a text is looked through:
a decimal number is a mantissa and a power, and a string is a quote, items and the same quote, where
only a zero behind a backslash looks at what follows it.

The scanner takes the longest integer in front of a text and the digits behind a point, and it takes
the digits of an escape for items of their own.  Each part of it is exact: `isRadixInteger_iff`,
`isDecimal_iff` and `isString_iff`.  Put together, a literal is portable exactly if it belongs to
the grammar (`isPortableLiteral_iff_isLiteral`), so that no line break stands in it or behind it.
-/

namespace Offside

namespace Portable

/-! ## The grammar -/

/-- One or more digits of a class. -/
def AreDigits (isDigit : CodePoint → Bool) (t : Text) : Prop := t ≠ [] ∧ ∀ c ∈ t, isDigit c = true

/-- An integer behind a zero and the mark for its radix, in either case. -/
inductive IsMarked : Text → Prop
  | hexadecimal {mark : CodePoint} {digits : Text} (hmark : mark = 'x' ∨ mark = 'X')
    (hdigits : AreDigits CodePoint.isHexDigit digits) : IsMarked ('0' :: mark :: digits)
  | octal {mark : CodePoint} {digits : Text} (hmark : mark = 'o' ∨ mark = 'O')
    (hdigits : AreDigits CodePoint.isOctalDigit digits) : IsMarked ('0' :: mark :: digits)
  | binary {mark : CodePoint} {digits : Text} (hmark : mark = 'b' ∨ mark = 'B')
    (hdigits : AreDigits CodePoint.isBinaryDigit digits) : IsMarked ('0' :: mark :: digits)

/-- The whole part of a decimal number: zero, or digits that do not begin with zero. -/
inductive IsWhole : Text → Prop
  | zero : IsWhole ['0']
  | digits {d : CodePoint} {more : Text} (hd : d.isDigit = true) (hzero : d ≠ '0')
    (hmore : ∀ c ∈ more, c.isDigit = true) : IsWhole (d :: more)

/-- A decimal number without its power: a whole part, a whole part with a point and any digits, or a
point with one digit at least. -/
inductive IsMantissa : Text → Prop
  | whole {t : Text} (h : IsWhole t) : IsMantissa t
  | point {t fraction : Text} (h : IsWhole t) (hfraction : ∀ c ∈ fraction, c.isDigit = true) :
    IsMantissa (t ++ CodePoint.ofChar '.' :: fraction)
  | fraction {digits : Text} (hdigits : AreDigits CodePoint.isDigit digits) :
    IsMantissa ('.' :: digits)

/-- The power of ten behind a decimal number, if there is one. -/
inductive IsPower : Text → Prop
  | absent : IsPower []
  | exponent {e : CodePoint} {sign digits : Text} (he : e = 'e' ∨ e = 'E')
    (hsign : sign = [] ∨ sign = [CodePoint.ofChar '+'] ∨ sign = [CodePoint.ofChar '-'])
    (hdigits : AreDigits CodePoint.isDigit digits) : IsPower (e :: (sign ++ digits))

/-- An item of a string between quotes, and what stands behind it. -/
inductive IsItem (q : CodePoint) : Text → Text → Prop
  | plain {c : CodePoint} (hquote : c ≠ q) (hslash : c ≠ '\\') (hfeed : c ≠ '\n')
    (hreturn : c ≠ '\r') (behind : Text) : IsItem q [c] behind
  | control {e : CodePoint} (he : e ∈ Text.ofString "\\'\"bfnrtv") (behind : Text) :
    IsItem q ['\\', e] behind
  | zero {behind : Text} (h : ∀ c ∈ behind.head?, c.isDigit = false) : IsItem q ['\\', '0'] behind
  | byte {digits : Text} (hlength : digits.length = 2)
    (hdigits : ∀ d ∈ digits, d.isHexDigit = true) (behind : Text) :
    IsItem q ('\\' :: 'x' :: digits) behind
  | unit {digits : Text} (hlength : digits.length = 4)
    (hdigits : ∀ d ∈ digits, d.isHexDigit = true) (behind : Text) :
    IsItem q ('\\' :: 'u' :: digits) behind

/-- Items and a closing quote. -/
inductive AreItems (q : CodePoint) : Text → Prop
  | quote : AreItems q [q]
  | item {x rest : Text} (hx : IsItem q x rest) (hrest : AreItems q rest) : AreItems q (x ++ rest)

/-- The spelling of a portable literal. -/
inductive IsLiteral : Text → Prop
  | marked {t : Text} (h : IsMarked t) : IsLiteral t
  | decimal {mantissa power : Text} (hmantissa : IsMantissa mantissa) (hpower : IsPower power) :
    IsLiteral (mantissa ++ power)
  | string {q : CodePoint} {rest : Text} (hq : q = '"' ∨ q = '\'') (hrest : AreItems q rest) :
    IsLiteral (q :: rest)

/-! ## Integers behind a mark -/

section

variable {isDigit : CodePoint → Bool} {t : Text}

/-- The whole text is one or more digits. -/
lemma isDigits_iff : isDigits isDigit t = true ↔ AreDigits isDigit t := by
  simp [isDigits, AreDigits]

/-- The scanner takes an integer behind a mark for what it is. -/
theorem isRadixInteger_iff : isRadixInteger t = true ↔ IsMarked t := by
  constructor
  · intro h
    unfold isRadixInteger at h
    split at h
    · next z r digits =>
      simp only [Bool.and_eq_true, Bool.or_eq_true, beq_iff_eq, isDigits_iff, or_assoc] at h
      obtain ⟨rfl, ⟨hmark, hdigits⟩ | ⟨hmark, hdigits⟩ | ⟨hmark, hdigits⟩⟩ := h
      · exact .hexadecimal hmark hdigits
      · exact .octal hmark hdigits
      · exact .binary hmark hdigits
    · exact absurd h Bool.false_ne_true
  · rintro (⟨hmark, hdigits⟩ | ⟨hmark, hdigits⟩ | ⟨hmark, hdigits⟩)
    all_goals
      rw [← isDigits_iff] at hdigits
      rcases hmark with rfl | rfl <;> simp [isRadixInteger, hdigits]

/-! ## Decimal numbers -/

/-- Digits are taken up to what is no digit. -/
lemma dropWhile_append_of_head? {digits rest : Text} (hdigits : ∀ c ∈ digits, isDigit c = true)
    (hrest : ∀ c ∈ rest.head?, isDigit c = false) :
    (digits ++ rest).dropWhile isDigit = rest := by
  rw [List.dropWhile_append_of_pos hdigits]
  cases rest with
  | nil => rfl
  | cons c rest => rw [List.dropWhile_cons_of_neg (by simp [hrest c rfl])]

end

section

variable {t w rest : Text}

/-- What is taken in front of a text is a whole part. -/
lemma exists_whole_of_afterInteger? (h : afterInteger? t = some rest) :
    ∃ w, IsWhole w ∧ t = w ++ rest := by
  unfold afterInteger? at h
  split at h
  · next c more =>
    split at h
    · next hzero =>
      obtain rfl := Option.some.inj h
      exact ⟨[c], by rw [eq_of_beq hzero]; exact .zero, rfl⟩
    · next hzero =>
      split at h
      · next hdigit =>
        obtain rfl := Option.some.inj h
        refine ⟨c :: more.takeWhile CodePoint.isDigit, ?_, ?_⟩
        · exact .digits hdigit (by simpa using hzero) fun x hx => List.mem_takeWhile_imp hx
        · rw [List.cons_append, List.takeWhile_append_dropWhile]
      · exact absurd h nofun
  · exact absurd h nofun

/-- A whole part in front of what is no digit is taken. -/
lemma IsWhole.afterInteger? (hw : IsWhole w) (hrest : ∀ c ∈ rest.head?, c.isDigit = false) :
    afterInteger? (w ++ rest) = some rest := by
  cases hw with
  | zero => rfl
  | @digits d more hd hzero hmore =>
    have hbeq : (d == CodePoint.ofChar '0') = false := by simpa using hzero
    simp [Portable.afterInteger?, hbeq, hd, dropWhile_append_of_head? hmore hrest]

/-- The scanner takes a power for what it is. -/
theorem isExponent_iff : isExponent t = true ↔ IsPower t := by
  constructor
  · intro h
    cases t with
    | nil => exact .absent
    | cons e rest =>
      unfold isExponent at h
      simp only [Bool.and_eq_true, Bool.or_eq_true, beq_iff_eq, isDigits_iff] at h
      obtain ⟨he, hdigits⟩ := h
      cases rest with
      | nil => exact absurd rfl hdigits.1
      | cons s more =>
        dsimp only at hdigits
        split at hdigits
        · next hs =>
          have hsign : [s] = [CodePoint.ofChar '+'] ∨ [s] = [CodePoint.ofChar '-'] :=
            hs.imp (congrArg fun c => [c]) (congrArg fun c => [c])
          exact .exponent he (.inr hsign) hdigits
        · exact @IsPower.exponent e [] (s :: more) he (.inl rfl) hdigits
  · intro h
    cases h with
    | absent => rfl
    | @exponent e sign digits he hsign hdigits =>
      have hletter : (e == CodePoint.ofChar 'e' || e == CodePoint.ofChar 'E') = true := by
        simpa using he
      have hall : isDigits CodePoint.isDigit digits = true := isDigits_iff.mpr hdigits
      rcases hsign with rfl | rfl | rfl
      · obtain ⟨d, more, rfl⟩ := List.exists_cons_of_ne_nil hdigits.1
        have hd : d.isDigit = true := hdigits.2 d List.mem_cons_self
        -- A digit is no sign.
        have hsign : (d == CodePoint.ofChar '+' || d == CodePoint.ofChar '-') = false := by
          cases hsign : d == CodePoint.ofChar '+' || d == CodePoint.ofChar '-' with
          | false => rfl
          | true =>
            rcases Bool.or_eq_true_iff.mp hsign with hs | hs
            · rw [eq_of_beq hs] at hd
              exact absurd hd (by decide)
            · rw [eq_of_beq hs] at hd
              exact absurd hd (by decide)
        simp [isExponent, hletter, hsign, hall]
      · simp [isExponent, hletter, hall]
      · simp [isExponent, hletter, hall]

/-- A power begins with a letter. -/
lemma IsPower.head? (h : IsPower t) : ∀ c ∈ t.head?, c.isDigit = false ∧ c ≠ '.' := by
  cases h with
  | absent => exact nofun
  | exponent he =>
    intro c hc
    obtain rfl := Option.some.inj hc
    rcases he with rfl | rfl <;> decide

/-- A text that is a mantissa with a power is taken for a decimal number. -/
lemma isDecimal_append {mantissa power : Text} (hmantissa : IsMantissa mantissa)
    (hpower : IsPower power) : isDecimal (mantissa ++ power) = true := by
  have hexponent : isExponent power = true := isExponent_iff.mpr hpower
  have hdigit : ∀ c ∈ power.head?, c.isDigit = false := fun c hc => (hpower.head? c hc).1
  cases hmantissa with
  | whole h =>
    unfold isDecimal
    rw [h.afterInteger? hdigit]
    cases power with
    | nil => rfl
    | cons e more =>
      have hpoint : (e == CodePoint.ofChar '.') = false := by simpa using (hpower.head? e rfl).2
      simp [hpoint, hexponent]
  | @point w fraction h hfraction =>
    have hpoint : ∀ c ∈ (CodePoint.ofChar '.' :: (fraction ++ power)).head?, c.isDigit = false := by
      intro c hc
      obtain rfl := Option.some.inj hc
      decide
    unfold isDecimal
    rw [List.append_assoc, List.cons_append, h.afterInteger? hpoint]
    simp [dropWhile_append_of_head? hfraction hdigit, hexponent]
  | @fraction digits hdigits =>
    obtain ⟨d, more, rfl⟩ := List.exists_cons_of_ne_nil hdigits.1
    obtain ⟨hd, hmore⟩ := List.forall_mem_cons.mp hdigits.2
    have hafter : afterDigits? CodePoint.isDigit (d :: more ++ power) = some power := by
      simp [afterDigits?, hd, dropWhile_append_of_head? hmore hdigit]
    have hnone : afterInteger? ('.' :: (d :: more ++ power)) = none := rfl
    rw [List.cons_append, isDecimal, hnone]
    simp only [hafter, Option.any_some, hexponent, beq_self_eq_true, Bool.and_self]

/-- The scanner takes a decimal number for what it is. -/
theorem isDecimal_iff : isDecimal t = true ↔
    ∃ mantissa power, t = mantissa ++ power ∧ IsMantissa mantissa ∧ IsPower power := by
  constructor
  · intro h
    unfold isDecimal at h
    split at h
    · next c rest hafter =>
      obtain ⟨w, hw, rfl⟩ := exists_whole_of_afterInteger? hafter
      split at h
      · next hpoint =>
        refine ⟨w ++ CodePoint.ofChar '.' :: rest.takeWhile CodePoint.isDigit, _, ?_,
          .point hw fun x hx => List.mem_takeWhile_imp hx, isExponent_iff.mp h⟩
        rw [eq_of_beq hpoint, List.append_assoc, List.cons_append,
          List.takeWhile_append_dropWhile]
      · exact ⟨w, _, rfl, .whole hw, isExponent_iff.mp h⟩
    · next hafter =>
      obtain ⟨w, hw, rfl⟩ := exists_whole_of_afterInteger? hafter
      exact ⟨w, [], rfl, .whole hw, .absent⟩
    · cases t with
      | nil => exact absurd h Bool.false_ne_true
      | cons c rest =>
        obtain ⟨hpoint, hrest⟩ := Bool.and_eq_true_iff.mp h
        obtain ⟨power, hafter, hpower⟩ := (Option.any_eq_true _ _).mp hrest
        unfold afterDigits? at hafter
        split at hafter
        · next d digits _ =>
          split at hafter
          · next hd =>
            obtain rfl := Option.some.inj hafter
            refine ⟨c :: d :: digits.takeWhile CodePoint.isDigit, _, ?_, ?_,
              isExponent_iff.mp hpower⟩
            · simp [List.takeWhile_append_dropWhile]
            · rw [eq_of_beq hpoint]
              refine .fraction ⟨List.cons_ne_nil _ _, List.forall_mem_cons.mpr ⟨hd, ?_⟩⟩
              exact fun x hx => List.mem_takeWhile_imp hx
          · exact absurd hafter nofun
        · exact absurd hafter nofun
  · rintro ⟨mantissa, power, rfl, hmantissa, hpower⟩
    exact isDecimal_append hmantissa hpower

end

/-! ## Strings -/

section

variable {q : CodePoint} {t : Text}

/-- A quote is neither a hexadecimal digit nor a backslash. -/
lemma isHexDigit_quote (hq : q = '"' ∨ q = '\'') : q.isHexDigit = false ∧ q ≠ '\\' := by
  rcases hq with rfl | rfl <;> exact ⟨rfl, by decide⟩

/-- What stands for one code point behind a backslash is one of nine. -/
lemma isPlainEscape_iff {e : CodePoint} :
    isPlainEscape e = true ↔ e ∈ Text.ofString "\\'\"bfnrtv" := by
  simp [isPlainEscape, Text.ofString, or_assoc]

/-- Behind hexadecimal digits, which are items by themselves, stand items. -/
lemma AreItems.of_append (hq : q.isHexDigit = false) {digits : Text}
    (hdigits : ∀ d ∈ digits, d.isHexDigit = true) (h : AreItems q (digits ++ t)) :
    AreItems q t := by
  induction digits with
  | nil => exact h
  | cons d digits ih =>
    obtain ⟨hd, hdigits⟩ := List.forall_mem_cons.mp hdigits
    apply ih hdigits
    generalize hs : d :: digits ++ t = s at h
    cases h with
    | quote =>
      obtain ⟨rfl, -⟩ := List.cons.inj hs
      exact absurd (hq.symm.trans hd) Bool.false_ne_true
    | item hx hrest =>
      -- No other item than a plain one begins with a digit.
      cases hx with
      | plain =>
        obtain ⟨-, rfl⟩ := List.cons.inj hs
        exact hrest
      | control | zero | byte | unit =>
        obtain ⟨rfl, -⟩ := List.cons.inj hs
        exact absurd hd (by decide)

/-- Items that begin with hexadecimal digits are cut behind them. -/
lemma AreItems.exists_digits (hq : q.isHexDigit = false) {n : Nat} (h : AreItems q t)
    (hstarts : startsHex n t = true) :
    ∃ digits rest, t = digits ++ rest ∧ digits.length = n ∧
      (∀ d ∈ digits, d.isHexDigit = true) ∧ AreItems q rest := by
  obtain ⟨hlength, hall⟩ := Bool.and_eq_true_iff.mp hstarts
  have hdigits : ∀ d ∈ t.take n, d.isHexDigit = true := List.all_eq_true.mp hall
  rw [← List.take_append_drop n t] at h
  exact ⟨t.take n, t.drop n, (List.take_append_drop n t).symm, eq_of_beq hlength, hdigits,
    h.of_append hq hdigits⟩

/-- What the scanner takes for the rest of a string are items and a quote. -/
lemma areItems_of_isStringRest (hq : q.isHexDigit = false) (t : Text) :
    isStringRest q t = true → AreItems q t := by
  fun_induction isStringRest q t with
  | case1 | case3 | case5 | case10 => exact nofun
  | case2 c rest hc =>
    intro hrest
    rw [eq_of_beq hc, List.isEmpty_iff.mp hrest]
    exact .quote
  | case4 c rest hc hbreak hslash ih =>
    intro hrest
    have hplain : c ≠ '\n' ∧ c ≠ '\r' := by simpa using hbreak
    exact .item (.plain (by simpa using hc) (by simpa using hslash) hplain.1 hplain.2 rest)
      (ih hrest)
  | case6 c _ _ hslash e more he ih =>
    intro hmore
    obtain rfl : c = '\\' := by simpa using hslash
    exact .item (.control (isPlainEscape_iff.mp he) more) (ih hmore)
  | case7 c _ _ hslash e more _ he ih =>
    intro h
    obtain ⟨hdigit, hmore⟩ := Bool.and_eq_true_iff.mp h
    obtain rfl : c = '\\' := by simpa using hslash
    rw [eq_of_beq he]
    have hbehind : ∀ x ∈ more.head?, x.isDigit = false := by
      simpa [Option.any_eq_false] using hdigit
    exact .item (.zero hbehind) (ih hmore)
  | case8 c _ _ hslash e more _ _ he ih =>
    intro h
    obtain ⟨hhex, hmore⟩ := Bool.and_eq_true_iff.mp h
    obtain ⟨digits, rest, rfl, hlength, hdigits, hrest⟩ := (ih hmore).exists_digits hq hhex
    obtain rfl : c = '\\' := by simpa using hslash
    rw [eq_of_beq he]
    exact .item (.byte hlength hdigits rest) hrest
  | case9 c _ _ hslash e more _ _ _ he ih =>
    intro h
    obtain ⟨hhex, hmore⟩ := Bool.and_eq_true_iff.mp h
    obtain ⟨digits, rest, rfl, hlength, hdigits, hrest⟩ := (ih hmore).exists_digits hq hhex
    obtain rfl : c = '\\' := by simpa using hslash
    rw [eq_of_beq he]
    exact .item (.unit hlength hdigits rest) hrest

/-- A code point that stands for itself is taken. -/
lemma isStringRest_plain {c : CodePoint} (hquote : c ≠ q) (hslash : c ≠ '\\') (hfeed : c ≠ '\n')
    (hreturn : c ≠ '\r') (t : Text) : isStringRest q (c :: t) = isStringRest q t := by
  rw [isStringRest.eq_def]
  simp [hquote, hslash, hfeed, hreturn]

/-- Hexadecimal digits are taken one by one. -/
lemma isStringRest_append (hq : q.isHexDigit = false) {digits : Text}
    (hdigits : ∀ d ∈ digits, d.isHexDigit = true) (t : Text) :
    isStringRest q (digits ++ t) = isStringRest q t := by
  induction digits with
  | nil => rfl
  | cons d digits ih =>
    obtain ⟨hd, hdigits⟩ := List.forall_mem_cons.mp hdigits
    have hne {c : CodePoint} (hc : c.isHexDigit = false) : d ≠ c := by
      rintro rfl
      exact absurd (hc.symm.trans hd) Bool.false_ne_true
    rw [List.cons_append, isStringRest_plain (hne hq) (hne rfl) (hne rfl) (hne rfl)]
    exact ih hdigits

/-- A text of so many hexadecimal digits begins with them. -/
lemma startsHex_append {n : Nat} {digits : Text} (hlength : digits.length = n)
    (hdigits : ∀ d ∈ digits, d.isHexDigit = true) (t : Text) :
    startsHex n (digits ++ t) = true := by
  subst hlength
  simpa [startsHex] using hdigits

/-- A backslash begins an escape. -/
lemma isStringRest_escape (hslash : q ≠ '\\') (e : CodePoint) (t : Text) :
    isStringRest q ('\\' :: e :: t) =
      if isPlainEscape e then isStringRest q t
      else if e == '0' then !(t.head?.any CodePoint.isDigit) && isStringRest q t
      else if e == 'x' then startsHex 2 t && isStringRest q t
      else if e == 'u' then startsHex 4 t && isStringRest q t
      else false := by
  have hquote : (CodePoint.ofChar '\\' == q) = false := by simpa using hslash.symm
  rw [isStringRest.eq_def]
  simp only [hquote]
  rfl

/-- An item in front of a text is taken. -/
lemma IsItem.isStringRest_append {x : Text} (hquote : q.isHexDigit = false) (hslash : q ≠ '\\')
    (hx : IsItem q x t) (ht : isStringRest q t = true) : isStringRest q (x ++ t) = true := by
  cases hx with
  | plain hquote hslash hfeed hreturn =>
    exact (isStringRest_plain hquote hslash hfeed hreturn t).trans ht
  | @control e he =>
    have he : isPlainEscape e = true := isPlainEscape_iff.mpr he
    exact (isStringRest_escape hslash e t).trans (by rw [if_pos he, ht])
  | zero hdigit =>
    have hnone : t.head?.any CodePoint.isDigit = false := by
      simpa [Option.any_eq_false] using hdigit
    refine (isStringRest_escape hslash '0' t).trans ?_
    rw [hnone, ht]
    rfl
  | @byte digits hlength hdigits =>
    refine (isStringRest_escape hslash 'x' (digits ++ t)).trans ?_
    rw [startsHex_append hlength hdigits, Portable.isStringRest_append hquote hdigits, ht]
    rfl
  | @unit digits hlength hdigits =>
    refine (isStringRest_escape hslash 'u' (digits ++ t)).trans ?_
    rw [startsHex_append hlength hdigits, Portable.isStringRest_append hquote hdigits, ht]
    rfl

/-- The scanner takes a string for what it is. -/
theorem isString_iff : isString t = true ↔
    ∃ q rest, t = q :: rest ∧ (q = '"' ∨ q = '\'') ∧ AreItems q rest := by
  constructor
  · intro h
    cases t with
    | nil => exact absurd h Bool.false_ne_true
    | cons q rest =>
      obtain ⟨hq, hrest⟩ := Bool.and_eq_true_iff.mp h
      have hquote : q = '"' ∨ q = '\'' := (Bool.or_eq_true_iff.mp hq).imp eq_of_beq eq_of_beq
      exact ⟨q, rest, rfl, hquote, areItems_of_isStringRest (isHexDigit_quote hquote).1 rest hrest⟩
  · rintro ⟨q, rest, rfl, hquote, hitems⟩
    obtain ⟨hdigit, hslash⟩ := isHexDigit_quote hquote
    have hrest : isStringRest q rest = true := by
      induction hitems with
      | quote => simp [isStringRest]
      | item hx _ ih => exact hx.isStringRest_append hdigit hslash ih
    have hq : (q == CodePoint.ofChar '"' || q == CodePoint.ofChar '\'') = true := by
      simpa using hquote
    rw [isString, hq, hrest]
    rfl

end

/-! ## Literals -/

/-- A code point that does not break a line. -/
def IsStill (c : CodePoint) : Prop := c ≠ '\n' ∧ c ≠ '\r'

section

variable {t : Text}

/-- The code points of a class without line breaks break no line. -/
lemma isStill_of_forall {isDigit : CodePoint → Bool} (h : ∀ c ∈ t, isDigit c = true)
    (hfeed : isDigit '\n' = false) (hreturn : isDigit '\r' = false) : ∀ c ∈ t, IsStill c := by
  intro c hc
  constructor
  · rintro rfl
    exact absurd (hfeed.symm.trans (h _ hc)) Bool.false_ne_true
  · rintro rfl
    exact absurd (hreturn.symm.trans (h _ hc)) Bool.false_ne_true

/-- An integer behind a mark stands on one line. -/
lemma IsMarked.isStill (h : IsMarked t) : ∀ c ∈ t, IsStill c := by
  have hzero : IsStill '0' := ⟨by decide, by decide⟩
  have hletter {mark x y : CodePoint} (hx : IsStill x) (hy : IsStill y)
      (h : mark = x ∨ mark = y) : IsStill mark := by
    rcases h with rfl | rfl
    · exact hx
    · exact hy
  cases h with
  | hexadecimal hmark hdigits =>
    have hmark := hletter ⟨by decide, by decide⟩ ⟨by decide, by decide⟩ hmark
    exact List.forall_mem_cons.mpr ⟨hzero, List.forall_mem_cons.mpr
      ⟨hmark, isStill_of_forall hdigits.2 rfl rfl⟩⟩
  | octal hmark hdigits =>
    have hmark := hletter ⟨by decide, by decide⟩ ⟨by decide, by decide⟩ hmark
    exact List.forall_mem_cons.mpr ⟨hzero, List.forall_mem_cons.mpr
      ⟨hmark, isStill_of_forall hdigits.2 rfl rfl⟩⟩
  | binary hmark hdigits =>
    have hmark := hletter ⟨by decide, by decide⟩ ⟨by decide, by decide⟩ hmark
    exact List.forall_mem_cons.mpr ⟨hzero, List.forall_mem_cons.mpr
      ⟨hmark, isStill_of_forall hdigits.2 rfl rfl⟩⟩

/-- A whole part has a digit. -/
lemma IsWhole.ne_nil (h : IsWhole t) : t ≠ [] := by
  cases h <;> exact List.cons_ne_nil _ _

/-- A whole part is made of digits. -/
lemma IsWhole.isDigit (h : IsWhole t) : ∀ c ∈ t, c.isDigit = true := by
  cases h with
  | zero => exact List.forall_mem_singleton.mpr rfl
  | digits hd _ hmore => exact List.forall_mem_cons.mpr ⟨hd, hmore⟩

/-- A mantissa stands on one line. -/
lemma IsMantissa.isStill (h : IsMantissa t) : ∀ c ∈ t, IsStill c := by
  have hpoint : IsStill '.' := ⟨by decide, by decide⟩
  cases h with
  | whole h => exact isStill_of_forall h.isDigit rfl rfl
  | point h hfraction =>
    exact List.forall_mem_append.mpr ⟨isStill_of_forall h.isDigit rfl rfl,
      List.forall_mem_cons.mpr ⟨hpoint, isStill_of_forall hfraction rfl rfl⟩⟩
  | fraction hdigits =>
    exact List.forall_mem_cons.mpr ⟨hpoint, isStill_of_forall hdigits.2 rfl rfl⟩

/-- A power stands on one line. -/
lemma IsPower.isStill (h : IsPower t) : ∀ c ∈ t, IsStill c := by
  cases h with
  | absent => exact nofun
  | @exponent e sign digits he hsign hdigits =>
    have hletter : IsStill e := by rcases he with rfl | rfl <;> exact ⟨by decide, by decide⟩
    have hmark : ∀ c ∈ sign, IsStill c := by
      rcases hsign with rfl | rfl | rfl
      · exact nofun
      · exact List.forall_mem_singleton.mpr ⟨by decide, by decide⟩
      · exact List.forall_mem_singleton.mpr ⟨by decide, by decide⟩
    exact List.forall_mem_cons.mpr ⟨hletter, List.forall_mem_append.mpr
      ⟨hmark, isStill_of_forall hdigits.2 rfl rfl⟩⟩

/-- An item stands on one line. -/
lemma IsItem.isStill {q : CodePoint} {x : Text} (h : IsItem q x t) : ∀ c ∈ x, IsStill c := by
  have hslash : IsStill '\\' := ⟨by decide, by decide⟩
  cases h with
  | plain _ _ hfeed hreturn => exact List.forall_mem_singleton.mpr ⟨hfeed, hreturn⟩
  | control he =>
    have hnine : ∀ c ∈ Text.ofString "\\'\"bfnrtv", IsStill c := by
      unfold IsStill
      decide
    exact List.forall_mem_cons.mpr ⟨hslash, List.forall_mem_singleton.mpr (hnine _ he)⟩
  | zero =>
    exact List.forall_mem_cons.mpr
      ⟨hslash, List.forall_mem_singleton.mpr ⟨by decide, by decide⟩⟩
  | byte _ hdigits | unit _ hdigits =>
    exact List.forall_mem_cons.mpr ⟨hslash, List.forall_mem_cons.mpr
      ⟨⟨by decide, by decide⟩, isStill_of_forall hdigits rfl rfl⟩⟩

/-- Items stand on one line with their quote. -/
lemma AreItems.isStill {q : CodePoint} (hq : IsStill q) (h : AreItems q t) :
    ∀ c ∈ t, IsStill c := by
  induction h with
  | quote => exact List.forall_mem_singleton.mpr hq
  | item hx _ ih => exact List.forall_mem_append.mpr ⟨hx.isStill, ih⟩

/-- A literal of the grammar stands on one line. -/
theorem IsLiteral.isStill (h : IsLiteral t) : ∀ c ∈ t, IsStill c := by
  cases h with
  | marked h => exact h.isStill
  | decimal hmantissa hpower =>
    exact List.forall_mem_append.mpr ⟨hmantissa.isStill, hpower.isStill⟩
  | @string q _ hq hrest =>
    have hquote : IsStill q := by rcases hq with rfl | rfl <;> exact ⟨by decide, by decide⟩
    exact List.forall_mem_cons.mpr ⟨hquote, hrest.isStill hquote⟩

/-- The three sorts of literals, each as its part of the scanner takes it. -/
lemma isLiteral_iff : IsLiteral t ↔
    isRadixInteger t = true ∨ isDecimal t = true ∨ isString t = true := by
  rw [isRadixInteger_iff, isDecimal_iff, isString_iff]
  constructor
  · intro h
    cases h with
    | marked h => exact .inl h
    | decimal hmantissa hpower => exact .inr (.inl ⟨_, _, rfl, hmantissa, hpower⟩)
    | string hq hrest => exact .inr (.inr ⟨_, _, rfl, hq, hrest⟩)
  · rintro (h | ⟨mantissa, power, rfl, hmantissa, hpower⟩ | ⟨q, rest, rfl, hq, hrest⟩)
    · exact .marked h
    · exact .decimal hmantissa hpower
    · exact .string hq hrest

/-- A literal is portable exactly if the grammar has it.  So no line break stands in a portable
literal, and none is put up with behind one. -/
theorem isPortableLiteral_iff_isLiteral (raw : Text) :
    (isPortableLiteral raw = true ↔ IsLiteral raw) ∧
      (isPortableLiteral raw = true → CodePoint.ofChar '\n' ∉ raw ∧ CodePoint.ofChar '\r' ∉ raw) ∧
      ∀ suffix : Text, CodePoint.ofChar '\n' ∈ suffix ∨ CodePoint.ofChar '\r' ∈ suffix →
        isPortableLiteral (raw ++ suffix) = false := by
  have hiff (t : Text) : isPortableLiteral t = true ↔ IsLiteral t := by
    rw [isLiteral_iff, isPortableLiteral, Bool.or_eq_true, Bool.or_eq_true, or_assoc]
  have hstill {t : Text} (h : isPortableLiteral t = true) :
      CodePoint.ofChar '\n' ∉ t ∧ CodePoint.ofChar '\r' ∉ t := by
    have hall := ((hiff t).mp h).isStill
    exact ⟨fun hfeed => (hall _ hfeed).1 rfl, fun hreturn => (hall _ hreturn).2 rfl⟩
  refine ⟨hiff raw, hstill, fun suffix hsuffix => ?_⟩
  cases h : isPortableLiteral (raw ++ suffix) with
  | false => rfl
  | true =>
    obtain ⟨hfeed, hreturn⟩ := hstill h
    rcases hsuffix with hmem | hmem
    · exact absurd (List.mem_append_right raw hmem) hfeed
    · exact absurd (List.mem_append_right raw hmem) hreturn

/-- A leading zero ends an integer, a point needs a digit beside it, and a zero behind a backslash
looks at what follows. -/
example : (["0", "08", "0.", ".", ".5e-3", "0x", "'\\0'", "'\\08'", "1\n"].map fun raw =>
    isPortableLiteral (Text.ofString raw)) =
      [true, false, true, false, true, false, true, false, false] := by
  decide +kernel

end

end Portable

end Offside
