import Mathlib.Data.List.TakeWhile
import Offside.Portable
import Offside.Proofs.Rounding

/-!
# What integers stand for

An integer literal is written in decimal or, behind a mark, in another radix.  The language that is
converted to reads it as the integer that it writes, however great that is.  The language that is
converted knows no integers: it reads the nearest double.

Every portable literal that begins with a digit and has no point and no exponent is such an integer,
so that both languages read the same exactly if the double is exact,
`Portable.integers_read_alike_iff`.  This is so up to the first number with more than 53 bits; the
number behind it is portable and not read alike, `Portable.portable_integer_rounded`.
-/

namespace Offside

namespace Portable

/-! ## Reading an integer -/

/-- The number that digits of a radix write. -/
def natural? (radix : Nat) (isDigit : CodePoint → Bool) (t : Text) : Option Nat :=
  if isDigits isDigit t then some (Text.numeral radix t) else none

/-- The number that an integer literal writes.  A decimal one does not begin with a zero unless it
is made of zeros. -/
def integer? : Text → Option Nat
  | z :: r :: digits =>
    if z == '0' && (r == 'x' || r == 'X') then natural? 16 CodePoint.isHexDigit digits
    else if z == '0' && (r == 'o' || r == 'O') then natural? 8 CodePoint.isOctalDigit digits
    else if z == '0' && (r == 'b' || r == 'B') then natural? 2 CodePoint.isBinaryDigit digits
    else if z == '0' && !((r :: digits).all (· == CodePoint.ofChar '0')) then none
    else natural? 10 CodePoint.isDigit (z :: r :: digits)
  | t => natural? 10 CodePoint.isDigit t

/-- Digits write a number. -/
lemma natural?_eq {isDigit : CodePoint → Bool} {t : Text} (radix : Nat)
    (h : isDigits isDigit t = true) : natural? radix isDigit t = some (Text.numeral radix t) :=
  if_pos h

/-- A portable integer behind a mark writes a number. -/
lemma exists_integer?_of_isRadixInteger {raw : Text} (h : isRadixInteger raw = true) :
    ∃ n, integer? raw = some n := by
  match raw, h with
  | z :: r :: digits, h =>
    obtain ⟨hz, h⟩ := Bool.and_eq_true_iff.mp h
    rw [eq_of_beq hz]
    rcases Bool.or_eq_true_iff.mp h with h | h
    · rcases Bool.or_eq_true_iff.mp h with h | h <;>
      · obtain ⟨hr, hdigits⟩ := Bool.and_eq_true_iff.mp h
        rcases Bool.or_eq_true_iff.mp hr with hr | hr <;>
        · rw [eq_of_beq hr]
          exact ⟨_, natural?_eq _ hdigits⟩
    · obtain ⟨hr, hdigits⟩ := Bool.and_eq_true_iff.mp h
      rcases Bool.or_eq_true_iff.mp hr with hr | hr <;>
      · rw [eq_of_beq hr]
        exact ⟨_, natural?_eq _ hdigits⟩

/-- What is left behind the integer in front of a text is a part of the text. -/
lemma mem_of_afterInteger? {t s : Text} (h : afterInteger? t = some s) : ∀ c ∈ s, c ∈ t := by
  cases t with
  | nil => exact absurd h nofun
  | cons c rest =>
    rw [afterInteger?] at h
    split at h
    · rw [← Option.some.inj h]
      exact fun x hx => List.mem_cons_of_mem c hx
    · split at h
      · rw [← Option.some.inj h]
        exact fun x hx => List.mem_cons_of_mem c ((List.dropWhile_suffix _).subset hx)
      · exact absurd h nofun

/-- A text that is an integer as a whole writes a number. -/
lemma exists_integer?_of_afterInteger? {t : Text} (h : afterInteger? t = some []) :
    ∃ n, integer? t = some n := by
  cases t with
  | nil => exact absurd h nofun
  | cons c rest =>
    rw [afterInteger?] at h
    split at h
    · next hc =>
      rw [Option.some.inj h, eq_of_beq hc]
      exact ⟨0, rfl⟩
    · next hc =>
      split at h
      · next hdigit =>
        have hrest : ∀ x ∈ rest, x.isDigit = true :=
          List.dropWhile_eq_nil_iff.mp (Option.some.inj h)
        have hdigits : isDigits CodePoint.isDigit (c :: rest) = true :=
          List.all_eq_true.mpr (List.forall_mem_cons.mpr ⟨hdigit, hrest⟩)
        refine ⟨Text.numeral 10 (c :: rest), ?_⟩
        have hzero : (c == '0') = false := Bool.eq_false_iff.mpr hc
        cases rest with
        | nil => exact natural?_eq 10 hdigits
        | cons d more =>
          rw [integer?]
          simp only [hzero, Bool.false_and, Bool.false_eq_true, if_false]
          exact natural?_eq 10 hdigits
      · exact absurd h nofun

/-- A portable decimal number that begins with a digit and has no point and no exponent writes a
number. -/
lemma exists_integer?_of_isDecimal {raw : Text} (h : isDecimal raw = true)
    (hdigit : raw.head?.any CodePoint.isDigit = true) (hpoint : CodePoint.ofChar '.' ∉ raw)
    (hexponent : CodePoint.ofChar 'e' ∉ raw ∧ CodePoint.ofChar 'E' ∉ raw) :
    ∃ n, integer? raw = some n := by
  unfold isDecimal at h
  split at h
  · next c rest hafter =>
    have hmem : c ∈ raw := mem_of_afterInteger? hafter c List.mem_cons_self
    split at h
    · next hc => exact absurd (eq_of_beq hc ▸ hmem) hpoint
    · have he := (Bool.and_eq_true_iff.mp h).1
      rcases Bool.or_eq_true_iff.mp he with he | he
      · exact absurd (eq_of_beq he ▸ hmem) hexponent.1
      · exact absurd (eq_of_beq he ▸ hmem) hexponent.2
  · next hafter => exact exists_integer?_of_afterInteger? hafter
  · next hafter =>
    -- A digit is at least an integer by itself.
    cases raw with
    | nil => exact absurd hdigit Bool.false_ne_true
    | cons c rest =>
      have hc : c.isDigit = true := hdigit
      rw [afterInteger?, hc] at hafter
      split at hafter <;> exact absurd hafter nofun

/-- A portable literal that begins with a digit and has no point and no exponent writes a number. -/
lemma exists_integer? {raw : Text} (hportable : isPortableLiteral raw = true)
    (hdigit : raw.head?.any CodePoint.isDigit = true) (hpoint : CodePoint.ofChar '.' ∉ raw)
    (hexponent : isRadixInteger raw = true ∨
      CodePoint.ofChar 'e' ∉ raw ∧ CodePoint.ofChar 'E' ∉ raw) :
    ∃ n, integer? raw = some n := by
  rcases hexponent with hradix | hexponent
  · exact exists_integer?_of_isRadixInteger hradix
  · rcases Bool.or_eq_true_iff.mp hportable with h | h
    · rcases Bool.or_eq_true_iff.mp h with h | h
      · exact exists_integer?_of_isRadixInteger h
      · exact exists_integer?_of_isDecimal h hdigit hpoint hexponent
    · -- A quote is no digit.
      cases raw with
      | nil => exact absurd h Bool.false_ne_true
      | cons q rest =>
        obtain ⟨hq, -⟩ := Bool.and_eq_true_iff.mp h
        rcases Bool.or_eq_true_iff.mp hq with hq | hq <;>
        · rw [eq_of_beq hq] at hdigit
          exact absurd hdigit Bool.false_ne_true

/-! ## Integers that are read alike -/

/-- A portable integer literal writes an integer, which one language reads as it is and the other
one as the nearest double.  Both read the same exactly if the mantissa of the integer has at most 53
bits and the integer is less than all powers of two that are no doubles; up to the first number with
more bits this is always so. -/
theorem integers_read_alike_iff {raw : Text} (hportable : isPortableLiteral raw = true)
    (hdigit : raw.head?.any CodePoint.isDigit = true) (hpoint : CodePoint.ofChar '.' ∉ raw)
    (hexponent : isRadixInteger raw = true ∨
      CodePoint.ofChar 'e' ∉ raw ∧ CodePoint.ofChar 'E' ∉ raw) :
    ∃ n : Nat, integer? raw = some n ∧ (Double.ofInt n).IsNearest n ∧
      ((Double.ofInt n).toInt? = some (n : Int) ↔ IsShort n ∧ n < 2 ^ 1024) ∧
      (n ≤ 2 ^ 53 → (Double.ofInt n).toInt? = some (n : Int)) := by
  obtain ⟨n, hn⟩ := exists_integer? hportable hdigit hpoint hexponent
  refine ⟨n, hn, Double.isNearest_ofInt n, Double.toInt?_ofInt_iff n, fun hle => ?_⟩
  have hless : n < 2 ^ 1024 := hle.trans_lt (by decide +kernel)
  exact (Double.toInt?_ofInt_iff n).mpr ⟨isShort_of_le hle, hless⟩

/-- An integer with more than 53 bits whose mantissa has fewer. -/
theorem integers_read_alike_beyond :
    let raw : Text := "0x20000000000002"
    isPortableLiteral raw = true ∧ raw.head?.any CodePoint.isDigit = true ∧
      CodePoint.ofChar '.' ∉ raw ∧ isRadixInteger raw = true ∧
      integer? raw = some (2 ^ 53 + 2) ∧
      (Double.ofInt (2 ^ 53 + 2 : Nat)).toInt? = some ((2 ^ 53 + 2 : Nat) : Int) := by
  intro raw
  have hportable : isPortableLiteral raw = true := by decide +kernel
  have hdigit : raw.head?.any CodePoint.isDigit = true := by decide +kernel
  have hpoint : CodePoint.ofChar '.' ∉ raw := by decide +kernel
  have hradix : isRadixInteger raw = true := by decide +kernel
  have hvalue : integer? raw = some (2 ^ 53 + 2) := by decide +kernel
  obtain ⟨n, hn, -, hiff, -⟩ := integers_read_alike_iff hportable hdigit hpoint (.inl hradix)
  obtain rfl : n = 2 ^ 53 + 2 := Option.some.inj (hn.symm.trans hvalue)
  have hshort : IsShort ((2 ^ 53 + 2 : Nat) : ℚ) := ⟨2 ^ 52 + 1, 1, by norm_num, by norm_num⟩
  exact ⟨hportable, hdigit, hpoint, hradix, hvalue,
    hiff.mpr ⟨hshort, by decide +kernel⟩⟩

/-- The first integer that is no double is portable, but it is read as the one in front of it. -/
theorem portable_integer_rounded :
    let raw : Text := "9007199254740993"
    isPortableLiteral raw = true ∧ integer? raw = some (2 ^ 53 + 1) ∧
      (Double.ofInt (2 ^ 53 + 1 : Nat)).toInt? = some (2 ^ 53) := by
  intro raw
  exact ⟨by decide +kernel, by decide +kernel, by decide +kernel⟩

end Portable

end Offside
