import Mathlib.Algebra.Order.Field.Power
import Mathlib.Data.Nat.Log
import Mathlib.Data.Rat.Cast.Order
import Mathlib.Tactic.Linarith
import Mathlib.Tactic.NormNum
import Mathlib.Tactic.Positivity
import Mathlib.Tactic.Ring
import Offside.Number.Double

/-!
# Integers as doubles

The double that is made of a natural number is the nearest one, and half way the one with the even
mantissa.  Rounding is described here without the way in which it is computed: among all numbers
whose mantissa has at most 53 bits, whatever their power of two is, it takes one that is nearest
(`IsRounding`), and what it takes is a double unless it is too great, when the double is infinite
(`Double.IsNearest`).

`Double.isNearest_ofInt` says this of the conversion.  Hence a natural number is kept exactly if its
mantissa has at most 53 bits and it is less than the first power of two that is no double
(`Double.toInt?_ofInt_iff`).

A negative integer is converted like its distance from zero.  So one may count from a double up to
another one without leaving out an integer exactly if neither has more than 53 bits, but for the
first numbers with more (`Double.forall_isKept_iff`); to add one to a double is to take the double
nearest to the next integer (`Double.addInt_one`).
-/

namespace Offside

/-! ## Rounding -/

/-- A number whose mantissa has at most 53 bits. -/
def IsShort (y : ℚ) : Prop := ∃ (m e : ℤ), |m| < 2 ^ 53 ∧ y = m * 2 ^ e

/-- Up to the first number with more, a natural number has a mantissa of at most 53 bits. -/
lemma isShort_of_le {n : Nat} (h : n ≤ 2 ^ 53) : IsShort n := by
  rcases h.lt_or_eq with hless | rfl
  · refine ⟨n, 0, ?_, ?_⟩
    · rw [Nat.abs_cast]
      exact_mod_cast hless
    · rw [zpow_zero, mul_one]
      rfl
  · exact ⟨1, 53, by norm_num, by norm_num⟩

/-- A number is rounded to a nearest one with at most 53 bits, which has an even mantissa if another
one is as near. -/
structure IsRounding (x r : ℚ) : Prop where
  isShort : IsShort r
  nearest : ∀ y, IsShort y → |r - x| ≤ |y - x|
  even : ∀ y, IsShort y → |y - x| = |r - x| → y ≠ r →
    ∃ m e : ℤ, Even m ∧ 2 ^ 52 ≤ |m| ∧ |m| < 2 ^ 53 ∧ r = m * 2 ^ e

namespace Double

/-- The number that a finite double is. -/
def value? : Double → Option ℚ
  | .finite negative mantissa exponent =>
    some ((if negative then -1 else 1) * mantissa * 2 ^ exponent)
  | _ => none

/-- A double is the nearest one to a natural number: the number that this is rounded to, or infinite
if that is too great. -/
def IsNearest (n : ℕ) (x : Double) : Prop :=
  ∃ r : ℚ, IsRounding n r ∧
    ((r < 2 ^ 1024 ∧ x.value? = some r) ∨ (2 ^ 1024 ≤ r ∧ x = .infinite false))

/-! ## The nearest multiple -/

section

variable {n d : ℕ}

/-- A ratio is rounded down or up, and not by more than a half. -/
lemma nearest_cases (n d : ℕ) :
    (nearest n d = n / d ∧ 2 * (n % d) ≤ d) ∨ (nearest n d = n / d + 1 ∧ d ≤ 2 * (n % d)) := by
  unfold nearest
  dsimp only
  split
  · exact .inl ⟨rfl, by omega⟩
  · split
    · exact .inr ⟨rfl, by omega⟩
    · rcases Nat.mod_two_eq_zero_or_one (n / d) with h | h <;> rw [h]
      · exact .inl ⟨rfl, by omega⟩
      · exact .inr ⟨rfl, by omega⟩

/-- Half way, the even integer is taken. -/
lemma nearest_even (h : 2 * (n % d) = d) : nearest n d % 2 = 0 := by
  unfold nearest
  dsimp only
  rw [if_neg (by omega), if_neg (by omega)]
  omega

/-- A natural number is the nearest one to itself. -/
lemma nearest_one (n : ℕ) : nearest n 1 = n := by
  obtain ⟨hq, -⟩ | ⟨-, hr⟩ := nearest_cases n 1
  · rw [hq, Nat.div_one]
  · rw [Nat.mod_one] at hr
    omega

/-- No multiple is nearer to a number than the one that it is rounded to, and if another one is as
near, then it is half way. -/
lemma nearest_spec (hd : 0 < d) (j : ℤ) :
    |(nearest n d * d : ℤ) - n| ≤ |j * d - n| ∧
      (|j * d - n| = |(nearest n d * d : ℤ) - n| → j ≠ nearest n d → 2 * (n % d) = d) := by
  have hn : ((n / d : ℕ) : ℤ) * d + (n % d : ℕ) = n := by
    rw [mul_comm]
    exact_mod_cast Nat.div_add_mod n d
  have hless : n % d < d := Nat.mod_lt n hd
  have hup : ((n / d : ℕ) + 1 : ℤ) * d = (n / d : ℕ) * d + d := by ring
  -- All multiples but the two around the number are further away than one of these.
  have hj : j * d ≤ (n / d : ℕ) * d - d ∨ j = (n / d : ℕ) ∨ j = (n / d : ℕ) + 1 ∨
      (n / d : ℕ) * d + 2 * d ≤ j * d := by
    have hpos : (0 : ℤ) ≤ d := Int.natCast_nonneg d
    rcases lt_trichotomy j (n / d : ℕ) with h | h | h
    · have hle := mul_le_mul_of_nonneg_right (Int.le_sub_one_of_lt h) hpos
      exact .inl (by linarith)
    · exact .inr (.inl h)
    · rcases (Int.add_one_le_of_lt h).eq_or_lt with h | h
      · exact .inr (.inr (.inl h.symm))
      · have hle := mul_le_mul_of_nonneg_right (Int.add_one_le_of_lt h) hpos
        exact .inr (.inr (.inr (by linarith)))
  simp only [Int.abs_eq_natAbs]
  obtain ⟨hq, hhalf⟩ | ⟨hq, hhalf⟩ := nearest_cases n d
  · rw [hq]
    rcases hj with h | rfl | rfl | h
    · omega
    · omega
    · rw [hup]
      omega
    · omega
  · rw [hq, Nat.cast_add, Nat.cast_one, hup]
    rcases hj with h | rfl | rfl | h
    · omega
    · omega
    · rw [hup]
      omega
    · omega

end

/-! ## Rounding natural numbers -/

/-- The last place of a natural number with a mantissa of 53 bits, as a power of two. -/
def lastPlace (n : ℕ) : ℕ := n.log2 - 52

/-- The number that a natural number is rounded to. -/
def rounded (n : ℕ) : ℕ := nearest n (2 ^ lastPlace n) * 2 ^ lastPlace n

section

variable {n : ℕ}

/-- In front of its last place, a natural number has less than 54 bits. -/
lemma lt_of_lastPlace (n : ℕ) : n < 2 ^ 53 * 2 ^ lastPlace n := by
  have hlog : n < 2 ^ (n.log2 + 1) := Nat.lt_log2_self
  have hpow : 2 ^ (n.log2 + 1) ≤ 2 ^ (53 + lastPlace n) :=
    Nat.pow_le_pow_right (by decide) (by unfold lastPlace; omega)
  rw [← pow_add]
  exact hlog.trans_le hpow

/-- In front of its last place, a natural number has 53 bits unless this is the last of all. -/
lemma le_of_lastPlace (h : lastPlace n ≠ 0) : 2 ^ 52 * 2 ^ lastPlace n ≤ n := by
  have hlog : 52 + lastPlace n = n.log2 := by unfold lastPlace at h ⊢; omega
  have hn : n ≠ 0 := by
    rintro rfl
    exact h rfl
  rw [← pow_add, hlog]
  exact Nat.log2_self_le hn

/-- A natural number of at most 53 bits is rounded to itself. -/
lemma rounded_eq_self (h : lastPlace n = 0) : rounded n = n := by
  rw [rounded, h, pow_zero, nearest_one, mul_one]

/-- The mantissa has at most 53 bits, or is the first number with more. -/
lemma nearest_le (n : ℕ) : nearest n (2 ^ lastPlace n) ≤ 2 ^ 53 := by
  have hdiv : n / 2 ^ lastPlace n < 2 ^ 53 :=
    (Nat.div_lt_iff_lt_mul (by positivity)).mpr (lt_of_lastPlace n)
  obtain ⟨hq, -⟩ | ⟨hq, -⟩ := nearest_cases n (2 ^ lastPlace n) <;> omega

/-- The mantissa has 53 bits unless the last place is the last of all. -/
lemma le_nearest (h : lastPlace n ≠ 0) : 2 ^ 52 ≤ nearest n (2 ^ lastPlace n) := by
  have hdiv : 2 ^ 52 ≤ n / 2 ^ lastPlace n :=
    (Nat.le_div_iff_mul_le (by positivity)).mpr (le_of_lastPlace h)
  obtain ⟨hq, -⟩ | ⟨hq, -⟩ := nearest_cases n (2 ^ lastPlace n) <;> omega

/-- A natural number with more than 53 bits is rounded to one with a mantissa of 53 bits, which is
even if the nearest integer of last places is. -/
lemma exists_mantissa (h : lastPlace n ≠ 0) : ∃ m e : ℤ,
    (nearest n (2 ^ lastPlace n) % 2 = 0 → Even m) ∧ 2 ^ 52 ≤ |m| ∧ |m| < 2 ^ 53 ∧
      (rounded n : ℚ) = m * 2 ^ e := by
  have hleast := le_nearest h
  rcases (nearest_le n).lt_or_eq with hless | htop
  · refine ⟨nearest n (2 ^ lastPlace n), lastPlace n, fun heven => ?_, ?_, ?_, ?_⟩
    · exact_mod_cast Nat.even_iff.mpr heven
    · rw [Nat.abs_cast]
      exact_mod_cast hleast
    · rw [Nat.abs_cast]
      exact_mod_cast hless
    · rw [rounded, zpow_natCast]
      push_cast
      rfl
  · -- The mantissa has one bit too many, but ends in zeros.
    refine ⟨2 ^ 52, lastPlace n + 1, fun _ => by decide, by norm_num, by norm_num, ?_⟩
    rw [rounded, htop, zpow_add₀ (by norm_num), zpow_natCast]
    push_cast
    ring

/-- What a natural number is rounded to has at most 53 bits. -/
lemma isShort_rounded (n : ℕ) : IsShort (rounded n) := by
  by_cases h : lastPlace n = 0
  · have hless := lt_of_lastPlace n
    rw [h, pow_zero, mul_one] at hless
    refine ⟨n, 0, ?_, ?_⟩
    · rw [Nat.abs_cast]
      exact_mod_cast hless
    · rw [rounded_eq_self h, zpow_zero, mul_one]
      rfl
  · obtain ⟨m, e, -, -, hm, hr⟩ := exists_mantissa h
    exact ⟨m, e, hm, hr⟩

/-- A number with at most 53 bits is a multiple of a power of two, or less than this power with 52
places in front. -/
lemma multiple_or_less {y : ℚ} (hy : IsShort y) (k : ℕ) :
    (∃ j : ℤ, y = j * (2 ^ k : ℕ)) ∨ |y| < 2 ^ 52 * (2 ^ k : ℕ) := by
  obtain ⟨m, e, hm, rfl⟩ := hy
  rcases le_or_gt (k : ℤ) e with h | h
  · refine .inl ⟨m * 2 ^ (e - k).toNat, ?_⟩
    have he : (2 : ℚ) ^ e = 2 ^ (e - k).toNat * 2 ^ k := by
      rw [← zpow_natCast, ← zpow_natCast, ← zpow_add₀ (by norm_num)]
      congr 1
      omega
    rw [he]
    push_cast
    rw [mul_assoc]
  · refine .inr ?_
    have hmantissa : |(m : ℚ)| < 2 ^ 53 := by exact_mod_cast hm
    have hpow : (2 : ℚ) ^ e ≤ 2 ^ ((k : ℤ) - 1) := zpow_le_zpow_right₀ (by norm_num) (by omega)
    have hhalf : (2 : ℚ) ^ 53 * 2 ^ ((k : ℤ) - 1) = 2 ^ 52 * (2 ^ k : ℕ) := by
      rw [zpow_sub_one₀ (by norm_num), zpow_natCast]
      push_cast
      ring
    calc |(m : ℚ) * 2 ^ e| = |(m : ℚ)| * 2 ^ e := by
          rw [abs_mul, abs_of_pos (zpow_pos (two_pos : (0 : ℚ) < 2) e)]
      _ < 2 ^ 53 * 2 ^ e := by gcongr
      _ ≤ 2 ^ 53 * 2 ^ ((k : ℤ) - 1) := by gcongr
      _ = 2 ^ 52 * (2 ^ k : ℕ) := hhalf

/-- What a natural number is rounded to is a nearest multiple of its last place, and half way to
another one. -/
lemma rounded_spec (n : ℕ) (j : ℤ) :
    |(rounded n : ℚ) - n| ≤ |(j : ℚ) * (2 ^ lastPlace n : ℕ) - n| ∧
      (|(j : ℚ) * (2 ^ lastPlace n : ℕ) - n| = |(rounded n : ℚ) - n| →
        j ≠ nearest n (2 ^ lastPlace n) → 2 * (n % 2 ^ lastPlace n) = 2 ^ lastPlace n) := by
  obtain ⟨hle, htie⟩ := nearest_spec (n := n) (Nat.two_pow_pos (lastPlace n)) j
  unfold rounded
  refine ⟨by exact_mod_cast hle, fun heq hne => htie (by exact_mod_cast heq) hne⟩

/-- A natural number with more than 53 bits is nearer to what it is rounded to than to a number that
is no multiple of its last place. -/
lemma multiple_or_further (h : lastPlace n ≠ 0) {y : ℚ} (hy : IsShort y) :
    (∃ j : ℤ, y = j * (2 ^ lastPlace n : ℕ)) ∨ |(rounded n : ℚ) - n| < |y - n| := by
  rcases multiple_or_less hy (lastPlace n) with hj | hless
  · exact .inl hj
  · refine .inr ?_
    have hbelow : (2 ^ 52 * (2 ^ lastPlace n : ℕ) : ℚ) ≤ n := by exact_mod_cast le_of_lastPlace h
    obtain ⟨hle, -⟩ := rounded_spec n (2 ^ 52)
    have hmultiple : |((2 ^ 52 : ℤ) : ℚ) * (2 ^ lastPlace n : ℕ) - n| =
        n - 2 ^ 52 * (2 ^ lastPlace n : ℕ) := by
      rw [abs_sub_comm, abs_of_nonneg (by push_cast at hbelow ⊢; linarith)]
      push_cast
      rfl
    have hy : |y - n| = n - y := by
      rw [abs_sub_comm, abs_of_nonneg (by linarith [le_abs_self y])]
    rw [hmultiple] at hle
    rw [hy]
    linarith [le_abs_self y]

/-- A natural number is rounded to what it is rounded to. -/
theorem isRounding_rounded (n : ℕ) : IsRounding n (rounded n) where
  isShort := isShort_rounded n
  nearest y hy := by
    by_cases h : lastPlace n = 0
    · rw [rounded_eq_self h, sub_self, abs_zero]
      exact abs_nonneg _
    · rcases multiple_or_further h hy with ⟨j, rfl⟩ | hless
      · exact (rounded_spec n j).1
      · exact hless.le
  even y hy heq hne := by
    by_cases h : lastPlace n = 0
    · rw [rounded_eq_self h] at heq hne
      rw [sub_self, abs_zero, abs_eq_zero, sub_eq_zero] at heq
      exact absurd heq hne
    · rcases multiple_or_further h hy with ⟨j, rfl⟩ | hless
      · have hj : j ≠ nearest n (2 ^ lastPlace n) := by
          rintro rfl
          exact hne (by unfold rounded; push_cast; rfl)
        obtain ⟨m, e, heven, hbits⟩ := exists_mantissa h
        exact ⟨m, e, heven (nearest_even ((rounded_spec n j).2 heq hj)), hbits⟩
      · exact absurd heq hless.ne'

end

/-! ## Conversion -/

/-- The double with a power of two and a mantissa, which may have one bit too many. -/
def packed (mantissa : ℕ) (exponent : ℤ) : Double :=
  let (mantissa, exponent) :=
    if mantissa = Nat.pow 2 53 then (Nat.pow 2 52, exponent + 1) else (mantissa, exponent)
  if greatestExponent < exponent then .infinite false else .finite false mantissa exponent

/-- A double with at most 53 bits is the number that it is made of, or infinite if that is too
great. -/
lemma packed_spec {m : ℕ} {e : ℤ} (hm : m ≤ 2 ^ 53) (he : e ≤ 0 ∨ 2 ^ 52 ≤ m) :
    ((m * 2 ^ e : ℚ) < 2 ^ 1024 ∧ (packed m e).value? = some (m * 2 ^ e : ℚ)) ∨
      (2 ^ 1024 ≤ (m * 2 ^ e : ℚ) ∧ packed m e = .infinite false) := by
  have hbound (i j : ℕ) (h : i + j = 1024) : (2 : ℚ) ^ 1024 = 2 ^ i * 2 ^ (j : ℤ) := by
    rw [zpow_natCast, ← pow_add, h]
  have htwo : (1 : ℚ) < 2 := by norm_num
  by_cases htop : m = Nat.pow 2 53
  · have hvalue : (m * 2 ^ e : ℚ) = 2 ^ 53 * 2 ^ e := by
      rw [htop]
      norm_num
    rw [packed, if_pos htop, hvalue, hbound 53 971 rfl]
    dsimp only
    by_cases h : greatestExponent < e + 1
    · have hpow : (2 : ℚ) ^ ((971 : ℕ) : ℤ) ≤ 2 ^ e :=
        zpow_le_zpow_right₀ htwo.le (Int.lt_add_one_iff.mp h)
      exact .inr ⟨by gcongr, if_pos h⟩
    · have hpow : (2 : ℚ) ^ e < 2 ^ ((971 : ℕ) : ℤ) :=
        zpow_lt_zpow_right₀ htwo (Int.add_one_le_iff.mp (not_lt.mp h))
      refine .inl ⟨by gcongr, ?_⟩
      rw [if_neg h, value?, zpow_add_one₀ (by norm_num)]
      norm_num
      ring
  · have hless : (m : ℚ) < 2 ^ 53 := by exact_mod_cast lt_of_le_of_ne hm htop
    rw [packed, if_neg htop]
    dsimp only
    by_cases h : greatestExponent < e
    · have hleast : (2 : ℚ) ^ 52 ≤ m := by
        have hpos : ¬e ≤ 0 := not_le.mpr (lt_trans (by decide) h)
        exact_mod_cast he.resolve_left hpos
      have hpow : (2 : ℚ) ^ ((972 : ℕ) : ℤ) ≤ 2 ^ e :=
        zpow_le_zpow_right₀ htwo.le (Int.add_one_le_iff.mpr h)
      rw [hbound 52 972 rfl]
      exact .inr ⟨by gcongr, if_pos h⟩
    · have hpow : (2 : ℚ) ^ e ≤ 2 ^ ((971 : ℕ) : ℤ) :=
        zpow_le_zpow_right₀ htwo.le (not_lt.mp h)
      have hpos : (0 : ℚ) < 2 ^ e := zpow_pos two_pos e
      rw [hbound 53 971 rfl]
      refine .inl ⟨mul_lt_mul hless hpow hpos (by positivity), ?_⟩
      rw [if_neg h, value?, if_neg Bool.false_ne_true, one_mul]

/-- A positive natural number is a ratio whose mantissa has 53 bits at its last place. -/
lemma exponentOf_one {n : ℕ} (hn : n ≠ 0) : exponentOf n 1 = n.log2 - 52 := by
  have hestimate : (n.log2 : ℤ) - (1 : ℕ).log2 = .ofNat n.log2 := by
    have hone : (1 : ℕ).log2 = 0 := by decide
    rw [hone]
    simp
  have hle : 1 * Nat.pow 2 n.log2 ≤ n := by
    rw [one_mul]
    exact Nat.log2_self_le hn
  rw [exponentOf, hestimate]
  dsimp only [scaled]
  rw [if_pos hle, leastExponent]
  exact max_eq_left (by change -1074 ≤ (n.log2 : ℤ) - 52; omega)

/-- A positive natural number is scaled and then rounded to a mantissa. -/
lemma ofRatio_one {n numerator denominator : ℕ} (hn : n ≠ 0)
    (h : scaled n 1 (n.log2 - 52) = (numerator, denominator)) :
    ofRatio false n 1 = packed (nearest numerator denominator) (n.log2 - 52) := by
  unfold ofRatio packed
  rw [if_neg hn]
  simp only [exponentOf_one hn, h]

/-- A natural number is converted as a ratio. -/
lemma ofInt_natCast (n : ℕ) : ofInt n = ofRatio false n 1 := by
  rw [ofInt, decide_eq_false (by omega), Int.natAbs_natCast]

/-- A natural number becomes the double that it is rounded to, or an infinite one. -/
lemma ofInt_spec (n : ℕ) :
    ((rounded n : ℚ) < 2 ^ 1024 ∧ (ofInt n).value? = some (rounded n : ℚ)) ∨
      (2 ^ 1024 ≤ (rounded n : ℚ) ∧ ofInt n = .infinite false) := by
  rw [ofInt_natCast]
  by_cases hn : n = 0
  · subst hn
    rw [rounded_eq_self (by decide)]
    exact .inl ⟨by norm_num, by simp [ofRatio, zero, value?]⟩
  · rcases lt_or_ge n.log2 52 with hlog | hlog
    · have hlast : (n.log2 : ℤ) - 52 = .negSucc (51 - n.log2) := by omega
      have hscaled : scaled n 1 (n.log2 - 52) = (n * 2 ^ (52 - n.log2), 1) := by
        have hplaces : 52 - n.log2 = 51 - n.log2 + 1 := by omega
        rw [hlast, hplaces]
        rfl
      have hless : n * 2 ^ (52 - n.log2) ≤ 2 ^ 53 := by
        have hpow : 2 ^ (n.log2 + 1) * 2 ^ (52 - n.log2) = 2 ^ 53 := by
          rw [← pow_add]
          congr 1
          omega
        rw [← hpow]
        exact Nat.mul_le_mul_right _ Nat.lt_log2_self.le
      have hvalue : ((n * 2 ^ (52 - n.log2) : ℕ) * 2 ^ ((n.log2 : ℤ) - 52) : ℚ) = n := by
        have hcancel : (2 : ℚ) ^ (52 - n.log2) * 2 ^ ((n.log2 : ℤ) - 52) = 1 := by
          rw [← zpow_natCast, ← zpow_add₀ (by norm_num), Nat.cast_sub hlog.le]
          norm_num
        push_cast
        rw [mul_assoc, hcancel, mul_one]
      have hpacked := packed_spec (e := n.log2 - 52) hless (.inl (by omega))
      rw [rounded_eq_self (by unfold lastPlace; omega), ofRatio_one hn hscaled, nearest_one]
      rwa [hvalue] at hpacked
    · have hlast : (n.log2 : ℤ) - 52 = (lastPlace n : ℕ) := by unfold lastPlace; omega
      have hscaled : scaled n 1 (n.log2 - 52) = (n, 2 ^ lastPlace n) := by
        rw [hlast]
        dsimp only [scaled]
        rw [one_mul]
        rfl
      have hbits : (lastPlace n : ℤ) ≤ 0 ∨ 2 ^ 52 ≤ nearest n (2 ^ lastPlace n) := by
        by_cases h : lastPlace n = 0
        · exact .inl (by omega)
        · exact .inr (le_nearest h)
      have hvalue : (nearest n (2 ^ lastPlace n) * 2 ^ (lastPlace n : ℤ) : ℚ) = rounded n := by
        rw [rounded, zpow_natCast]
        push_cast
        rfl
      have hpacked := packed_spec (nearest_le n) hbits
      rw [ofRatio_one hn hscaled, hlast]
      rwa [hvalue] at hpacked

/-- A natural number becomes the nearest double. -/
theorem isNearest_ofInt (n : ℕ) : IsNearest n (ofInt n) :=
  ⟨rounded n, isRounding_rounded n, ofInt_spec n⟩

/-- A double is the ratio that it is taken apart to. -/
lemma value?_eq (x : Double) : x.value? = x.toRatio?.map fun (num, den) => (num / den : ℚ) := by
  rcases x with _ | _ | ⟨negative, mantissa, e | e⟩
  · rfl
  · rfl
  · simp only [value?, toRatio?, Option.map_some, Option.some.injEq, Nat.pow_eq]
    push_cast
    rw [Int.ofNat_eq_natCast, zpow_natCast, div_one, mul_assoc]
  · simp only [value?, toRatio?, Option.map_some, Option.some.injEq, Nat.pow_eq, zpow_negSucc]
    push_cast
    rfl

/-- The denominator of a double is a power of two. -/
lemma exists_den {x : Double} {num : ℤ} {den : ℕ} (h : x.toRatio? = some (num, den)) :
    ∃ k, den = 2 ^ k := by
  rcases x with _ | _ | ⟨negative, mantissa, e | e⟩
  · exact absurd h nofun
  · exact absurd h nofun
  · obtain ⟨-, rfl⟩ := Prod.mk.inj (Option.some.inj h)
    exact ⟨0, rfl⟩
  · obtain ⟨-, rfl⟩ := Prod.mk.inj (Option.some.inj h)
    exact ⟨e + 1, rfl⟩

/-- A double equals an integer if its ratio does. -/
lemma toInt?_eq_some_iff_mul {x : Double} {num : ℤ} {den : ℕ} (h : x.toRatio? = some (num, den))
    (n : ℤ) : x.toInt? = some n ↔ num = n * den := by
  have hden : (den : ℤ) ≠ 0 := by
    obtain ⟨k, rfl⟩ := exists_den h
    exact_mod_cast (Nat.two_pow_pos k).ne'
  rw [toInt?, h]
  dsimp only
  constructor
  · intro hn
    split at hn
    · next hmod =>
      rw [← Option.some.inj hn]
      exact (Int.ediv_mul_cancel (Int.dvd_of_emod_eq_zero hmod)).symm
    · exact absurd hn nofun
  · rintro rfl
    rw [Int.mul_emod_left, if_pos rfl, Int.mul_ediv_cancel n hden]

/-- A double equals an integer if it is this number. -/
lemma toInt?_eq_some_iff (x : Double) (n : ℤ) : x.toInt? = some n ↔ x.value? = some (n : ℚ) := by
  rw [value?_eq]
  cases h : x.toRatio? with
  | none =>
    rw [toInt?, h]
    exact ⟨nofun, nofun⟩
  | some ratio =>
    obtain ⟨num, den⟩ := ratio
    have hden : (den : ℚ) ≠ 0 := by
      obtain ⟨k, rfl⟩ := exists_den h
      exact_mod_cast (Nat.two_pow_pos k).ne'
    rw [toInt?_eq_some_iff_mul h, Option.map_some, Option.some.injEq, div_eq_iff hden]
    exact_mod_cast Iff.rfl

/-- A natural number is kept exactly if its mantissa has at most 53 bits and it is not too great. -/
theorem toInt?_ofInt_iff (n : ℕ) :
    (ofInt n).toInt? = some (n : ℤ) ↔ IsShort n ∧ n < 2 ^ 1024 := by
  have hround : IsShort n ↔ rounded n = n := by
    constructor
    · intro h
      have hle := (isRounding_rounded n).nearest n h
      rw [sub_self, abs_zero, abs_nonpos_iff, sub_eq_zero] at hle
      exact_mod_cast hle
    · intro h
      have hshort := isShort_rounded n
      rwa [h] at hshort
  rw [toInt?_eq_some_iff, hround]
  rcases ofInt_spec n with ⟨hless, hvalue⟩ | ⟨hgreat, hvalue⟩
  · rw [hvalue]
    constructor
    · intro h
      have heq : rounded n = n := by exact_mod_cast Option.some.inj h
      rw [heq] at hless
      exact ⟨heq, by exact_mod_cast hless⟩
    · rintro ⟨heq, -⟩
      rw [heq]
      rfl
  · rw [hvalue]
    constructor
    · exact nofun
    · rintro ⟨heq, hless⟩
      rw [heq] at hgreat
      exact absurd (by exact_mod_cast hgreat) hless.not_ge

/-! ## Integers of either sign -/

/-- A ratio with the other sign becomes the number with the other sign. -/
lemma value?_ofRatio_true (num den : ℕ) :
    (ofRatio true num den).value? = (ofRatio false num den).value?.map Neg.neg := by
  unfold ofRatio
  split
  · simp [zero, value?]
  · dsimp only
    split <;> split <;> simp [value?]

/-- An integer that is a double. -/
def IsKept (n : ℤ) : Prop := (ofInt n).toInt? = some n

/-- An integer is a double exactly if its distance from zero is one. -/
lemma isKept_iff_natAbs (n : ℤ) : IsKept n ↔ IsKept n.natAbs := by
  unfold IsKept
  rcases le_or_gt 0 n with h | h
  · rw [Int.natAbs_of_nonneg h]
  · have hn : (n : ℚ) = -(n.natAbs : ℤ) := by
      rw [← Int.cast_neg]
      exact congrArg Int.cast (by omega)
    rw [toInt?_eq_some_iff, toInt?_eq_some_iff, ofInt_natCast, ofInt, decide_eq_true h,
      value?_ofRatio_true, hn]
    cases (ofRatio false n.natAbs 1).value? with
    | none => exact ⟨nofun, nofun⟩
    | some v => simp

/-- Integers of at most 53 bits, and the first ones with more, are doubles. -/
lemma isKept_of_natAbs_le {n : ℤ} (h : n.natAbs ≤ 2 ^ 53) : IsKept n := by
  have hless : n.natAbs < 2 ^ 1024 := h.trans_lt (by decide +kernel)
  exact (isKept_iff_natAbs n).mpr ((toInt?_ofInt_iff _).mpr ⟨isShort_of_le h, hless⟩)

/-- Integers with more bits are doubles only if they are even. -/
lemma IsKept.two_dvd {n : ℤ} (h : IsKept n) (hgreat : 2 ^ 53 < n.natAbs) : 2 ∣ n := by
  obtain ⟨hshort, -⟩ := (toInt?_ofInt_iff n.natAbs).mp ((isKept_iff_natAbs n).mp h)
  rcases multiple_or_less hshort 1 with ⟨j, hj⟩ | hless
  · have hj : ((n.natAbs : ℤ) : ℚ) = (j * (2 ^ 1 : ℕ) : ℤ) := by
      rw [Int.cast_natCast, hj, Int.cast_mul, Int.cast_natCast]
    have hj := Int.cast_injective hj
    omega
  · have hless : n.natAbs < 2 ^ 52 * 2 := by
      rw [Nat.abs_cast] at hless
      exact_mod_cast hless
    omega

/-- Between two doubles all integers are doubles exactly if none has more than 53 bits but the first
ones with more. -/
theorem forall_isKept_iff {lo hi : ℤ} (hlo : IsKept lo) (hhi : IsKept hi) (h : lo < hi) :
    (∀ v, lo < v → v < hi → IsKept v) ↔ -2 ^ 53 ≤ lo ∧ hi ≤ 2 ^ 53 := by
  constructor
  · intro hbetween
    have hkept (v : ℤ) (hv : lo ≤ v ∧ v ≤ hi) : IsKept v := by
      rcases hv.1.eq_or_lt with rfl | hless
      · exact hlo
      · rcases hv.2.eq_or_lt with rfl | hmore
        · exact hhi
        · exact hbetween v hless hmore
    -- One of two neighbours is odd.
    have hodd (v : ℤ) (hv : 2 ^ 53 < v.natAbs) (w : ℤ) (hw : 2 ^ 53 < w.natAbs ∨ 2 ∣ w)
        (hnext : v = w + 1 ∨ w = v + 1) (hv' : lo ≤ v ∧ v ≤ hi) (hw' : lo ≤ w ∧ w ≤ hi) :
        False := by
      have hdvd := (hkept v hv').two_dvd hv
      have hdvd' := hw.elim (hkept w hw').two_dvd id
      omega
    constructor <;> by_contra hout
    · exact hodd lo (by omega) (lo + 1) (by omega) (by omega) (by omega) (by omega)
    · exact hodd hi (by omega) (hi - 1) (by omega) (by omega) (by omega) (by omega)
  · rintro ⟨hlo, hhi⟩ v hless hmore
    exact isKept_of_natAbs_le (by omega)

/-! ## Counting up -/

/-- A ratio does not change when both of its parts are multiplied. -/
lemma nearest_mul (n d : ℕ) {c : ℕ} (hc : 0 < c) : nearest (n * c) (d * c) = nearest n d := by
  have hless (a b : ℕ) : a * c < b * c ↔ a < b := Nat.mul_lt_mul_right hc
  unfold nearest
  simp only [Nat.mul_div_mul_right n d hc, Nat.mul_mod_mul_right, ← mul_assoc, hless]

/-- Scaling comes to the same when both parts of a ratio are multiplied. -/
lemma scaled_mul (n d c : ℕ) (e : ℤ) :
    scaled (n * c) (d * c) e = ((scaled n d e).1 * c, (scaled n d e).2 * c) := by
  cases e with
  | ofNat e => exact congrArg _ (Nat.mul_right_comm d c _)
  | negSucc e => exact congrArg (·, d * c) (Nat.mul_right_comm n c _)

/-- A ratio with a power of two in both parts becomes the double that it becomes without. -/
lemma ofRatio_mul_two_pow (negative : Bool) (n k : ℕ) :
    ofRatio negative (n * 2 ^ k) (2 ^ k) = ofRatio negative n 1 := by
  have hpos : 0 < 2 ^ k := Nat.two_pow_pos k
  by_cases hn : n = 0
  · rw [hn, zero_mul]
    rfl
  · have hlog : (n * 2 ^ k).log2 = n.log2 + k := by
      induction k with
      | zero => rw [pow_zero, mul_one, Nat.add_zero]
      | succ k ih =>
        rw [pow_succ, ← mul_assoc, Nat.log2_eq_log_two, Nat.log_mul_base one_lt_two
          (mul_ne_zero hn (Nat.two_pow_pos k).ne'), ← Nat.log2_eq_log_two, ih (Nat.two_pow_pos k)]
        rfl
    have hscaled (e : ℤ) :
        scaled (n * 2 ^ k) (2 ^ k) e = ((scaled n 1 e).1 * 2 ^ k, (scaled n 1 e).2 * 2 ^ k) := by
      rw [← scaled_mul, one_mul]
    have hexponent : exponentOf (n * 2 ^ k) (2 ^ k) = exponentOf n 1 := by
      have hestimate : ((n * 2 ^ k).log2 : ℤ) - (2 ^ k).log2 = n.log2 - (1 : ℕ).log2 := by
        rw [hlog, Nat.log2_two_pow]
        have : (1 : ℕ).log2 = 0 := by decide
        omega
      unfold exponentOf
      simp only [hestimate, hscaled, Nat.mul_le_mul_right_iff hpos]
    unfold ofRatio
    simp only [hexponent, hscaled, nearest_mul _ _ hpos, if_neg hn, if_neg (mul_ne_zero hn hpos.ne')]

/-- A double that equals an integer is a ratio. -/
lemma exists_toRatio? {x : Double} {n : ℤ} (h : x.toInt? = some n) :
    ∃ num den, x.toRatio? = some (num, den) := by
  cases hratio : x.toRatio? with
  | none =>
    rw [toInt?, hratio] at h
    exact absurd h nofun
  | some ratio => exact ⟨ratio.1, ratio.2, rfl⟩

/-- An integer is counted up to the double nearest to the next one. -/
theorem addInt_one {x : Double} {n : ℤ} (h : x.toInt? = some n) : x.addInt 1 = ofInt (n + 1) := by
  obtain ⟨num, den, hratio⟩ := exists_toRatio? h
  obtain ⟨k, rfl⟩ := exists_den hratio
  have hsum : num + 1 * ((2 ^ k : ℕ) : ℤ) = (n + 1) * (2 ^ k : ℕ) := by
    rw [(toInt?_eq_some_iff_mul hratio n).mp h, ← add_mul]
  have hsign : (n + 1) * ((2 ^ k : ℕ) : ℤ) < 0 ↔ n + 1 < 0 :=
    ⟨fun hless => neg_of_mul_neg_left hless (Int.natCast_nonneg _),
      fun hless => mul_neg_of_neg_of_pos hless (by exact_mod_cast Nat.two_pow_pos k)⟩
  rw [addInt, hratio]
  simp only [hsum, hsign, Int.natAbs_mul, Int.natAbs_natCast, ofRatio_mul_two_pow]
  rfl

end Double

end Offside
