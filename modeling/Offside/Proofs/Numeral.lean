import Mathlib.Tactic.IntervalCases
import Mathlib.Tactic.Lemma
import Offside.Text.Basic

/-!
# Numerals read back

A number that has been written by digits is read back from them: `numeral_ofNat` for decimal
numerals and `numeral_ofHex` for hexadecimal ones of a fixed width.  Besides, a numeral is made of
digits, it begins with zero only if it is zero, and its length tells how great the number is.
-/

namespace Offside

namespace Text

/-- The digits of a number in a radix. -/
def inRadix (radix n : Nat) : Text := (Nat.toDigits radix n).map CodePoint.ofChar

/-- The value of a digit up to sixteen. -/
lemma digitValue_digitChar {k : Nat} (h : k < 16) :
    (CodePoint.ofChar k.digitChar).digitValue = k := by
  interval_cases k <;> rfl

/-- A digit up to sixteen is a hexadecimal one. -/
lemma isHexDigit_digitChar {k : Nat} (h : k < 16) :
    (CodePoint.ofChar k.digitChar).isHexDigit = true := by
  interval_cases k <;> rfl

/-- A digit up to ten is a decimal one. -/
lemma isDigit_digitChar {k : Nat} (h : k < 10) :
    (CodePoint.ofChar k.digitChar).isDigit = true := by
  interval_cases k <;> rfl

/-- A number less than the radix is a single digit; any other one ends in a digit. -/
lemma inRadix_eq {radix : Nat} (h : 1 < radix) (n : Nat) :
    inRadix radix n = if n < radix then [CodePoint.ofChar n.digitChar]
      else inRadix radix (n / radix) ++ [CodePoint.ofChar (n % radix).digitChar] := by
  rw [inRadix, Nat.toDigits_eq_if h]
  split
  · rfl
  · rw [List.map_append]
    rfl

/-- What holds of all digits of a radix holds of all digits of a number. -/
lemma forall_mem_inRadix {radix : Nat} {P : CodePoint → Prop} (hradix : 1 < radix)
    (hdigit : ∀ k < radix, P (CodePoint.ofChar k.digitChar)) (n : Nat) :
    ∀ c ∈ inRadix radix n, P c := by
  induction n using Nat.strong_induction_on with
  | _ n ih =>
    rw [inRadix_eq hradix]
    split
    · next hn => exact List.forall_mem_singleton.mpr (hdigit n hn)
    · next hn =>
      rw [List.forall_mem_append, List.forall_mem_singleton]
      have hpos : 0 < n := by omega
      exact ⟨ih (n / radix) (Nat.div_lt_self hpos hradix),
        hdigit (n % radix) (Nat.mod_lt n (by omega))⟩

/-- A last digit counts once, and what stands in front of it as often as the radix says. -/
lemma numeral_append_singleton (radix : Nat) (t : Text) (c : CodePoint) :
    numeral radix (t ++ [c]) = radix * numeral radix t + c.digitValue := by
  rw [numeral, List.foldl_append]
  rfl

/-- A number is read back from its digits. -/
theorem numeral_inRadix {radix : Nat} (hradix : 1 < radix) (hle : radix ≤ 16) (n : Nat) :
    numeral radix (inRadix radix n) = n := by
  induction n using Nat.strong_induction_on with
  | _ n ih =>
    rw [inRadix_eq hradix]
    split
    · next hn =>
      change radix * 0 + (CodePoint.ofChar n.digitChar).digitValue = n
      rw [digitValue_digitChar (by omega), Nat.mul_zero, Nat.zero_add]
    · next hn =>
      have hpos : 0 < n := by omega
      have hmod := Nat.mod_lt n (show 0 < radix by omega)
      rw [numeral_append_singleton, ih (n / radix) (Nat.div_lt_self hpos hradix),
        digitValue_digitChar (by omega), Nat.div_add_mod]

/-- A number is zero if its first digit is. -/
lemma eq_zero_of_head?_inRadix {radix : Nat} (hradix : 1 < radix) (hle : radix ≤ 16) {n : Nat}
    (h : (inRadix radix n).head? = some (CodePoint.ofChar '0')) : n = 0 := by
  induction n using Nat.strong_induction_on with
  | _ n ih =>
    rw [inRadix_eq hradix] at h
    split at h
    · next hn =>
      have hvalue := congrArg CodePoint.digitValue (Option.some.inj h)
      rwa [digitValue_digitChar (by omega)] at hvalue
    · next hn =>
      have hpos : 0 < n := by omega
      have hne : inRadix radix (n / radix) ≠ [] := by
        simp [inRadix, Nat.toDigits_ne_nil]
      obtain ⟨c, rest, hc⟩ := List.exists_cons_of_ne_nil hne
      rw [hc] at h
      have hzero := ih (n / radix) (Nat.div_lt_self hpos hradix) (by rw [hc]; exact h)
      rw [Nat.div_eq_zero_iff] at hzero
      omega

/-! ## Decimal numerals -/

/-- A number is read back from its decimal numeral. -/
theorem numeral_ofNat (n : Nat) : numeral 10 (ofNat n) = n :=
  numeral_inRadix (by decide) (by decide) n

/-- A decimal numeral is made of digits. -/
lemma isDigit_of_mem_ofNat (n : Nat) : ∀ c ∈ ofNat n, c.isDigit = true :=
  forall_mem_inRadix (by decide) (fun _ => isDigit_digitChar) n

/-- A decimal numeral has a digit. -/
lemma ofNat_ne_nil (n : Nat) : ofNat n ≠ [] := by
  simp [ofNat, Nat.toDigits_ne_nil]

/-- A decimal numeral with a leading zero is zero. -/
lemma ofNat_of_head? {n : Nat} (h : (ofNat n).head? = some (CodePoint.ofChar '0')) :
    ofNat n = [CodePoint.ofChar '0'] := by
  obtain rfl := eq_zero_of_head?_inRadix (by decide) (by decide) h
  rfl

/-- The length of a decimal numeral tells how great the number is. -/
lemma length_ofNat_le_iff {n k : Nat} (hk : 0 < k) : (ofNat n).length ≤ k ↔ n < 10 ^ k := by
  rw [ofNat, List.length_map, Nat.length_toDigits_le_iff (by decide) hk]

/-! ## Hexadecimal numerals -/

/-- Leading zeros do not count. -/
lemma numeral_replicate_append (radix k : Nat) (t : Text) :
    numeral radix (List.replicate k (CodePoint.ofChar '0') ++ t) = numeral radix t := by
  induction k with
  | zero => rfl
  | succ k ih =>
    rw [List.replicate_succ, List.cons_append, ← ih]
    rfl

/-- A number is read back from its hexadecimal numeral. -/
theorem numeral_ofHex (width n : Nat) : numeral 16 (ofHex width n) = n := by
  rw [ofHex, numeral_replicate_append]
  exact numeral_inRadix (by decide) (by decide) n

/-- A hexadecimal numeral is made of hexadecimal digits. -/
lemma isHexDigit_of_mem_ofHex (width n : Nat) : ∀ c ∈ ofHex width n, c.isHexDigit = true := by
  rw [ofHex, List.forall_mem_append]
  refine ⟨fun c hc => ?_, forall_mem_inRadix (by decide) (fun _ => isHexDigit_digitChar) n⟩
  rw [List.eq_of_mem_replicate hc]
  rfl

/-- A hexadecimal numeral has its width if the number is not too great. -/
lemma length_ofHex {width n : Nat} (hwidth : 0 < width) (h : n < 16 ^ width) :
    (ofHex width n).length = width := by
  have hle := (Nat.length_toDigits_le_iff (b := 16) (by decide) hwidth).mpr h
  rw [ofHex, List.length_append, List.length_replicate, List.length_map]
  omega

end Text

end Offside
