import Mathlib.Data.List.TakeWhile
import Mathlib.Tactic.IntervalCases
import Mathlib.Tactic.Lemma
import Offside.Text.Utf8

/-!
# Texts are decoded from their bytes

What has been encoded is decoded again (`Utf8.decode_of_encode`): the bytes of a text are the text, so
that a file which holds them holds all of it.  The decoder is followed through the bytes of one code
point: the first byte tells how many are to come and in which range the next one lies, and each of the
others adds six bits.
-/

namespace Offside

namespace Utf8

/-! ## One code point -/

/-- The byte of a number is this number. -/
lemma toNat_ofNat {n : Nat} (h : n < 256) : (UInt8.ofNat n).toNat = n := by
  rw [UInt8.toNat_ofNat']
  exact Nat.mod_eq_of_lt h

/-- A byte that goes on with a character carries six bits. -/
def tail (bits : Nat) : UInt8 := .ofNat (0x80 + bits % 0x40)

section

variable {position : Nat} {c : Begun} {rest : List UInt8} {bits : Nat}

/-- A character goes on with a byte in the range that is known of it. -/
lemma tail_between {lo hi : UInt8} (hlo : lo.toNat ≤ 0x80 + bits % 0x40)
    (hhi : 0x80 + bits % 0x40 ≤ hi.toNat) : lo ≤ tail bits ∧ tail bits ≤ hi := by
  rw [UInt8.le_iff_toNat_le, UInt8.le_iff_toNat_le, tail, toNat_ofNat (by omega)]
  exact ⟨hlo, hhi⟩

/-- The bits that a byte carries. -/
lemma toNat_tail_sub (bits : Nat) : (tail bits - 0x80).toNat = bits % 0x40 := by
  have htail : (tail bits).toNat = 0x80 + bits % 0x40 := toNat_ofNat (by omega)
  have hle : (0x80 : UInt8) ≤ tail bits := by
    rw [UInt8.le_iff_toNat_le, htail]
    exact Nat.le_add_right 0x80 _
  rw [UInt8.toNat_sub_of_le _ _ hle, htail]
  exact Nat.add_sub_cancel_left 0x80 (bits % 0x40)

/-- A byte that is not the last one of a character adds its bits to it. -/
lemma decodeFrom_tail {later : Nat} (hlater : c.later = later + 1)
    (hlo : c.lo.toNat ≤ 0x80 + bits % 0x40) (hhi : 0x80 + bits % 0x40 ≤ c.hi.toNat) :
    decodeFrom (some c) position (tail bits :: rest) =
      decodeFrom (some ⟨c.position, c.first, later, 64 * c.value + bits % 0x40, 0x80, 0xBF⟩)
        (position + 1) rest := by
  rw [decodeFrom, if_pos (tail_between hlo hhi), hlater, toNat_tail_sub]

/-- The last byte of a character completes it. -/
lemma decodeFrom_last (hlater : c.later = 0) (hlo : c.lo = 0x80) (hhi : c.hi = 0xBF) :
    decodeFrom (some c) position (tail bits :: rest) =
      (CodePoint.ofNat (64 * c.value + bits % 0x40) :: ·) <$> decodeFrom none (position + 1) rest := by
  have hbetween : c.lo ≤ tail bits ∧ tail bits ≤ c.hi := by
    rw [hlo, hhi]
    exact tail_between (Nat.le_add_right 0x80 _) (show 0x80 + bits % 0x40 ≤ 0xBF by omega)
  rw [decodeFrom, if_pos hbetween, hlater, toNat_tail_sub]
  rfl

/-- A character begins with its first byte. -/
lemma decodeFrom_begin {b : Nat} (hlo : 0x80 ≤ b) (hhi : b < 0x100)
    (h : begin? position (.ofNat b) = some c) :
    decodeFrom none position (.ofNat b :: rest) = decodeFrom (some c) (position + 1) rest := by
  have hascii : ¬UInt8.ofNat b < 0x80 := by
    rw [UInt8.lt_iff_toNat_lt, toNat_ofNat hhi]
    exact Nat.not_lt.mpr hlo
  rw [decodeFrom, if_neg hascii, h]

end

section

variable (position : Nat) {v : Nat}

/-- What is known of a character of two bytes after the first one. -/
lemma begin?_two (hv : 0x80 ≤ v) (hlt : v < 0x800) :
    begin? position (.ofNat (0xC0 + v / 0x40)) =
      some ⟨position, .ofNat (0xC0 + v / 0x40), 0, v / 0x40, 0x80, 0xBF⟩ := by
  have hlead : 2 ≤ v / 0x40 ∧ v / 0x40 < 32 := by omega
  generalize v / 0x40 = lead at hlead ⊢
  obtain ⟨hlo, hhi⟩ := hlead
  interval_cases lead <;> rfl

/-- What is known of a character of three bytes after the first one. -/
lemma begin?_three (hv : 0x800 ≤ v) (hlt : v < 0x10000) (hscalar : v < 0xD800 ∨ 0xE000 ≤ v) :
    ∃ lo hi : UInt8, begin? position (.ofNat (0xE0 + v / 0x1000)) =
        some ⟨position, .ofNat (0xE0 + v / 0x1000), 1, v / 0x1000, lo, hi⟩ ∧
      lo.toNat ≤ 0x80 + v / 0x40 % 0x40 ∧ 0x80 + v / 0x40 % 0x40 ≤ hi.toNat := by
  have hlead : v / 0x1000 < 16 := by omega
  have hbits : v / 0x40 = 64 * (v / 0x1000) + v / 0x40 % 0x40 := by omega
  have hsix : v / 0x40 % 0x40 < 0x40 := Nat.mod_lt _ (by decide)
  generalize v / 0x1000 = lead at hlead hbits ⊢
  interval_cases lead
  case «0» => exact ⟨0xA0, 0xBF, rfl, by simp; omega, by simp; omega⟩
  case «13» => exact ⟨0x80, 0x9F, rfl, by simp, by simp; omega⟩
  all_goals exact ⟨0x80, 0xBF, rfl, by simp, by simp; omega⟩

/-- What is known of a character of four bytes after the first one. -/
lemma begin?_four (hv : 0x10000 ≤ v) (hlt : v < 0x110000) :
    ∃ lo hi : UInt8, begin? position (.ofNat (0xF0 + v / 0x40000)) =
        some ⟨position, .ofNat (0xF0 + v / 0x40000), 2, v / 0x40000, lo, hi⟩ ∧
      lo.toNat ≤ 0x80 + v / 0x1000 % 0x40 ∧ 0x80 + v / 0x1000 % 0x40 ≤ hi.toNat := by
  have hlead : v / 0x40000 < 5 := by omega
  have hbits : v / 0x1000 = 64 * (v / 0x40000) + v / 0x1000 % 0x40 := by omega
  have hsix : v / 0x1000 % 0x40 < 0x40 := Nat.mod_lt _ (by decide)
  generalize v / 0x40000 = lead at hlead hbits ⊢
  interval_cases lead
  case «0» => exact ⟨0x90, 0xBF, rfl, by simp; omega, by simp; omega⟩
  case «4» => exact ⟨0x80, 0x8F, rfl, by simp, by simp; omega⟩
  all_goals exact ⟨0x80, 0xBF, rfl, by simp, by simp; omega⟩

end

/-- A code point is decoded from its bytes. -/
theorem decodeFrom_bytesOf {c : CodePoint} (hc : c.isSurrogate = false) (position : Nat)
    (rest : List UInt8) :
    decodeFrom none position (bytesOf c ++ rest) =
      (c :: ·) <$> decodeFrom none (position + (bytesOf c).length) rest := by
  obtain ⟨v, hlt⟩ := c
  have hscalar : v < 0xD800 ∨ 0xE000 ≤ v := by
    simp only [CodePoint.isSurrogate, CodePoint.isHighSurrogate, CodePoint.isLowSurrogate,
      Bool.or_eq_false_iff, Bool.and_eq_false_iff, decide_eq_false_iff_not] at hc
    omega
  have hpoint {n : Nat} (hn : n = v) : CodePoint.ofNat n = ⟨v, hlt⟩ := by
    subst hn
    exact dif_pos hlt
  unfold bytesOf
  dsimp only
  split
  · next hv =>
    have hascii : UInt8.ofNat v < 0x80 := by
      rw [UInt8.lt_iff_toNat_lt, toNat_ofNat (by omega)]
      exact hv
    rw [List.singleton_append, decodeFrom, if_pos hascii, hpoint (toNat_ofNat (by omega))]
    rfl
  · next hone =>
    split
    · next hv =>
      change decodeFrom none position (_ :: tail (v / 1) :: rest) = _
      rw [decodeFrom_begin (by omega) (by omega) (begin?_two position (Nat.le_of_not_lt hone) hv),
        decodeFrom_last rfl rfl rfl, hpoint (by dsimp only; omega)]
      rfl
    · next htwo =>
      split
      · next hv =>
        obtain ⟨lo, hi, hbegin, hlo, hhi⟩ :=
          begin?_three position (Nat.le_of_not_lt htwo) hv hscalar
        change decodeFrom none position (_ :: tail (v / 0x40) :: tail (v / 1) :: rest) = _
        rw [decodeFrom_begin (by omega) (by omega) hbegin, decodeFrom_tail rfl hlo hhi,
          decodeFrom_last rfl rfl rfl, hpoint (by dsimp only; omega)]
        rfl
      · next hthree =>
        obtain ⟨lo, hi, hbegin, hlo, hhi⟩ :=
          begin?_four position (Nat.le_of_not_lt hthree) hlt
        change decodeFrom none position
          (_ :: tail (v / 0x1000) :: tail (v / 0x40) :: tail (v / 1) :: rest) = _
        rw [decodeFrom_begin (by omega) (by omega) hbegin, decodeFrom_tail rfl hlo hhi,
          decodeFrom_tail rfl (Nat.le_add_right _ _) (show 0x80 + v / 0x40 % 0x40 ≤ 0xBF by omega),
          decodeFrom_last rfl rfl rfl, hpoint (by dsimp only; omega)]
        rfl

/-! ## Texts -/

/-- Code points are decoded from their bytes, one after the other. -/
lemma decodeFrom_flatMap {t : Text} (h : ∀ c ∈ t, c.isSurrogate = false) (position : Nat) :
    decodeFrom none position (t.flatMap bytesOf) = .ok t := by
  induction t generalizing position with
  | nil => rfl
  | cons c t ih =>
    obtain ⟨hc, ht⟩ := List.forall_mem_cons.mp h
    rw [List.flatMap_cons, decodeFrom_bytesOf hc, ih ht]
    rfl

/-- A text has an encoding if all surrogates in it are spared. -/
lemma encodeFault?_eq_none_iff {spared : CodePoint → Bool} {t : Text} :
    encodeFault? spared t = none ↔ ∀ c ∈ t, (!c.isSurrogate || spared c) = true := by
  rw [← List.dropWhile_eq_nil_iff]
  have hsplit := List.takeWhile_append_dropWhile (p := fun c => !c.isSurrogate || spared c) (l := t)
  have hdrop : t.drop (t.takeWhile fun c => !c.isSurrogate || spared c).length =
      t.dropWhile fun c => !c.isSurrogate || spared c :=
    (congrArg (List.drop _) hsplit.symm).trans List.drop_left
  unfold encodeFault?
  dsimp only
  rw [hdrop]
  split
  · next h => exact ⟨fun _ => h, fun _ => rfl⟩
  · next h => exact ⟨nofun, fun hnil => absurd (h.symm.trans hnil) nofun⟩

/-- A text without surrogates has an encoding. -/
lemma exists_encode {t : Text} (h : ∀ c ∈ t, c.isSurrogate = false) :
    ∃ bytes, encode t = .ok bytes := by
  have hnone : encodeFault? (fun _ => false) t = none := by
    refine encodeFault?_eq_none_iff.mpr fun c hc => ?_
    rw [h c hc]
    rfl
  rw [encode, hnone]
  exact ⟨_, rfl⟩

/-- What has been encoded is decoded again. -/
theorem decode_of_encode {t : Text} {bytes : List UInt8} (h : encode t = .ok bytes) :
    decode bytes = .ok t := by
  unfold encode at h
  split at h
  · next hfault =>
    obtain rfl := Except.ok.inj h
    refine decodeFrom_flatMap (fun c hc => ?_) 0
    simpa using encodeFault?_eq_none_iff.mp hfault c hc
  · exact absurd h nofun

end Utf8

end Offside
