import Offside.Json.Reader
import Offside.Json.Writer
import Offside.Proofs.Numeral

/-!
# Strings of documents

A text without surrogates is read back from the string that is written for it, `string_writeText`.
Each code point is written on its own, and the reader takes it in one step: as it stands, by a short
escape, by its number, or by the numbers of a surrogate pair.
-/

namespace Offside

/-- A code point in front of the surrogates is none. -/
lemma CodePoint.isSurrogate_eq_false {c : CodePoint} (h : c.val < 0xD800) :
    c.isSurrogate = false := by
  have hhigh : c.isHighSurrogate = false :=
    Bool.and_eq_false_iff.mpr (.inl (decide_eq_false (by omega)))
  have hlow : c.isLowSurrogate = false :=
    Bool.and_eq_false_iff.mpr (.inl (decide_eq_false (by omega)))
  rw [isSurrogate, hhigh, hlow]
  rfl

/-- A text without surrogates. -/
def Text.isUnicode (t : Text) : Bool := t.all fun c => !c.isSurrogate

namespace Json

/-! ## Escapes by number -/

/-- Four hexadecimal digits are read as the code point that has been written. -/
lemma fourDigits?_ofHex {n : Nat} (h : n < 0x10000) (rest : Text) :
    fourDigits? (Text.ofHex 4 n ++ rest) = some (CodePoint.ofNat n) := by
  have hlength : (Text.ofHex 4 n).length = 4 := Text.length_ofHex (by decide) h
  have htake : (Text.ofHex 4 n ++ rest).take 4 = Text.ofHex 4 n := List.take_left' hlength
  have hdigits : (Text.ofHex 4 n).all CodePoint.isHexDigit = true :=
    List.all_eq_true.mpr (Text.isHexDigit_of_mem_ofHex 4 n)
  rw [fourDigits?, htake, hlength, hdigits, Text.numeral_ofHex]
  rfl

/-- The number of a code point names it. -/
lemma ofNat_val (c : CodePoint) : CodePoint.ofNat c.val = c := by
  rw [CodePoint.ofNat, dif_pos c.isLt]

/-- A number within the range of code points is that of its code point. -/
lemma val_ofNat {n : Nat} (h : n < 0x110000) : (CodePoint.ofNat n).val = n := by
  rw [CodePoint.ofNat, dif_pos h]

section

variable (start fuel offset : Nat) (acc rest : Text)

/-- A code point that needs no escape is read as it stands. -/
lemma stringRest_plain {c : CodePoint} (hquote : (c == CodePoint.ofChar '"') = false)
    (hblank : 0x20 ≤ c.val) (hslash : (c == CodePoint.ofChar '\\') = false) :
    stringRest start (fuel + 1) ⟨c :: rest, offset⟩ acc =
      stringRest start fuel ⟨rest, offset + 1⟩ (c :: acc) := by
  rw [stringRest]
  simp only [hquote, Bool.false_eq_true, if_false, Nat.not_lt.mpr hblank, bne, hslash, Bool.not_false,
    if_true]
  rfl

/-- A short escape is read as what it stands for. -/
lemma stringRest_short {e c : CodePoint} (he : (e == CodePoint.ofChar 'u') = false)
    (hshort : shortEscape? e = some c) :
    stringRest start (fuel + 1) ⟨CodePoint.ofChar '\\' :: e :: rest, offset⟩ acc =
      stringRest start fuel ⟨rest, offset + 2⟩ (c :: acc) := by
  rw [stringRest]
  simp only [bne, he, hshort]
  rfl

/-- The escape of a number below `U+10000`. -/
def numberEscape (n : Nat) : Text := "\\u" ++ Text.ofHex 4 n

/-- An escape by number is read as the code point with the number, or together with the escape
behind it as a surrogate pair. -/
lemma stringRest_number {n : Nat} {pair : Option CodePoint} (hn : n < 0x10000) (hrest : rest ≠ [])
    (hpair : pairedEscape (CodePoint.ofNat n) ⟨rest, offset + 6⟩ = .ok pair) :
    stringRest start (fuel + 1) ⟨numberEscape n ++ rest, offset⟩ acc =
      stringRest start fuel (pair.elim ⟨rest, offset + 6⟩ fun _ => ⟨rest.drop 6, offset + 12⟩)
        (pair.getD (CodePoint.ofNat n) :: acc) := by
  have hlength : (Text.ofHex 4 n).length = 4 := Text.length_ofHex (by decide) hn
  have hlong : ¬(Text.ofHex 4 n ++ rest).length < 5 := by
    have hpos := List.length_pos_iff.mpr hrest
    rw [List.length_append, hlength]
    omega
  have hdrop : (Text.ofHex 4 n ++ rest).drop 4 = rest := List.drop_left' hlength
  have htwice : (Text.ofHex 4 n ++ rest).drop (4 + 6) = rest.drop 6 := by
    rw [← List.drop_drop, hdrop]
  have hescape : numberEscape n ++ rest =
      CodePoint.ofChar '\\' :: CodePoint.ofChar 'u' :: (Text.ofHex 4 n ++ rest) := rfl
  have hfirst : (Cursor.mk (numberEscape n ++ rest) offset).advance 6 = ⟨rest, offset + 6⟩ :=
    congrArg (Cursor.mk · (offset + 6)) hdrop
  have hboth : (Cursor.mk (numberEscape n ++ rest) offset).advance 12 =
      ⟨rest.drop 6, offset + 12⟩ :=
    congrArg (Cursor.mk · (offset + 12)) htwice
  have hquote : (CodePoint.ofChar '\\' == CodePoint.ofChar '"') = false := rfl
  have hblank : ¬(CodePoint.ofChar '\\').val < 0x20 := by decide
  have hslash : (CodePoint.ofChar '\\' != CodePoint.ofChar '\\') = false := rfl
  have hu : (CodePoint.ofChar 'u' != CodePoint.ofChar 'u') = false := rfl
  rw [hescape] at hfirst hboth ⊢
  rw [stringRest]
  simp only [hquote, hblank, hslash, hu, Bool.false_eq_true, if_false, hlong, fourDigits?_ofHex hn,
    hfirst, hboth, hpair]
  cases pair <;> rfl

/-- An escape that is no high surrogate stands alone. -/
lemma pairedEscape_single {c : CodePoint} (h : c.isHighSurrogate = false) (cursor : Cursor) :
    pairedEscape c cursor = .ok none := by
  rw [pairedEscape, h]
  rfl

/-- A high surrogate and the low surrogate behind it are a pair. -/
lemma pairedEscape_pair {high : CodePoint} {n : Nat} (hhigh : high.isHighSurrogate = true)
    (hn : n < 0x10000) (hlow : (CodePoint.ofNat n).isLowSurrogate = true) (hrest : rest ≠ []) :
    pairedEscape high ⟨numberEscape n ++ rest, offset⟩ =
      .ok (some (CodePoint.ofSurrogates high (CodePoint.ofNat n))) := by
  have hlength : (Text.ofHex 4 n).length = 4 := Text.length_ofHex (by decide) hn
  have hlong : 6 < (numberEscape n ++ rest).length := by
    have hpos := List.length_pos_iff.mpr hrest
    change 6 < (Text.ofHex 4 n ++ rest).length + 1 + 1
    rw [List.length_append, hlength]
    omega
  have hslash : (Cursor.mk (numberEscape n ++ rest) offset).at? '\\' = true := rfl
  have hu : ((Cursor.mk (numberEscape n ++ rest) offset).advance 1).at? 'u' = true := rfl
  have hdrop : (numberEscape n ++ rest).drop 2 = Text.ofHex 4 n ++ rest := rfl
  rw [pairedEscape]
  simp only [hhigh, hlong, decide_true, hslash, hu, Bool.and_self, if_true, hdrop,
    fourDigits?_ofHex hn, hlow]

/-- The two halves of a code point above `U+FFFF` make the code point. -/
lemma ofSurrogates_halves {c : CodePoint} (h : 0x10000 ≤ c.val) :
    CodePoint.ofSurrogates (CodePoint.ofNat (0xD800 + (c.val - 0x10000) / 0x400))
      (CodePoint.ofNat (0xDC00 + (c.val - 0x10000) % 0x400)) = c := by
  have hlt := c.isLt
  have hmod : (c.val - 0x10000) % 0x400 < 0x400 := Nat.mod_lt _ (by decide)
  have hval : 0x10000 + (c.val - 0x10000) / 0x400 * 0x400 + (c.val - 0x10000) % 0x400 = c.val := by
    omega
  rw [CodePoint.ofSurrogates, val_ofNat (by omega), val_ofNat (by omega),
    Nat.add_sub_cancel_left, Nat.add_sub_cancel_left, hval, ofNat_val]

/-- Four digits follow the head of an escape by number. -/
lemma length_numberEscape {n : Nat} (h : n < 0x10000) : (numberEscape n).length = 6 := by
  rw [numberEscape, List.length_append, Text.length_ofHex (by decide) h]
  rfl

/-- A code point above `U+FFFF` is read from the escapes of its two halves. -/
lemma stringRest_pair {c : CodePoint} (h : 0x10000 ≤ c.val) (hrest : rest ≠ []) :
    stringRest start (fuel + 1) ⟨numberEscape (0xD800 + (c.val - 0x10000) / 0x400) ++
        (numberEscape (0xDC00 + (c.val - 0x10000) % 0x400) ++ rest), offset⟩ acc =
      stringRest start fuel ⟨rest, offset + 12⟩ (c :: acc) := by
  have hpair := ofSurrogates_halves h
  have hlt := c.isLt
  have hmod : (c.val - 0x10000) % 0x400 < 0x400 := Nat.mod_lt _ (by decide)
  have hdiv : (c.val - 0x10000) / 0x400 < 0x400 := by omega
  generalize (c.val - 0x10000) / 0x400 = high at hpair hdiv ⊢
  generalize (c.val - 0x10000) % 0x400 = low at hpair hmod ⊢
  have hhigh : (CodePoint.ofNat (0xD800 + high)).isHighSurrogate = true := by
    rw [CodePoint.isHighSurrogate, val_ofNat (by omega), Bool.and_eq_true, decide_eq_true_eq,
      decide_eq_true_eq]
    omega
  have hlow : (CodePoint.ofNat (0xDC00 + low)).isLowSurrogate = true := by
    rw [CodePoint.isLowSurrogate, val_ofNat (by omega), Bool.and_eq_true, decide_eq_true_eq,
      decide_eq_true_eq]
    omega
  have hsecond : numberEscape (0xDC00 + low) ++ rest ≠ [] :=
    List.append_ne_nil_of_right_ne_nil _ hrest
  have hparts := pairedEscape_pair (offset + 6) rest hhigh (by omega) hlow hrest
  rw [stringRest_number start fuel offset acc _ (by omega) hsecond hparts, Option.elim_some,
    Option.getD_some, hpair, List.drop_left' (length_numberEscape (by omega))]

/-- What has been written for a code point is read in one step. -/
lemma stringRest_writePoint {c : CodePoint} (hc : c.isSurrogate = false) (hrest : rest ≠ []) :
    ∃ offset', stringRest start (fuel + 1) ⟨writePoint c ++ rest, offset⟩ acc =
      stringRest start fuel ⟨rest, offset'⟩ (c :: acc) := by
  obtain ⟨hhigh, -⟩ := Bool.or_eq_false_iff.mp hc
  have hshort {e : CodePoint} (he : (e == CodePoint.ofChar 'u') = false)
      (hshort : shortEscape? e = some c) :
      ∃ offset', stringRest start (fuel + 1) ⟨[CodePoint.ofChar '\\', e] ++ rest, offset⟩ acc =
        stringRest start fuel ⟨rest, offset'⟩ (c :: acc) :=
    ⟨offset + 2, stringRest_short start fuel offset acc rest he hshort⟩
  unfold writePoint
  split
  · next h =>
    obtain rfl := eq_of_beq h
    exact hshort (e := CodePoint.ofChar '"') rfl rfl
  split
  · next h =>
    obtain rfl := eq_of_beq h
    exact hshort (e := CodePoint.ofChar '\\') rfl rfl
  split
  · next h =>
    obtain rfl := eq_of_beq h
    exact hshort (e := CodePoint.ofChar 'n') rfl rfl
  split
  · next h =>
    obtain rfl := eq_of_beq h
    exact hshort (e := CodePoint.ofChar 'r') rfl rfl
  split
  · next h =>
    obtain rfl := eq_of_beq h
    exact hshort (e := CodePoint.ofChar 't') rfl rfl
  split
  · next h =>
    have hval : c = CodePoint.ofNat 12 := by rw [← ofNat_val c, eq_of_beq h]
    subst hval
    exact hshort (e := CodePoint.ofChar 'f') rfl rfl
  split
  · next h =>
    have hval : c = CodePoint.ofNat 8 := by rw [← ofNat_val c, eq_of_beq h]
    subst hval
    exact hshort (e := CodePoint.ofChar 'b') rfl rfl
  split
  · next hquote hslash _ _ _ _ _ h =>
    rw [CodePoint.between, Bool.and_eq_true] at h
    exact ⟨offset + 1, stringRest_plain start fuel offset acc rest (Bool.eq_false_iff.mpr hquote)
      (of_decide_eq_true h.1) (Bool.eq_false_iff.mpr hslash)⟩
  split
  · next h =>
    refine ⟨offset + 6, ?_⟩
    have halone : pairedEscape (CodePoint.ofNat c.val) ⟨rest, offset + 6⟩ = .ok none :=
      pairedEscape_single ((ofNat_val c).symm ▸ hhigh) _
    rw [← numberEscape, stringRest_number start fuel offset acc rest h hrest halone, ofNat_val]
    rfl
  · next h =>
    refine ⟨offset + 12, ?_⟩
    rw [← stringRest_pair start fuel offset acc rest (Nat.not_lt.mp h) hrest]
    simp only [numberEscape, List.append_assoc]

/-- A text without surrogates is read to its closing quote. -/
lemma stringRest_flatMap {t : Text} (ht : t.isUnicode = true) (hfuel : t.length < fuel) :
    ∃ offset', stringRest start fuel ⟨t.flatMap writePoint ++ CodePoint.ofChar '"' :: rest, offset⟩
      acc = .ok (acc.reverse ++ t, ⟨rest, offset'⟩) := by
  induction t generalizing fuel offset acc with
  | nil =>
    obtain ⟨fuel, rfl⟩ := Nat.exists_eq_succ_of_ne_zero (Nat.ne_of_gt hfuel)
    exact ⟨offset + 1, by rw [List.append_nil]; rfl⟩
  | cons c t ih =>
    obtain ⟨fuel, rfl⟩ := Nat.exists_eq_succ_of_ne_zero (show fuel ≠ 0 by omega)
    rw [Text.isUnicode, List.all_cons, Bool.and_eq_true] at ht
    obtain ⟨hc, ht⟩ := ht
    obtain ⟨offset', hstep⟩ := stringRest_writePoint start fuel offset acc
      (t.flatMap writePoint ++ CodePoint.ofChar '"' :: rest) (by simpa using hc) (by simp)
    obtain ⟨offset'', hrest⟩ := ih fuel offset' (c :: acc) ht (by simpa using hfuel)
    refine ⟨offset'', ?_⟩
    rw [List.flatMap_cons, List.append_assoc, hstep, hrest, List.reverse_cons, List.append_assoc]
    rfl

/-- Every code point takes some room. -/
lemma length_le_length_flatMap (t : Text) : t.length ≤ (t.flatMap writePoint).length := by
  have hpos (c : CodePoint) : 1 ≤ (writePoint c).length := by
    have hescape (u : Text) : 1 ≤ (Text.ofString "\\u" ++ u).length := Nat.succ_pos _
    rw [writePoint]
    repeat' split
    all_goals first
      | decide
      | exact Nat.le_refl 1
      | rw [List.append_assoc, List.append_assoc]; exact hescape _
      | exact hescape _
  induction t with
  | nil => exact Nat.le_refl 0
  | cons c t ih =>
    have hc := hpos c
    rw [List.flatMap_cons, List.length_append, List.length_cons]
    omega

/-- A text without surrogates is read back from the string that is written for it. -/
theorem string_writeText {t : Text} (ht : t.isUnicode = true) :
    ∃ offset', string ⟨writeText t ++ rest, offset⟩ = .ok (t, ⟨rest, offset'⟩) := by
  have htext : writeText t ++ rest =
      CodePoint.ofChar '"' :: (t.flatMap writePoint ++ CodePoint.ofChar '"' :: rest) := by
    rw [writeText, List.append_assoc, List.append_assoc]
    rfl
  have hle := length_le_length_flatMap t
  obtain ⟨offset', h⟩ := stringRest_flatMap offset ((writeText t ++ rest).length + 1) (offset + 1) []
    rest ht (by rw [htext, List.length_cons, List.length_append]; omega)
  refine ⟨offset', ?_⟩
  rw [List.reverse_nil, List.nil_append, htext] at h
  rw [string, htext]
  exact h

end

end Json

end Offside
