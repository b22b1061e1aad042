import Mathlib.Data.List.Induction
import Mathlib.Data.List.TakeWhile
import Mathlib.Tactic.Lemma
import Offside.Proofs.Escape
import Offside.Proofs.Spelling
import Offside.Source.Quotation
import Offside.Text.CharacterName

/-!
# What strings stand for

A string is read from behind its opening quote on: a code point stands for itself unless it is the
quote, a backslash or refused, and a backslash begins an escape.  Languages differ in what they
refuse and in their escapes; `StringRules` takes these as parameters, `StringRules.source` are the
rules of the language that is converted and `StringRules.target` those of the one that it is
converted to.

`Spells` is the part that both have in common: it relates the rest of a portable string to what the
string stands for, item by item.  A portable string spells something, both languages read it to its
end as what it spells, and no more than one unit of sixteen bits is needed for any code point of it.
`Portable.strings_read_alike` puts this together.
-/

namespace Offside

/-! ## Reading a string -/

/-- The rules by which a language reads a string. -/
structure StringRules where
  /-- What may not stand in a string by itself. -/
  isRefused : CodePoint → Bool
  /-- What an escape adds and how many code points it takes, from behind the backslash on. -/
  escape? : Text → Option (Text × Nat)
  /-- Three quotes begin a string of another sort. -/
  hasLongQuotes : Bool

namespace StringRules

/-- What the rest of a string stands for and what is left behind it.  An escape may have some code
points still to take. -/
def readRest (rules : StringRules) (quote : CodePoint) : Nat → Text → Option (Text × Text)
  | _, [] => none
  | n + 1, _ :: rest => readRest rules quote n rest
  | 0, c :: rest =>
    if c == quote then some ([], rest)
    else if c == '\\' then
      match rules.escape? rest with
      | some (added, n) =>
        (readRest rules quote n rest).map fun (value, behind) => (added ++ value, behind)
      | none => none
    else if rules.isRefused c then none
    else (readRest rules quote 0 rest).map fun (value, behind) => (c :: value, behind)

/-- What the string in front of a text stands for and what is left behind it. -/
def read (rules : StringRules) : Text → Option (Text × Text)
  | [] => none
  | q :: rest =>
    if !(q == '"' || q == '\'') then none
    else if rules.hasLongQuotes && rest.take 2 == [q, q] then none
    else rules.readRest q 0 rest

/-- An escape by a letter and a fixed number of hexadecimal digits, from behind the letter on. -/
def hexEscape? (n : Nat) (t : Text) : Option (Text × Nat) :=
  let code := Text.numeral 16 (t.take n)
  if Portable.startsHex n t && code ≤ 0x10FFFF then some ([CodePoint.ofNat code], n + 1) else none

/-- An escape by a letter and a code in braces, from behind the letter on. -/
def bracedEscape? (find? : Text → Option Nat) (t : Text) : Option (Text × Nat) :=
  let inner := (t.drop 1).takeWhile (· != CodePoint.ofChar '\x7d')
  if t.head? = some (CodePoint.ofChar '\x7b') ∧ inner.length + 1 < t.length then
    (find? inner).map fun code => ([CodePoint.ofNat code], inner.length + 3)
  else none

/-- The code point with a hexadecimal numeral of any length. -/
def codeOf? (digits : Text) : Option Nat :=
  let code := Text.numeral 16 digits
  if Portable.isDigits CodePoint.isHexDigit digits && code ≤ 0x10FFFF then some code else none

/-- The escapes of the language that is converted, from behind the backslash on.  What is no escape
stands for itself. -/
def sourceEscape? : Text → Option (Text × Nat)
  | [] => none
  | c :: rest =>
    if c == '\r' && rest.head? == some (CodePoint.ofChar '\n') then some ([], 2)
    else if c.isLineEnd then some ([], 1)
    else if c == 'u' then
      if rest.head? == some (CodePoint.ofChar '\x7b') then bracedEscape? codeOf? rest
      else hexEscape? 4 rest
    else if c == 'x' then hexEscape? 2 rest
    else if c.isOctalDigit then
      let digits := Source.octalDigits (c :: rest)
      some ([CodePoint.ofNat (Text.numeral 8 digits)], digits.length)
    else some ([(Source.controlEscape? c).getD c], 1)

/-- The escapes of the language that is converted to, from behind the backslash on.  What is no
escape is kept with its backslash. -/
def targetEscape? : Text → Option (Text × Nat)
  | [] => none
  | c :: rest =>
    if c == '\r' && rest.head? == some (CodePoint.ofChar '\n') then some ([], 2)
    else if c == '\n' || c == '\r' then some ([], 1)
    else if c.val == 0 then none
    else if c == 'x' then hexEscape? 2 rest
    else if c == 'u' then hexEscape? 4 rest
    else if c == 'U' then hexEscape? 8 rest
    else if c == 'N' then bracedEscape? CharacterName.find? rest
    else if c.isOctalDigit then
      let digits := ((c :: rest).take 3).takeWhile CodePoint.isOctalDigit
      some ([CodePoint.ofNat (Text.numeral 8 digits)], digits.length)
    else if c == 'a' then some ([CodePoint.ofNat 7], 1)
    else if c == '\\' || c == '\'' || c == '"' then some ([c], 1)
    else match Source.controlEscape? c with
      | some x => some ([x], 1)
      | none => some (['\\', c], 1)

/-- The rules of the language that is converted. -/
def source : StringRules where
  isRefused c := c == '\n' || c == '\r'
  escape? := sourceEscape?
  hasLongQuotes := false

/-- The rules of the language that is converted to. -/
def target : StringRules where
  isRefused c := c == '\n' || c == '\r' || c.val == 0
  escape? := targetEscape?
  hasLongQuotes := true

variable {rules : StringRules} {q : CodePoint}

/-- What an escape takes is skipped. -/
lemma readRest_append (x t : Text) :
    rules.readRest q x.length (x ++ t) = rules.readRest q 0 t := by
  induction x with
  | nil => rfl
  | cons c rest ih =>
    rw [List.cons_append, List.length_cons, readRest, ih]

/-- A string ends at its quote. -/
lemma readRest_quote (t : Text) : rules.readRest q 0 (q :: t) = some ([], t) := by
  rw [readRest, if_pos (beq_self_eq_true q)]

/-- A code point by itself stands for itself. -/
lemma readRest_plain {c : CodePoint} {t value behind : Text} (hquote : c ≠ q) (hslash : c ≠ '\\')
    (hrefused : rules.isRefused c = false) (h : rules.readRest q 0 t = some (value, behind)) :
    rules.readRest q 0 (c :: t) = some (c :: value, behind) := by
  rw [readRest, if_neg (by simpa using hquote), if_neg (by simpa using hslash), hrefused, h]
  rfl

/-- An escape stands for what it adds. -/
lemma readRest_escape {x t added value behind : Text} (hquote : q ≠ '\\')
    (hescape : rules.escape? (x ++ t) = some (added, x.length))
    (h : rules.readRest q 0 t = some (value, behind)) :
    rules.readRest q 0 ('\\' :: (x ++ t)) = some (added ++ value, behind) := by
  have hslash : (CodePoint.ofChar '\\' == q) = false := by simpa using hquote.symm
  rw [readRest, hslash, if_neg Bool.false_ne_true, if_pos (beq_self_eq_true _), hescape]
  dsimp only
  rw [readRest_append, h]
  rfl

end StringRules

/-! ## What portable strings spell -/

namespace Portable

/-- What a hexadecimal numeral of a fixed length stands for. -/
def hexPoint (digits : Text) : CodePoint := CodePoint.ofNat (Text.numeral 16 digits)

/-- What a code point stands for by itself behind a backslash. -/
def escaped (c : CodePoint) : CodePoint := (Source.controlEscape? c).getD c

/-- A portable escape from behind the backslash on, what it stands for and what is left behind. -/
inductive Escapes : Text → CodePoint → Text → Prop
  | control {e : CodePoint} (he : isPlainEscape e = true) (t : Text) : Escapes [e] (escaped e) t
  | zero {t : Text} (ht : t.head?.any CodePoint.isDigit = false) :
    Escapes ['0'] (CodePoint.ofNat 0) t
  | byte {digits : Text} (hlength : digits.length = 2)
    (hdigits : ∀ d ∈ digits, d.isHexDigit = true) (t : Text) :
    Escapes ('x' :: digits) (hexPoint digits) t
  | unit {digits : Text} (hlength : digits.length = 4)
    (hdigits : ∀ d ∈ digits, d.isHexDigit = true) (t : Text) :
    Escapes ('u' :: digits) (hexPoint digits) t

/-- The rest of a portable string, and what it stands for. -/
inductive Spells (q : CodePoint) : Text → Text → Prop
  | quote : Spells q [q] []
  | plain {c : CodePoint} {t v : Text} (hquote : c ≠ q) (hslash : c ≠ '\\') (hfeed : c ≠ '\n')
    (hreturn : c ≠ '\r') (rest : Spells q t v) : Spells q (c :: t) (c :: v)
  | escape {x t v : Text} {c : CodePoint} (h : Escapes x c t) (rest : Spells q t v) :
    Spells q ('\\' :: (x ++ t)) (c :: v)

/-- The rest of a portable string has its quote at least. -/
lemma Spells.ne_nil {q : CodePoint} {t v : Text} (h : Spells q t v) : t ≠ [] := by
  cases h <;> exact List.cons_ne_nil _ _

/-- An item in front of the rest of a string stands for one code point more. -/
lemma exists_spells_of_item {q : CodePoint} {x t v : Text} (hx : IsItem q x t) (h : Spells q t v) :
    ∃ w, Spells q (x ++ t) w := by
  cases hx with
  | @plain c hquote hslash hfeed hreturn => exact ⟨c :: v, .plain hquote hslash hfeed hreturn h⟩
  | @control e he =>
    exact ⟨escaped e :: v, .escape (.control (isPlainEscape_iff.mpr he) t) h⟩
  | zero hdigit =>
    have hnone : t.head?.any CodePoint.isDigit = false := by
      simpa [Option.any_eq_false] using hdigit
    exact ⟨CodePoint.ofNat 0 :: v, .escape (.zero hnone) h⟩
  | @byte digits hlength hdigits =>
    exact ⟨hexPoint digits :: v, .escape (.byte hlength hdigits t) h⟩
  | @unit digits hlength hdigits =>
    exact ⟨hexPoint digits :: v, .escape (.unit hlength hdigits t) h⟩

/-- The rest of a portable string stands for something. -/
theorem exists_spells {q : CodePoint} {t : Text} (h : AreItems q t) : ∃ v, Spells q t v := by
  induction h with
  | quote => exact ⟨[], .quote⟩
  | item hx _ ih =>
    obtain ⟨v, hv⟩ := ih
    exact exists_spells_of_item hx hv

/-! ## Escapes that both languages know -/

/-- The value of a digit is less than sixteen. -/
lemma digitValue_lt (c : CodePoint) : c.digitValue < 16 := by
  have hten : '0'.toNat = 48 ∧ '9'.toNat = 57 := ⟨rfl, rfl⟩
  have hsmall : 'a'.toNat = 97 ∧ 'f'.toNat = 102 := ⟨rfl, rfl⟩
  have hgreat : 'A'.toNat = 65 ∧ 'F'.toNat = 70 := ⟨rfl, rfl⟩
  simp only [CodePoint.digitValue, CodePoint.isDigit, CodePoint.between, Bool.and_eq_true,
    decide_eq_true_eq]
  split
  · omega
  · split
    · omega
    · split <;> omega

/-- An octal digit is a decimal one. -/
lemma isDigit_of_isOctalDigit {c : CodePoint} (h : c.isOctalDigit = true) : c.isDigit = true := by
  obtain ⟨hlow, hhigh⟩ := Bool.and_eq_true_iff.mp h
  have hless : '7'.toNat ≤ '9'.toNat := by decide
  exact Bool.and_eq_true_iff.mpr
    ⟨hlow, decide_eq_true ((of_decide_eq_true hhigh).trans hless)⟩

/-- The length of a hexadecimal numeral bounds its value. -/
lemma numeral_lt (digits : Text) : Text.numeral 16 digits < 16 ^ digits.length := by
  induction digits using List.reverseRecOn with
  | nil => decide
  | append_singleton rest d ih =>
    have hvalue := digitValue_lt d
    rw [Text.numeral_append_singleton, List.length_append, List.length_singleton, Nat.pow_succ]
    omega

/-- A hexadecimal numeral of up to four digits stands for the code point with its number. -/
lemma val_hexPoint {digits : Text} (h : digits.length ≤ 4) :
    (hexPoint digits).val = Text.numeral 16 digits ∧
      (hexPoint digits).val < 16 ^ digits.length := by
  have hless := numeral_lt digits
  have hpow : 16 ^ digits.length ≤ 16 ^ 4 := Nat.pow_le_pow_right (by decide) h
  have hval : (hexPoint digits).val = Text.numeral 16 digits := Json.val_ofNat (by omega)
  exact ⟨hval, hval ▸ hless⟩

/-- An escape of up to four hexadecimal digits stands for the code point with this number. -/
lemma hexEscape?_append {n : Nat} (hn : n ≤ 4) {digits : Text} (hlength : digits.length = n)
    (hdigits : ∀ d ∈ digits, d.isHexDigit = true) (t : Text) :
    StringRules.hexEscape? n (digits ++ t) = some ([hexPoint digits], digits.length + 1) := by
  have htake : (digits ++ t).take n = digits := List.take_left' hlength
  have hstarts : startsHex n (digits ++ t) = true := startsHex_append hlength hdigits t
  have hcode : Text.numeral 16 digits ≤ 0x10FFFF := by
    have hvalue := (val_hexPoint (hlength.trans_le hn)).1
    have hless := (hexPoint digits).isLt
    omega
  rw [StringRules.hexEscape?, htake, hstarts, Bool.true_and, if_pos (decide_eq_true hcode), hlength]
  rfl

/-- Only a zero is read as an octal escape in front of what is no digit. -/
lemma takeWhile_zero {t : Text} (ht : t.head?.any CodePoint.isDigit = false) :
    (('0' :: t : Text).take 3).takeWhile CodePoint.isOctalDigit = [CodePoint.ofChar '0'] := by
  have hbehind : (t.take 2).takeWhile CodePoint.isOctalDigit = [] := by
    cases t with
    | nil => rfl
    | cons c rest =>
      rw [List.take_succ_cons, List.takeWhile_cons_of_neg]
      exact fun hc => Bool.false_ne_true (ht.symm.trans (isDigit_of_isOctalDigit hc))
  rw [List.take_succ_cons, List.takeWhile_cons_of_pos rfl, hbehind]

/-- What stands for one code point behind a backslash is one of nine. -/
lemma isPlainEscape_cases {e : CodePoint} (h : isPlainEscape e = true) :
    e = '\\' ∨ e = '\'' ∨ e = '"' ∨ e = 'b' ∨ e = 'f' ∨ e = 'n' ∨ e = 'r' ∨ e = 't' ∨ e = 'v' := by
  simpa [isPlainEscape, or_assoc] using h

/-- Rules that read the items of portable strings as what they spell. -/
structure AgreesWith (rules : StringRules) : Prop where
  plain : ∀ c : CodePoint, c ≠ '\n' → c ≠ '\r' → c ≠ CodePoint.ofNat 0 → rules.isRefused c = false
  escape : ∀ x c t, Escapes x c t → rules.escape? (x ++ t) = some ([c], x.length)

/-- The rules of the language that is converted agree with what portable strings spell. -/
theorem agreesWith_source : AgreesWith StringRules.source where
  plain c hfeed hreturn _ :=
    Bool.or_eq_false_iff.mpr ⟨beq_eq_false_iff_ne.mpr hfeed, beq_eq_false_iff_ne.mpr hreturn⟩
  escape x c t h := by
    cases h with
    | control he =>
      rcases isPlainEscape_cases he with rfl | rfl | rfl | rfl | rfl | rfl | rfl | rfl | rfl <;> rfl
    | zero ht =>
      have hdigits : Source.octalDigits ('0' :: t) = [CodePoint.ofChar '0'] := by
        rw [Source.octalDigits, takeWhile_zero ht]
        rfl
      change some ([CodePoint.ofNat (Text.numeral 8 (Source.octalDigits ('0' :: t)))],
        (Source.octalDigits ('0' :: t)).length) = _
      rw [hdigits]
      rfl
    | byte hlength hdigits => exact hexEscape?_append (by decide) hlength hdigits t
    | @unit digits hlength hdigits =>
      -- A digit is no brace.
      have hbrace : ¬((digits ++ t).head? == some (CodePoint.ofChar '\x7b')) = true := by
        obtain ⟨d, more, rfl⟩ := List.exists_cons_of_length_eq_add_one hlength
        intro h
        obtain rfl : d = CodePoint.ofChar '\x7b' := by simpa using h
        exact absurd (hdigits _ List.mem_cons_self) (by decide)
      change (if (digits ++ t).head? == some (CodePoint.ofChar '\x7b') then
        StringRules.bracedEscape? StringRules.codeOf? (digits ++ t)
        else StringRules.hexEscape? 4 (digits ++ t)) = _
      rw [if_neg hbrace]
      exact hexEscape?_append (by decide) hlength hdigits t

/-- The rules of the language that is converted to agree with what portable strings spell. -/
theorem agreesWith_target : AgreesWith StringRules.target where
  plain c hfeed hreturn hnull := by
    have hval : (c.val == 0) = false := by
      rw [beq_eq_false_iff_ne]
      intro hzero
      exact hnull (by rw [← hzero, Json.ofNat_val])
    exact Bool.or_eq_false_iff.mpr ⟨Bool.or_eq_false_iff.mpr
      ⟨beq_eq_false_iff_ne.mpr hfeed, beq_eq_false_iff_ne.mpr hreturn⟩, hval⟩
  escape x c t h := by
    cases h with
    | control he =>
      rcases isPlainEscape_cases he with rfl | rfl | rfl | rfl | rfl | rfl | rfl | rfl | rfl <;> rfl
    | zero ht =>
      change some ([CodePoint.ofNat (Text.numeral 8
        ((('0' :: t : Text).take 3).takeWhile CodePoint.isOctalDigit))],
        ((('0' :: t : Text).take 3).takeWhile CodePoint.isOctalDigit).length) = _
      rw [takeWhile_zero ht]
      rfl
    | byte hlength hdigits => exact hexEscape?_append (by decide) hlength hdigits t
    | unit hlength hdigits => exact hexEscape?_append (by decide) hlength hdigits t

/-- Rules that agree with what portable strings spell read one to its end as what it spells. -/
theorem Spells.readRest {rules : StringRules} (hrules : AgreesWith rules) {q : CodePoint}
    (hq : q ≠ '\\') {t v : Text} (h : Spells q t v) (hnull : CodePoint.ofNat 0 ∉ t) :
    rules.readRest q 0 t = some (v, []) := by
  induction h with
  | quote => exact StringRules.readRest_quote []
  | @plain c _ _ hquote hslash hfeed hreturn _ ih =>
    obtain ⟨hc, ht⟩ := not_or.mp (mt List.mem_cons.mpr hnull)
    exact StringRules.readRest_plain hquote hslash (hrules.plain c hfeed hreturn (Ne.symm hc))
      (ih ht)
  | @escape x t _ c hx _ ih =>
    have ht : CodePoint.ofNat 0 ∉ t := fun h =>
      hnull (List.mem_cons_of_mem _ (List.mem_append_right x h))
    exact StringRules.readRest_escape hq (hrules.escape x c t hx) (ih ht)

/-! ## What a string stands for -/

/-- An escape by four digits names a surrogate. -/
def namesSurrogate : Text → Bool
  | c :: e :: rest =>
    if c == '\\' then (e == 'u' && (hexPoint (rest.take 4)).isSurrogate) || namesSurrogate rest
    else namesSurrogate (e :: rest)
  | _ => false

/-- What stands behind a code point by itself names a surrogate if both together do. -/
lemma namesSurrogate_cons {c : CodePoint} (hc : c ≠ '\\') (t : Text) :
    namesSurrogate (c :: t) = namesSurrogate t := by
  cases t with
  | nil => rfl
  | cons e rest => rw [namesSurrogate, if_neg (by simpa using hc)]

/-- An escape names a surrogate itself, or one is named behind it. -/
lemma namesSurrogate_escape (e : CodePoint) (t : Text) : namesSurrogate ('\\' :: e :: t) =
    ((e == 'u' && (hexPoint (t.take 4)).isSurrogate) || namesSurrogate t) := by
  rw [namesSurrogate, if_pos (beq_self_eq_true _)]

/-- Code points by themselves do not name a surrogate. -/
lemma namesSurrogate_append {digits : Text} (h : ∀ d ∈ digits, d.isHexDigit = true) (t : Text) :
    namesSurrogate (digits ++ t) = namesSurrogate t := by
  induction digits with
  | nil => rfl
  | cons d rest ih =>
    obtain ⟨hd, hrest⟩ := List.forall_mem_cons.mp h
    have hslash : d ≠ '\\' := by
      rintro rfl
      exact absurd hd (by decide)
    rw [List.cons_append, namesSurrogate_cons hslash, ih hrest]

/-- A code point is one unit of sixteen bits, and no surrogate unless it is in a text. -/
def IsUnitOf (t : Text) (c : CodePoint) : Prop :=
  c.val < 0x10000 ∧ (c.isSurrogate = true → c ∈ t)

/-- A unit of a text is one of any text that ends in it. -/
lemma IsUnitOf.append {t : Text} {c : CodePoint} (h : IsUnitOf t c) (x : Text) :
    IsUnitOf (x ++ t) c :=
  ⟨h.1, fun hc => List.mem_append_right x (h.2 hc)⟩

/-- A portable escape that names no surrogate stands for another unit of sixteen bits. -/
lemma Escapes.not_namesSurrogate {x t : Text} {c : CodePoint} (h : Escapes x c t)
    (hsurrogate : namesSurrogate ('\\' :: (x ++ t)) = false) :
    c.val < 0x10000 ∧ c.isSurrogate = false ∧ namesSurrogate t = false := by
  cases h with
  | @control e he =>
    have hvalue : (escaped e).val < 0xD800 := by
      rcases isPlainEscape_cases he with rfl | rfl | rfl | rfl | rfl | rfl | rfl | rfl | rfl <;>
        decide
    rw [List.singleton_append, namesSurrogate_escape] at hsurrogate
    exact ⟨by omega, CodePoint.isSurrogate_eq_false hvalue,
      (Bool.or_eq_false_iff.mp hsurrogate).2⟩
  | zero =>
    rw [List.singleton_append, namesSurrogate_escape] at hsurrogate
    exact ⟨by decide, CodePoint.isSurrogate_eq_false (by decide),
      (Bool.or_eq_false_iff.mp hsurrogate).2⟩
  | byte hlength hdigits =>
    rw [List.cons_append, namesSurrogate_escape, namesSurrogate_append hdigits] at hsurrogate
    have hvalue := (val_hexPoint (hlength.trans_le (by decide))).2
    rw [hlength] at hvalue
    exact ⟨by omega, CodePoint.isSurrogate_eq_false (by omega),
      (Bool.or_eq_false_iff.mp hsurrogate).2⟩
  | unit hlength hdigits =>
    rw [List.cons_append, namesSurrogate_escape, namesSurrogate_append hdigits,
      List.take_left' hlength] at hsurrogate
    have hvalue := (val_hexPoint hlength.le).2
    rw [hlength] at hvalue
    exact ⟨hvalue, Bool.or_eq_false_iff.mp hsurrogate⟩

/-- A portable string without code points beyond sixteen bits spells units of sixteen bits, and a
surrogate only where one stands in it or is named. -/
lemma Spells.isUnitOf {q : CodePoint} {t v : Text} (h : Spells q t v)
    (hplane : ∀ c ∈ t, c.val < 0x10000) (hsurrogate : namesSurrogate t = false) :
    ∀ c ∈ v, IsUnitOf t c := by
  induction h with
  | quote => exact List.forall_mem_nil _
  | @plain c t _ _ hslash _ _ _ ih =>
    obtain ⟨hc, ht⟩ := List.forall_mem_cons.mp hplane
    rw [namesSurrogate_cons hslash] at hsurrogate
    have hrest := fun x hx => (ih ht hsurrogate x hx).append [c]
    exact List.forall_mem_cons.mpr ⟨⟨hc, fun _ => List.mem_cons_self⟩, hrest⟩
  | @escape x t _ c hx _ ih =>
    obtain ⟨hless, hc, hbehind⟩ := hx.not_namesSurrogate hsurrogate
    have ht : ∀ d ∈ t, d.val < 0x10000 := fun d hd =>
      hplane d (List.mem_cons_of_mem _ (List.mem_append_right x hd))
    have hrest := fun d hd => (ih ht hbehind d hd).append ('\\' :: x)
    exact List.forall_mem_cons.mpr
      ⟨⟨hless, fun h => absurd (hc.symm.trans h) Bool.false_ne_true⟩, hrest⟩

/-! ## Portable strings -/

/-- A portable literal that begins with a quote is a string and stands for something. -/
lemma exists_spells_of_isPortableLiteral {q : CodePoint} (hq : q = '"' ∨ q = '\'') {t : Text}
    (h : isPortableLiteral (q :: t) = true) : ∃ v, Spells q t v := by
  have hradix : isRadixInteger (q :: t) = false := by
    cases t <;> rcases hq with rfl | rfl <;> rfl
  have hdecimal : isDecimal (q :: t) = false := by rcases hq with rfl | rfl <;> rfl
  rw [isPortableLiteral, hradix, hdecimal, Bool.false_or, Bool.false_or] at h
  exact exists_spells (areItems_of_isStringRest (isHexDigit_quote hq).1 t
    (Bool.and_eq_true_iff.mp h).2)

/-- The rest of a portable string does not begin with two quotes. -/
lemma Spells.take_two_ne {q : CodePoint} (hq : q ≠ '\\') {t v : Text} (h : Spells q t v) :
    t.take 2 ≠ [q, q] := by
  intro hquotes
  cases h with
  | quote => exact absurd hquotes (by simp)
  | plain hquote => exact hquote (List.cons.inj hquotes).1
  | escape => exact hq (List.cons.inj hquotes).1.symm

/-- Rules that agree with what portable strings spell read one as what it spells. -/
lemma read_of_spells {rules : StringRules} (hrules : AgreesWith rules) {q : CodePoint}
    (hq : q = '"' ∨ q = '\'') {t v : Text} (h : Spells q t v) (hnull : CodePoint.ofNat 0 ∉ t) :
    rules.read (q :: t) = some (v, []) := by
  have hslash := (isHexDigit_quote hq).2
  have hquote : (!(q == '"' || q == '\'')) = false := by rcases hq with rfl | rfl <;> rfl
  have hlong : (rules.hasLongQuotes && t.take 2 == [q, q]) = false :=
    Bool.and_eq_false_iff.mpr (.inr (beq_eq_false_iff_ne.mpr (h.take_two_ne hslash)))
  rw [StringRules.read, hquote, hlong, if_neg Bool.false_ne_true, if_neg Bool.false_ne_true]
  exact h.readRest hrules hslash hnull

/-- A portable string in which no code point is zero or needs more than sixteen bits and no escape
names a surrogate is one string in both languages and stands for the same text.  Each code point of
this text is one unit of sixteen bits, and a surrogate only if it stands in the string itself. -/
theorem strings_read_alike {raw : Text} (hportable : isPortableLiteral raw = true)
    (hquote : raw.head? = some (CodePoint.ofChar '"') ∨ raw.head? = some (CodePoint.ofChar '\''))
    (hnull : CodePoint.ofNat 0 ∉ raw) (hplane : ∀ c ∈ raw, c.val < 0x10000)
    (hsurrogate : namesSurrogate raw = false) :
    ∃ value, StringRules.source.read raw = some (value, []) ∧
      StringRules.target.read raw = some (value, []) ∧ ∀ c ∈ value, IsUnitOf raw c := by
  cases raw with
  | nil => exact absurd hportable Bool.false_ne_true
  | cons q t =>
    have hq : q = '"' ∨ q = '\'' := hquote.imp Option.some.inj Option.some.inj
    obtain ⟨v, hv⟩ := exists_spells_of_isPortableLiteral hq hportable
    have hnullRest : CodePoint.ofNat 0 ∉ t := fun h => hnull (List.mem_cons_of_mem q h)
    refine ⟨v, read_of_spells agreesWith_source hq hv hnullRest,
      read_of_spells agreesWith_target hq hv hnullRest, fun c hc => ?_⟩
    rw [namesSurrogate_cons (isHexDigit_quote hq).2] at hsurrogate
    obtain ⟨hless, hmem⟩ :=
      hv.isUnitOf (fun c hc => hplane c (List.mem_cons_of_mem q hc)) hsurrogate c hc
    exact ⟨hless, fun h => List.mem_cons_of_mem q (hmem h)⟩

/-- A string with an escape of every sort. -/
theorem strings_read_alike_escapes :
    let raw : Text := "'a\\0\\x41\\u00e9\\n\\'\"'"
    let value : Text :=
      ['a', CodePoint.ofNat 0, 'A', CodePoint.ofNat 0xE9, '\n', '\'', '"']
    isPortableLiteral raw = true ∧
      (raw.head? = some (CodePoint.ofChar '"') ∨ raw.head? = some (CodePoint.ofChar '\'')) ∧
      CodePoint.ofNat 0 ∉ raw ∧ (∀ c ∈ raw, c.val < 0x10000) ∧ namesSurrogate raw = false ∧
      StringRules.source.read raw = some (value, []) ∧
      StringRules.target.read raw = some (value, []) := by
  intro raw value
  have hportable : isPortableLiteral raw = true := by decide +kernel
  have hquote : raw.head? = some (CodePoint.ofChar '"') ∨
      raw.head? = some (CodePoint.ofChar '\'') := .inr (by decide)
  have hnull : CodePoint.ofNat 0 ∉ raw := by decide +kernel
  have hplane : ∀ c ∈ raw, c.val < 0x10000 := by decide +kernel
  have hsurrogate : namesSurrogate raw = false := by decide +kernel
  have hvalue : StringRules.source.read raw = some (value, []) := by decide +kernel
  obtain ⟨v, hsource, htarget, -⟩ :=
    strings_read_alike hportable hquote hnull hplane hsurrogate
  have hv : v = value := congrArg Prod.fst (Option.some.inj (hsource.symm.trans hvalue))
  exact ⟨hportable, hquote, hnull, hplane, hsurrogate, hvalue, hv ▸ htarget⟩

end Portable

end Offside
