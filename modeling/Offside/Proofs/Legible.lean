import Mathlib.Data.List.TakeWhile
import Mathlib.Tactic.Lemma
import Offside.Proofs.Spelling
import Offside.Text.Letter

/-!
# Legible texts

A piece of text can stand on a line of its own if it does not run on to the next line, if its
first code point cannot be taken for indentation and its last one for the end of a header, and if
its first word is not one that gives a line a special meaning.  What ends a line and which words
are special depends on who reads the text; `Rules` holds both.

Pieces are put together from names, literals and operators with punctuation in between, so that
each part of legibility is inherited from one side: the beginning from the first piece, the end
from the last one.  Portable literals are legible by every rules.
-/

namespace Offside

namespace Layout

/-! ## Words and breaks -/

/-- A code point that indents a line. -/
def isBlank (c : CodePoint) : Bool := c == ' ' || c == '\t'

/-- A code point of a word: a letter, a digit, `_` or `$`. -/
def isWordPart (c : CodePoint) : Bool := c.isIdContinue || c == '$'

/-- The word that a text begins with. -/
def firstWord (t : Text) : Text := t.takeWhile isWordPart

/-- How a text is read: what ends a line, and which words are special.  Only the usual line breaks
end a line, and special words begin with a letter. -/
structure Rules where
  isBreak : CodePoint → Bool
  special : List Text
  isBreak_imp : ∀ c, isBreak c = true → c = '\n' ∨ c = '\r'
  special_imp : ∀ w ∈ special, ∃ c ∈ w.head?, c.isAsciiLetter = true

/-- A code point of a word does not indent a line. -/
lemma isBlank_of_isWordPart {c : CodePoint} (h : isWordPart c = true) : isBlank c = false := by
  cases hc : isBlank c with
  | false => rfl
  | true =>
    rcases Bool.or_eq_true_iff.mp hc with hc | hc <;>
    · rw [eq_of_beq hc] at h
      exact absurd h (by decide)

/-- Behind a word that ends, the first word does not go on. -/
lemma firstWord_append (t : Text) {u : Text} (h : ∀ c ∈ u.head?, isWordPart c = false) :
    firstWord (t ++ u) = firstWord t := by
  have hu : u.takeWhile isWordPart = [] := by
    cases u with
    | nil => rfl
    | cons c rest => exact List.takeWhile_cons_of_neg (by rw [h c rfl]; exact Bool.false_ne_true)
  unfold firstWord
  rw [List.takeWhile_append, hu, List.append_nil]
  split
  · next hlen => exact (( List.takeWhile_prefix isWordPart).eq_of_length hlen).symm
  · rfl

/-- A word is its own first word. -/
lemma firstWord_eq_self {t : Text} (h : ∀ c ∈ t, isWordPart c = true) : firstWord t = t :=
  List.takeWhile_eq_self_iff.mpr h

namespace Rules

variable (R : Rules)

/-- What is no line break does not end a line. -/
lemma isBreak_eq_false {c : CodePoint} (h : c ≠ '\n' ∧ c ≠ '\r') : R.isBreak c = false := by
  cases hc : R.isBreak c with
  | false => rfl
  | true => exact absurd (R.isBreak_imp c hc) (not_or.mpr h)

/-- A word that does not begin with a letter is not special. -/
lemma not_mem_special {w : Text} (h : ∀ c ∈ w.head?, c.isAsciiLetter = false) :
    w ∉ R.special := by
  intro hw
  obtain ⟨c, hc, hletter⟩ := R.special_imp w hw
  rw [h c hc] at hletter
  exact absurd hletter Bool.false_ne_true

/-- A text whose first code point is no letter does not begin with a special word. -/
lemma firstWord_not_mem_special {t : Text} (h : ∀ c ∈ t.head?, c.isAsciiLetter = false) :
    firstWord t ∉ R.special := by
  refine R.not_mem_special fun c hc => h c ?_
  rw [firstWord, List.head?_takeWhile, Option.mem_def, Option.filter_eq_some_iff] at hc
  exact hc.1

end Rules

/-! ## Texts that stay on their line -/

section

variable {R : Rules}

/-- No code point of the text ends a line. -/
def Unbroken (R : Rules) (t : Text) : Prop := ∀ c ∈ t, R.isBreak c = false

/-- A text without line breaks stays on its line. -/
lemma Unbroken.of_ne {t : Text} (h : ∀ c ∈ t, c ≠ '\n' ∧ c ≠ '\r') : Unbroken R t :=
  fun c hc => R.isBreak_eq_false (h c hc)

/-- Code points of words stay on their line. -/
lemma Unbroken.of_isWordPart {t : Text} (h : ∀ c ∈ t, isWordPart c = true) : Unbroken R t := by
  refine .of_ne fun c hc => ⟨?_, ?_⟩ <;>
  · rintro rfl
    exact absurd (h _ hc) (by decide)

/-- Texts in a row stay on their line. -/
lemma Unbroken.append {t u : Text} (ht : Unbroken R t) (hu : Unbroken R u) :
    Unbroken R (t ++ u) :=
  List.forall_mem_append.mpr ⟨ht, hu⟩

/-- Joined texts stay on their line if the separator does. -/
lemma Unbroken.join {separator : Text} (hs : Unbroken R separator) {ts : List Text}
    (h : ∀ t ∈ ts, Unbroken R t) : Unbroken R (Text.join separator ts) := by
  induction ts with
  | nil => exact nofun
  | cons t rest ih =>
    rw [List.forall_mem_cons] at h
    cases rest with
    | nil => exact h.1
    | cons => exact (h.1.append hs).append (ih h.2)

/-! ## Beginnings and ends -/

/-- The text begins with something that neither indents a line nor makes it a special one. -/
structure Opens (R : Rules) (t : Text) : Prop where
  head : ∃ c ∈ t.head?, isBlank c = false
  word : firstWord t ∉ R.special

/-- The text ends with something that does not make a line a header. -/
def Closes (t : Text) : Prop := ∃ c ∈ t.getLast?, c ≠ ':'

/-- A text begins as its first piece does, if the word there ends. -/
lemma Opens.append {t u : Text} (ht : Opens R t) (hu : ∀ c ∈ u.head?, isWordPart c = false) :
    Opens R (t ++ u) := by
  obtain ⟨c, hc, hblank⟩ := ht.head
  refine ⟨⟨c, ?_, hblank⟩, ?_⟩
  · rw [List.head?_append, Option.mem_def.mp hc]
    rfl
  · rw [firstWord_append t hu]
    exact ht.word

/-- A text that begins with neither a blank nor a letter opens a line. -/
lemma Opens.of_head {t : Text} {c : CodePoint} (hc : t.head? = some c)
    (hblank : isBlank c = false) (hletter : c.isAsciiLetter = false) : Opens R t := by
  refine ⟨⟨c, hc, hblank⟩, R.firstWord_not_mem_special fun x hx => ?_⟩
  rw [hc] at hx
  rwa [← Option.some.inj hx]

/-- A word that is not special opens a line. -/
lemma Opens.of_word {t : Text} (hne : t ≠ []) (h : ∀ c ∈ t, isWordPart c = true)
    (hs : t ∉ R.special) : Opens R t := by
  refine ⟨?_, by rwa [firstWord_eq_self h]⟩
  cases t with
  | nil => exact absurd rfl hne
  | cons c rest => exact ⟨c, rfl, isBlank_of_isWordPart (h c List.mem_cons_self)⟩

/-- A text ends as its last piece does. -/
lemma Closes.append {u : Text} (hu : Closes u) (t : Text) : Closes (t ++ u) := by
  obtain ⟨c, hc, hcolon⟩ := hu
  refine ⟨c, ?_, hcolon⟩
  rw [List.getLast?_append, Option.mem_def.mp hc]
  rfl

/-- A word ends with something that does not make a line a header. -/
lemma Closes.of_word {t : Text} (hne : t ≠ []) (h : ∀ c ∈ t, isWordPart c = true) : Closes t := by
  refine ⟨t.getLast hne, List.getLast?_eq_some_getLast hne, ?_⟩
  intro hc
  exact absurd (h _ (List.getLast_mem hne)) (by rw [hc]; decide)

/-- A text that can stand on a line of its own. -/
structure Legible (R : Rules) (t : Text) : Prop where
  unbroken : Unbroken R t
  opens : Opens R t
  closes : Closes t

/-- A word that is not special can stand on a line. -/
lemma Legible.of_word {t : Text} (hne : t ≠ []) (h : ∀ c ∈ t, isWordPart c = true)
    (hs : t ∉ R.special) : Legible R t :=
  ⟨.of_isWordPart h, .of_word hne h hs, .of_word hne h⟩

end

/-! ## Portable numbers -/

/-- A code point of a number. -/
def isNumberPart (c : CodePoint) : Bool :=
  c.isHexDigit || ['x', 'X', 'o', 'O', '.', '+', '-'].any fun x => c == CodePoint.ofChar x

/-- A digit is no letter. -/
lemma isAsciiLetter_of_isDigit {c : CodePoint} (h : c.isDigit = true) :
    c.isAsciiLetter = false := by
  have hc := Bool.and_eq_true_iff.mp h
  simp only [decide_eq_true_eq] at hc
  have h9 : '9'.toNat < 'A'.toNat := by decide
  have ha : '9'.toNat < 'a'.toNat := by decide
  simp only [CodePoint.isAsciiLetter, CodePoint.between, Bool.or_eq_false_iff,
    Bool.and_eq_false_iff, decide_eq_false_iff_not]
  omega

/-- A digit is part of a number. -/
lemma isNumberPart_of_isDigit {c : CodePoint} (h : c.isDigit = true) : isNumberPart c = true := by
  unfold isNumberPart CodePoint.isHexDigit
  rw [h]
  rfl

/-- A hexadecimal digit is part of a number. -/
lemma isNumberPart_of_isHexDigit {c : CodePoint} (h : c.isHexDigit = true) :
    isNumberPart c = true := by
  unfold isNumberPart
  rw [h]
  rfl

/-- A digit below another one is a digit. -/
lemma isDigit_of_between {c : CodePoint} {hi : Char} (h : c.between '0' hi = true)
    (hhi : hi.toNat ≤ '9'.toNat) : c.isDigit = true := by
  obtain ⟨hlow, hhigh⟩ := Bool.and_eq_true_iff.mp h
  refine Bool.and_eq_true_iff.mpr ⟨hlow, decide_eq_true ?_⟩
  exact (of_decide_eq_true hhigh).trans hhi

/-- Digits of a class are one or more of them. -/
lemma of_isDigits {p : CodePoint → Bool} {t : Text} (h : Portable.isDigits p t = true) :
    ∀ c ∈ t, p c = true :=
  List.all_eq_true.mp (Bool.and_eq_true_iff.mp h).2

/-- An exponent consists of code points of numbers. -/
lemma isNumberPart_of_isExponent {t : Text} (h : Portable.isExponent t = true) :
    ∀ c ∈ t, isNumberPart c = true := by
  cases Portable.isExponent_iff.mp h with
  | absent => exact nofun
  | @exponent e sign digits he hsign hdigits =>
    have hletter : isNumberPart e = true := by rcases he with rfl | rfl <;> decide
    have hmark : ∀ c ∈ sign, isNumberPart c = true := by
      rcases hsign with rfl | rfl | rfl <;> decide
    rw [List.forall_mem_cons, List.forall_mem_append]
    exact ⟨hletter, hmark, fun c hc => isNumberPart_of_isDigit (hdigits.2 c hc)⟩

/-- A text that consists of code points of numbers and begins with a digit or a dot. -/
def IsNumeral (t : Text) : Prop :=
  (∃ c ∈ t.head?, c.isDigit = true ∨ c = '.') ∧ ∀ c ∈ t, isNumberPart c = true

/-- The letters that tell a radix and are no hexadecimal digits themselves. -/
def radixLetters : List CodePoint := ['x', 'X', 'o', 'O'].map CodePoint.ofChar

/-- An integer in another radix begins with a zero and consists of hexadecimal digits and the letter
that tells the radix. -/
lemma of_isRadixInteger {t : Text} (h : Portable.isRadixInteger t = true) :
    t.head? = some (CodePoint.ofChar '0') ∧ ∀ c ∈ t, c.isHexDigit = true ∨ c ∈ radixLetters := by
  have hdigit {c : CodePoint} {hi : Char} (hc : c.between '0' hi = true)
      (hhi : hi.toNat ≤ '9'.toNat) : c.isHexDigit = true := by
    rw [CodePoint.isHexDigit, isDigit_of_between hc hhi]
    rfl
  have hclass {mark x y : CodePoint} {digits : Text} (hmark : mark = x ∨ mark = y)
      (hx : x.isHexDigit = true ∨ x ∈ radixLetters) (hy : y.isHexDigit = true ∨ y ∈ radixLetters)
      (hdigits : ∀ c ∈ digits, c.isHexDigit = true) :
      ∀ c ∈ mark :: digits, c.isHexDigit = true ∨ c ∈ radixLetters := by
    refine List.forall_mem_cons.mpr ⟨?_, fun c hc => .inl (hdigits c hc)⟩
    rcases hmark with rfl | rfl
    · exact hx
    · exact hy
  cases Portable.isRadixInteger_iff.mp h with
  | hexadecimal hmark hdigits =>
    exact ⟨rfl, List.forall_mem_cons.mpr ⟨.inl (by decide),
      hclass hmark (by decide) (by decide) hdigits.2⟩⟩
  | octal hmark hdigits =>
    exact ⟨rfl, List.forall_mem_cons.mpr ⟨.inl (by decide),
      hclass hmark (by decide) (by decide) fun c hc => hdigit (hdigits.2 c hc) (by decide)⟩⟩
  | binary hmark hdigits =>
    exact ⟨rfl, List.forall_mem_cons.mpr ⟨.inl (by decide),
      hclass hmark (by decide) (by decide) fun c hc => hdigit (hdigits.2 c hc) (by decide)⟩⟩

/-- An integer in another radix is a numeral. -/
lemma isNumeral_of_isRadixInteger {t : Text} (h : Portable.isRadixInteger t = true) :
    IsNumeral t := by
  obtain ⟨hzero, hparts⟩ := of_isRadixInteger h
  refine ⟨⟨_, hzero, .inl (by decide)⟩, fun c hc => ?_⟩
  have hletters : ∀ x ∈ radixLetters, isNumberPart x = true := by decide
  exact (hparts c hc).elim isNumberPart_of_isHexDigit (hletters c)

/-- A decimal number is a mantissa of digits and dots, with one digit at least, and an exponent. -/
lemma exists_mantissa_of_isDecimal {t : Text} (h : Portable.isDecimal t = true) :
    ∃ m x, t = m ++ x ∧ (∃ c ∈ m, c.isDigit = true) ∧ (∀ c ∈ m, c.isDigit = true ∨ c = '.') ∧
      Portable.isExponent x = true := by
  obtain ⟨m, x, rfl, hm, hx⟩ := Portable.isDecimal_iff.mp h
  have hexponent : Portable.isExponent x = true := Portable.isExponent_iff.mpr hx
  have hfirst {w : Text} (hw : Portable.IsWhole w) : ∃ c ∈ w, c.isDigit = true := by
    obtain ⟨d, rest, rfl⟩ := List.exists_cons_of_ne_nil hw.ne_nil
    exact ⟨d, List.mem_cons_self, hw.isDigit d List.mem_cons_self⟩
  cases hm with
  | whole hw => exact ⟨m, x, rfl, hfirst hw, fun c hc => .inl (hw.isDigit c hc), hexponent⟩
  | point hw hfraction =>
    obtain ⟨d, hd, hdigit⟩ := hfirst hw
    refine ⟨_, x, rfl, ⟨d, List.mem_append_left _ hd, hdigit⟩, ?_, hexponent⟩
    rw [List.forall_mem_append, List.forall_mem_cons]
    exact ⟨fun c hc => .inl (hw.isDigit c hc), .inr rfl, fun c hc => .inl (hfraction c hc)⟩
  | fraction hdigits =>
    obtain ⟨d, rest, rfl⟩ := List.exists_cons_of_ne_nil hdigits.1
    refine ⟨_, x, rfl, ⟨d, List.mem_cons_of_mem _ List.mem_cons_self,
      hdigits.2 d List.mem_cons_self⟩, ?_, hexponent⟩
    rw [List.forall_mem_cons]
    exact ⟨.inr rfl, fun c hc => .inl (hdigits.2 c hc)⟩

/-- A decimal number is a numeral. -/
lemma isNumeral_of_isDecimal {t : Text} (h : Portable.isDecimal t = true) : IsNumeral t := by
  obtain ⟨m, x, rfl, ⟨d, hd, hdigit⟩, hm, hx⟩ := exists_mantissa_of_isDecimal h
  refine ⟨?_, List.forall_mem_append.mpr ⟨fun c hc => ?_, isNumberPart_of_isExponent hx⟩⟩
  · cases m with
    | nil => exact absurd hd List.not_mem_nil
    | cons c m => exact ⟨c, rfl, hm c List.mem_cons_self⟩
  · rcases hm c hc with hc | rfl
    · exact isNumberPart_of_isDigit hc
    · decide

section

variable {R : Rules}

/-- A numeral can stand on a line. -/
lemma IsNumeral.legible {t : Text} (h : IsNumeral t) : Legible R t := by
  obtain ⟨⟨c, hc, hstart⟩, hparts⟩ := h
  have hletter : c.isAsciiLetter = false := by
    rcases hstart with hdigit | rfl
    · exact isAsciiLetter_of_isDigit hdigit
    · decide
  have hblank : isBlank c = false := by
    cases hb : isBlank c with
    | false => rfl
    | true =>
      have hpart := hparts c (List.mem_of_mem_head? hc)
      rcases Bool.or_eq_true_iff.mp hb with hb | hb <;>
      · rw [eq_of_beq hb] at hpart
        exact absurd hpart (by decide)
  have hne : t ≠ [] := by
    rintro rfl
    exact absurd hc nofun
  refine ⟨.of_ne fun x hx => ⟨?_, ?_⟩, .of_head hc hblank hletter,
    t.getLast hne, List.getLast?_eq_some_getLast hne, ?_⟩
  · rintro rfl
    exact absurd (hparts _ hx) (by decide)
  · rintro rfl
    exact absurd (hparts _ hx) (by decide)
  · intro hcolon
    exact absurd (hparts _ (List.getLast_mem hne)) (by rw [hcolon]; decide)

/-! ## Portable strings -/

/-- The rest of a string is the closing quote, or goes on behind one code point or, after a
backslash, two. -/
lemma isStringRest_cons {q c : CodePoint} {rest : Text}
    (h : Portable.isStringRest q (c :: rest) = true) :
    (c = q ∧ rest = []) ∨
      (c ≠ q ∧ c ≠ '\\' ∧ Portable.IsStill c ∧ Portable.isStringRest q rest = true) ∨
      ∃ e more, rest = e :: more ∧ c ≠ q ∧ c = '\\' ∧ Portable.IsStill e ∧
        Portable.isStringRest q more = true := by
  rw [Portable.isStringRest.eq_def] at h
  dsimp only at h
  split at h
  · next hc => exact .inl ⟨eq_of_beq hc, List.isEmpty_iff.mp h⟩
  · next hc =>
    have hquote : c ≠ q := fun heq => hc (beq_iff_eq.mpr heq)
    split at h
    · exact absurd h Bool.false_ne_true
    · next hbreak =>
      have hstill : Portable.IsStill c := by
        constructor <;>
        · rintro rfl
          exact hbreak (by decide)
      split at h
      · next hslash => exact .inr (.inl ⟨hquote, bne_iff_ne.mp hslash, hstill, h⟩)
      · next hslash =>
        have hslash : c = '\\' := not_not.mp fun hne => hslash (bne_iff_ne.mpr hne)
        cases rest with
        | nil => exact absurd h Bool.false_ne_true
        | cons e more =>
          have he (he : e = '\n' ∨ e = '\r') : False := by
            rcases he with rfl | rfl <;> exact Bool.false_ne_true h
          refine .inr (.inr ⟨e, more, rfl, hquote, hslash,
            ⟨fun hn => he (.inl hn), fun hr => he (.inr hr)⟩, ?_⟩)
          dsimp only at h
          split at h
          · exact h
          · split at h
            · exact (Bool.and_eq_true_iff.mp h).2
            · split at h
              · exact (Bool.and_eq_true_iff.mp h).2
              · split at h
                · exact (Bool.and_eq_true_iff.mp h).2
                · exact absurd h Bool.false_ne_true

/-- Items end with the closing quote. -/
lemma getLast?_of_areItems {q : CodePoint} {t : Text} (h : Portable.AreItems q t) :
    t.getLast? = some q := by
  induction h with
  | quote => rfl
  | item _ _ ih =>
    rw [List.getLast?_append, ih]
    rfl

/-- A string can stand on a line. -/
lemma legible_of_isString {t : Text} (h : Portable.isString t = true) : Legible R t := by
  obtain ⟨q, rest, rfl, hquote, hrest⟩ := Portable.isString_iff.mp h
  have hstill : ∀ c ∈ q :: rest, Portable.IsStill c :=
    (Portable.IsLiteral.string hquote hrest).isStill
  have hblank : isBlank q = false := by rcases hquote with rfl | rfl <;> decide
  have hletter : q.isAsciiLetter = false := by rcases hquote with rfl | rfl <;> decide
  have hcolon : q ≠ ':' := by rcases hquote with rfl | rfl <;> decide
  have hlast : (q :: rest).getLast? = some q := by
    rw [List.getLast?_cons, getLast?_of_areItems hrest]
    rfl
  exact ⟨.of_ne hstill, .of_head rfl hblank hletter, q, hlast, hcolon⟩

/-- A portable literal can stand on a line. -/
theorem legible_of_isPortableLiteral {t : Text} (h : Portable.isPortableLiteral t = true) :
    Legible R t := by
  rcases Bool.or_eq_true_iff.mp h with h | h
  · rcases Bool.or_eq_true_iff.mp h with h | h
    · exact (isNumeral_of_isRadixInteger h).legible
    · exact (isNumeral_of_isDecimal h).legible
  · exact legible_of_isString h

end

end Layout

end Offside
