import Offside.Proofs.Unambiguous

/-!
# Operators outside of brackets

Someone who reads a rendered expression groups it by its operators: a member or a call binds more
strongly than any operator of two operands, so that what is asked for a member or called reaches back
to the last operator that stands outside of brackets and strings.  `operators` lists these operators
of a text.  A sign in the exponent of a number is none.

`Expression.exposed` says which operators of an expression come to stand there.  A binary expression
exposes its own, since its operands are put in parentheses where they have operators themselves; the
operands of members and calls are not.  `operators_text` says that this is what the text shows.

`render_keeps_grouping` says for which expressions each part shows its own operator only.  This does
not suffice for what is in front of a dot or a bracket to be what it was: what a computed member is
named by is written behind a dot, where it may go on with members and calls, and a number takes the
dot for its own.  Where members are named by names and not asked of numbers, each part is read back.
-/

namespace Offside

/-! ## The operators of a text -/

/-- The code points that operators are made of. -/
def symbols : List CodePoint :=
  ['+', '-', '*', '/', '%', '<', '>', '=', '!', '&', '|', '^'].map CodePoint.ofChar

/-- What the word so far may be: nothing but dots, digits of a number, these with an `e` behind them,
which a sign may follow, or anything else. -/
inductive Prefix where
  | fresh
  | digits
  | exponent
  | other
deriving DecidableEq

namespace Prefix

/-- The word with another code point; a dot begins a new one if it is not in a number. -/
def next : Prefix → CodePoint → Prefix
  | fresh, c => if c = '.' then fresh else if c.isDigit then digits else other
  | digits, c =>
    if c = '.' ∨ c.isDigit = true then digits
    else if c = 'e' ∨ c = 'E' then exponent
    else other
  | exponent, c | other, c => if c = '.' then fresh else other

end Prefix

/-- Where one is in looking for operators. -/
inductive Look where
  /-- Outside of brackets and strings, in a word. -/
  | outside (word : Prefix)
  | operator (run : Text)
  /-- Inside of one more brackets than the number says. -/
  | inside (depth : Nat)
  /-- In a string inside of brackets. -/
  | quoted (depth : Nat) (quote : CodePoint)
  /-- In a string behind a backslash. -/
  | escape (depth : Nat) (quote : CodePoint)

namespace Look

/-- Behind a string or a closed bracket. -/
def resume : Nat → Look
  | 0 => outside .other
  | depth + 1 => inside depth

/-- Go on outside of brackets by a code point that does not belong to an operator. -/
def enter (word : Prefix) (c : CodePoint) : Look :=
  if isQuote c then quoted 0 c
  else match Mark.ofPoint? c with
    | some .opening | some .openingList => inside 0
    | some _ => outside .fresh
    | none => if c = ' ' then outside .fresh else outside (word.next c)

/-- Go on by a code point: the operator that it ends, if it ends one, and where one is behind it. -/
def step : Look → CodePoint → List Text × Look
  | outside word, c =>
    if c ∈ symbols then
      if word = .exponent ∧ (c = '+' ∨ c = '-') then ([], outside .other) else ([], operator [c])
    else ([], enter word c)
  | operator run, c =>
    if c ∈ symbols then ([], operator (run ++ [c])) else ([run], enter .fresh c)
  | inside depth, c =>
    if isQuote c then ([], quoted (depth + 1) c)
    else match Mark.ofPoint? c with
      | some .opening | some .openingList => ([], inside (depth + 1))
      | some .closing | some .closingList => ([], resume depth)
      | _ => ([], inside depth)
  | quoted depth quote, c =>
    if c = quote then ([], resume depth)
    else if c = '\\' then ([], escape depth quote)
    else ([], quoted depth quote)
  | escape depth quote, _ => ([], quoted depth quote)

/-- The operators in the rest of a text. -/
def operators : Look → Text → List Text
  | operator run, [] => [run]
  | _, [] => []
  | look, c :: rest => (look.step c).1 ++ operators (look.step c).2 rest

end Look

/-- The operators of a text that stand outside of brackets and strings. -/
def operators (t : Text) : List Text := (Look.outside .fresh).operators t

/-! ## Going over a text -/

/-- Going over a text finds operators and leads from one place to another. -/
def Passes (look : Look) (t : Text) (found : List Text) (look' : Look) : Prop :=
  ∀ rest, look.operators (t ++ rest) = found ++ look'.operators rest

namespace Passes

variable {look look' look'' : Look} {t u : Text} {found found' : List Text} {c : CodePoint}

/-- Going over nothing finds nothing. -/
lemma nil (look : Look) : Passes look [] [] look := fun _ => rfl

/-- Going over a code point is a step. -/
lemma step (h : look.step c = (found, look')) : Passes look [c] found look' := by
  intro rest
  rw [List.singleton_append, Look.operators, h]

/-- Going over two texts finds what is in the one and then what is in the other. -/
lemma append (ht : Passes look t found look') (hu : Passes look' u found' look'') :
    Passes look (t ++ u) (found ++ found') look'' := by
  intro rest
  rw [List.append_assoc, ht, hu, List.append_assoc]

/-- A text of code points that change nothing changes nothing. -/
lemma of_forall (h : ∀ c ∈ t, look.step c = ([], look)) : Passes look t [] look := by
  induction t with
  | nil => exact nil look
  | cons c t ih =>
    rw [List.forall_mem_cons] at h
    exact (step h.1).append (ih h.2)

end Passes

/-! ### Inside of brackets -/

/-- The code points that put something in brackets or in quotes. -/
def enclosers : List CodePoint := ['\'', '"', '(', ')', '[', ']'].map CodePoint.ofChar

/-- What encloses nothing changes nothing inside of brackets. -/
lemma step_inside {c : CodePoint} (h : c ∉ enclosers) (depth : Nat) :
    (Look.inside depth).step c = ([], .inside depth) := by
  have hquote : ¬isQuote c = true := by
    rw [isQuote, Bool.or_eq_true_iff, beq_iff_eq, beq_iff_eq]
    exact not_or.mpr ⟨fun hc => h (hc ▸ by decide), fun hc => h (hc ▸ by decide)⟩
  rw [Look.step, if_neg hquote]
  cases hmark : Mark.ofPoint? c with
  | none => rfl
  | some m =>
    rw [← Mark.point_of_ofPoint? hmark] at h
    cases m with
    | comma => rfl
    | _ => exact absurd (by decide) h

/-- The rest of a string leads out of it. -/
lemma passes_quoted {q : CodePoint} (depth : Nat) : ∀ u : Text, Portable.isStringRest q u = true →
    Passes (.quoted depth q) u [] (.resume depth)
  | [], h => absurd h Bool.false_ne_true
  | c :: u, h => by
    rcases Layout.isStringRest_cons h with
      ⟨rfl, rfl⟩ | ⟨hquote, hslash, -, hu⟩ | ⟨e, more, rfl, hquote, rfl, -, hmore⟩
    · exact .step (if_pos rfl)
    · have hstep : (Look.quoted depth q).step c = ([], .quoted depth q) := by
        rw [Look.step, if_neg hquote, if_neg hslash]
      exact (Passes.step hstep).append (passes_quoted depth u hu)
    · have hslash : (Look.quoted depth q).step '\\' = ([], .escape depth q) := by
        rw [Look.step, if_neg hquote, if_pos rfl]
      have hescape : (Look.escape depth q).step e = ([], .quoted depth q) := rfl
      exact (Passes.step hslash).append
        ((Passes.step hescape).append (passes_quoted depth more hmore))

/-- A string shows no operators, wherever a quote begins one. -/
lemma passes_string {t : Text} (h : Portable.isString t = true) {look : Look} {depth : Nat}
    (hstart : ∀ q, isQuote q = true → look.step q = ([], .quoted depth q)) :
    Passes look t [] (.resume depth) := by
  cases t with
  | nil => exact absurd h Bool.false_ne_true
  | cons q u =>
    obtain ⟨hq, hu⟩ := Bool.and_eq_true_iff.mp h
    have hquote : isQuote q = true := (Bool.or_comm _ _).trans hq
    exact (Passes.step (hstart q hquote)).append (passes_quoted depth u hu)

/-! ### Words, numbers and operators -/

/-- What is neither a separator nor part of an operator belongs to a word. -/
lemma step_outside {c : CodePoint} (hsep : c ∉ separators) (hsymbol : c ∉ symbols)
    (word : Prefix) : (Look.outside word).step c = ([], .outside (word.next c)) := by
  obtain ⟨hblank, -, hquote, hmark⟩ := plain_of_not_mem_separators hsep
  rw [Look.step, if_neg hsymbol, Look.enter, if_neg hquote,
    hmark]
  exact congrArg _ (if_neg hblank)

/-- A word shows no operators. -/
lemma passes_word {t : Text} (h : ∀ c ∈ t, c ∉ separators ∧ c ∉ symbols) (word : Prefix) :
    ∃ word', Passes (.outside word) t [] (.outside word') := by
  induction t generalizing word with
  | nil => exact ⟨word, .nil _⟩
  | cons c t ih =>
    rw [List.forall_mem_cons] at h
    obtain ⟨word', hword'⟩ := ih h.2 (word.next c)
    exact ⟨word', (Passes.step (step_outside h.1.1 h.1.2 word)).append hword'⟩

/-- What belongs to a class without separators and symbols is neither. -/
lemma plain_of_forall {p : CodePoint → Bool} (hno : ∀ x ∈ separators ++ symbols, p x = false)
    {c : CodePoint} (h : p c = true) : c ∉ separators ∧ c ∉ symbols :=
  ⟨not_mem_of_forall (fun x hx => hno x (List.mem_append_left _ hx)) h,
    not_mem_of_forall (fun x hx => hno x (List.mem_append_right _ hx)) h⟩

/-- A digit is no separator and no part of an operator. -/
lemma plain_of_isDigit {c : CodePoint} (h : c.isDigit = true) : c ∉ separators ∧ c ∉ symbols :=
  plain_of_forall (by decide) h

/-- Digits go on with a word. -/
lemma passes_digits {t : Text} (h : ∀ c ∈ t, c.isDigit = true) (word : Prefix) :
    ∃ word', Passes (.outside word) t [] (.outside word') :=
  passes_word (fun c hc => plain_of_isDigit (h c hc)) word

/-- Behind a digit, dots and digits go on with a number. -/
lemma passes_mantissa_digits {t : Text} (h : ∀ c ∈ t, c.isDigit = true ∨ c = '.') :
    Passes (.outside .digits) t [] (.outside .digits) := by
  refine .of_forall fun c hc => ?_
  rcases h c hc with hdigit | rfl
  · obtain ⟨hsep, hsymbol⟩ := plain_of_isDigit hdigit
    rw [step_outside hsep hsymbol, Prefix.next, if_pos (.inr hdigit)]
  · rfl

/-- Where a word may begin: behind nothing, or behind a number and a dot. -/
def Prefix.IsStart (word : Prefix) : Prop := word = fresh ∨ word = digits

/-- Behind a dot, a word may begin. -/
lemma Prefix.isStart_next_dot (word : Prefix) : (word.next '.').IsStart := by
  cases word with
  | digits => exact .inr rfl
  | _ => exact .inl rfl

/-- A mantissa of digits and dots begins a number. -/
lemma passes_mantissa {t : Text} (h : ∀ c ∈ t, c.isDigit = true ∨ c = '.')
    (hdigit : ∃ c ∈ t, c.isDigit = true) {word : Prefix} (hword : word.IsStart) :
    Passes (.outside word) t [] (.outside .digits) := by
  rcases hword with rfl | rfl
  · induction t with
    | nil => exact absurd hdigit.choose_spec.1 List.not_mem_nil
    | cons c t ih =>
      rw [List.forall_mem_cons] at h
      rcases h.1 with hc | rfl
      · obtain ⟨hsep, hsymbol⟩ := plain_of_isDigit hc
        have hdot : c ≠ '.' := fun hdot => hsep (hdot ▸ by decide)
        have hstep : (Look.outside .fresh).step c = ([], .outside .digits) := by
          rw [step_outside hsep hsymbol, Prefix.next, if_neg hdot, if_pos hc]
        exact (Passes.step hstep).append (passes_mantissa_digits h.2)
      · have hmore : ∃ c ∈ t, c.isDigit = true := by
          obtain ⟨d, hd, hdigit⟩ := hdigit
          rcases List.mem_cons.mp hd with rfl | hd
          · exact absurd hdigit (by decide)
          · exact ⟨d, hd, hdigit⟩
        have hstep : (Look.outside .fresh).step '.' = ([], .outside .fresh) := rfl
        exact (Passes.step hstep).append (ih h.2 hmore)
  · exact passes_mantissa_digits h

/-- The sign in an exponent is no operator. -/
lemma passes_exponent {t : Text} (h : Portable.isExponent t = true) :
    ∃ word', Passes (.outside .digits) t [] (.outside word') := by
  cases t with
  | nil => exact ⟨.digits, .nil _⟩
  | cons e rest =>
    obtain ⟨he, hdigits⟩ := Bool.and_eq_true_iff.mp h
    have hstep : (Look.outside .digits).step e = ([], .outside .exponent) := by
      rcases Bool.or_eq_true_iff.mp he with he | he <;>
      · rw [eq_of_beq he]
        rfl
    cases rest with
    | nil => exact ⟨.exponent, .step hstep⟩
    | cons s more =>
      dsimp only at hdigits
      split at hdigits
      · next hs =>
        have hsign : (Look.outside .exponent).step s = ([], .outside .other) := by
          rcases Bool.or_eq_true_iff.mp hs with hs | hs <;>
          · rw [eq_of_beq hs]
            rfl
        obtain ⟨word', hword'⟩ := passes_digits (Layout.of_isDigits hdigits) .other
        exact ⟨word', (Passes.step hstep).append ((Passes.step hsign).append hword')⟩
      · obtain ⟨word', hword'⟩ := passes_digits (Layout.of_isDigits hdigits) .exponent
        exact ⟨word', (Passes.step hstep).append hword'⟩

/-- An integer in another radix is a word. -/
lemma plain_of_isRadixInteger {t : Text} (h : Portable.isRadixInteger t = true) :
    ∀ c ∈ t, c ∉ separators ∧ c ∉ symbols := by
  intro c hc
  have hletters : ∀ x ∈ Layout.radixLetters, x ∉ separators ∧ x ∉ symbols := by decide
  exact ((Layout.of_isRadixInteger h).2 c hc).elim (plain_of_forall (by decide)) (hletters c)

/-- A portable literal shows no operators. -/
lemma passes_literal {t : Text} (h : Portable.isPortableLiteral t = true) {word : Prefix}
    (hword : word.IsStart) : ∃ word', Passes (.outside word) t [] (.outside word') := by
  rcases Bool.or_eq_true_iff.mp h with h | h
  · rcases Bool.or_eq_true_iff.mp h with h | h
    · exact passes_word (plain_of_isRadixInteger h) word
    · obtain ⟨m, x, rfl, hdigit, hm, hx⟩ := Layout.exists_mantissa_of_isDecimal h
      obtain ⟨word', hword'⟩ := passes_exponent hx
      exact ⟨word', (passes_mantissa hm hdigit hword).append hword'⟩
  · have hstart : ∀ q, isQuote q = true → (Look.outside word).step q = ([], .quoted 0 q) := by
      intro q hq
      rcases Bool.or_eq_true_iff.mp hq with hq | hq <;>
      · rw [eq_of_beq hq]
        rfl
    exact ⟨.other, passes_string h hstart⟩

/-- What operators are made of goes on with one. -/
lemma passes_symbols {t : Text} (h : ∀ c ∈ t, c ∈ symbols) (run : Text) :
    Passes (.operator run) t [] (.operator (run ++ t)) := by
  induction t generalizing run with
  | nil =>
    rw [List.append_nil]
    exact .nil _
  | cons c t ih =>
    rw [List.forall_mem_cons] at h
    have hstep : (Look.operator run).step c = ([], .operator (run ++ [c])) := if_pos h.1
    have hmore := ih h.2 (run ++ [c])
    rw [List.append_assoc] at hmore
    exact (Passes.step hstep).append hmore

/-- An operator between blanks is found. -/
lemma passes_operator {t : Text} (h : t ∈ Portable.binaryOperators) (word : Prefix) :
    Passes (.outside word) (" " ++ t ++ " ") [t] (.outside .fresh) := by
  have hsymbols : ∀ t ∈ Portable.binaryOperators, t ≠ [] ∧ ∀ c ∈ t, c ∈ symbols := by decide
  obtain ⟨hne, hsymbols⟩ := hsymbols t h
  have hblank : Passes (.outside word) " " [] (.outside .fresh) := .step rfl
  have hend : Passes (.operator t) " " [t] (.outside .fresh) := .step rfl
  cases t with
  | nil => exact absurd rfl hne
  | cons c t =>
    rw [List.forall_mem_cons] at hsymbols
    have hstart : (Look.outside .fresh).step c = ([], .operator [c]) := by
      rw [Look.step, if_pos hsymbols.1]
      rfl
    exact (hblank.append ((Passes.step hstart).append (passes_symbols hsymbols.2 [c]))).append hend

/-! ## The operators of an expression -/

namespace Syntax

mutual

/-- An expression and all expressions in it. -/
def Expression.subterms : Expression → List Expression
  | .identifier loc name => [.identifier loc name]
  | .literal loc raw value => [.literal loc raw value]
  | .array loc elements => .array loc elements :: elementSubterms elements
  | .binary loc operator left right =>
    .binary loc operator left right :: (left.subterms ++ right.subterms)
  | .member loc object property computed =>
    .member loc object property computed :: (object.subterms ++ property.subterms)
  | .call loc callee arguments =>
    .call loc callee arguments :: (callee.subterms ++ argumentSubterms arguments)
  | .assignment loc operator target value =>
    .assignment loc operator target value :: (target.subterms ++ value.subterms)
  | .step loc operator argument inFront => .step loc operator argument inFront :: argument.subterms

/-- The expressions in a pattern. -/
def Pattern.subterms : Pattern → List Expression
  | .identifier _ _ => []
  | .array _ elements => targetSubterms elements
  | .member _ object property _ => object.subterms ++ property.subterms

/-- The expressions in the elements of an array. -/
def elementSubterms : List (Option Expression) → List Expression
  | [] => []
  | none :: rest => elementSubterms rest
  | some e :: rest => e.subterms ++ elementSubterms rest

/-- The expressions in the elements of an array pattern. -/
def targetSubterms : List (Option Pattern) → List Expression
  | [] => []
  | none :: rest => targetSubterms rest
  | some p :: rest => p.subterms ++ targetSubterms rest

/-- The expressions in the arguments of a call. -/
def argumentSubterms : List Expression → List Expression
  | [] => []
  | e :: rest => e.subterms ++ argumentSubterms rest

end

namespace Expression

/-- Nothing is assigned and nothing is stepped, names are made of letters, digits, `_` and `$`, and
literals and operators are portable. -/
def IsOrdinary : Expression → Prop
  | .identifier _ name => ∀ c ∈ name, Layout.isWordPart c = true
  | .literal _ raw _ => Portable.isPortableLiteral raw = true
  | .binary _ operator _ _ => operator ∈ Portable.binaryOperators
  | .assignment .. | .step .. => False
  | .array .. | .member .. | .call .. => True

instance : (e : Expression) → Decidable e.IsOrdinary
  | .identifier .. => inferInstanceAs (Decidable (∀ _ ∈ _, _))
  | .literal .. => inferInstanceAs (Decidable (_ = _))
  | .binary .. => inferInstanceAs (Decidable (_ ∈ _))
  | .assignment .. | .step .. => inferInstanceAs (Decidable False)
  | .array .. | .member .. | .call .. => inferInstanceAs (Decidable True)

/-- The operators of an expression that no brackets hide: its own, and those of an operand of it or
in front of it that stands without parentheses. -/
def exposed : Expression → List Text
  | .binary _ operator left right =>
    (if left.isBinary then [] else left.exposed) ++
      ([operator] ++ if right.isBinary then [] else right.exposed)
  | .member _ object property _ => object.exposed ++ property.exposed
  | .call _ callee _ => callee.exposed
  | _ => []

end Expression

/-- A code point of a name is no separator and no part of an operator. -/
lemma plain_of_isWordPart {c : CodePoint} (h : Layout.isWordPart c = true) :
    c ∉ separators ∧ c ∉ symbols :=
  plain_of_forall (by decide) h

/-! ### Inside of brackets nothing is shown -/

/-- A text without brackets and quotes changes nothing inside of brackets. -/
lemma passes_inside {t : Text} (h : ∀ c ∈ t, c ∉ enclosers) (depth : Nat) :
    Passes (.inside depth) t [] (.inside depth) :=
  .of_forall fun c hc => step_inside (h c hc) depth

/-- A literal shows nothing inside of brackets. -/
lemma passes_literal_inside {t : Text} (h : Portable.isPortableLiteral t = true) (depth : Nat) :
    Passes (.inside depth) t [] (.inside depth) := by
  rcases Bool.or_eq_true_iff.mp h with h | h
  · have hnumeral := (Bool.or_eq_true_iff.mp h).elim
      Layout.isNumeral_of_isRadixInteger Layout.isNumeral_of_isDecimal
    exact passes_inside (fun c hc => not_mem_of_forall (by decide) (hnumeral.2 c hc)) depth
  · have hstart : ∀ q, isQuote q = true →
        (Look.inside depth).step q = ([], .quoted (depth + 1) q) := fun q hq => if_pos hq
    exact passes_string h hstart

/-- An operand shows nothing inside of brackets if it shows nothing inside of more. -/
lemma passes_enclosed_inside {t : Text} (h : ∀ depth, Passes (.inside depth) t [] (.inside depth))
    (inner : Bool) (depth : Nat) :
    Passes (.inside depth) (enclosed inner t) [] (.inside depth) := by
  cases inner with
  | false => exact h depth
  | true =>
    have hopen : Passes (.inside depth) "(" [] (.inside (depth + 1)) := .step rfl
    have hclose : Passes (.inside (depth + 1)) ")" [] (.inside depth) := .step rfl
    exact (hopen.append (h (depth + 1))).append hclose

/-- Joined items show nothing inside of brackets if none of them does. -/
lemma passes_join {texts : List Text} {depth : Nat}
    (h : ∀ t ∈ texts, Passes (.inside depth) t [] (.inside depth)) :
    Passes (.inside depth) (Text.join ", " texts) [] (.inside depth) := by
  induction texts with
  | nil => exact .nil _
  | cons t texts ih =>
    rw [List.forall_mem_cons] at h
    cases texts with
    | nil => exact h.1
    | cons u texts =>
      have hcomma : Passes (.inside depth) ", " [] (.inside depth) :=
        passes_inside (by decide) depth
      exact (h.1.append hcomma).append (ih h.2)

mutual

/-- Inside of brackets an expression shows nothing. -/
theorem Expression.passes_inside : ∀ e : Expression, (∀ s ∈ e.subterms, s.IsOrdinary) →
    ∀ depth, Passes (.inside depth) e.text [] (.inside depth)
  | .identifier loc name, h, depth => by
    have hname : ∀ c ∈ name, Layout.isWordPart c = true := h _ List.mem_cons_self
    exact Syntax.passes_inside (fun c hc => not_mem_of_forall (by decide) (hname c hc)) depth
  | .literal loc raw _, h, depth => passes_literal_inside (h _ List.mem_cons_self) depth
  | .array loc elements, h, depth => by
    have hitems := passes_elements_inside elements (List.forall_mem_cons.mp h).2 (depth + 1)
    have hopen : Passes (.inside depth) "[ " [] (.inside (depth + 1)) :=
      (Passes.step rfl).append (.step rfl)
    have hclose : Passes (.inside (depth + 1)) " ]" [] (.inside depth) :=
      (Passes.step rfl).append (.step rfl)
    exact (hopen.append (passes_join hitems)).append hclose
  | .binary loc operator left right, h, depth => by
    obtain ⟨hoperator, hbelow⟩ := List.forall_mem_cons.mp h
    obtain ⟨hleft, hright⟩ := List.forall_mem_append.mp hbelow
    have hsymbols : ∀ t ∈ Portable.binaryOperators, ∀ c ∈ t, c ∉ enclosers := by decide
    have hblank : Passes (.inside depth) " " [] (.inside depth) := .step rfl
    have hop := Syntax.passes_inside (hsymbols operator hoperator) depth
    have hl := passes_enclosed_inside (left.passes_inside hleft) left.isBinary depth
    have hr := passes_enclosed_inside (right.passes_inside hright) right.isBinary depth
    exact (((hl.append hblank).append hop).append hblank).append hr
  | .member loc object property _, h, depth => by
    obtain ⟨hobject, hproperty⟩ := List.forall_mem_append.mp (List.forall_mem_cons.mp h).2
    have hdot : Passes (.inside depth) "." [] (.inside depth) := .step rfl
    exact ((object.passes_inside hobject depth).append hdot).append
      (property.passes_inside hproperty depth)
  | .call loc callee arguments, h, depth => by
    obtain ⟨hcallee, harguments⟩ := List.forall_mem_append.mp (List.forall_mem_cons.mp h).2
    have hitems := passes_arguments_inside arguments harguments (depth + 1)
    have hopen : Passes (.inside depth) "(" [] (.inside (depth + 1)) := .step rfl
    have hclose : Passes (.inside (depth + 1)) ")" [] (.inside depth) := .step rfl
    exact (((callee.passes_inside hcallee depth).append hopen).append
      (passes_join hitems)).append hclose
  | .assignment .., h, _ => absurd (h _ List.mem_cons_self) id
  | .step .., h, _ => absurd (h _ List.mem_cons_self) id

/-- Inside of brackets the elements of an array show nothing. -/
theorem passes_elements_inside : ∀ elements : List (Option Expression),
    (∀ s ∈ elementSubterms elements, s.IsOrdinary) → ∀ depth, ∀ t ∈ elementTexts elements,
      Passes (.inside depth) t [] (.inside depth)
  | [], _, _ => nofun
  | none :: rest, h, depth => List.forall_mem_cons.mpr
    ⟨Syntax.passes_inside (by decide) depth, passes_elements_inside rest h depth⟩
  | some e :: rest, h, depth => by
    obtain ⟨he, hrest⟩ := List.forall_mem_append.mp h
    exact List.forall_mem_cons.mpr
      ⟨e.passes_inside he depth, passes_elements_inside rest hrest depth⟩

/-- Inside of brackets the arguments of a call show nothing. -/
theorem passes_arguments_inside : ∀ arguments : List Expression,
    (∀ s ∈ argumentSubterms arguments, s.IsOrdinary) → ∀ depth, ∀ t ∈ argumentTexts arguments,
      Passes (.inside depth) t [] (.inside depth)
  | [], _, _ => nofun
  | e :: rest, h, depth => by
    obtain ⟨he, hrest⟩ := List.forall_mem_append.mp h
    exact List.forall_mem_cons.mpr
      ⟨e.passes_inside he depth, passes_arguments_inside rest hrest depth⟩

end

/-! ### Outside of brackets the exposed operators are shown -/

/-- In parentheses, an operand shows nothing. -/
lemma passes_enclosed {t : Text} {found : List Text} {word : Prefix}
    (hin : ∀ depth, Passes (.inside depth) t [] (.inside depth))
    (hout : ∃ word', Passes (.outside word) t found (.outside word')) (inner : Bool) :
    ∃ word', Passes (.outside word) (enclosed inner t) (if inner then [] else found)
      (.outside word') := by
  cases inner with
  | false => exact hout
  | true =>
    have hopen : Passes (.outside word) "(" [] (.inside 0) := .step rfl
    have hclose : Passes (.inside 0) ")" [] (.outside .other) := .step rfl
    exact ⟨.other, (hopen.append (hin 0)).append hclose⟩

/-- Outside of brackets an expression shows the operators that it exposes. -/
theorem Expression.passes : ∀ e : Expression, (∀ s ∈ e.subterms, s.IsOrdinary) →
    ∀ word : Prefix, word.IsStart →
      ∃ word', Passes (.outside word) e.text e.exposed (.outside word')
  | .identifier loc name, h, word, _ => by
    have hname : ∀ c ∈ name, Layout.isWordPart c = true := h _ List.mem_cons_self
    exact passes_word (fun c hc => plain_of_isWordPart (hname c hc)) word
  | .literal loc raw _, h, word, hword => passes_literal (h _ List.mem_cons_self) hword
  | .array loc elements, h, word, _ => by
    have hitems := passes_elements_inside elements (List.forall_mem_cons.mp h).2 0
    have hopen : Passes (.outside word) "[ " [] (.inside 0) := (Passes.step rfl).append (.step rfl)
    have hclose : Passes (.inside 0) " ]" [] (.outside .other) :=
      (Passes.step rfl).append (.step rfl)
    exact ⟨.other, (hopen.append (passes_join hitems)).append hclose⟩
  | .binary loc operator left right, h, word, hword => by
    obtain ⟨hoperator, hbelow⟩ := List.forall_mem_cons.mp h
    obtain ⟨hleft, hright⟩ := List.forall_mem_append.mp hbelow
    obtain ⟨wl, hl⟩ := passes_enclosed (left.passes_inside hleft) (left.passes hleft word hword)
      left.isBinary
    obtain ⟨wr, hr⟩ := passes_enclosed (right.passes_inside hright)
      (right.passes hright .fresh (.inl rfl)) right.isBinary
    have htext : (Expression.binary loc operator left right).text =
        enclosed left.isBinary left.text ++
          (" " ++ operator ++ " " ++ enclosed right.isBinary right.text) := by
      simp only [Expression.text, List.append_assoc]
    rw [htext]
    exact ⟨wr, hl.append ((passes_operator hoperator wl).append hr)⟩
  | .member loc object property _, h, word, hword => by
    obtain ⟨hobject, hproperty⟩ := List.forall_mem_append.mp (List.forall_mem_cons.mp h).2
    obtain ⟨wo, ho⟩ := object.passes hobject word hword
    obtain ⟨wp, hp⟩ := property.passes hproperty (wo.next '.') (wo.isStart_next_dot)
    have hdot : Passes (.outside wo) "." [] (.outside (wo.next '.')) := .step rfl
    refine ⟨wp, ?_⟩
    have hall := (ho.append hdot).append hp
    rwa [List.append_nil] at hall
  | .call loc callee arguments, h, word, hword => by
    obtain ⟨hcallee, harguments⟩ := List.forall_mem_append.mp (List.forall_mem_cons.mp h).2
    obtain ⟨wf, hf⟩ := callee.passes hcallee word hword
    have hitems := passes_arguments_inside arguments harguments 0
    have hopen : Passes (.outside wf) "(" [] (.inside 0) := .step rfl
    have hclose : Passes (.inside 0) ")" [] (.outside .other) := .step rfl
    have hall := ((hf.append hopen).append (passes_join hitems)).append hclose
    simp only [List.append_nil] at hall
    exact ⟨.other, hall⟩
  | .assignment .., h, _, _ => absurd (h _ List.mem_cons_self) id
  | .step .., h, _, _ => absurd (h _ List.mem_cons_self) id

/-- The operators of the text of an expression are those that it exposes. -/
theorem operators_text {e : Expression} (h : ∀ s ∈ e.subterms, s.IsOrdinary) :
    operators e.text = e.exposed := by
  obtain ⟨word, hword⟩ := e.passes h .fresh (.inl rfl)
  have hend := hword []
  rw [List.append_nil] at hend
  exact hend.trans (List.append_nil _)

/-! ## Expressions that keep their grouping -/

/-- What is in an expression of the list is in the list. -/
def IsClosed (es : List Expression) : Prop := ∀ e ∈ es, ∀ s ∈ e.subterms, s ∈ es

/-- Closed lists one behind the other are closed. -/
lemma IsClosed.append {es es' : List Expression} (h : IsClosed es) (h' : IsClosed es') :
    IsClosed (es ++ es') :=
  List.forall_mem_append.mpr
    ⟨fun e he s hs => List.mem_append_left _ (h e he s hs),
      fun e he s hs => List.mem_append_right _ (h' e he s hs)⟩

/-- An expression in front of what is in it is closed. -/
lemma IsClosed.of_below {e : Expression} {es : List Expression} (he : e.subterms = e :: es)
    (h : IsClosed es) : IsClosed e.subterms := by
  rw [he]
  refine List.forall_mem_cons.mpr ⟨fun s hs => he ▸ hs, fun e' he' s hs => ?_⟩
  exact List.mem_cons_of_mem e (h e' he' s hs)

mutual

/-- What is in a part of an expression is in the expression. -/
theorem Expression.isClosed_subterms : ∀ e : Expression, IsClosed e.subterms
  | .identifier _ _ | .literal _ _ _ => .of_below rfl nofun
  | .array _ elements => .of_below rfl (isClosed_elementSubterms elements)
  | .binary _ _ left right => .of_below rfl (left.isClosed_subterms.append right.isClosed_subterms)
  | .member _ object property _ =>
    .of_below rfl (object.isClosed_subterms.append property.isClosed_subterms)
  | .call _ callee arguments =>
    .of_below rfl (callee.isClosed_subterms.append (isClosed_argumentSubterms arguments))
  | .assignment _ _ target value =>
    .of_below rfl (target.isClosed_subterms.append value.isClosed_subterms)
  | .step _ _ argument _ => .of_below rfl argument.isClosed_subterms

/-- What is in a part of a pattern is in the pattern. -/
theorem Pattern.isClosed_subterms : ∀ p : Pattern, IsClosed p.subterms
  | .identifier _ _ => nofun
  | .array _ elements => isClosed_targetSubterms elements
  | .member _ object property _ => object.isClosed_subterms.append property.isClosed_subterms

/-- What is in a part of the elements of an array is in them. -/
theorem isClosed_elementSubterms : ∀ elements : List (Option Expression),
    IsClosed (elementSubterms elements)
  | [] => nofun
  | none :: rest => isClosed_elementSubterms rest
  | some e :: rest => e.isClosed_subterms.append (isClosed_elementSubterms rest)

/-- What is in a part of the elements of an array pattern is in them. -/
theorem isClosed_targetSubterms : ∀ elements : List (Option Pattern),
    IsClosed (targetSubterms elements)
  | [] => nofun
  | none :: rest => isClosed_targetSubterms rest
  | some p :: rest => p.isClosed_subterms.append (isClosed_targetSubterms rest)

/-- What is in a part of the arguments of a call is in them. -/
theorem isClosed_argumentSubterms : ∀ arguments : List Expression,
    IsClosed (argumentSubterms arguments)
  | [] => nofun
  | e :: rest => e.isClosed_subterms.append (isClosed_argumentSubterms rest)

end

section

variable (strict : Bool)

/-- A portable literal is got over without a word. -/
lemma meet_literal {raw : Text} (h : Portable.isPortableLiteral raw = true) (loc : Location) :
    (Encounter.literal loc raw).meet strict = pure () := by
  rw [Encounter.meet, Render.literal, if_pos h]
  rfl

/-- A portable operator is got over without a word. -/
lemma meet_operator {t : Text} (h : t ∈ Portable.binaryOperators) (kind : Kind) (loc : Location) :
    (Encounter.operator kind loc t).meet strict = pure () := by
  have hportable : Render.isPortable (.text t) = true :=
    Bool.or_eq_true_iff.mpr (.inl (List.contains_iff_mem.mpr h))
  rw [Encounter.meet, Render.operator, if_pos hportable]
  rfl

mutual

/-- What rendering comes to in an ordinary expression is got over. -/
theorem Expression.meetAll_of_isOrdinary : ∀ e : Expression, (∀ s ∈ e.subterms, s.IsOrdinary) →
    meetAll strict e.encounters = pure ()
  | .identifier _ _, _ => rfl
  | .literal loc raw _, h => by
    rw [Expression.encounters, meetAll_cons, meet_literal strict (h _ List.mem_cons_self) loc]
    rfl
  | .array _ elements, h => meetAll_of_areOrdinaryElements elements (List.forall_mem_cons.mp h).2
  | .binary loc operator left right, h => by
    obtain ⟨hoperator, hbelow⟩ := List.forall_mem_cons.mp h
    obtain ⟨hleft, hright⟩ := List.forall_mem_append.mp hbelow
    rw [Expression.encounters, meetAll_append, meetAll_append, left.meetAll_of_isOrdinary hleft,
      right.meetAll_of_isOrdinary hright, meetAll_cons, meet_operator strict hoperator]
    rfl
  | .member _ object property _, h => by
    obtain ⟨hobject, hproperty⟩ := List.forall_mem_append.mp (List.forall_mem_cons.mp h).2
    rw [Expression.encounters, meetAll_append, object.meetAll_of_isOrdinary hobject,
      property.meetAll_of_isOrdinary hproperty]
    rfl
  | .call _ callee arguments, h => by
    obtain ⟨hcallee, harguments⟩ := List.forall_mem_append.mp (List.forall_mem_cons.mp h).2
    rw [Expression.encounters, meetAll_append, meetAll_of_areOrdinaryArguments arguments harguments,
      callee.meetAll_of_isOrdinary hcallee]
    rfl
  | .assignment .., h => absurd (h _ List.mem_cons_self) id
  | .step .., h => absurd (h _ List.mem_cons_self) id

/-- What rendering comes to in ordinary elements is got over. -/
theorem meetAll_of_areOrdinaryElements : ∀ elements : List (Option Expression),
    (∀ s ∈ elementSubterms elements, s.IsOrdinary) →
      meetAll strict (elementEncounters elements) = pure ()
  | [], _ => rfl
  | none :: rest, h => meetAll_of_areOrdinaryElements rest h
  | some e :: rest, h => by
    obtain ⟨he, hrest⟩ := List.forall_mem_append.mp h
    rw [elementEncounters, meetAll_append, e.meetAll_of_isOrdinary he,
      meetAll_of_areOrdinaryElements rest hrest]
    rfl

/-- What rendering comes to in ordinary arguments is got over. -/
theorem meetAll_of_areOrdinaryArguments : ∀ arguments : List Expression,
    (∀ s ∈ argumentSubterms arguments, s.IsOrdinary) →
      meetAll strict (argumentEncounters arguments) = pure ()
  | [], _ => rfl
  | e :: rest, h => by
    obtain ⟨he, hrest⟩ := List.forall_mem_append.mp h
    rw [argumentEncounters, meetAll_append, e.meetAll_of_isOrdinary he,
      meetAll_of_areOrdinaryArguments rest hrest]
    rfl

end

/-- An ordinary expression is rendered as its text, strictly or not and at any margin. -/
lemma Expression.render_of_isOrdinary {e : Expression} (h : ∀ s ∈ e.subterms, s.IsOrdinary)
    (m : Margin) : e.toNode.render strict m = pure (.text e.text) := by
  have hrender : e.toNode.render strict m = _ := e.render_eq strict m
  rw [hrender, e.meetAll_of_isOrdinary strict h, pure_bind]

end

namespace Expression

/-- What is asked for a member or called. -/
def base? : Expression → Option Expression
  | .member _ object _ _ => some object
  | .call _ callee _ => some callee
  | _ => none

/-- What is written behind a dot. -/
def property? : Expression → Option Expression
  | .member _ _ property _ => some property
  | _ => none

/-- The operator of a binary expression. -/
def ownOperators : Expression → List Text
  | .binary _ operator _ _ => [operator]
  | _ => []

/-- A binary expression exposes its operator. -/
lemma exposed_ne_nil_of_isBinary {e : Expression} (h : e.isBinary = true) : e.exposed ≠ [] := by
  cases e with
  | binary =>
    rw [exposed]
    exact List.append_ne_nil_of_right_ne_nil _ (List.cons_ne_nil _ _)
  | _ => exact absurd h Bool.false_ne_true

/-- What is no binary expression has no operator of its own. -/
lemma ownOperators_of_not_isBinary {e : Expression} (h : e.isBinary = false) :
    e.ownOperators = [] := by
  cases e with
  | binary => exact absurd h nofun
  | _ => rfl

/-- If no binary expression stands in front of a dot or a bracket, or behind a dot, an expression
exposes its own operator only. -/
theorem exposed_eq_ownOperators : ∀ e : Expression,
    (∀ s ∈ e.subterms, ∀ b ∈ s.base?, b.isBinary = false) →
    (∀ s ∈ e.subterms, ∀ p ∈ s.property?, p.isBinary = false) → e.exposed = e.ownOperators
  | .binary _ operator left right, hbase, hproperty => by
    obtain ⟨-, hbase⟩ := List.forall_mem_cons.mp hbase
    obtain ⟨-, hproperty⟩ := List.forall_mem_cons.mp hproperty
    obtain ⟨hbl, hbr⟩ := List.forall_mem_append.mp hbase
    obtain ⟨hpl, hpr⟩ := List.forall_mem_append.mp hproperty
    have hoperand (e : Expression) (he : e.exposed = e.ownOperators) :
        (if e.isBinary then [] else e.exposed) = [] := by
      cases h : e.isBinary with
      | true => rfl
      | false => exact he.trans (ownOperators_of_not_isBinary h)
    rw [exposed, hoperand left (left.exposed_eq_ownOperators hbl hpl),
      hoperand right (right.exposed_eq_ownOperators hbr hpr)]
    rfl
  | .member _ object property _, hbase, hproperty => by
    obtain ⟨hobject, hbase⟩ := List.forall_mem_cons.mp hbase
    obtain ⟨hbehind, hproperty⟩ := List.forall_mem_cons.mp hproperty
    obtain ⟨hbo, hbp⟩ := List.forall_mem_append.mp hbase
    obtain ⟨hpo, hpp⟩ := List.forall_mem_append.mp hproperty
    rw [exposed, object.exposed_eq_ownOperators hbo hpo,
      property.exposed_eq_ownOperators hbp hpp, ownOperators_of_not_isBinary (hobject object rfl),
      ownOperators_of_not_isBinary (hbehind property rfl)]
    rfl
  | .call _ callee _, hbase, hproperty => by
    obtain ⟨hcallee, hbase⟩ := List.forall_mem_cons.mp hbase
    obtain ⟨-, hproperty⟩ := List.forall_mem_cons.mp hproperty
    rw [exposed, callee.exposed_eq_ownOperators (List.forall_mem_append.mp hbase).1
      (List.forall_mem_append.mp hproperty).1]
    exact ownOperators_of_not_isBinary (hcallee callee rfl)
  | .identifier .., _, _ | .literal .., _, _ | .array .., _, _ | .assignment .., _, _
  | .step .., _, _ => rfl

end Expression

/-! ## Expressions that are read as they are grouped -/

/-- A name is one, and a member has a name and is asked of something that a dot may follow. -/
def Expression.IsNamed : Expression → Prop
  | .identifier _ name => IsName name
  | .member _ object (.identifier _ _) _ => object.takesDot = true
  | .member .. => False
  | _ => True

instance : (e : Expression) → Decidable e.IsNamed
  | .identifier .. => inferInstanceAs (Decidable (IsName _))
  | .member _ _ (.identifier _ _) _ => inferInstanceAs (Decidable (_ = _))
  | .member _ _ (.literal ..) _ | .member _ _ (.array ..) _ | .member _ _ (.binary ..) _
  | .member _ _ (.member ..) _ | .member _ _ (.call ..) _ | .member _ _ (.assignment ..) _
  | .member _ _ (.step ..) _ => inferInstanceAs (Decidable False)
  | .literal .. | .array .. | .binary .. | .call .. | .assignment .. | .step .. =>
    inferInstanceAs (Decidable True)

/-- What is written behind the dot of a named member is a name. -/
lemma Expression.IsNamed.exists_name {loc : Location} {object property : Expression}
    {computed : Bool} (h : (Expression.member loc object property computed).IsNamed) :
    object.takesDot = true ∧ ∃ l name, property = .identifier l name := by
  cases property with
  | identifier l name => exact ⟨h, l, name, rfl⟩
  | _ => exact absurd h id

/-- An operator of two operands is one. -/
lemma isOperator_of_mem {t : Text} (h : t ∈ Portable.binaryOperators) : IsOperator t := by
  have hall : ∀ t ∈ Portable.binaryOperators, t ≠ [] ∧ ∀ c ∈ t, c ∉ separators := by decide
  exact hall t h

/-- An ordinary part of an expression that is named, and in which no binary expression is asked for a
member or called. -/
structure Expression.IsGrouped (s : Expression) : Prop where
  isOrdinary : s.IsOrdinary
  isNamed : s.IsNamed
  base : ∀ b ∈ s.base?, b.isBinary = false

mutual

/-- An expression with grouped parts is read as it was meant. -/
theorem Expression.isReadable_of_isGrouped : ∀ e : Expression, (∀ s ∈ e.subterms, s.IsGrouped) →
    e.IsReadable
  | .identifier _ _, h => (h _ List.mem_cons_self).isNamed
  | .literal _ _ _, h => (h _ List.mem_cons_self).isOrdinary
  | .array _ elements, h => areReadableElements_of_areGrouped elements (List.forall_mem_cons.mp h).2
  | .binary _ _ left right, h => by
    obtain ⟨hgrouped, hbelow⟩ := List.forall_mem_cons.mp h
    obtain ⟨hleft, hright⟩ := List.forall_mem_append.mp hbelow
    exact ⟨isOperator_of_mem hgrouped.isOrdinary, left.isReadable_of_isGrouped hleft,
      right.isReadable_of_isGrouped hright⟩
  | .member _ object property _, h => by
    obtain ⟨hgrouped, hbelow⟩ := List.forall_mem_cons.mp h
    obtain ⟨hobject, hproperty⟩ := List.forall_mem_append.mp hbelow
    obtain ⟨hdot, l, name, rfl⟩ := hgrouped.isNamed.exists_name
    exact ⟨hdot, object.isReadable_of_isGrouped hobject, (hproperty _ List.mem_cons_self).isNamed⟩
  | .call _ callee arguments, h => by
    obtain ⟨hgrouped, hbelow⟩ := List.forall_mem_cons.mp h
    obtain ⟨hcallee, harguments⟩ := List.forall_mem_append.mp hbelow
    exact ⟨hgrouped.base callee rfl, callee.isReadable_of_isGrouped hcallee,
      areReadableArguments_of_areGrouped arguments harguments⟩
  | .assignment .., h => absurd (h _ List.mem_cons_self).isOrdinary id
  | .step .., h => absurd (h _ List.mem_cons_self).isOrdinary id

/-- Elements with grouped parts are read as they were meant. -/
theorem areReadableElements_of_areGrouped : ∀ elements : List (Option Expression),
    (∀ s ∈ elementSubterms elements, s.IsGrouped) → AreReadableElements elements
  | [], _ => trivial
  | none :: rest, h => areReadableElements_of_areGrouped rest h
  | some e :: rest, h => by
    obtain ⟨he, hrest⟩ := List.forall_mem_append.mp h
    exact ⟨e.isReadable_of_isGrouped he, areReadableElements_of_areGrouped rest hrest⟩

/-- Arguments with grouped parts are read as they were meant. -/
theorem areReadableArguments_of_areGrouped : ∀ arguments : List Expression,
    (∀ s ∈ argumentSubterms arguments, s.IsGrouped) → AreReadableArguments arguments
  | [], _ => trivial
  | e :: rest, h => by
    obtain ⟨he, hrest⟩ := List.forall_mem_append.mp h
    exact ⟨e.isReadable_of_isGrouped he, areReadableArguments_of_areGrouped rest hrest⟩

end

/-- How what is rendered is grouped.  Take an ordinary expression in which no binary expression is
asked for a member or called.  Each part of it is rendered, strictly or not and at any margin.

What is rendered for a binary expression shows outside of brackets and strings its own operator and
no other, and what is rendered for any other part, and so for a member, a call, and what is in front
of these, shows none, if and only if in no part what is written behind the dot of a member is a
binary expression.  If all names are ones and members have names and are not asked of numbers, then
each part is also read back from what is rendered for it: so a member is asked of what it was asked
of, and a call calls what it called. -/
theorem render_keeps_grouping {e : Expression} (h : ∀ s ∈ e.subterms, s.IsOrdinary)
    (hbase : ∀ s ∈ e.subterms, ∀ b ∈ s.base?, b.isBinary = false) (strict : Bool) (m : Margin) :
    ((∀ s ∈ e.subterms, ∃ t, (s.toNode.render strict m).result = .ok (.text t) ∧
        operators t = s.ownOperators) ↔
      ∀ s ∈ e.subterms, ∀ p ∈ s.property?, p.isBinary = false) ∧
    ((∀ s ∈ e.subterms, s.IsNamed) → ∀ s ∈ e.subterms, ∃ t,
      (s.toNode.render strict m).result = .ok (.text t) ∧ operators t = s.ownOperators ∧
        readExpression t = some s.bare) := by
  have hordinary (s : Expression) (hs : s ∈ e.subterms) : ∀ x ∈ s.subterms, x.IsOrdinary :=
    fun x hx => h x (e.isClosed_subterms s hs x hx)
  have hrender (s : Expression) (hs : s ∈ e.subterms) :
      (s.toNode.render strict m).result = .ok (.text s.text) := by
    rw [Expression.render_of_isOrdinary strict (hordinary s hs)]
    rfl
  have hown (hproperty : ∀ s ∈ e.subterms, ∀ p ∈ s.property?, p.isBinary = false)
      (s : Expression) (hs : s ∈ e.subterms) : operators s.text = s.ownOperators := by
    rw [operators_text (hordinary s hs)]
    exact s.exposed_eq_ownOperators
      (fun x hx => hbase x (e.isClosed_subterms s hs x hx))
      (fun x hx => hproperty x (e.isClosed_subterms s hs x hx))
  refine ⟨⟨fun hall s hs p hp => ?_, fun hproperty s hs => ?_⟩, fun hnamed s hs => ?_⟩
  · obtain ⟨t, ht, hshown⟩ := hall s hs
    rw [hrender s hs] at ht
    obtain rfl := text_injective (Except.ok.inj ht)
    rw [operators_text (hordinary s hs)] at hshown
    cases s with
    | member loc object property computed =>
      obtain rfl := Option.some.inj hp
      refine Bool.eq_false_iff.mpr fun hbinary => ?_
      exact Expression.exposed_ne_nil_of_isBinary hbinary (List.append_eq_nil_iff.mp hshown).2
    | _ => exact absurd hp nofun
  · exact ⟨s.text, hrender s hs, hown hproperty s hs⟩
  · have hproperty : ∀ s ∈ e.subterms, ∀ p ∈ s.property?, p.isBinary = false := by
      intro s hs p hp
      cases s with
      | member loc object property computed =>
        obtain ⟨-, l, name, rfl⟩ := (hnamed _ hs).exists_name
        obtain rfl := Option.some.inj hp
        rfl
      | _ => exact absurd hp nofun
    have hgrouped : ∀ x ∈ s.subterms, x.IsGrouped := fun x hx =>
      have hx := e.isClosed_subterms s hs x hx
      ⟨h x hx, hnamed x hx, hbase x hx⟩
    exact ⟨s.text, hrender s hs, hown hproperty s hs,
      readExpression_text (s.isReadable_of_isGrouped hgrouped)⟩

/-- In `f(x + 1).g * (y + 1e+5)` no part shows an operator that is not its own: the sum in brackets is
hidden, and the sign of the number is no operator.  The member is read as one of the call. -/
theorem render_keeps_grouping_product :
    let name (t : Text) : Expression := .identifier .unknown t
    let sum (l r : Expression) : Expression := .binary .unknown "+" l r
    let number (t : Text) : Expression := .literal .unknown t .null
    let called : Expression := .call .unknown (name "f") [sum (name "x") (number "1")]
    let named : Expression := .member .unknown called (name "g") false
    let e : Expression := .binary .unknown "*" named (sum (name "y") (number "1e+5"))
    (∀ s ∈ e.subterms, s.IsOrdinary) ∧
      (∀ s ∈ e.subterms, ∀ b ∈ s.base?, b.isBinary = false) ∧
      (∀ s ∈ e.subterms, ∀ p ∈ s.property?, p.isBinary = false) ∧
      (∀ s ∈ e.subterms, s.IsNamed) ∧
      (∀ s ∈ e.subterms, ∃ t, (s.toNode.render true ⟨"  ", 0⟩).result = .ok (.text t) ∧
        operators t = s.ownOperators) ∧
      (named.toNode.render true ⟨"  ", 0⟩).result = .ok (.text "f(x + 1).g") ∧
      readExpression "f(x + 1).g" = some named := by
  intro name sum number called named e
  have h : ∀ s ∈ e.subterms, s.IsOrdinary := by decide
  have hbase : ∀ s ∈ e.subterms, ∀ b ∈ s.base?, b.isBinary = false := by decide
  have hproperty : ∀ s ∈ e.subterms, ∀ p ∈ s.property?, p.isBinary = false := by decide
  have hnamed : ∀ s ∈ e.subterms, s.IsNamed := by decide
  obtain ⟨hoperators, hgrouping⟩ := render_keeps_grouping h hbase true ⟨"  ", 0⟩
  obtain ⟨t, hrender, -, hread⟩ := hgrouping hnamed named (.tail _ (.head _))
  have htext : (named.toNode.render true ⟨"  ", 0⟩).result = .ok (.text "f(x + 1).g") := rfl
  obtain rfl := text_injective (Except.ok.inj (hrender.symm.trans htext))
  exact ⟨h, hbase, hproperty, hnamed, hoperators.mpr hproperty, htext, hread⟩

/-- A member shows an operator that is not its own if a sum is what it is named by, since this is
written behind the dot as it stands, and if a sum is asked for it; and so does the call of a sum.
Without any operator, a member that is named by a member or by a call is rendered as a member of a
member or as a call of a member, what a number, or a name that begins with a digit, is asked for is
read as a part of it, and what an empty name is asked for is not read.  An array with a name and one
with a missing element may be rendered alike, and so are the members of them. -/
theorem render_regroups :
    let name (t : Text) : Expression := .identifier .unknown t
    let sum (l r : Expression) : Expression := .binary .unknown "+" l r
    let one : Expression := .literal .unknown "1" (.int 1)
    let of (object property : Expression) (computed : Bool) : Expression :=
      .member .unknown object property computed
    let call (callee argument : Expression) : Expression := .call .unknown callee [argument]
    let shows (e : Expression) (t : Text) : Prop := (∀ s ∈ e.subterms, s.IsOrdinary) ∧
      (e.toNode.render false ⟨"  ", 0⟩).result = .ok (.text t)
    (shows (of (name "a") (sum (name "i") one) true) "a.i + 1" ∧
      operators "a.i + 1" = ["+"].map Text.ofString) ∧
    (shows (of (sum (name "a") (name "b")) (name "c") false) "a + b.c" ∧
      operators "a + b.c" = ["+"].map Text.ofString) ∧
    (shows (call (sum (name "a") (name "b")) (name "c")) "a + b(c)" ∧
      operators "a + b(c)" = ["+"].map Text.ofString) ∧
    (shows (of (name "a") (of (name "b") (name "c") false) true) "a.b.c" ∧
      shows (of (of (name "a") (name "b") false) (name "c") false) "a.b.c") ∧
    (shows (of (name "a") (call (name "f") (name "x")) true) "a.f(x)" ∧
      shows (call (of (name "a") (name "f") false) (name "x")) "a.f(x)") ∧
    (shows (of one (name "c") false) "1.c" ∧ shows (of (name "1") (name "c") false) "1.c" ∧
      readExpression "1.c" = some (.literal .unknown "1.c" .null)) ∧
    (shows (of (name []) (name "c") false) ".c" ∧ readExpression ".c" = none) ∧
    (shows (of (.array .unknown [some (name "None")]) (name "c") false) "[ None ].c" ∧
      shows (of (.array .unknown [none]) (name "c") false) "[ None ].c") := by
  intro name sum one of call shows
  refine ⟨⟨⟨by decide, rfl⟩, by decide⟩, ⟨⟨by decide, rfl⟩, by decide⟩, ⟨⟨by decide, rfl⟩, by decide⟩,
    ⟨⟨by decide, rfl⟩, by decide, rfl⟩, ⟨⟨by decide, rfl⟩, by decide, rfl⟩,
    ⟨⟨by decide, rfl⟩, ⟨by decide, rfl⟩, rfl⟩, ⟨⟨by decide, rfl⟩, rfl⟩, ⟨by decide, rfl⟩, by decide,
    rfl⟩

end Syntax

end Offside
