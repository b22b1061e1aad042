import Mathlib.Data.List.Forall2
import Offside.Proofs.Encounters
import Offside.Proofs.Legible

/-!
# The tokens of a rendered expression

A rendered expression is cut into tokens: words, quoted texts, dots and marks.  `Scan` is where one
is in this, and `Scan.step` goes on by one code point.  A word runs up to a separator; the dots in a
number belong to it, and a dot begins a number if a digit follows.  Inside of quotes separators mean
nothing, and what stands behind a backslash does not end the text.

`Expression.tokens` says what the tokens of an expression have to be.  `scans_expression` is about
every readable expression and says that its text is cut into just these, whatever comes behind it
that keeps the last token apart: a separator, and no dot behind a number.
-/

namespace Offside

/-! ## Tokens -/

/-- What brackets and parts items. -/
inductive Mark where
  | comma
  | opening
  | closing
  | openingList
  | closingList
deriving DecidableEq

/-- A piece of the text of an expression. -/
inductive Token where
  | word (t : Text)
  | quoted (t : Text)
  | dot
  | mark (m : Mark)
deriving DecidableEq

/-- How a mark is written. -/
def Mark.point : Mark → CodePoint
  | comma => ','
  | opening => '('
  | closing => ')'
  | openingList => '['
  | closingList => ']'

/-- The mark that a code point is. -/
def Mark.ofPoint? (c : CodePoint) : Option Mark :=
  [comma, opening, closing, openingList, closingList].find? fun m => m.point == c

/-- A code point that quotes a text. -/
def isQuote (c : CodePoint) : Bool := c == '\'' || c == '"'

/-- The code points that keep words apart. -/
def separators : List CodePoint :=
  [' ', '.', '\'', '"', ',', '(', ')', '[', ']'].map CodePoint.ofChar

/-- What belongs to a class to which nothing in a list belongs is not in the list. -/
lemma not_mem_of_forall {p : CodePoint → Bool} {cs : List CodePoint} (hno : ∀ x ∈ cs, p x = false)
    {c : CodePoint} (h : p c = true) : c ∉ cs :=
  fun hmem => Bool.false_ne_true ((hno c hmem).symm.trans h)

/-- A mark is written as the code point that it is. -/
lemma Mark.point_of_ofPoint? {c : CodePoint} {m : Mark} (h : Mark.ofPoint? c = some m) :
    m.point = c := by
  rw [ofPoint?] at h
  have hm := List.find?_some h
  exact eq_of_beq hm

/-- What is no separator is neither a blank nor a dot, and neither a quote nor a mark. -/
lemma plain_of_not_mem_separators {c : CodePoint} (h : c ∉ separators) :
    c ≠ ' ' ∧ c ≠ '.' ∧ ¬isQuote c = true ∧ Mark.ofPoint? c = none := by
  have hne {x : Char} (hx : CodePoint.ofChar x ∈ separators) : c ≠ x := fun hc => h (hc ▸ hx)
  refine ⟨hne (by decide), hne (by decide), ?_, ?_⟩
  · rw [isQuote, Bool.or_eq_true_iff, beq_iff_eq, beq_iff_eq]
    exact not_or.mpr ⟨hne (by decide), hne (by decide)⟩
  · cases hmark : Mark.ofPoint? c with
    | none => rfl
    | some m =>
      rw [← Mark.point_of_ofPoint? hmark] at h
      cases m <;> exact absurd (by decide) h

/-- Where one is in cutting a text. -/
inductive Scan where
  | between
  /-- Behind a dot, which may begin a number. -/
  | dot
  /-- In a word, of which dots may be a part. -/
  | word (dotted : Bool) (t : Text)
  | quoted (quote : CodePoint) (t : Text)
  /-- In a quoted text behind a backslash. -/
  | escape (quote : CodePoint) (t : Text)

namespace Scan

/-- Go on by a code point between two tokens.  A word that begins with a digit is a number. -/
def start (c : CodePoint) : List Token × Scan :=
  if c = ' ' then ([], between)
  else if c = '.' then ([], dot)
  else if isQuote c then ([], quoted c [c])
  else match Mark.ofPoint? c with
    | some m => ([.mark m], between)
    | none => ([], word c.isDigit [c])

/-- Go on by a code point: the tokens that it completes, and where one is behind it. -/
def step : Scan → CodePoint → List Token × Scan
  | between, c => start c
  | dot, c => if c.isDigit then ([], word true ['.', c]) else (.dot :: (start c).1, (start c).2)
  | word dotted t, c =>
    if c ∉ separators ∨ (dotted = true ∧ c = '.') then ([], word dotted (t ++ [c]))
    else (.word t :: (start c).1, (start c).2)
  | quoted quote t, c =>
    if c = quote then ([.quoted (t ++ [c])], between)
    else if c = '\\' then ([], escape quote (t ++ [c]))
    else ([], quoted quote (t ++ [c]))
  | escape quote t, c => ([], quoted quote (t ++ [c]))

/-- The token that the end of the text completes. -/
def finish : Scan → List Token
  | between => []
  | dot => [.dot]
  | word _ t => [.word t]
  | quoted _ t | escape _ t => [.quoted t]

/-- The tokens of the rest of a text. -/
def tokens : Scan → Text → List Token
  | s, [] => s.finish
  | s, c :: rest => (s.step c).1 ++ tokens (s.step c).2 rest

/-! ## Words, numbers and quoted texts -/

/-- What may come behind a token so that it ends: nothing, or a separator, which is a dot only if a
dot may follow. -/
def Stops (dot : Bool) (rest : Text) : Prop :=
  ∀ c ∈ rest.head?, c ∈ separators ∧ (dot = false → c ≠ '.')

/-- If no dot follows, it does not matter whether one may. -/
lemma Stops.of_false {rest : Text} (h : Stops false rest) (dot : Bool) : Stops dot rest :=
  fun c hc => ⟨(h c hc).1, fun _ => (h c hc).2 rfl⟩

/-- A blank keeps tokens apart. -/
lemma stops_blank (rest : Text) : Stops false (' ' :: rest) := by
  rintro c ⟨⟩
  decide

/-- A mark keeps tokens apart. -/
lemma stops_mark (m : Mark) (rest : Text) : Stops false (m.point :: rest) := by
  rintro c ⟨⟩
  cases m <;> decide

/-- Blanks are no tokens. -/
lemma tokens_blank (rest : Text) : tokens between (' ' :: rest) = tokens between rest := rfl

/-- A mark is a token. -/
lemma tokens_mark (m : Mark) (rest : Text) :
    tokens between (m.point :: rest) = .mark m :: tokens between rest := by
  cases m <;> rfl

/-- What is no separator begins a word. -/
lemma start_of_not_mem {c : CodePoint} (h : c ∉ separators) :
    start c = ([], word c.isDigit [c]) := by
  obtain ⟨hblank, hdot, hquote, hmark⟩ := plain_of_not_mem_separators h
  rw [start, if_neg hblank, if_neg hdot, if_neg hquote, hmark]

/-- A word takes up what is no separator, and dots if they may be a part of it. -/
lemma tokens_word_append (dotted : Bool) {u : Text}
    (h : ∀ c ∈ u, c ∉ separators ∨ (dotted = true ∧ c = '.')) (t rest : Text) :
    tokens (word dotted t) (u ++ rest) = tokens (word dotted (t ++ u)) rest := by
  induction u generalizing t with
  | nil => rw [List.nil_append, List.append_nil]
  | cons c u ih =>
    rw [List.forall_mem_cons] at h
    rw [List.cons_append, tokens, step, if_pos h.1, List.nil_append, ih h.2, List.append_assoc]
    rfl

/-- A word ends at what stops it. -/
lemma tokens_word_stop {dotted : Bool} {rest : Text} (h : Stops (!dotted) rest) (t : Text) :
    tokens (word dotted t) rest = .word t :: tokens between rest := by
  cases rest with
  | nil => rfl
  | cons c rest =>
    obtain ⟨hc, hdot⟩ := h c rfl
    have hends : ¬(c ∉ separators ∨ (dotted = true ∧ c = '.')) := by
      rintro (hno | ⟨rfl, rfl⟩)
      · exact hno hc
      · exact hdot rfl rfl
    rw [tokens, step, if_neg hends]
    rfl

/-- A word without separators is a token. -/
lemma tokens_word {t : Text} (hne : t ≠ []) (h : ∀ c ∈ t, c ∉ separators) {rest : Text}
    (hrest : Stops (!t.head?.any CodePoint.isDigit) rest) :
    tokens between (t ++ rest) = .word t :: tokens between rest := by
  cases t with
  | nil => exact absurd rfl hne
  | cons c t =>
    rw [List.forall_mem_cons] at h
    have hstop : Stops (!c.isDigit) rest := hrest
    rw [List.cons_append, tokens, step, start_of_not_mem h.1,
      tokens_word_append _ (fun x hx => .inl (h.2 x hx)), tokens_word_stop hstop]
    rfl

/-- The rest of a string is a token together with what has been read of it. -/
lemma tokens_quoted {q : CodePoint} : ∀ u : Text, Portable.isStringRest q u = true →
    ∀ t rest : Text, tokens (quoted q t) (u ++ rest) = .quoted (t ++ u) :: tokens between rest
  | [], h, _, _ => absurd h Bool.false_ne_true
  | c :: u, h, t, rest => by
    rcases Layout.isStringRest_cons h with
      ⟨rfl, rfl⟩ | ⟨hquote, hslash, -, hrest⟩ | ⟨e, more, rfl, hquote, rfl, -, hmore⟩
    · rw [List.cons_append, tokens, step, if_pos rfl]
      rfl
    · rw [List.cons_append, tokens, step, if_neg hquote, if_neg hslash, List.nil_append,
        tokens_quoted u hrest, List.append_assoc]
      rfl
    · rw [List.cons_append, tokens, step, if_neg hquote, if_pos rfl, List.nil_append,
        List.cons_append, tokens, step, List.nil_append, tokens_quoted more hmore, List.append_assoc,
        List.append_assoc]
      rfl

/-- A string is a token. -/
lemma tokens_string {t : Text} (h : Portable.isString t = true) (rest : Text) :
    tokens between (t ++ rest) = .quoted t :: tokens between rest := by
  cases t with
  | nil => exact absurd h Bool.false_ne_true
  | cons q u =>
    obtain ⟨hq, hu⟩ := Bool.and_eq_true_iff.mp h
    have hstart : start q = ([], quoted q [q]) := by
      rcases Bool.or_eq_true_iff.mp hq with hq | hq <;>
      · rw [eq_of_beq hq]
        rfl
    rw [List.cons_append, tokens, step, hstart, List.nil_append, tokens_quoted u hu]
    rfl

/-- A dot in front of what is no digit is a token. -/
lemma tokens_dot {rest : Text} (h : ∀ c ∈ rest.head?, c.isDigit = false) :
    tokens between ('.' :: rest) = .dot :: tokens between rest := by
  have hstep : tokens between ('.' :: rest) = tokens dot rest := rfl
  rw [hstep]
  cases rest with
  | nil => rfl
  | cons c rest =>
    rw [tokens, step, if_neg (by rw [h c rfl]; exact Bool.false_ne_true)]
    rfl

/-- A code point of a number is a dot or no separator. -/
lemma not_mem_separators_of_isNumberPart {c : CodePoint} (h : Layout.isNumberPart c = true) :
    c ∉ separators ∨ (true = true ∧ c = '.') := by
  by_cases hdot : c = '.'
  · exact .inr ⟨rfl, hdot⟩
  · refine .inl fun hc => ?_
    have hno : ∀ x ∈ separators, x = '.' ∨ Layout.isNumberPart x = false := by decide
    rcases hno c hc with hc | hc
    · exact hdot hc
    · rw [hc] at h
      exact Bool.false_ne_true h

/-- A decimal number that begins with a dot goes on with a digit. -/
lemma exists_digit_of_isDecimal {rest : Text} (h : Portable.isDecimal ('.' :: rest) = true) :
    ∃ d more, rest = d :: more ∧ d.isDigit = true := by
  have hrest : (Portable.afterDigits? CodePoint.isDigit rest).any Portable.isExponent = true := h
  cases rest with
  | nil => exact absurd hrest Bool.false_ne_true
  | cons d more =>
    refine ⟨d, more, rfl, ?_⟩
    by_contra hd
    rw [Portable.afterDigits?, if_neg hd] at hrest
    exact absurd hrest Bool.false_ne_true

/-- A number is a token. -/
lemma tokens_number {t : Text} (h : Portable.isRadixInteger t = true ∨ Portable.isDecimal t = true)
    {rest : Text} (hrest : Stops false rest) :
    tokens between (t ++ rest) = .word t :: tokens between rest := by
  have hnumeral : Layout.IsNumeral t :=
    h.elim Layout.isNumeral_of_isRadixInteger Layout.isNumeral_of_isDecimal
  obtain ⟨⟨c, hc, hstart⟩, hparts⟩ := hnumeral
  obtain ⟨u, rfl⟩ := List.head?_eq_some_iff.mp hc
  have hmore : ∀ x ∈ u, x ∉ separators ∨ (true = true ∧ x = '.') := fun x hx =>
    not_mem_separators_of_isNumberPart (hparts x (List.mem_cons_of_mem c hx))
  have hstop : Stops (!true) rest := hrest
  by_cases hdigit : c.isDigit = true
  · have hsep : c ∉ separators := not_mem_of_forall (by decide) hdigit
    rw [List.cons_append, tokens, step, start_of_not_mem hsep, hdigit, tokens_word_append _ hmore,
      tokens_word_stop hstop]
    rfl
  · obtain rfl := hstart.resolve_left hdigit
    have hdecimal := h.resolve_left fun hradix => by
      cases u <;> exact absurd hradix Bool.false_ne_true
    obtain ⟨d, more, rfl, hd⟩ := exists_digit_of_isDecimal hdecimal
    have hdot : tokens between (CodePoint.ofChar '.' :: d :: more ++ rest) =
      tokens dot (d :: (more ++ rest)) := rfl
    rw [hdot, tokens, step, if_pos hd,
      tokens_word_append _ (List.forall_mem_cons.mp hmore).2, tokens_word_stop hstop]
    rfl

end Scan

/-! ## Readable expressions -/

namespace Syntax

/-- A name that is read as one: letters, digits, `_` and `$`, without a digit in front, and not what
is written for something that is missing. -/
def IsName (t : Text) : Prop :=
  t ≠ [] ∧ (∀ c ∈ t, Layout.isWordPart c = true) ∧ (∀ c ∈ t.head?, c.isDigit = false) ∧
    t ≠ Render.uninitialized

instance (t : Text) : Decidable (IsName t) := inferInstanceAs (Decidable (_ ∧ _ ∧ _ ∧ _))

/-- An operator that is read as one: it is there, and it holds no separator. -/
def IsOperator (t : Text) : Prop := t ≠ [] ∧ ∀ c ∈ t, c ∉ separators

instance (t : Text) : Decidable (IsOperator t) := inferInstanceAs (Decidable (_ ∧ _))

/-- A dot behind the expression is not taken for a part of it, or of its right operand. -/
def Expression.takesDot : Expression → Bool
  | .literal _ raw _ => Portable.isString raw
  | .binary .. => false
  | _ => true

mutual

/-- An expression that is read as it was meant: of names and portable literals, of which neither a
binary expression is called, nor a binary expression or a number asked for a member. -/
def Expression.IsReadable : Expression → Prop
  | .identifier _ name => IsName name
  | .literal _ raw _ => Portable.isPortableLiteral raw = true
  | .array _ elements => AreReadableElements elements
  | .binary _ operator left right => IsOperator operator ∧ left.IsReadable ∧ right.IsReadable
  | .member _ object (.identifier _ name) _ =>
    object.takesDot = true ∧ object.IsReadable ∧ IsName name
  | .call _ callee arguments =>
    callee.isBinary = false ∧ callee.IsReadable ∧ AreReadableArguments arguments
  | _ => False

/-- The elements of an array that are there are readable. -/
def AreReadableElements : List (Option Expression) → Prop
  | [] => True
  | none :: rest => AreReadableElements rest
  | some e :: rest => e.IsReadable ∧ AreReadableElements rest

/-- The arguments of a call are readable. -/
def AreReadableArguments : List Expression → Prop
  | [] => True
  | e :: rest => e.IsReadable ∧ AreReadableArguments rest

end

/-- Items with commas between them. -/
def commas (items : List (List Token)) : List Token := [.mark .comma].intercalate items

/-- In front of other items stands the first one with a comma. -/
lemma commas_cons_cons (ts us : List Token) (items : List (List Token)) :
    commas (ts :: us :: items) = ts ++ .mark .comma :: commas (us :: items) := by
  rw [commas, List.intercalate_cons_cons, List.append_assoc]
  rfl

/-- The tokens of an operand, in parentheses if it is a binary expression. -/
def enclosedTokens (inner : Bool) (ts : List Token) : List Token :=
  if inner then .mark .opening :: (ts ++ [.mark .closing]) else ts

mutual

/-- What the text of a readable expression is cut into. -/
def Expression.tokens : Expression → List Token
  | .identifier _ name => [.word name]
  | .literal _ raw _ => [if Portable.isString raw then .quoted raw else .word raw]
  | .array _ elements =>
    .mark .openingList :: (commas (elementTokens elements) ++ [.mark .closingList])
  | .binary _ operator left right =>
    enclosedTokens left.isBinary left.tokens ++
      .word operator :: enclosedTokens right.isBinary right.tokens
  | .member _ object property _ => object.tokens ++ .dot :: property.tokens
  | .call _ callee arguments =>
    callee.tokens ++ .mark .opening :: (commas (argumentTokens arguments) ++ [.mark .closing])
  | .assignment .. | .step .. => []

/-- What the elements of an array are cut into. -/
def elementTokens : List (Option Expression) → List (List Token)
  | [] => []
  | none :: rest => [.word Render.uninitialized] :: elementTokens rest
  | some e :: rest => e.tokens :: elementTokens rest

/-- What the arguments of a call are cut into. -/
def argumentTokens : List Expression → List (List Token)
  | [] => []
  | e :: rest => e.tokens :: argumentTokens rest

end

/-! ## The text of an expression is cut into its tokens -/

open Scan (Stops)

/-- A text is cut into tokens, whatever comes behind it that stops it. -/
def Scans (dot : Bool) (t : Text) (ts : List Token) : Prop :=
  ∀ rest, Stops dot rest → Scan.between.tokens (t ++ rest) = ts ++ Scan.between.tokens rest

namespace Scans

variable {t u : Text} {ts us : List Token}

/-- What a dot may follow need not be followed by one. -/
lemma of_dot {dot : Bool} (h : Scans dot t ts) : Scans false t ts :=
  fun rest hrest => h rest (hrest.of_false dot)

/-- A name is cut off as a word. -/
lemma name (h : IsName t) : Scans true t [.word t] := by
  obtain ⟨hne, hparts, hdigit, -⟩ := h
  have hsep : ∀ c ∈ t, c ∉ separators := fun c hc => not_mem_of_forall (by decide) (hparts c hc)
  intro rest hrest
  refine Scan.tokens_word hne hsep fun c hc => ⟨(hrest c hc).1, ?_⟩
  rw [Bool.not_eq_false', Option.any_eq_true]
  rintro ⟨d, hd, hany⟩
  exact absurd (hdigit d hd) (by rw [hany]; exact nofun)

/-- In parentheses, a text is cut as it is without them. -/
lemma enclosed (inner : Bool) (h : Scans false t ts) :
    Scans false (Syntax.enclosed inner t) (enclosedTokens inner ts) := by
  cases inner with
  | false => exact h
  | true =>
    intro rest hrest
    have hinner := h _ (Scan.stops_mark .closing rest)
    have hclosing := Scan.tokens_mark .closing rest
    have hopening := Scan.tokens_mark .opening (t ++ Mark.closing.point :: rest)
    rw [hinner, hclosing] at hopening
    have htext : Syntax.enclosed true t ++ rest =
        Mark.opening.point :: (t ++ Mark.closing.point :: rest) := by
      simp [Syntax.enclosed, Text.ofString, Mark.point]
    rw [htext, hopening]
    simp [enclosedTokens]

/-- Joined items are cut one by one. -/
lemma join {texts : List Text} {items : List (List Token)}
    (h : List.Forall₂ (Scans false) texts items) :
    Scans false (Text.join ", " texts) (commas items) := by
  induction h with
  | nil => exact fun rest _ => rfl
  | @cons t ts texts items h hmore ih =>
    cases hmore with
    | nil =>
      rw [commas, List.intercalate_singleton]
      exact h
    | @cons u us texts items h' hmore =>
      intro rest hrest
      have hfirst := h _ (Scan.stops_mark .comma (' ' :: (Text.join ", " (u :: texts) ++ rest)))
      rw [Scan.tokens_mark, Scan.tokens_blank, ih rest hrest] at hfirst
      have htext : Text.join ", " (t :: u :: texts) ++ rest =
          t ++ Mark.comma.point :: ' ' :: (Text.join ", " (u :: texts) ++ rest) := by
        have hjoin : Text.join ", " (t :: u :: texts) =
          t ++ ", " ++ Text.join ", " (u :: texts) := rfl
        rw [hjoin, List.append_assoc, List.append_assoc]
        rfl
      rw [htext, hfirst, commas_cons_cons, List.append_assoc]
      rfl

end Scans

mutual

/-- The text of a readable expression is cut into its tokens. -/
theorem Expression.scans : ∀ e : Expression, e.IsReadable → Scans e.takesDot e.text e.tokens
  | .identifier _ name, h => .name h
  | .literal _ raw _, h => by
    change Scans (Portable.isString raw) raw
      [if Portable.isString raw = true then .quoted raw else .word raw]
    cases hstring : Portable.isString raw with
    | true => exact fun rest _ => Scan.tokens_string hstring rest
    | false =>
      have hnumber := (Bool.or_eq_true_iff.mp h).resolve_right (by rw [hstring]; nofun)
      exact fun rest hrest => Scan.tokens_number (Bool.or_eq_true_iff.mp hnumber) hrest
  | .array loc elements, h => by
    intro rest _
    have hitems := Scans.join (scans_elements elements h) _
      (Scan.stops_blank (Mark.closingList.point :: rest))
    rw [Scan.tokens_blank, Scan.tokens_mark] at hitems
    have htext : (Expression.array loc elements).text ++ rest =
        Mark.openingList.point :: CodePoint.ofChar ' ' :: (Text.join ", " (elementTexts elements) ++
          CodePoint.ofChar ' ' :: Mark.closingList.point :: rest) := by
      simp [Expression.text, Text.ofString, Mark.point]
    rw [htext, Scan.tokens_mark, Scan.tokens_blank, hitems]
    simp [Expression.tokens]
  | .binary loc operator left right, ⟨⟨hne, hsep⟩, hleft, hright⟩ => by
    have hl := (left.scans hleft).of_dot.enclosed left.isBinary
    have hr := (right.scans hright).of_dot.enclosed right.isBinary
    intro rest hrest
    have hop := Scan.tokens_word hne hsep
      ((Scan.stops_blank (enclosed right.isBinary right.text ++ rest)).of_false _)
    rw [Scan.tokens_blank, hr rest hrest] at hop
    have htext : (Expression.binary loc operator left right).text ++ rest =
        enclosed left.isBinary left.text ++ CodePoint.ofChar ' ' :: (operator ++
          CodePoint.ofChar ' ' :: (enclosed right.isBinary right.text ++ rest)) := by
      simp [Expression.text, Text.ofString]
    rw [htext, hl _ (Scan.stops_blank _), Scan.tokens_blank, hop]
    simp [Expression.tokens]
  | .member loc object (.identifier loc' name) computed, ⟨hdot, hobject, hname⟩ => by
    have hobj := object.scans hobject
    rw [hdot] at hobj
    intro rest hrest
    have hstop : Scan.Stops true ('.' :: (name ++ rest)) := by
      rintro c ⟨⟩
      exact ⟨by decide, nofun⟩
    have htext : (Expression.member loc object (.identifier loc' name) computed).text ++ rest =
        object.text ++ CodePoint.ofChar '.' :: (name ++ rest) := by
      simp [Expression.text, Text.ofString]
    have hdigit : ∀ c ∈ (name ++ rest).head?, c.isDigit = false := by
      rw [List.head?_append_of_ne_nil _ hname.1]
      exact hname.2.2.1
    rw [htext, hobj _ hstop, Scan.tokens_dot hdigit, Scans.name hname rest hrest]
    simp [Expression.tokens]
  | .call loc callee arguments, ⟨hbinary, hcallee, harguments⟩ => by
    intro rest _
    have hitems := Scans.join (scans_arguments arguments harguments) _
      (Scan.stops_mark .closing rest)
    rw [Scan.tokens_mark] at hitems
    have htext : (Expression.call loc callee arguments).text ++ rest =
        callee.text ++ Mark.opening.point ::
          (Text.join ", " (argumentTexts arguments) ++ Mark.closing.point :: rest) := by
      simp [Expression.text, Text.ofString, Mark.point]
    rw [htext, (callee.scans hcallee).of_dot _ (Scan.stops_mark .opening _), Scan.tokens_mark,
      hitems]
    simp [Expression.tokens]

/-- The elements of an array are cut one by one. -/
theorem scans_elements : ∀ elements : List (Option Expression), AreReadableElements elements →
    List.Forall₂ (Scans false) (elementTexts elements) (elementTokens elements)
  | [], _ => .nil
  | none :: rest, h =>
    .cons (fun _ hstop => Scan.tokens_word (by decide) (by decide) (hstop.of_false _))
      (scans_elements rest h)
  | some e :: rest, ⟨he, hrest⟩ => .cons (e.scans he).of_dot (scans_elements rest hrest)

/-- The arguments of a call are cut one by one. -/
theorem scans_arguments : ∀ arguments : List Expression, AreReadableArguments arguments →
    List.Forall₂ (Scans false) (argumentTexts arguments) (argumentTokens arguments)
  | [], _ => .nil
  | e :: rest, ⟨he, hrest⟩ => .cons (e.scans he).of_dot (scans_arguments rest hrest)

end

end Syntax

end Offside
