import Offside.Proofs.Tokens

/-!
# The text of an expression tells the expression

`readExpression` reads an expression from its text.  It cuts the text into tokens and goes through
them once, with a stack of what has been begun: an operand with an operator behind it, an opening
parenthesis, and items in brackets.  It knows nothing of how strongly operators bind: an operand
that is itself a binary expression stands in parentheses.

What is read says nothing of locations, of the values of literals and of whether a member was
computed, so that it is `bare`.  `readExpression_render` says that every readable expression is read
back from what is rendered for it, and that therefore no two of them that differ in more than this
are rendered alike.
-/

namespace Offside

namespace Syntax

/-! ## Bare expressions -/

mutual

/-- The expression without locations, values of literals and whether members were computed. -/
def Expression.bare : Expression → Expression
  | .identifier _ name => .identifier .unknown name
  | .literal _ raw _ => .literal .unknown raw .null
  | .array _ elements => .array .unknown (bareElements elements)
  | .binary _ operator left right => .binary .unknown operator left.bare right.bare
  | .member _ object property _ => .member .unknown object.bare property.bare false
  | .call _ callee arguments => .call .unknown callee.bare (bareArguments arguments)
  | .assignment _ operator target value => .assignment .unknown operator target.bare value.bare
  | .step _ operator argument inFront => .step .unknown operator argument.bare inFront

/-- The pattern without locations, values of literals and whether members were computed. -/
def Pattern.bare : Pattern → Pattern
  | .identifier _ name => .identifier .unknown name
  | .array _ elements => .array .unknown (bareTargets elements)
  | .member _ object property _ => .member .unknown object.bare property.bare false

/-- The bare elements of an array. -/
def bareElements : List (Option Expression) → List (Option Expression)
  | [] => []
  | none :: rest => none :: bareElements rest
  | some e :: rest => some e.bare :: bareElements rest

/-- The bare elements of an array pattern. -/
def bareTargets : List (Option Pattern) → List (Option Pattern)
  | [] => []
  | none :: rest => none :: bareTargets rest
  | some p :: rest => some p.bare :: bareTargets rest

/-- The bare arguments of a call. -/
def bareArguments : List Expression → List Expression
  | [] => []
  | e :: rest => e.bare :: bareArguments rest

end

/-! ## Reading -/

/-- What has been begun and is not complete. -/
inductive Frame where
  /-- A left operand and an operator. -/
  | operand (left : Expression) (operator : Text)
  | parenthesis
  /-- Items in brackets: the arguments of a call, or the elements of an array. -/
  | items (callee : Option Expression) (read : List Expression)

/-- What comes next: an expression, something behind an expression that has been read, or the name of
a member of it. -/
inductive Focus where
  | awaiting
  | holding (e : Expression)
  | naming (object : Expression)

/-- The expression that a word is: what begins with a digit or a dot is a number. -/
def atom (t : Text) : Expression :=
  if t.head?.any fun c : CodePoint => c.isDigit || c == '.' then .literal .unknown t .null
  else .identifier .unknown t

/-- The element of an array that an item is; what is written for a missing one is none. -/
def element? : Expression → Option Expression
  | .identifier loc name =>
    if name = Render.uninitialized then none else some (.identifier loc name)
  | e => some e

/-- The expression that items in brackets are: a call if something stands in front of them. -/
def grouped (callee : Option Expression) (read : List Expression) : Expression :=
  match callee with
  | some f => .call .unknown f read
  | none => .array .unknown (read.map element?)

/-- The mark that closes items. -/
def closer : Option Expression → Mark
  | some _ => .closing
  | none => .closingList

/-- At the end of an item, a left operand in front of it makes it a binary expression. -/
def settle (e : Expression) : List Frame → Expression × List Frame
  | .operand left operator :: stack => (.binary .unknown operator left e, stack)
  | stack => (e, stack)

/-- Go on where an item has ended in front of a mark. -/
def close (m : Mark) : Expression × List Frame → Option (Focus × List Frame)
  | (e, .parenthesis :: stack) => if m = .closing then some (.holding e, stack) else none
  | (e, .items callee read :: stack) =>
    if m = .comma then some (.awaiting, .items callee (read ++ [e]) :: stack)
    else if m = closer callee then some (.holding (grouped callee (read ++ [e])), stack)
    else none
  | _ => none

/-- Go on by a token. -/
def shift : Focus → List Frame → Token → Option (Focus × List Frame)
  | .awaiting, stack, .word t => some (.holding (atom t), stack)
  | .awaiting, stack, .quoted t => some (.holding (.literal .unknown t .null), stack)
  | .awaiting, stack, .mark .opening => some (.awaiting, .parenthesis :: stack)
  | .awaiting, stack, .mark .openingList => some (.awaiting, .items none [] :: stack)
  | .awaiting, .items callee [] :: stack, .mark m =>
    if m = closer callee then some (.holding (grouped callee []), stack) else none
  | .holding e, stack, .word t => some (.awaiting, .operand e t :: stack)
  | .holding e, stack, .dot => some (.naming e, stack)
  | .holding e, stack, .mark .opening => some (.awaiting, .items (some e) [] :: stack)
  | .holding e, stack, .mark m => close m (settle e stack)
  | .naming object, stack, .word t =>
    some (.holding (.member .unknown object (.identifier .unknown t) false), stack)
  | _, _, _ => none

/-- Go through tokens; in the end nothing may be left that is not complete. -/
def readTokens : Focus → List Frame → List Token → Option Expression
  | .holding e, stack, [] =>
    match settle e stack with
    | (e, []) => some e
    | _ => none
  | _, _, [] => none
  | focus, stack, token :: rest => do
    let (focus, stack) ← shift focus stack token
    readTokens focus stack rest

/-- Read an expression from its text. -/
def readExpression (t : Text) : Option Expression :=
  readTokens .awaiting [] (Scan.between.tokens t)

/-- Going on by a token that allows it. -/
lemma readTokens_cons {focus focus' : Focus} {stack stack' : List Frame} {token : Token}
    (h : shift focus stack token = some (focus', stack')) (rest : List Token) :
    readTokens focus stack (token :: rest) = readTokens focus' stack' rest := by
  rw [readTokens, h]
  rfl

/-! ## Operands and items -/

/-- Reading the tokens ends in holding the expression, whatever is around them. -/
def Yields (ts : List Token) (e : Expression) : Prop :=
  ∀ stack rest, readTokens .awaiting stack (ts ++ rest) = readTokens (.holding e) stack rest

/-- Where no left operand stands in front, reading the tokens ends in holding something that is
settled to the expression. -/
def Fills (ts : List Token) (e : Expression) : Prop :=
  ∀ stack, (∀ x, settle x stack = (x, stack)) → ∀ rest, ∃ x stack',
    readTokens .awaiting stack (ts ++ rest) = readTokens (.holding x) stack' rest ∧
      settle x stack' = (e, stack)

section

variable {ts us : List Token} {e l r : Expression}

/-- What is an operand can be an item. -/
lemma Yields.fills (h : Yields ts e) : Fills ts e :=
  fun stack hstack rest => ⟨e, stack, h stack rest, hstack e⟩

/-- Two operands with an operator between them are an item. -/
lemma fills_binary (hl : Yields ts l) (operator : Text) (hr : Yields us r) :
    Fills (ts ++ .word operator :: us) (.binary .unknown operator l r) := by
  intro stack _ rest
  refine ⟨r, .operand l operator :: stack, ?_, rfl⟩
  rw [List.append_assoc, hl, List.cons_append, readTokens_cons rfl, hr]

/-- An item in parentheses is an operand, and so is an operand without them. -/
lemma Fills.enclosed (h : Fills ts e) {inner : Bool} (hy : inner = false → Yields ts e) :
    Yields (enclosedTokens inner ts) e := by
  cases inner with
  | false => exact hy rfl
  | true =>
    intro stack rest
    obtain ⟨x, stack', hrun, hsettle⟩ :=
      h (.parenthesis :: stack) (fun _ => rfl) (.mark .closing :: rest)
    have hclose : shift (.holding x) stack' (.mark .closing) = some (.holding e, stack) := by
      change close .closing (settle x stack') = _
      rw [hsettle]
      rfl
    have hopen : enclosedTokens true ts ++ rest =
        .mark .opening :: (ts ++ .mark .closing :: rest) := by
      simp [enclosedTokens]
    rw [hopen, readTokens_cons rfl, hrun, readTokens_cons hclose]

/-- Behind a last item the bracket is closed. -/
lemma shift_closer {x : Expression} {stack' stack : List Frame} {callee : Option Expression}
    {read : List Expression} (h : settle x stack' = (e, .items callee read :: stack)) :
    shift (.holding x) stack' (.mark (closer callee)) =
      some (.holding (grouped callee (read ++ [e])), stack) := by
  cases callee with
  | none =>
    change close .closingList (settle x stack') = _
    rw [h]
    rfl
  | some f =>
    change close .closing (settle x stack') = _
    rw [h]
    rfl

/-- Behind any other item the next one begins. -/
lemma shift_comma {x : Expression} {stack' stack : List Frame} {callee : Option Expression}
    {read : List Expression} (h : settle x stack' = (e, .items callee read :: stack)) :
    shift (.holding x) stack' (.mark .comma) =
      some (.awaiting, .items callee (read ++ [e]) :: stack) := by
  change close .comma (settle x stack') = _
  rw [h]
  rfl

end

/-- Items in brackets are read one by one. -/
lemma readTokens_items {items : List (List Token)} {es : List Expression}
    (h : List.Forall₂ Fills items es) (callee : Option Expression) (read : List Expression)
    (stack : List Frame) (rest : List Token) (hne : items = [] → read = []) :
    readTokens .awaiting (.items callee read :: stack)
        (commas items ++ .mark (closer callee) :: rest) =
      readTokens (.holding (grouped callee (read ++ es))) stack rest := by
  induction h generalizing read with
  | nil =>
    obtain rfl := hne rfl
    refine readTokens_cons ?_ rest
    cases callee <;> rfl
  | @cons ts e items es h hmore ih =>
    cases hmore with
    | nil =>
      obtain ⟨x, stack', hrun, hsettle⟩ :=
        h (.items callee read :: stack) (fun _ => rfl) (.mark (closer callee) :: rest)
      rw [commas, List.intercalate_singleton, hrun, readTokens_cons (shift_closer hsettle)]
    | @cons us e' items es h' hmore =>
      obtain ⟨x, stack', hrun, hsettle⟩ := h (.items callee read :: stack) (fun _ => rfl)
        (.mark .comma :: (commas (us :: items) ++ .mark (closer callee) :: rest))
      rw [commas_cons_cons, List.append_assoc, List.cons_append, hrun,
        readTokens_cons (shift_comma hsettle), ih (read ++ [e]) fun h => absurd h (by simp),
        List.append_assoc]
      rfl

/-! ## Readable expressions are read -/

/-- A name is read as an identifier. -/
lemma atom_of_isName {t : Text} (h : IsName t) : atom t = .identifier .unknown t := by
  obtain ⟨-, hparts, hdigit, -⟩ := h
  refine if_neg fun hany => ?_
  obtain ⟨c, hc, hnumber⟩ := (Option.any_eq_true _ _).mp hany
  rcases Bool.or_eq_true_iff.mp hnumber with hnumber | hnumber
  · rw [hdigit c hc] at hnumber
    exact Bool.false_ne_true hnumber
  · have hpart := hparts c (List.mem_of_mem_head? hc)
    rw [eq_of_beq hnumber] at hpart
    exact absurd hpart (by decide)

/-- A number is read as a literal. -/
lemma atom_of_isNumeral {t : Text} (h : Layout.IsNumeral t) :
    atom t = .literal .unknown t .null := by
  obtain ⟨⟨c, hc, hstart⟩, -⟩ := h
  refine if_pos ((Option.any_eq_true _ _).mpr ⟨c, hc, ?_⟩)
  rcases hstart with hstart | rfl
  · rw [hstart]
    rfl
  · decide

/-- A readable element of an array is there. -/
lemma element?_bare {e : Expression} (h : e.IsReadable) : element? e.bare = some e.bare := by
  cases e with
  | identifier loc name => exact if_neg h.2.2.2
  | _ => rfl

/-- What may be asked for a member is no binary expression. -/
lemma isBinary_of_takesDot {e : Expression} (h : e.takesDot = true) : e.isBinary = false := by
  cases e with
  | binary => exact absurd h Bool.false_ne_true
  | _ => rfl

/-- The expression is read from its tokens as an item, and as an operand if it is not binary. -/
structure Expression.Reads (e : Expression) : Prop where
  fills : Fills e.tokens e.bare
  yields : e.isBinary = false → Yields e.tokens e.bare

/-- What is read as an operand is read. -/
lemma Expression.Reads.of_yields {e : Expression} (h : Yields e.tokens e.bare) : e.Reads :=
  ⟨h.fills, fun _ => h⟩

/-- An operand is read, in parentheses if it is a binary expression. -/
lemma Expression.Reads.enclosed {e : Expression} (h : e.Reads) :
    Yields (enclosedTokens e.isBinary e.tokens) e.bare :=
  h.fills.enclosed h.yields

mutual

/-- A readable expression is read from its tokens. -/
theorem Expression.reads : ∀ e : Expression, e.IsReadable → e.Reads
  | .identifier _ name, h => .of_yields fun stack rest => by
    rw [Expression.tokens, Expression.bare, ← atom_of_isName h]
    exact readTokens_cons rfl rest
  | .literal _ raw _, h => .of_yields fun stack rest => by
    rw [Expression.tokens, Expression.bare]
    cases hstring : Portable.isString raw with
    | true => exact readTokens_cons rfl rest
    | false =>
      have hnumber := (Bool.or_eq_true_iff.mp h).resolve_right (by rw [hstring]; nofun)
      have hnumeral := (Bool.or_eq_true_iff.mp hnumber).elim
        Layout.isNumeral_of_isRadixInteger Layout.isNumeral_of_isDecimal
      rw [← atom_of_isNumeral hnumeral]
      exact readTokens_cons rfl rest
  | .array _ elements, h => .of_yields fun stack rest => by
    obtain ⟨es, hes, hbare⟩ := reads_elements elements h
    rw [Expression.tokens, Expression.bare, ← hbare, List.cons_append, List.append_assoc]
    have hitems := readTokens_items hes none [] stack rest fun _ => rfl
    exact (readTokens_cons rfl _).trans hitems
  | .binary _ operator left right, ⟨_, hleft, hright⟩ =>
    ⟨fills_binary (left.reads hleft).enclosed operator (right.reads hright).enclosed, nofun⟩
  | .member _ object (.identifier _ name) _, ⟨hdot, hobject, _⟩ => .of_yields fun stack rest => by
    have hobject := (object.reads hobject).yields (isBinary_of_takesDot hdot)
    rw [Expression.tokens, Expression.bare, List.append_assoc, hobject, List.cons_append,
      readTokens_cons rfl]
    exact readTokens_cons rfl rest
  | .call _ callee arguments, ⟨hbinary, hcallee, harguments⟩ => .of_yields fun stack rest => by
    have hcallee := (callee.reads hcallee).yields hbinary
    have hitems := readTokens_items (reads_arguments arguments harguments) (some callee.bare) []
      stack rest fun _ => rfl
    rw [Expression.tokens, Expression.bare, List.append_assoc, hcallee, List.cons_append,
      readTokens_cons rfl, List.append_assoc]
    exact hitems

/-- Readable elements of an array are read as items, with what is written for missing ones. -/
theorem reads_elements : ∀ elements : List (Option Expression), AreReadableElements elements →
    ∃ es, List.Forall₂ Fills (elementTokens elements) es ∧
      es.map element? = bareElements elements
  | [], _ => ⟨[], .nil, rfl⟩
  | none :: rest, h => by
    obtain ⟨es, hes, hbare⟩ := reads_elements rest h
    have hhole : Yields [.word Render.uninitialized] (atom Render.uninitialized) :=
      fun _ rest => readTokens_cons rfl rest
    refine ⟨atom Render.uninitialized :: es, .cons hhole.fills hes, ?_⟩
    rw [List.map_cons, hbare]
    rfl
  | some e :: rest, ⟨he, hrest⟩ => by
    obtain ⟨es, hes, hbare⟩ := reads_elements rest hrest
    refine ⟨e.bare :: es, .cons (e.reads he).fills hes, ?_⟩
    rw [List.map_cons, hbare, element?_bare he]
    rfl

/-- Readable arguments of a call are read as items. -/
theorem reads_arguments : ∀ arguments : List Expression, AreReadableArguments arguments →
    List.Forall₂ Fills (argumentTokens arguments) (bareArguments arguments)
  | [], _ => .nil
  | e :: rest, ⟨he, hrest⟩ => .cons (e.reads he).fills (reads_arguments rest hrest)

end

/-- A readable expression is read from its text. -/
theorem readExpression_text {e : Expression} (h : e.IsReadable) :
    readExpression e.text = some e.bare := by
  obtain ⟨x, stack, hrun, hsettle⟩ := (e.reads h).fills [] (fun _ => rfl) []
  have hscan := (e.scans h) [] nofun
  rw [List.append_nil] at hscan
  have hend : readTokens (.holding x) stack [] = some e.bare := by
    rw [readTokens, hsettle]
  rw [readExpression, hscan]
  exact hrun.trans hend

/-! ## What is rendered is read back -/

mutual

/-- In a readable expression no step is misplaced. -/
lemma Expression.misplaced?_of_isReadable : ∀ e : Expression, e.IsReadable →
    ∀ x ∈ e.encounters, x.misplaced? = none
  | .identifier _ _, _ | .literal _ _ _, _ => List.forall_mem_singleton.mpr rfl
  | .array _ elements, h => misplaced?_of_areReadableElements elements h
  | .binary _ _ left right, ⟨_, hleft, hright⟩ =>
    List.forall_mem_append.mpr ⟨List.forall_mem_append.mpr
      ⟨left.misplaced?_of_isReadable hleft, right.misplaced?_of_isReadable hright⟩,
      List.forall_mem_singleton.mpr rfl⟩
  | .member _ object (.identifier _ _) _, ⟨_, hobject, _⟩ =>
    List.forall_mem_append.mpr
      ⟨object.misplaced?_of_isReadable hobject, List.forall_mem_singleton.mpr rfl⟩
  | .call _ callee arguments, ⟨_, hcallee, harguments⟩ =>
    List.forall_mem_append.mpr ⟨misplaced?_of_areReadableArguments arguments harguments,
      callee.misplaced?_of_isReadable hcallee⟩

/-- In readable elements no step is misplaced. -/
lemma misplaced?_of_areReadableElements : ∀ elements : List (Option Expression),
    AreReadableElements elements → ∀ x ∈ elementEncounters elements, x.misplaced? = none
  | [], _ => nofun
  | none :: rest, h => misplaced?_of_areReadableElements rest h
  | some e :: rest, ⟨he, hrest⟩ =>
    List.forall_mem_append.mpr
      ⟨e.misplaced?_of_isReadable he, misplaced?_of_areReadableElements rest hrest⟩

/-- In readable arguments no step is misplaced. -/
lemma misplaced?_of_areReadableArguments : ∀ arguments : List Expression,
    AreReadableArguments arguments → ∀ x ∈ argumentEncounters arguments, x.misplaced? = none
  | [], _ => nofun
  | e :: rest, ⟨he, hrest⟩ =>
    List.forall_mem_append.mpr
      ⟨e.misplaced?_of_isReadable he, misplaced?_of_areReadableArguments rest hrest⟩

end

/-- In lenient mode a readable expression is rendered as its text, at any margin. -/
lemma Expression.render_of_isReadable {e : Expression} (h : e.IsReadable) (m : Margin) :
    (e.toNode.render false m).result = .ok (.text e.text) :=
  e.render_eq_text (e.misplaced?_of_isReadable h) m

/-- The text of an expression determines it.  In lenient mode every readable expression is rendered,
and from its text it is read back up to locations, values of literals and whether members were
computed; another readable expression with the same text is the same up to these. -/
theorem readExpression_render {e : Expression} (h : e.IsReadable) (m : Margin) :
    ∃ t, (e.toNode.render false m).result = .ok (.text t) ∧ readExpression t = some e.bare ∧
      ∀ e' : Expression, e'.IsReadable → ∀ m' : Margin,
        (e'.toNode.render false m').result = .ok (.text t) → e'.bare = e.bare := by
  have hread := readExpression_text h
  refine ⟨e.text, e.render_of_isReadable h m, hread, fun e' h' m' hrender' => ?_⟩
  have htext := (e'.render_of_isReadable h' m').symm.trans hrender'
  have hread' := readExpression_text h'
  rw [text_injective (Except.ok.inj htext), hread] at hread'
  exact (Option.some.inj hread').symm

/-- A difference whose right operand is a difference, beside a string that looks like brackets and a
missing element, is read back with its grouping, and is not rendered as it is with the other one. -/
theorem readExpression_render_differences :
    let name (t : Text) : Expression := .identifier .unknown t
    let minus (l r : Expression) : Expression := .binary .unknown "-" l r
    let one : Expression := .literal .unknown "1." .null
    let call (e : Expression) : Expression :=
      .call .unknown (.member .unknown (name "a") (name "f") false)
        [e, .array .unknown [none, some (.literal .unknown "'(\\', ['" .null)]]
    let e : Expression := call (minus (name "x") (minus (name "y") one))
    let e' : Expression := call (minus (minus (name "x") (name "y")) one)
    let t : Text := "a.f(x - (y - 1.), [ None, '(\\', [' ])"
    e.IsReadable ∧ (e.toNode.render false ⟨"  ", 0⟩).result = .ok (.text t) ∧
      readExpression t = some e ∧ e'.IsReadable ∧
      (e'.toNode.render false ⟨"  ", 0⟩).result ≠ .ok (.text t) := by
  intro name minus one call e e' t
  have hname : ∀ u ∈ ["a", "f", "x", "y"].map Text.ofString, IsName u := by decide
  have hminus : IsOperator "-" := by decide
  have hone : Portable.isPortableLiteral "1." = true := by decide
  have hstring : Portable.isPortableLiteral "'(\\', ['" = true := by decide +kernel
  have hx : (name "x").IsReadable := hname "x" (by decide)
  have hy : (name "y").IsReadable := hname "y" (by decide)
  have hcall (e : Expression) (h : e.IsReadable) : (call e).IsReadable :=
    ⟨rfl, ⟨rfl, hname "a" (by decide), hname "f" (by decide)⟩, h, ⟨hstring, trivial⟩, trivial⟩
  have he : e.IsReadable := hcall _ ⟨hminus, hx, hminus, hy, hone⟩
  have he' : e'.IsReadable := hcall _ ⟨hminus, ⟨hminus, hx, hy⟩, hone⟩
  have htext : e.text = t := by decide
  obtain ⟨u, hrender, hread, hunique⟩ := readExpression_render he ⟨"  ", 0⟩
  have hu := hrender.symm.trans (e.render_of_isReadable he ⟨"  ", 0⟩)
  rw [htext] at hu
  obtain rfl : u = t := text_injective (Except.ok.inj hu)
  refine ⟨he, hrender, hread, he', fun hrender' => ?_⟩
  have hbare := hunique e' he' ⟨"  ", 0⟩ hrender'
  exact absurd hbare nofun

end Syntax

end Offside
