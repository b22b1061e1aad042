import Mathlib.Data.List.Chain
import Mathlib.Tactic.Lemma
import Offside.Settings
import Offside.Proofs.Loops

/-!
# Block layout

What the renderer writes for statements is a list of rows: a line, which stands at a level.  A
header opens a suite, whose rows stand one level further in.  `Block` is the tree behind such
rows and `rowsOf` lays the tree out; `text` joins the rows to a text, each behind as many units of
indentation as its level says.

`Laid` says what a list of rows has to be like so that the levels alone tell the blocks apart.
The rows of blocks with non-empty suites are of this sort (`laid_rowsOf`), whatever the lines say.
-/

namespace Offside

/-! ## Joined texts -/

namespace Text

/-- In front of other texts stands the first one with a separator. -/
lemma join_cons (separator t : Text) {ts : List Text} (h : ts ≠ []) :
    join separator (t :: ts) = t ++ separator ++ join separator ts := by
  cases ts with
  | nil => exact absurd rfl h
  | cons => rfl

/-- Two joined lists of texts with a separator between them are joined. -/
lemma join_append (separator : Text) {xs ys : List Text} (hx : xs ≠ []) (hy : ys ≠ []) :
    join separator (xs ++ ys) = join separator xs ++ separator ++ join separator ys := by
  induction xs with
  | nil => exact absurd rfl hx
  | cons x rest ih =>
    cases rest with
    | nil => exact join_cons separator x hy
    | cons x' rest =>
      have hrest : x' :: rest ≠ [] := List.cons_ne_nil x' rest
      rw [List.cons_append, join_cons _ _ (List.append_ne_nil_of_left_ne_nil hrest ys), ih hrest,
        join_cons _ _ hrest]
      simp only [List.append_assoc]

/-- Joined texts can be joined piece by piece. -/
lemma join_map_join (separator : Text) {pieces : List (List Text)} (h : ∀ ts ∈ pieces, ts ≠ []) :
    join separator (pieces.map (join separator)) = join separator pieces.flatten := by
  induction pieces with
  | nil => rfl
  | cons ts rest ih =>
    rw [List.forall_mem_cons] at h
    cases rest with
    | nil => simp [join]
    | cons ts' rest =>
      have hrest : (ts' :: rest).flatten ≠ [] := by
        rw [List.flatten_cons]
        exact List.append_ne_nil_of_left_ne_nil (h.2 ts' List.mem_cons_self) _
      rw [List.map_cons, join_cons _ _ (by simp), ih h.2]
      exact (join_append separator h.1 hrest).symm

/-- Where a text is cut at every break, texts without breaks that were joined by one come apart
again. -/
lemma splitOnP_join {isBreak : CodePoint → Bool} {c : CodePoint} (hc : isBreak c = true)
    {ts : List Text} (hne : ts ≠ []) (h : ∀ t ∈ ts, ∀ x ∈ t, isBreak x = false) :
    (join [c] ts).splitOnP isBreak = ts := by
  induction ts with
  | nil => exact absurd rfl hne
  | cons t rest ih =>
    rw [List.forall_mem_cons] at h
    cases rest with
    | nil => exact List.splitOnP_eq_singleton h.1
    | cons t' rest =>
      rw [join_cons _ _ (by simp), List.append_assoc, List.singleton_append,
        List.splitOnP_append_cons_of_forall_mem h.1 c hc, ih (by simp) h.2]

end Text

namespace Layout

/-! ## Lines and rows -/

/-- What opens a suite. -/
inductive Head where
  | conditional (test : Text)
  | loop (test : Option Text)
  | count (name low high : Text)
  | classOf (name : Text)
deriving DecidableEq

/-- The text of a header; a loop without a test goes on for ever. -/
def Head.text : Head → Text
  | conditional test => "if " ++ test ++ ":"
  | loop none => "while True:"
  | loop (some test) => "while " ++ test ++ ":"
  | count name low high => Render.countHeader name low high
  | classOf name => "class " ++ name ++ ":"

/-- A line: a simple one, one that does nothing, a header, or the header between the two suites of
a choice. -/
inductive Line where
  | simple (t : Text)
  | pass
  | head (h : Head)
  | otherwise
deriving DecidableEq

namespace Line

/-- The text of a line. -/
def text : Line → Text
  | simple t => t
  | pass => Render.placeholder
  | head h => h.text
  | otherwise => "else:"

/-- The line opens a suite. -/
def isHeader : Line → Bool
  | simple _ | pass => false
  | head _ | otherwise => true

/-- The line opens a suite that a choice can go on from. -/
def isConditional : Line → Bool
  | head (.conditional _) => true
  | _ => false

end Line

/-- A line at a level. -/
structure Row where
  level : Nat
  line : Line
deriving DecidableEq

/-- The text of a row. -/
def Row.text (u : Text) (r : Row) : Text := u.times r.level ++ r.line.text

/-- The text of rows. -/
def text (u : Text) (rows : List Row) : Text := Text.join "\n" (rows.map (Row.text u))

/-! ## Blocks -/

/-- A block: a line, a suite under a header, or two suites to choose from. -/
inductive Block where
  | simple (t : Text)
  | pass
  | headed (h : Head) (body : List Block)
  | choice (test : Text) (yes no : List Block)

mutual

/-- The rows of a block that stands at a level. -/
def Block.rows (d : Nat) : Block → List Row
  | .simple t => [⟨d, .simple t⟩]
  | .pass => [⟨d, .pass⟩]
  | .headed h body => ⟨d, .head h⟩ :: rowsOf (d + 1) body
  | .choice test yes no =>
    ⟨d, .head (.conditional test)⟩ ::
      (rowsOf (d + 1) yes ++ ⟨d, .otherwise⟩ :: rowsOf (d + 1) no)

/-- The rows of blocks that stand at a level. -/
def rowsOf (d : Nat) : List Block → List Row
  | [] => []
  | b :: rest => b.rows d ++ rowsOf d rest

end

mutual

/-- Something is true of every line of the block, and no suite inside it is empty. -/
def Block.IsSound (P : Line → Prop) : Block → Prop
  | .simple t => P (.simple t)
  | .pass => P .pass
  | .headed h body => P (.head h) ∧ body ≠ [] ∧ AreSound P body
  | .choice test yes no =>
    P (.head (.conditional test)) ∧ (yes ≠ [] ∧ AreSound P yes) ∧
      P .otherwise ∧ no ≠ [] ∧ AreSound P no

/-- Something is true of every line of the blocks, and no suite inside them is empty. -/
def AreSound (P : Line → Prop) : List Block → Prop
  | [] => True
  | b :: rest => b.IsSound P ∧ AreSound P rest

end

/-- Blocks in two parts are laid out part by part. -/
@[simp] lemma rowsOf_append (d : Nat) (xs ys : List Block) :
    rowsOf d (xs ++ ys) = rowsOf d xs ++ rowsOf d ys := by
  induction xs with
  | nil => rfl
  | cons b rest ih => simp only [List.cons_append, rowsOf, ih, List.append_assoc]

/-- What is true of the lines of two parts is true of both together. -/
lemma AreSound.append {P : Line → Prop} {xs ys : List Block} (hx : AreSound P xs)
    (hy : AreSound P ys) : AreSound P (xs ++ ys) := by
  induction xs with
  | nil => exact hy
  | cons b rest ih => exact ⟨hx.1, ih hx.2⟩

/-- Simple lines are sound one by one. -/
lemma areSound_map_simple {α : Type} {P : Line → Prop} {f : α → Text} {xs : List α}
    (h : ∀ x ∈ xs, P (.simple (f x))) : AreSound P (xs.map fun x => .simple (f x)) := by
  induction xs with
  | nil => trivial
  | cons x rest ih =>
    rw [List.forall_mem_cons] at h
    exact ⟨h.1, ih h.2⟩

mutual

/-- What is true of the lines of a block is true of its rows. -/
lemma Block.IsSound.rows {P : Line → Prop} (d : Nat) : (b : Block) → b.IsSound P →
    ∀ r ∈ b.rows d, P r.line
  | .simple _, hb | .pass, hb => by
    rw [Block.rows, List.forall_mem_singleton]
    exact hb
  | .headed h body, hb => by
    rw [Block.rows, List.forall_mem_cons]
    exact ⟨hb.1, AreSound.rows (d + 1) body hb.2.2⟩
  | .choice test yes no, hb => by
    rw [Block.rows, List.forall_mem_cons, List.forall_mem_append, List.forall_mem_cons]
    exact ⟨hb.1, AreSound.rows (d + 1) yes hb.2.1.2, hb.2.2.1,
      AreSound.rows (d + 1) no hb.2.2.2.2⟩

/-- What is true of the lines of blocks is true of their rows. -/
lemma AreSound.rows {P : Line → Prop} (d : Nat) : (bs : List Block) → AreSound P bs →
    ∀ r ∈ rowsOf d bs, P r.line
  | [], _ => nofun
  | b :: rest, hb => by
    rw [rowsOf, List.forall_mem_append]
    exact ⟨Block.IsSound.rows d b hb.1, AreSound.rows d rest hb.2⟩

end

/-- A block has a row. -/
lemma rows_ne_nil (d : Nat) (b : Block) : b.rows d ≠ [] := by
  cases b <;> simp [Block.rows]

/-- Blocks have a row. -/
lemma rowsOf_ne_nil (d : Nat) {bs : List Block} (h : bs ≠ []) : rowsOf d bs ≠ [] := by
  cases bs with
  | nil => exact absurd rfl h
  | cons b rest => exact List.append_ne_nil_of_left_ne_nil (rows_ne_nil d b) _

/-! ## Levels that tell blocks apart -/

/-- What may stand on the next line: one level further in behind a header, and no further in
behind any other line. -/
def Follows (r s : Row) : Prop :=
  if r.line.isHeader then s.level = r.level + 1 else s.level ≤ r.level

/-- Rows whose levels fit together: they begin at a level and never leave it, each one may follow
the one before, and no header is left without a suite. -/
structure Nested (d : Nat) (rows : List Row) : Prop where
  first : ∀ r ∈ rows.head?, r.level = d
  within : ∀ r ∈ rows, d ≤ r.level
  chain : rows.IsChain Follows
  last : ∀ r ∈ rows.getLast?, r.line.isHeader = false

/-- Among the rows so far, the nearest one that is not further in than a level stands at that
level and opens the first suite of a choice. -/
def Answered (before : List Row) (d : Nat) : Prop :=
  ∃ front r between, before = front ++ r :: between ∧ r.level = d ∧
    r.line.isConditional = true ∧ ∀ x ∈ between, d < x.level

/-- Each header between two suites has its choice. -/
def Matched (rows : List Row) : Prop :=
  ∀ before r after, rows = before ++ r :: after → r.line = .otherwise → Answered before r.level

/-- Rows whose levels tell the blocks apart. -/
structure Laid (d : Nat) (rows : List Row) : Prop extends Nested d rows where
  matched : Matched rows

/-- Nothing is nested at any level. -/
lemma Nested.nil (d : Nat) : Nested d [] :=
  ⟨nofun, nofun, .nil, nofun⟩

/-- A row that is no header is nested. -/
lemma Nested.single {d : Nat} {l : Line} (h : l.isHeader = false) : Nested d [⟨d, l⟩] := by
  refine ⟨?_, ?_, .singleton _, ?_⟩
  · rintro r ⟨⟩
    rfl
  · intro r hr
    rw [List.mem_singleton.mp hr]
  · rintro r ⟨⟩
    exact h

/-- Rows at one level can stand below each other. -/
lemma Nested.append {d : Nat} {xs ys : List Row} (hx : Nested d xs) (hy : Nested d ys) :
    Nested d (xs ++ ys) := by
  by_cases hne : ys = []
  · rwa [hne, List.append_nil]
  refine ⟨?_, ?_, ?_, ?_⟩
  · intro r hr
    rw [List.head?_append, Option.mem_def, Option.or_eq_some_iff] at hr
    exact hr.elim (hx.first r) fun h => hy.first r h.2
  · exact fun r hr => (List.mem_append.mp hr).elim (hx.within r) (hy.within r)
  · refine List.isChain_append.mpr ⟨hx.chain, hy.chain, ?_⟩
    intro r hr s hs
    have hlevel : s.level ≤ r.level := by
      rw [hy.first s hs]
      exact hx.within r (List.mem_of_getLast? hr)
    simpa [Follows, hx.last r hr] using hlevel
  · intro r hr
    rw [List.getLast?_append, Option.mem_def, Option.or_eq_some_iff] at hr
    refine hr.elim (hy.last r) fun h => absurd h.1 ?_
    rw [List.getLast?_eq_none_iff]
    exact hne

/-- A header with a suite one level further in is nested. -/
lemma Nested.cons {d : Nat} {l : Line} {rows : List Row} (hl : l.isHeader = true)
    (hne : rows ≠ []) (h : Nested (d + 1) rows) : Nested d (⟨d, l⟩ :: rows) := by
  refine ⟨?_, ?_, ?_, ?_⟩
  · rintro r ⟨⟩
    rfl
  · intro r hr
    rcases List.mem_cons.mp hr with rfl | hr
    · exact le_rfl
    · exact Nat.le_of_succ_le (h.within r hr)
  · refine List.isChain_cons.mpr ⟨fun s hs => ?_, h.chain⟩
    simpa [Follows, hl] using h.first s hs
  · intro r hr
    rw [List.getLast?_cons, List.getLast?_eq_some_getLast hne] at hr
    exact h.last r (by rw [List.getLast?_eq_some_getLast hne]; exact hr)

/-- What is answered stays so behind further rows in front. -/
lemma Answered.append_left {before : List Row} {d : Nat} (xs : List Row)
    (h : Answered before d) : Answered (xs ++ before) d := by
  obtain ⟨front, r, between, rfl, hr⟩ := h
  exact ⟨xs ++ front, r, between, (List.append_assoc ..).symm, hr⟩

/-- The empty list of rows is matched. -/
lemma Matched.nil : Matched [] :=
  fun before r after h => absurd h.symm (by simp)

/-- Rows below matched rows may have their choices there. -/
lemma Matched.append_of {xs ys : List Row} (hx : Matched xs)
    (hy : ∀ before r after, ys = before ++ r :: after → r.line = .otherwise →
      Answered (xs ++ before) r.level) : Matched (xs ++ ys) := by
  intro before r after heq hr
  rcases List.append_eq_append_iff.mp heq with ⟨zs, rfl, h⟩ | ⟨zs, rfl, h⟩
  · exact hy zs r after h hr
  · cases zs with
    | nil =>
      have h' := hy [] r after h.symm hr
      rwa [List.append_nil, List.append_nil] at h'
    | cons z zs =>
      obtain ⟨rfl, rfl⟩ := List.cons.inj h
      exact hx before r zs rfl hr

/-- Matched rows can stand below each other. -/
lemma Matched.append {xs ys : List Row} (hx : Matched xs) (hy : Matched ys) :
    Matched (xs ++ ys) :=
  hx.append_of fun before r after h hr => (hy before r after h hr).append_left xs

/-- A row can stand between matched rows if it has its choice above it. -/
lemma Matched.append_cons {xs ys : List Row} {r : Row} (hx : Matched xs)
    (hr : r.line = .otherwise → Answered xs r.level) (hy : Matched ys) :
    Matched (xs ++ r :: ys) := by
  refine hx.append_of fun before s after h hs => ?_
  cases before with
  | nil =>
    obtain ⟨rfl, rfl⟩ := List.cons.inj h
    rw [List.append_nil]
    exact hr hs
  | cons z zs =>
    obtain ⟨rfl, rfl⟩ := List.cons.inj h
    exact ((hy zs s after rfl hs).append_left [r]).append_left xs

/-- A row that goes on from no choice can stand above matched rows. -/
lemma Matched.cons {r : Row} {rows : List Row} (hr : r.line ≠ .otherwise) (h : Matched rows) :
    Matched (r :: rows) :=
  Matched.nil.append_cons (fun hr' => absurd hr' hr) h

/-- A row that is no header is laid out by itself. -/
lemma Laid.single {d : Nat} {l : Line} (h : l.isHeader = false) : Laid d [⟨d, l⟩] := by
  refine ⟨.single h, .cons (fun hl => ?_) .nil⟩
  rw [show l = .otherwise from hl] at h
  exact absurd h.symm Bool.false_ne_true

/-- A header with a suite is laid out. -/
lemma Laid.headed {d : Nat} (h : Head) {rows : List Row} (hne : rows ≠ [])
    (hrows : Laid (d + 1) rows) : Laid d (⟨d, .head h⟩ :: rows) :=
  ⟨.cons rfl hne hrows.toNested, .cons nofun hrows.matched⟩

/-- Two suites to choose from are laid out. -/
lemma Laid.choice {d : Nat} (test : Text) {yes no : List Row} (hyes : yes ≠ [])
    (hno : no ≠ []) (hy : Laid (d + 1) yes) (hn : Laid (d + 1) no) :
    Laid d (⟨d, .head (.conditional test)⟩ :: (yes ++ ⟨d, .otherwise⟩ :: no)) := by
  have hfirst := hy.headed (.conditional test) hyes
  have hsecond : Nested d (⟨d, .otherwise⟩ :: no) := .cons rfl hno hn.toNested
  refine ⟨hfirst.toNested.append hsecond, hfirst.matched.append_cons (fun _ => ?_) hn.matched⟩
  exact ⟨[], _, yes, rfl, rfl, rfl, hy.within⟩

mutual

/-- The levels of a sound block tell its suites apart. -/
lemma laid_rows {P : Line → Prop} (d : Nat) : (b : Block) → b.IsSound P → Laid d (b.rows d)
  | .simple _, _ => .single rfl
  | .pass, _ => .single rfl
  | .headed h body, hb => (laid_rowsOf (d + 1) body hb.2.2).headed h (rowsOf_ne_nil _ hb.2.1)
  | .choice test yes no, hb =>
    have hno := hb.2.2.2
    .choice test (rowsOf_ne_nil _ hb.2.1.1) (rowsOf_ne_nil _ hno.1)
      (laid_rowsOf (d + 1) yes hb.2.1.2) (laid_rowsOf (d + 1) no hno.2)

/-- The levels of sound blocks tell them apart. -/
lemma laid_rowsOf {P : Line → Prop} (d : Nat) : (bs : List Block) → AreSound P bs →
    Laid d (rowsOf d bs)
  | [], _ => ⟨.nil d, .nil⟩
  | b :: rest, hb =>
    have hfirst := laid_rows d b hb.1
    have hrest := laid_rowsOf d rest hb.2
    ⟨hfirst.toNested.append hrest.toNested, hfirst.matched.append hrest.matched⟩

end

end Layout

end Offside
