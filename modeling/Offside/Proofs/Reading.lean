import Mathlib.Order.Monotone.Basic
import Offside.Proofs.Indentation

/-!
# Reading blocks by their indentation

A reader sees lines only.  It measures the blanks in front of each line and takes what follows for
a simple line or a header; the lines that stand further in than a header are its suite.  `read`
is such a reader.  It knows nothing of the renderer and fails on what does not fit: a header
without a suite, a line further in than the one before without a header, a suite whose lines do
not stand in one column, a header between two suites without a choice.

`read_text` says that it reads the blocks back that a text was laid out from.
-/

namespace Offside

namespace Layout

/-! ## Lines -/

/-- The words with a meaning of their own. -/
def keywords : List Text :=
  ["False", "None", "True", "and", "as", "assert", "async", "await", "break", "class", "continue",
    "def", "del", "elif", "else", "except", "finally", "for", "from", "global", "if", "import",
    "in", "is", "lambda", "nonlocal", "not", "or", "pass", "raise", "return", "try", "while",
    "with", "yield"].map Text.ofString

/-- A line feed or a carriage return ends a line, and the keywords are special. -/
def keywordRules : Rules where
  isBreak c := c == '\n' || c == '\r'
  special := keywords
  isBreak_imp _ hc := (Bool.or_eq_true_iff.mp hc).imp eq_of_beq eq_of_beq
  special_imp := by decide

/-- The column behind blanks; a tab goes on to the next multiple of eight. -/
def column (blanks : Text) : Nat :=
  blanks.foldl (fun n c => if c == CodePoint.ofChar '\t' then (n / 8 + 1) * 8 else n + 1) 0

/-- What stands between the beginning of a header and the colon at its end. -/
def inside? (first t : Text) : Option Text :=
  if first.isPrefixOf t && t.getLast? == some (CodePoint.ofChar ':') then
    some (t.drop first.length).dropLast
  else none

/-- What a line is, judged by its first word and its end. -/
def classify (t : Text) : Option Line :=
  if firstWord t = "pass" then if t = "pass" then some .pass else none
  else if firstWord t = "else" then if t = "else:" then some .otherwise else none
  else if firstWord t = "if" then (inside? "if " t).map fun test => .head (.conditional test)
  else if firstWord t = "while" then
    (inside? "while " t).map fun test =>
      .head (.loop (if test = Text.ofString "True" then none else some test))
  else if firstWord t = "class" then (inside? "class " t).map fun name => .head (.classOf name)
  else if firstWord t ∈ keywords || t.getLast? == some (CodePoint.ofChar ':') then none
  else some (.simple t)

/-- A line with the column that it stands at. -/
def readLine (t : Text) : Option (Nat × Line) :=
  (classify (t.dropWhile isBlank)).map fun l => (column (t.takeWhile isBlank), l)

/-! ## Suites -/

/-- What has been read: a block, or a second suite whose choice has not been found yet. -/
inductive Part where
  | block (b : Block)
  | alternative (body : List Block)

/-- The block that has been read. -/
def Part.block? : Part → Option Block
  | block b => some b
  | alternative _ => none

/-- What has been read, with the column that it stands at. -/
structure Item where
  column : Nat
  part : Part

/-- The suite of a header: what stands further in, which has to be something and in one column. -/
def suite? (c : Nat) (items : List Item) : Option (List Block) :=
  match items.takeWhile fun i => c < i.column with
  | [] => none
  | i :: inner =>
    if inner.all fun j => j.column = i.column then (i :: inner).mapM fun j => j.part.block?
    else none

/-- What stands behind the suite of a header. -/
def behind (c : Nat) (items : List Item) : List Item := items.dropWhile fun i => c < i.column

/-- The second suite of a choice, if one stands in front in the same column, and what stands
behind it. -/
def alternative? (c : Nat) : List Item → Option (List Block × List Item)
  | ⟨c', .alternative no⟩ :: rest => if c' = c then some (no, rest) else none
  | _ => none

/-- Read a line in front of what has been read. -/
def addLine (c : Nat) (l : Line) (items : List Item) : Option (List Item) :=
  match l with
  | .simple t =>
    if items.head?.any fun i => c < i.column then none
    else some (⟨c, .block (.simple t)⟩ :: items)
  | .pass =>
    if items.head?.any fun i => c < i.column then none else some (⟨c, .block .pass⟩ :: items)
  | .otherwise => do some (⟨c, .alternative (← suite? c items)⟩ :: behind c items)
  | .head (.conditional test) => do
    let yes ← suite? c items
    match alternative? c (behind c items) with
    | some (no, rest) => some (⟨c, .block (.choice test yes no)⟩ :: rest)
    | none => some (⟨c, .block (.headed (.conditional test) yes)⟩ :: behind c items)
  | .head h => do some (⟨c, .block (.headed h (← suite? c items))⟩ :: behind c items)

/-- Read lines, the last one first. -/
def readLines : List (Nat × Line) → Option (List Item)
  | [] => some []
  | (c, l) :: rest => do addLine c l (← readLines rest)

/-- Read the blocks of a text.  Blank lines do not count, and the outermost blocks begin the
line. -/
def read (t : Text) : Option (List Block) := do
  let lines ← ((t.splitOnP keywordRules.isBreak).filter fun l => !l.all isBlank).mapM readLine
  (← readLines lines).mapM fun i => if i.column = 0 then i.part.block? else none

/-! ## Columns -/

/-- Blanks do not lead back. -/
lemma le_foldl_column (n : Nat) (blanks : Text) :
    n ≤ blanks.foldl
      (fun n c => if c == CodePoint.ofChar '\t' then (n / 8 + 1) * 8 else n + 1) n := by
  induction blanks generalizing n with
  | nil => exact le_rfl
  | cons c rest ih =>
    rw [List.foldl_cons]
    refine le_trans ?_ (ih _)
    split <;> omega

/-- A blank leads on. -/
lemma lt_foldl_column (n : Nat) {blanks : Text} (h : blanks ≠ []) :
    n < blanks.foldl
      (fun n c => if c == CodePoint.ofChar '\t' then (n / 8 + 1) * 8 else n + 1) n := by
  cases blanks with
  | nil => exact absurd rfl h
  | cons c rest =>
    rw [List.foldl_cons]
    refine lt_of_lt_of_le ?_ (le_foldl_column _ rest)
    split <;> omega

/-- A further unit can be written behind the others. -/
lemma times_succ_append (u : Text) (n : Nat) : u.times (n + 1) = u.times n ++ u := by
  induction n with
  | zero => exact List.append_nil u
  | succ n ih =>
    change u ++ u.times (n + 1) = (u ++ u.times n) ++ u
    rw [ih, List.append_assoc]

/-- Deeper levels stand further in. -/
lemma strictMono_column {u : Text} (hu : isIndentUnit u = true) :
    StrictMono fun n => column (u.times n) := by
  have hne : u ≠ [] := by
    rintro rfl
    exact absurd hu Bool.false_ne_true
  refine strictMono_nat_of_lt_succ fun n => ?_
  rw [times_succ_append]
  unfold column
  rw [List.foldl_append]
  exact lt_foldl_column _ hne

/-! ## Lines that are read back -/

/-- What stands inside a header is found. -/
lemma inside?_eq (first t : Text) : inside? first (first ++ t ++ ":") = some t := by
  have hfront : first.isPrefixOf (first ++ t ++ ":") = true := by
    refine List.isPrefixOf_iff_prefix.mpr ?_
    rw [List.append_assoc]
    exact List.prefix_append first _
  have hlast : (first ++ t ++ Text.ofString ":").getLast? = some (CodePoint.ofChar ':') :=
    List.getLast?_append_of_ne_nil _ (List.cons_ne_nil _ _)
  unfold inside?
  rw [hfront, hlast, List.append_assoc, List.drop_left]
  simp only [beq_self_eq_true, Bool.and_self, if_true]
  exact congrArg some (List.dropLast_concat)

/-- A legible line is taken for what it is, unless it is the header of a count. -/
lemma classify_text {l : Line} (h : l.IsLegible keywordRules) (hl : l.IsUncounted) :
    classify l.text = some l := by
  cases l with
  | simple t =>
    have ht : Legible keywordRules t := h
    have hword : firstWord t ∉ keywords := ht.opens.word
    have hne (w : Text) (hw : w ∈ keywords) : firstWord t ≠ w := fun h => hword (h ▸ hw)
    have hcolon : (t.getLast? == some (CodePoint.ofChar ':')) = false := by
      obtain ⟨c, hc, hcolon⟩ := ht.closes
      rw [Option.mem_def.mp hc]
      exact beq_eq_false_iff_ne.mpr fun h => hcolon (Option.some.inj h)
    rw [Line.text, classify, if_neg (hne _ (by decide)), if_neg (hne _ (by decide)),
      if_neg (hne _ (by decide)), if_neg (hne _ (by decide)), if_neg (hne _ (by decide)), hcolon,
      decide_eq_false hword]
    rfl
  | pass => decide
  | otherwise => decide
  | head h' =>
    cases h' with
    | conditional test =>
      have hinside := inside?_eq "if " test
      change (inside? "if " ("if " ++ test ++ ":")).map _ = _
      rw [hinside]
      rfl
    | loop test =>
      cases test with
      | none => decide
      | some test =>
        have hinside := inside?_eq "while " test
        have htrue : test ≠ "True" := by
          rintro rfl
          exact absurd (h _ rfl).opens.word (by decide)
        change (inside? "while " ("while " ++ test ++ ":")).map _ = _
        rw [hinside, Option.map_some, if_neg htrue]
    | count => exact absurd hl id
    | classOf name =>
      have hinside := inside?_eq "class " name
      change (inside? "class " ("class " ++ name ++ ":")).map _ = _
      rw [hinside]
      rfl

/-- A row is read as its line, at the column of its level. -/
lemma readLine_text {u : Text} (hu : isIndentUnit u = true) {r : Row}
    (h : r.line.IsLegible keywordRules) (hr : r.line.IsUncounted) :
    readLine (r.text u) = some (column (u.times r.level), r.line) := by
  have hunits := isBlank_times hu r.level
  obtain ⟨c, hc, hblank⟩ := h.head?_text
  obtain ⟨rest, hline⟩ : ∃ rest, r.line.text = c :: rest := List.head?_eq_some_iff.mp hc
  have hneg : ¬ isBlank c = true := by
    rw [hblank]
    exact Bool.false_ne_true
  have htake : (r.text u).takeWhile isBlank = u.times r.level := by
    rw [Row.text, hline, List.takeWhile_append_of_pos hunits, List.takeWhile_cons_of_neg hneg,
      List.append_nil]
  have hdrop : (r.text u).dropWhile isBlank = r.line.text := by
    rw [Row.text, hline, List.dropWhile_append_of_pos hunits, List.dropWhile_cons_of_neg hneg]
  rw [readLine, htake, hdrop, classify_text h hr, Option.map_some]

/-! ## Blocks that are read back -/

/-- Blocks as they have been read at a column. -/
def itemsOf (c : Nat) (bs : List Block) : List Item := bs.map fun b => ⟨c, .block b⟩

/-- What has been read stands no further in than a column; at the column stands no second suite
of a choice. -/
def ClosedAt (c : Nat) (items : List Item) : Prop :=
  ∀ i ∈ items.head?, i.column < c ∨ i.column = c ∧ ∃ b, i.part = .block b

section

variable {c c' : Nat} {items : List Item}

/-- What is closed at a column stands no further in. -/
lemma ClosedAt.not_lt (h : ClosedAt c items) : ∀ i ∈ items.head?, ¬ c < i.column := by
  intro i hi
  rcases h i hi with h | h <;> omega

/-- What is closed at a column is closed further in. -/
lemma ClosedAt.of_lt (h : ClosedAt c items) (hc : c < c') : ClosedAt c' items := by
  intro i hi
  rcases h i hi with h | h <;> exact .inl (by omega)

/-- What stands further in is the suite. -/
lemma takeWhile_itemsOf (body : List Block) (hc : c < c')
    (h : ∀ i ∈ items.head?, ¬ c < i.column) :
    ((itemsOf c' body ++ items).takeWhile fun i => c < i.column) = itemsOf c' body := by
  have hbody : ∀ i ∈ itemsOf c' body, decide (c < i.column) = true := by
    intro i hi
    obtain ⟨b, -, rfl⟩ := List.mem_map.mp hi
    exact decide_eq_true hc
  rw [List.takeWhile_append_of_pos hbody]
  cases items with
  | nil => exact List.append_nil _
  | cons i rest =>
    rw [List.takeWhile_cons_of_neg (by simpa using h i rfl), List.append_nil]

/-- What stands behind a suite is found. -/
lemma behind_eq (body : List Block) (hc : c < c') (h : ∀ i ∈ items.head?, ¬ c < i.column) :
    behind c (itemsOf c' body ++ items) = items := by
  have hsplit := @List.takeWhile_append_dropWhile _ (fun i : Item => decide (c < i.column))
    (itemsOf c' body ++ items)
  rw [takeWhile_itemsOf body hc h] at hsplit
  exact List.append_cancel_left hsplit

/-- Blocks that have been read are all blocks. -/
lemma mapM_itemsOf (c : Nat) (bs : List Block) {f : Item → Option Block}
    (hf : ∀ b, f ⟨c, .block b⟩ = some b) : (itemsOf c bs).mapM f = some bs := by
  induction bs with
  | nil => rfl
  | cons b rest ih =>
    have hcons : itemsOf c (b :: rest) = ⟨c, .block b⟩ :: itemsOf c rest := rfl
    rw [hcons, List.mapM_cons, hf, ih]
    rfl

/-- A suite further in is found behind its header. -/
lemma suite?_eq {body : List Block} (hne : body ≠ []) (hc : c < c')
    (h : ∀ i ∈ items.head?, ¬ c < i.column) : suite? c (itemsOf c' body ++ items) = some body := by
  have hcolumn : ∀ j ∈ itemsOf c' body, j.column = c' := by
    intro j hj
    obtain ⟨b, -, rfl⟩ := List.mem_map.mp hj
    rfl
  have hread : ((itemsOf c' body).mapM fun j => j.part.block?) = some body :=
    mapM_itemsOf c' body fun _ => rfl
  cases body with
  | nil => exact absurd rfl hne
  | cons b rest =>
    have hcons : itemsOf c' (b :: rest) = ⟨c', .block b⟩ :: itemsOf c' rest := rfl
    have hall : ((itemsOf c' rest).all fun j => j.column = c') = true :=
      List.all_eq_true.mpr fun j hj =>
        decide_eq_true (hcolumn j (hcons ▸ List.mem_cons_of_mem _ hj))
    unfold suite?
    rw [takeWhile_itemsOf _ hc h]
    rw [hcons] at hread ⊢
    exact (if_pos hall).trans hread

end

/-- The rows of blocks as a reader sees them: lines with the columns of their levels. -/
def seen (col : Nat → Nat) (rows : List Row) : List (Nat × Line) :=
  rows.map fun r => (col r.level, r.line)

section

variable {col : Nat → Nat} {P : Line → Prop}

/-- Nothing stands further in than what is closed at a column. -/
lemma ClosedAt.head?_any {c : Nat} {items : List Item} (h : ClosedAt c items) :
    (items.head?.any fun i => decide (c < i.column)) = false := by
  cases hi : items.head? with
  | none => rfl
  | some i => exact decide_eq_false (h.not_lt i hi)

/-- What is closed at a column holds no second suite for a choice there. -/
lemma ClosedAt.alternative?_eq {c : Nat} {items : List Item} (h : ClosedAt c items) :
    alternative? c items = none := by
  cases items with
  | nil => rfl
  | cons i rest =>
    obtain ⟨c', b | no⟩ := i
    · rfl
    · rcases h _ rfl with hlt | ⟨-, b, hb⟩
      · exact if_neg (Nat.ne_of_lt hlt)
      · exact absurd hb nofun

/-- Blocks at a column in front of what is closed there are closed there. -/
lemma ClosedAt.itemsOf_append {c : Nat} {items : List Item} (h : ClosedAt c items)
    (bs : List Block) : ClosedAt c (itemsOf c bs ++ items) := by
  cases bs with
  | nil => exact h
  | cons b rest =>
    rintro i ⟨⟩
    exact .inr ⟨rfl, b, rfl⟩

/-- A line is read in front of what has been read. -/
lemma readLines_cons (c : Nat) (l : Line) {rest : List (Nat × Line)} {items : List Item}
    (h : readLines rest = some items) : readLines ((c, l) :: rest) = addLine c l items := by
  rw [readLines, h]
  rfl

mutual

/-- The rows of a block are read as the block, in front of what is closed at its column. -/
lemma readLines_rows (hcol : StrictMono col) (d : Nat) : (b : Block) → b.IsSound P →
    {rest : List (Nat × Line)} → {items : List Item} → readLines rest = some items →
    ClosedAt (col d) items →
    readLines (seen col (b.rows d) ++ rest) = some (⟨col d, .block b⟩ :: items)
  | .simple t, _, rest, items, hrest, hclosed => by
    refine (readLines_cons (col d) (.simple t) hrest).trans ?_
    rw [addLine, hclosed.head?_any, if_neg Bool.false_ne_true]
  | .pass, _, rest, items, hrest, hclosed => by
    refine (readLines_cons (col d) .pass hrest).trans ?_
    rw [addLine, hclosed.head?_any, if_neg Bool.false_ne_true]
  | .headed h body, hb, rest, items, hrest, hclosed => by
    have hlt : col d < col (d + 1) := hcol (Nat.lt_succ_self d)
    have hbody := readLines_rowsOf hcol (d + 1) body hb.2.2 hrest (hclosed.of_lt hlt)
    have hsuite := suite?_eq hb.2.1 hlt hclosed.not_lt
    have hbehind := behind_eq body hlt hclosed.not_lt
    refine (readLines_cons (col d) (.head h) hbody).trans ?_
    cases h with
    | conditional test =>
      simp only [addLine, hsuite, hbehind, hclosed.alternative?_eq, Option.bind_eq_bind,
        Option.bind_some]
    | _ => simp only [addLine, hsuite, hbehind, Option.bind_eq_bind, Option.bind_some]
  | .choice test yes no, hb, rest, items, hrest, hclosed => by
    have hlt : col d < col (d + 1) := hcol (Nat.lt_succ_self d)
    obtain ⟨-, ⟨hyesne, hyes⟩, -, hnone, hno⟩ := hb
    -- The second suite is read first and waits for its choice.
    have hsecond := readLines_rowsOf hcol (d + 1) no hno hrest (hclosed.of_lt hlt)
    have halternative : readLines ((col d, .otherwise) :: (seen col (rowsOf (d + 1) no) ++ rest)) =
        some (⟨col d, .alternative no⟩ :: items) := by
      rw [readLines_cons _ _ hsecond, addLine, suite?_eq hnone hlt hclosed.not_lt,
        behind_eq no hlt hclosed.not_lt]
      rfl
    have hwaiting : ClosedAt (col (d + 1)) (⟨col d, .alternative no⟩ :: items) := by
      rintro i ⟨⟩
      exact .inl hlt
    have hfirst := readLines_rowsOf hcol (d + 1) yes hyes halternative hwaiting
    have hnot : ∀ i ∈ (⟨col d, .alternative no⟩ :: items : List Item).head?,
        ¬ col d < i.column := by
      rintro i ⟨⟩
      exact Nat.lt_irrefl _
    have hrows : seen col ((Block.choice test yes no).rows d) ++ rest =
        (col d, .head (.conditional test)) :: (seen col (rowsOf (d + 1) yes) ++
          (col d, .otherwise) :: (seen col (rowsOf (d + 1) no) ++ rest)) := by
      simp [seen, Block.rows]
    have hchoice : alternative? (col d) (⟨col d, .alternative no⟩ :: items) = some (no, items) :=
      if_pos rfl
    rw [hrows, readLines_cons _ _ hfirst, addLine, suite?_eq hyesne hlt hnot,
      behind_eq yes hlt hnot, Option.bind_eq_bind, Option.bind_some, hchoice]

/-- The rows of blocks are read as the blocks, in front of what is closed at their column. -/
lemma readLines_rowsOf (hcol : StrictMono col) (d : Nat) : (bs : List Block) → AreSound P bs →
    {rest : List (Nat × Line)} → {items : List Item} → readLines rest = some items →
    ClosedAt (col d) items →
    readLines (seen col (rowsOf d bs) ++ rest) = some (itemsOf (col d) bs ++ items)
  | [], _, rest, items, hrest, _ => hrest
  | b :: bs, hb, rest, items, hrest, hclosed => by
    have hbs := readLines_rowsOf hcol d bs hb.2 hrest hclosed
    have hb' := readLines_rows hcol d b hb.1 hbs (hclosed.itemsOf_append bs)
    rw [rowsOf, seen, List.map_append, List.append_assoc]
    exact hb'

end

end

/-- Rows are read line by line. -/
lemma mapM_readLine {u : Text} (hu : isIndentUnit u = true) {rows : List Row}
    (h : ∀ r ∈ rows, r.line.IsLegible keywordRules) (hr : ∀ r ∈ rows, r.line.IsUncounted) :
    (rows.map (Row.text u)).mapM readLine = some (seen (fun n => column (u.times n)) rows) := by
  induction rows with
  | nil => rfl
  | cons r rest ih =>
    rw [List.forall_mem_cons] at h hr
    rw [List.map_cons, List.mapM_cons, readLine_text hu h.1 hr.1, ih h.2 hr.2]
    rfl

/-- No legible row is blank. -/
lemma filter_rows (u : Text) {R : Rules} {rows : List Row} (h : ∀ r ∈ rows, r.line.IsLegible R) :
    ((rows.map (Row.text u)).filter fun l => !l.all isBlank) = rows.map (Row.text u) := by
  refine List.filter_eq_self.mpr fun t ht => ?_
  obtain ⟨r, hr, rfl⟩ := List.mem_map.mp ht
  obtain ⟨c, hc, hblank⟩ := (h r hr).head?_text
  rw [Bool.not_eq_true', List.all_eq_false]
  exact ⟨c, List.mem_append_right _ (List.mem_of_mem_head? hc), by rw [hblank]; exact nofun⟩

/-- The blocks of a text are read back from it, if its lines are legible and no suite is empty. -/
theorem read_text {u : Text} (hu : isIndentUnit u = true) {bs : List Block}
    (h : AreSound (Line.IsLegible keywordRules) bs) (hc : AreSound Line.IsUncounted bs) :
    read (text u (rowsOf 0 bs)) = some bs := by
  by_cases hne : bs = []
  · subst hne
    rfl
  have hlegible := AreSound.rows 0 bs h
  have hnothing : readLines [] = some [] := rfl
  have hlines := readLines_rowsOf (strictMono_column hu) 0 bs h hnothing nofun
  rw [List.append_nil, List.append_nil] at hlines
  rw [read, splitOnP_text hu (rowsOf_ne_nil 0 hne) hlegible rfl, filter_rows u hlegible,
    mapM_readLine hu hlegible (AreSound.rows 0 bs hc), Option.bind_eq_bind, Option.bind_some,
    hlines, Option.bind_eq_bind, Option.bind_some]
  exact mapM_itemsOf 0 bs fun _ => rfl

end Layout

end Offside
