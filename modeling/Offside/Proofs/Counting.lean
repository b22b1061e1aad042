import Mathlib.Data.Int.Range
import Offside.Proofs.Outline
import Offside.Proofs.Rounding

/-!
# When a count counts

A loop that is rendered as a count goes through the integers from its first value up to, and
without, the right side of its test.  Its clauses are matched by their shape alone: any binary
operator may stand in the test, and neither its left side nor the step is compared with the
variable that the loop declares.

Here a loop is run by the meaning of its clauses.  `Semantics` leaves the values of expressions and
the effect of a body open and fixes what variables, steps and comparisons mean; numbers are doubles,
so that a step goes to the double nearest to the next integer.  `Visits` relates a state to the
values of the declared variable for which the body runs until the test fails.

For a loop that tests and steps its own variable, `count_visits_range_iff` says by which operators
the visited values are those of the count: always by `<`, by `!=` unless the first value lies
behind the bound, and by the other comparisons only where both sides visit nothing.  And there must
be no integer in between that is no double, where a step comes back to where it was.  For other
loops nothing of the sort holds.
-/

namespace Offside

open Syntax

/-! ## Comparisons -/

/-- The operators that compare integers. -/
inductive Comparison where
  | less
  | lessEqual
  | greater
  | greaterEqual
  | equal
  | notEqual
  | strictEqual
  | strictNotEqual
deriving DecidableEq

namespace Comparison

/-- How a comparison is spelled. -/
def spelling : Comparison → Text
  | less => "<"
  | lessEqual => "<="
  | greater => ">"
  | greaterEqual => ">="
  | equal => "=="
  | notEqual => "!="
  | strictEqual => "==="
  | strictNotEqual => "!=="

/-- How a comparison of integers comes out. -/
def holds : Comparison → Int → Int → Bool
  | less, a, b => a < b
  | lessEqual, a, b => a ≤ b
  | greater, a, b => a > b
  | greaterEqual, a, b => a ≥ b
  | equal, a, b | strictEqual, a, b => a = b
  | notEqual, a, b | strictNotEqual, a, b => a ≠ b

/-- A loop from one integer upwards that is tested by the comparison with another one visits the
integers from the first one up to, and without, the second one. -/
def Counts : Comparison → Int → Int → Prop
  | less, _, _ => True
  | notEqual, lo, hi | strictNotEqual, lo, hi => lo ≤ hi
  | lessEqual, lo, hi | equal, lo, hi | strictEqual, lo, hi => hi < lo
  | greater, lo, hi => lo = hi
  | greaterEqual, _, _ => False

/-- A comparison counts if it holds up to the bound and fails there. -/
lemma holds_iff_counts (c : Comparison) (lo hi : Int) :
    ((∀ v, lo ≤ v → v < hi → c.holds v hi = true) ∧ c.holds (max lo hi) hi = false) ↔
      c.Counts lo hi := by
  constructor
  · rintro ⟨hbelow, hend⟩
    have hfirst := hbelow lo le_rfl
    cases c <;> simp only [holds, Counts, decide_eq_true_eq, decide_eq_false_iff_not] at * <;> omega
  · intro hcounts
    refine ⟨fun v hlo hhi => ?_, ?_⟩
    · cases c <;> simp only [holds, Counts, decide_eq_true_eq] at * <;> omega
    · cases c <;> simp only [holds, Counts, decide_eq_false_iff_not] at * <;> omega

end Comparison

/-! ## The run of a loop -/

/-- What the clauses of a loop mean.  Numbers are doubles, to evaluate an expression changes
nothing, and a body ends; a step of something that is no variable has an effect of its own. -/
structure Semantics where
  State : Type
  lookup : State → Text → Option Double
  assign : State → Text → Double → State
  value : State → Expression → Option Double
  /-- How a test with an operator between two integers comes out. -/
  outcome : Text → Int → Int → Bool
  effect : State → Expression → Option State
  perform : State → Statement → State
  lookup_assign : ∀ s x v, lookup (assign s x v) x = some v
  value_identifier : ∀ s loc x, value s (.identifier loc x) = lookup s x
  outcome_spelling : ∀ c a b, outcome (Comparison.spelling c) a b = c.holds a b

namespace Semantics

variable (M : Semantics)

/-- The integer that an expression evaluates to, if it evaluates to one. -/
def integer? (s : M.State) (e : Expression) : Option Int := M.value s e >>= Double.toInt?

/-- How the test of a loop comes out, if it is about integers. -/
def test (s : M.State) : Expression → Option Bool
  | .binary _ operator left right => do
    return M.outcome operator (← M.integer? s left) (← M.integer? s right)
  | _ => none

/-- The state after the step of a loop.  A constant that the loop has declared cannot be stepped. -/
def step (kind : DeclarationKind) (name : Text) (s : M.State) : Expression → Option M.State
  | .step _ .increment (.identifier _ x) _ =>
    if kind = .constant ∧ x = name then none
    else (M.lookup s x).map fun v => M.assign s x (v.addInt 1)
  | e => M.effect s e

/-- The values of the declared variable for which the body of a loop runs, until the test
fails. -/
inductive Visits (kind : DeclarationKind) (name : Text) (test update : Expression)
    (body : Statement) : M.State → List Double → Prop
  | done {s : M.State} : M.test s test = some false → Visits kind name test update body s []
  | round {s s' : M.State} {v : Double} {vs : List Double} :
    M.test s test = some true → M.lookup s name = some v →
    M.step kind name (M.perform s body) update = some s' →
    Visits kind name test update body s' vs → Visits kind name test update body s (v :: vs)

/-- A loop that declares one variable visits values, from a state on. -/
def LoopVisits (s : M.State) : Statement → List Double → Prop
  | .loop _ (some (.declaration ⟨_, kind, ⟨_, .identifier _ name, some low⟩, []⟩)) (some test)
      (some update) body, vs =>
    ∃ v, M.value s low = some v ∧ M.Visits kind name test update body (M.assign s name v) vs
  | _, _ => False

/-- A loop visits integers. -/
def LoopCounts (s : M.State) (loop : Statement) (ns : List Int) : Prop :=
  ∃ vs, M.LoopVisits s loop vs ∧ vs.map Double.toInt? = ns.map some

/-- The body assigns neither the variable nor anything that the bound depends on, and the bound
does not depend on the variable. -/
structure Steady (name : Text) (bound : Expression) (body : Statement) : Prop where
  lookup_perform : ∀ s, M.lookup (M.perform s body) name = M.lookup s name
  value_perform : ∀ s, M.value (M.perform s body) bound = M.value s bound
  value_assign : ∀ s v, M.value (M.assign s name v) bound = M.value s bound

variable {M} {kind : DeclarationKind} {name : Text} {test update : Expression} {body : Statement}

/-- A loop visits one list of values only. -/
lemma Visits.unique {s : M.State} {vs vs' : List Double}
    (h : M.Visits kind name test update body s vs)
    (h' : M.Visits kind name test update body s vs') : vs = vs' := by
  induction h generalizing vs' with
  | done htest =>
    cases h' with
    | done => rfl
    | round htest' => exact absurd (htest.symm.trans htest') nofun
  | round htest hv hstep _ ih =>
    cases h' with
    | done htest' => exact absurd (htest.symm.trans htest') nofun
    | round _ hv' hstep' hrest' =>
      obtain rfl := Option.some.inj (hv.symm.trans hv')
      obtain rfl := Option.some.inj (hstep.symm.trans hstep')
      rw [ih hrest']

/-- A loop visits one list of integers only. -/
lemma LoopCounts.unique {s : M.State} {loop : Statement} {ns ns' : List Int}
    (h : M.LoopCounts s loop ns) (h' : M.LoopCounts s loop ns') : ns = ns' := by
  obtain ⟨vs, hvisits, hns⟩ := h
  obtain ⟨vs', hvisits', hns'⟩ := h'
  have hvs : vs = vs' := by
    unfold LoopVisits at hvisits hvisits'
    split at hvisits
    · obtain ⟨v, hv, hvisits⟩ := hvisits
      obtain ⟨v', hv', hvisits'⟩ := hvisits'
      obtain rfl := Option.some.inj (hv.symm.trans hv')
      exact hvisits.unique hvisits'
    · exact hvisits.elim
  rw [hvs, hns'] at hns
  exact (List.map_injective_iff.mpr (Option.some_injective Int) hns).symm

/-- The first value that a loop visits is that of the variable. -/
lemma Visits.toInt?_head {s : M.State} {v : Double} {vs : List Double} {n : Option Int}
    {ns : List (Option Int)} (h : M.Visits kind name test update body s vs)
    (hv : M.lookup s name = some v) (hvs : vs.map Double.toInt? = n :: ns) : v.toInt? = n := by
  cases h with
  | done => exact absurd hvs nofun
  | round _ hv' _ _ =>
    obtain rfl := Option.some.inj (hv.symm.trans hv')
    exact (List.cons.inj hvs).1

/-! ## Loops that test and step their own variable -/

section

variable {op : Text} {bound : Expression} {l₁ l₂ l₃ l₄ : Location} {inFront : Bool} {s : M.State}
  {v : Double} {n hi : Int}

/-- The test compares the value of the variable with that of the bound. -/
lemma test_own (hv : M.lookup s name = some v) (hn : v.toInt? = some n)
    (hb : M.integer? s bound = some hi) :
    M.test s (.binary l₁ op (.identifier l₂ name) bound) = some (M.outcome op n hi) := by
  have hinteger : M.integer? s (.identifier l₂ name) = some n := by
    rw [integer?, M.value_identifier, hv]
    exact hn
  rw [Semantics.test, hinteger, hb]
  rfl

/-- The step goes to the double nearest to the next integer. -/
lemma step_own (hkind : kind ≠ .constant) (hv : M.lookup s name = some v)
    (hn : v.toInt? = some n) :
    M.step kind name s (.step l₃ .increment (.identifier l₄ name) inFront) =
      some (M.assign s name (.ofInt (n + 1))) := by
  rw [Semantics.step, if_neg fun h => hkind h.1, hv, Option.map_some, Double.addInt_one hn]

/-- The loop is over or runs its body for the value of the variable and goes on with the next
one. -/
lemma visits_own_iff (hkind : kind ≠ .constant) (hsteady : M.Steady name bound body)
    (hv : M.lookup s name = some v) (hn : v.toInt? = some n) (hb : M.integer? s bound = some hi)
    {vs : List Double} :
    M.Visits kind name (.binary l₁ op (.identifier l₂ name) bound)
        (.step l₃ .increment (.identifier l₄ name) inFront) body s vs ↔
      (M.outcome op n hi = false ∧ vs = []) ∨
      (M.outcome op n hi = true ∧ ∃ ws, vs = v :: ws ∧
        M.Visits kind name (.binary l₁ op (.identifier l₂ name) bound)
          (.step l₃ .increment (.identifier l₄ name) inFront) body
          (M.assign (M.perform s body) name (.ofInt (n + 1))) ws) := by
  have htest : M.test s (.binary l₁ op (.identifier l₂ name) bound) = some (M.outcome op n hi) :=
    test_own hv hn hb
  have hstep : M.step kind name (M.perform s body)
      (.step l₃ .increment (.identifier l₄ name) inFront) =
      some (M.assign (M.perform s body) name (.ofInt (n + 1))) :=
    step_own hkind ((hsteady.lookup_perform s).trans hv) hn
  constructor
  · intro h
    cases h with
    | done hfalse => exact .inl ⟨Option.some.inj (htest.symm.trans hfalse), rfl⟩
    | round htrue hv' hstep' hrest =>
      obtain rfl := Option.some.inj (hv.symm.trans hv')
      obtain rfl := Option.some.inj (hstep.symm.trans hstep')
      exact .inr ⟨Option.some.inj (htest.symm.trans htrue), _, rfl, hrest⟩
  · rintro (⟨hfalse, rfl⟩ | ⟨htrue, ws, rfl, hrest⟩)
    · exact .done (by rw [htest, hfalse])
    · exact .round (by rw [htest, htrue]) hv hstep hrest

/-- What the body and the next value leave of the bound. -/
lemma Steady.integer?_next (hsteady : M.Steady name bound body) (s : M.State) (v : Double) :
    M.integer? (M.assign (M.perform s body) name v) bound = M.integer? s bound := by
  rw [integer?, integer?, hsteady.value_assign, hsteady.value_perform]

end

end Semantics

/-- From an integer below another one, the range goes on behind it. -/
lemma range_of_lt {lo hi : Int} (h : lo < hi) : Int.range lo hi = lo :: Int.range (lo + 1) hi := by
  have hlength : (hi - lo).toNat = (hi - (lo + 1)).toNat + 1 := by omega
  unfold Int.range
  rw [hlength, List.range_succ_eq_map, List.map_cons, List.map_map]
  refine congrArg₂ _ (Int.add_zero lo) (List.map_congr_left fun k _ => ?_)
  change lo + ((k + 1 : Nat) : Int) = lo + 1 + k
  omega

/-- From an integer that is not below another one, the range is empty. -/
lemma range_of_le {lo hi : Int} (h : hi ≤ lo) : Int.range lo hi = [] := by
  have hlength : (hi - lo).toNat = 0 := by omega
  unfold Int.range
  rw [hlength]
  rfl

namespace Semantics

variable {M : Semantics} {kind : DeclarationKind} {name op : Text} {bound : Expression}
  {body : Statement} {l₁ l₂ l₃ l₄ : Location} {inFront : Bool}

/-- A loop that tests and steps its own variable visits the range up to its bound exactly if the
test holds in the range and fails behind it, and the integers in between are doubles. -/
lemma visits_range_iff (hkind : kind ≠ .constant) (hsteady : M.Steady name bound body) {hi : Int}
    (hhi : Double.IsKept hi) (k : Nat) : ∀ {s : M.State} {v : Double} {lo : Int},
      (hi - lo).toNat = k → M.lookup s name = some v → v.toInt? = some lo →
      M.integer? s bound = some hi →
      ((∃ vs, M.Visits kind name (.binary l₁ op (.identifier l₂ name) bound)
          (.step l₃ .increment (.identifier l₄ name) inFront) body s vs ∧
          vs.map Double.toInt? = (Int.range lo hi).map some) ↔
        (∀ n, lo ≤ n → n < hi → M.outcome op n hi = true) ∧
          M.outcome op (max lo hi) hi = false ∧ ∀ n, lo < n → n < hi → Double.IsKept n) := by
  -- The induction is on the number of values that are left.
  induction k with
  | zero =>
    intro s v lo hk hv hlo hb
    have hle : hi ≤ lo := by omega
    rw [range_of_le hle, max_eq_left hle]
    constructor
    · rintro ⟨vs, hvisits, hnil⟩
      obtain ⟨hfalse, -⟩ | ⟨-, ws, rfl, -⟩ := (visits_own_iff hkind hsteady hv hlo hb).mp hvisits
      · exact ⟨fun n _ _ => by omega, hfalse, fun n _ _ => by omega⟩
      · exact absurd hnil nofun
    · rintro ⟨-, hfalse, -⟩
      exact ⟨[], (visits_own_iff hkind hsteady hv hlo hb).mpr (.inl ⟨hfalse, rfl⟩), rfl⟩
  | succ k ih =>
    intro s v lo hk hv hlo hb
    have hlt : lo < hi := by omega
    rw [range_of_lt hlt, max_eq_right hlt.le]
    -- The next value is the bound, which is exact, or lies below it.
    have hexact (h : lo + 1 < hi → Double.IsKept (lo + 1)) : Double.IsKept (lo + 1) := by
      rcases (Int.add_one_le_of_lt hlt).eq_or_lt with heq | hless
      · rw [heq]
        exact hhi
      · exact h hless
    -- If the next value is exact, the rest is the loop from there on.
    have hnext (hkept : Double.IsKept (lo + 1)) :=
      @ih (M.assign (M.perform s body) name (.ofInt (lo + 1))) (.ofInt (lo + 1)) (lo + 1) (by omega)
        (M.lookup_assign _ _ _) hkept ((hsteady.integer?_next s _).trans hb)
    rw [max_eq_right (by omega : lo + 1 ≤ hi)] at hnext
    constructor
    · rintro ⟨vs, hvisits, hrange⟩
      obtain ⟨-, rfl⟩ | ⟨htrue, ws, rfl, hrest⟩ :=
        (visits_own_iff hkind hsteady hv hlo hb).mp hvisits
      · exact absurd hrange nofun
      · have hrange : ws.map Double.toInt? = (Int.range (lo + 1) hi).map some :=
          (List.cons.inj hrange).2
        have hkept : Double.IsKept (lo + 1) := by
          refine hexact fun hless => ?_
          rw [range_of_lt hless] at hrange
          exact hrest.toInt?_head (M.lookup_assign _ _ _) hrange
        obtain ⟨hbelow, hend, hbetween⟩ := (hnext hkept).mp ⟨ws, hrest, hrange⟩
        refine ⟨fun n hle hless => ?_, hend, fun n hless hmore => ?_⟩
        · rcases hle.eq_or_lt with rfl | hle
          · exact htrue
          · exact hbelow n hle hless
        · rcases (Int.add_one_le_of_lt hless).eq_or_lt with rfl | hless
          · exact hkept
          · exact hbetween n hless hmore
    · rintro ⟨hbelow, hend, hbetween⟩
      have hkept : Double.IsKept (lo + 1) := hexact fun hless => hbetween _ (by omega) hless
      obtain ⟨ws, hrest, hrange⟩ := (hnext hkept).mpr
        ⟨fun n hle => hbelow n (by omega), hend, fun n hless => hbetween n (by omega)⟩
      refine ⟨v :: ws, (visits_own_iff hkind hsteady hv hlo hb).mpr (.inr
        ⟨hbelow lo le_rfl hlt, ws, rfl, hrest⟩), ?_⟩
      rw [List.map_cons, List.map_cons, hlo, hrange]

/-- So does the loop with its first clause. -/
lemma loopCounts_range_iff {loc l₁ l₂ l₃ l₄ l₅ l₆ l₇ : Location} {low : Expression} {s : M.State}
    {lo hi : Int} (hkind : kind ≠ .constant) (hlow : M.integer? s low = some lo)
    (hbound : M.integer? s bound = some hi) (hhi : Double.IsKept hi)
    (hsteady : M.Steady name bound body) :
    M.LoopCounts s (.loop loc
      (some (.declaration ⟨l₁, kind, ⟨l₂, .identifier l₃ name, some low⟩, []⟩))
      (some (.binary l₄ op (.identifier l₅ name) bound))
      (some (.step l₆ .increment (.identifier l₇ name) inFront)) body) (Int.range lo hi) ↔
      (∀ n, lo ≤ n → n < hi → M.outcome op n hi = true) ∧
        M.outcome op (max lo hi) hi = false ∧ ∀ n, lo < n → n < hi → Double.IsKept n := by
  obtain ⟨v, hv, hvlo⟩ := Option.bind_eq_some_iff.mp hlow
  have hassigned : M.integer? (M.assign s name v) bound = some hi := by
    rw [integer?, hsteady.value_assign]
    exact hbound
  rw [← visits_range_iff hkind hsteady hhi _ rfl (M.lookup_assign s name v) hvlo hassigned]
  refine exists_congr fun vs => and_congr_left' ⟨?_, fun h => ⟨v, hv, h⟩⟩
  rintro ⟨w, hw, h⟩
  obtain rfl := Option.some.inj (hv.symm.trans hw)
  exact h

end Semantics

/-- A loop that declares a variable, tests it on the left side and steps it is rendered behind the
header of a count.  The values for which its body runs are those of the count exactly if its test
holds in the range and fails behind it, and the range, unless it is empty, does not leave the
integers of at most 53 bits but for the first ones with more: of the comparisons, exactly those that
count.  The body and the variable leave the bound alone, and the body leaves the variable alone. -/
theorem count_visits_range_iff (M : Semantics) (s : M.State) {loc l₁ l₂ l₃ l₄ l₅ l₆ l₇ : Location}
    {kind : DeclarationKind} {name op : Text} {low bound : Expression} {inFront : Bool}
    {body : Statement} {lo hi : Int} (hkind : kind ≠ .constant)
    (hlow : M.integer? s low = some lo) (hbound : M.integer? s bound = some hi)
    (hlo : Double.IsKept lo) (hhi : Double.IsKept hi) (hsteady : M.Steady name bound body) :
    let loop : Statement := .loop loc
      (some (.declaration ⟨l₁, kind, ⟨l₂, .identifier l₃ name, some low⟩, []⟩))
      (some (.binary l₄ op (.identifier l₅ name) bound))
      (some (.step l₆ .increment (.identifier l₇ name) inFront)) body
    loop.toNode.isCount = .ok true ∧
    (∀ strict m v, (loop.toNode.render strict m).result = .ok v → ∃ suite,
      v = .text (m.indent (Render.countHeader name low.text bound.text) ++ "\n" ++ suite)) ∧
    (M.LoopCounts s loop (Int.range lo hi) ↔
      (∀ n, lo ≤ n → n < hi → M.outcome op n hi = true) ∧ M.outcome op (max lo hi) hi = false ∧
        (lo < hi → -2 ^ 53 ≤ lo ∧ hi ≤ 2 ^ 53)) ∧
    ∀ c : Comparison, op = c.spelling →
      (M.LoopCounts s loop (Int.range lo hi) ↔
        c.Counts lo hi ∧ (lo < hi → -2 ^ 53 ≤ lo ∧ hi ≤ 2 ^ 53)) := by
  intro loop
  have hheader : ∀ strict m v, (loop.toNode.render strict m).result = .ok v → ∃ suite,
      v = .text (m.indent (Render.countHeader name low.text bound.text) ++ "\n" ++ suite) := by
    intro strict m v hv
    have hrender : ((Passage.statement loop).toNode.render strict m).result = .ok v := hv
    have houtline : (Passage.statement loop).outline =
        [.headed (.count name low.text bound.text) body.outline] := rfl
    obtain ⟨rfl, -⟩ := Passage.render_eq_ok hrender
    rw [houtline, written_headed m _ body.outline_ne_nil]
    exact ⟨_, rfl⟩
  have hbetween : (∀ n, lo < n → n < hi → Double.IsKept n) ↔
      (lo < hi → -2 ^ 53 ≤ lo ∧ hi ≤ 2 ^ 53) := by
    by_cases hlt : lo < hi
    · rw [Double.forall_isKept_iff hlo hhi hlt]
      exact ⟨fun h _ => h, fun h => h hlt⟩
    · exact ⟨fun _ h => absurd h hlt, fun _ n _ _ => by omega⟩
  have hcounts : M.LoopCounts s loop (Int.range lo hi) ↔
      (∀ n, lo ≤ n → n < hi → M.outcome op n hi = true) ∧ M.outcome op (max lo hi) hi = false ∧
        (lo < hi → -2 ^ 53 ≤ lo ∧ hi ≤ 2 ^ 53) := by
    rw [← hbetween]
    exact Semantics.loopCounts_range_iff hkind hlow hbound hhi hsteady
  refine ⟨rfl, hheader, hcounts, ?_⟩
  rintro c rfl
  rw [hcounts, ← c.holds_iff_counts, and_assoc]
  simp only [M.outcome_spelling]

/-! ## Loops over stores -/

/-- The comparisons, to look one up by its spelling. -/
def Comparison.all : List Comparison :=
  [.less, .lessEqual, .greater, .greaterEqual, .equal, .notEqual, .strictEqual, .strictNotEqual]

/-- The meaning of clauses over stores of numbers, for bodies that assign nothing.  Only variables
and integers have a value. -/
def stores : Semantics where
  State := Text → Double
  lookup s x := some (s x)
  assign s x v := fun y => if y = x then v else s y
  value s
    | .identifier _ x => some (s x)
    | .literal _ _ (.int n) => some (.ofInt n)
    | _ => none
  outcome op a b := (Comparison.all.find? fun c => c.spelling = op).any fun c => c.holds a b
  effect _ _ := none
  perform s _ := s
  lookup_assign s x v := congrArg some (if_pos rfl)
  value_identifier _ _ _ := rfl
  outcome_spelling c a b := by cases c <;> rfl

/-- A store with an integer in all of its variables. -/
def filled (n : Int) : stores.State := fun _ => .ofInt n

/-- The literal of an integer. -/
def numeral (n : Int) : Expression := .literal .unknown (Text.ofInt n) (.int n)

/-- A loop over `i` with an empty body. -/
def emptyLoop (kind : DeclarationKind) (op tested stepped : Text) (low bound : Expression) :
    Statement :=
  .loop .unknown
    (some (.declaration ⟨.unknown, kind, ⟨.unknown, .identifier .unknown "i", some low⟩, []⟩))
    (some (.binary .unknown op (.identifier .unknown tested) bound))
    (some (.step .unknown .increment (.identifier .unknown stepped) false)) (.block .unknown [])

/-- An empty body leaves everything alone. -/
lemma steady_stores (name : Text) (n : Int) (body : Statement) :
    stores.Steady name (numeral n) body :=
  ⟨fun _ => rfl, fun _ => rfl, fun _ _ => rfl⟩

/-- A literal evaluates to its integer if this is a double. -/
lemma integer?_numeral {n : Int} (h : Double.IsKept n) (s : stores.State) :
    stores.integer? s (numeral n) = some n := h

/-- A variable of a filled store evaluates to the integer. -/
lemma integer?_filled {n : Int} (h : Double.IsKept n) (loc : Location) (x : Text) :
    stores.integer? (filled n) (.identifier loc x) = some n := h

/-- A loop up to two by `<` visits zero and one. -/
theorem count_visits_range_less :
    let loop := emptyLoop .lexical "<" "i" "i" (numeral 0) (numeral 2)
    let t : Text := "for i in range(0, 2):\n  pass"
    DeclarationKind.lexical ≠ .constant ∧
    stores.integer? (filled 0) (numeral 0) = some 0 ∧
    stores.integer? (filled 0) (numeral 2) = some 2 ∧ Double.IsKept 0 ∧ Double.IsKept 2 ∧
    stores.Steady "i" (numeral 2) (.block .unknown []) ∧
    loop.toNode.isCount = .ok true ∧
    (loop.toNode.render true ⟨"  ", 0⟩).result = .ok (.text t) ∧
    stores.LoopCounts (filled 0) loop [0, 1] := by
  intro loop t
  have hkind : DeclarationKind.lexical ≠ .constant := by decide
  have hzero : Double.IsKept 0 := Double.isKept_of_natAbs_le (by decide)
  have htwo : Double.IsKept 2 := Double.isKept_of_natAbs_le (by decide)
  have hlow : stores.integer? (filled 0) (numeral 0) = some 0 := integer?_numeral hzero _
  have hbound : stores.integer? (filled 0) (numeral 2) = some 2 := integer?_numeral htwo _
  have hsteady := steady_stores "i" 2 (.block .unknown [])
  obtain ⟨hcount, -, -, hcounts⟩ :=
    count_visits_range_iff stores (filled 0) hkind hlow hbound hzero htwo hsteady
  exact ⟨hkind, hlow, hbound, hzero, htwo, hsteady, hcount, rfl,
    (hcounts .less rfl).mpr ⟨trivial, fun _ => by decide⟩⟩

/-- A loop up to two by `<=` visits two as well. -/
lemma loopCounts_upToTwo :
    stores.LoopCounts (filled 0) (emptyLoop .lexical "<=" "i" "i" (numeral 0) (numeral 2))
      [0, 1, 2] := by
  have hkept (n : Int) (hn : n.natAbs ≤ 2 ^ 53) : (Double.ofInt n).toInt? = some n :=
    Double.isKept_of_natAbs_le hn
  have hround {s : stores.State} (n : Int) (hn : n.natAbs ≤ 2 ^ 53) (hs : s "i" = .ofInt n) :=
    @Semantics.visits_own_iff stores .lexical "i" (.block .unknown []) "<=" (numeral 2)
      .unknown .unknown .unknown .unknown false s _ n 2 (by decide) (steady_stores "i" 2 _) rfl
      ((congrArg Double.toInt? hs).trans (hkept n hn)) (integer?_numeral (hkept 2 (by decide)) s)
  refine ⟨[.ofInt 0, .ofInt 1, .ofInt 2], ⟨.ofInt 0, rfl, ?_⟩, ?_⟩
  · refine (hround 0 (by decide) rfl).mpr (.inr ⟨rfl, _, rfl, ?_⟩)
    refine (hround 1 (by decide) rfl).mpr (.inr ⟨rfl, _, rfl, ?_⟩)
    refine (hround 2 (by decide) rfl).mpr (.inr ⟨rfl, _, rfl, ?_⟩)
    exact (hround 3 (by decide) rfl).mpr (.inl ⟨rfl, rfl⟩)
  · simp only [List.map_cons, List.map_nil, hkept 0 (by decide), hkept 1 (by decide),
      hkept 2 (by decide)]

/-- Loops that are rendered as counts need not visit the range: not by `<=`, not if the test is about
another variable, not if another variable is stepped, not if the variable is a constant, not if the
bound is the variable itself, and not from the first number with more than 53 bits on. -/
theorem counts_not_visiting_range :
    (let loop := emptyLoop .lexical "<=" "i" "i" (numeral 0) (numeral 2)
     loop.toNode.isCount = .ok true ∧
     loop.outline = [.headed (.count "i" "0" "2") [.pass]] ∧
     stores.integer? (filled 0) (numeral 0) = some 0 ∧
     stores.integer? (filled 0) (numeral 2) = some 2 ∧
     stores.Steady "i" (numeral 2) (.block .unknown []) ∧
     stores.LoopCounts (filled 0) loop [0, 1, 2] ∧
     ¬ stores.LoopCounts (filled 0) loop (Int.range 0 2)) ∧
    (let loop := emptyLoop .lexical "<" "n" "i" (numeral 0) (numeral 2)
     loop.toNode.isCount = .ok true ∧ ¬ stores.LoopCounts (filled 5) loop (Int.range 0 2)) ∧
    (let loop := emptyLoop .lexical "<" "i" "n" (numeral 0) (numeral 2)
     loop.toNode.isCount = .ok true ∧ ¬ stores.LoopCounts (filled 0) loop (Int.range 0 2)) ∧
    (let loop := emptyLoop .constant "<" "i" "i" (numeral 0) (numeral 2)
     loop.toNode.isCount = .ok true ∧ ¬ stores.LoopCounts (filled 0) loop (Int.range 0 2)) ∧
    (let loop := emptyLoop .var "<" "i" "i" (numeral 0) (.identifier .unknown "i")
     loop.toNode.isCount = .ok true ∧
     stores.integer? (filled 2) (.identifier .unknown "i") = some 2 ∧
     ¬ stores.LoopCounts (filled 2) loop (Int.range 0 2)) ∧
    (let loop := emptyLoop .lexical "<" "i" "i" (numeral (2 ^ 53)) (numeral (2 ^ 53 + 2))
     loop.toNode.isCount = .ok true ∧
     stores.integer? (filled 0) (numeral (2 ^ 53)) = some (2 ^ 53) ∧
     stores.integer? (filled 0) (numeral (2 ^ 53 + 2)) = some (2 ^ 53 + 2) ∧
     stores.Steady "i" (numeral (2 ^ 53 + 2)) (.block .unknown []) ∧
     ¬ stores.LoopCounts (filled 0) loop (Int.range (2 ^ 53) (2 ^ 53 + 2))) := by
  have hlexical : DeclarationKind.lexical ≠ .constant := by decide
  have hkept (n : Int) (hn : n.natAbs ≤ 2 ^ 53) : Double.IsKept n := Double.isKept_of_natAbs_le hn
  have hzero := hkept 0 (by decide)
  have htwo := hkept 2 (by decide)
  have hbound {s : stores.State} := integer?_numeral htwo s
  have hgreat : Double.IsKept (2 ^ 53 + 2) := by
    have htoInt : (Double.ofInt (2 ^ 53 + 2)).toInt? = some (2 ^ 53 + 2) := by decide +kernel
    exact htoInt
  have hsteady := steady_stores "i" 2 (.block .unknown [])
  have hsteadyGreat := steady_stores "i" (2 ^ 53 + 2) (.block .unknown [])
  refine ⟨⟨rfl, rfl, integer?_numeral hzero _, hbound, hsteady, loopCounts_upToTwo, ?_⟩,
    ⟨rfl, ?_⟩, ⟨rfl, ?_⟩, ⟨rfl, ?_⟩, ⟨rfl, integer?_filled htwo _ _, ?_⟩,
    ⟨rfl, integer?_numeral (hkept _ (by decide)) _, integer?_numeral hgreat _, hsteadyGreat, ?_⟩⟩
  · exact fun h => absurd (loopCounts_upToTwo.unique h) (by decide)
  · rintro ⟨vs, ⟨v, ⟨⟩, hvisits⟩, hrange⟩
    cases hvisits with
    | done => exact absurd hrange nofun
    | round htest _ _ _ => exact absurd htest (by decide +kernel)
  · rintro ⟨vs, ⟨v, ⟨⟩, hvisits⟩, hrange⟩
    cases hvisits with
    | done => exact absurd hrange nofun
    | round _ _ hstep hrest =>
      obtain rfl := Option.some.inj hstep
      have hfirst : (Double.ofInt 0).toInt? = some 1 :=
        hrest.toInt?_head rfl (List.cons.inj hrange).2
      exact absurd (hzero.symm.trans hfirst) (by decide)
  · rintro ⟨vs, ⟨v, ⟨⟩, hvisits⟩, hrange⟩
    cases hvisits with
    | done => exact absurd hrange nofun
    | round _ _ hstep _ => exact absurd hstep nofun
  · rintro ⟨vs, ⟨v, ⟨⟩, hvisits⟩, hrange⟩
    cases hvisits with
    | done => exact absurd hrange nofun
    | round htest _ _ _ => exact absurd htest (by decide +kernel)
  · intro h
    obtain ⟨-, -, hbetween⟩ := (Semantics.loopCounts_range_iff hlexical
      (integer?_numeral (hkept _ (by decide)) _) (integer?_numeral hgreat _) hgreat
      hsteadyGreat).mp h
    exact absurd ((hbetween (2 ^ 53 + 1) (by decide) (by decide)).two_dvd (by decide)) (by decide)

end Offside
