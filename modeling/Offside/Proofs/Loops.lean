import Offside.Proofs.Logged

/-!
# The two renderings of a loop

The rule for loops asks whether the clauses of a loop make it a count and goes on in two ways.
Here the rule is taken apart: `isCount_eq_true` says what the clauses of a count are, and three
laws say what is rendered for a count, for any other loop, and for clauses that do not allow to
ask.  Whatever is proved about the renderer uses these laws in place of the rule.
-/

namespace Offside

namespace Render

/-! ## The clauses of a count -/

/-- A step by `++` is a node with that operator. -/
lemma isIncrement_eq_true {v : Value} (h : isIncrement v = true) :
    ∃ loc argument inFront, v = .node (.updateExpression loc (.text "++") argument inFront) := by
  unfold isIncrement at h
  split at h
  · next loc t argument inFront =>
    rw [decide_eq_true_eq] at h
    exact ⟨loc, argument, inFront, by rw [h]⟩
  · exact absurd h Bool.false_ne_true

/-- A binary test is a node with an operator between two operands. -/
lemma isBinary_eq_true {v : Value} (h : isBinary v = true) :
    ∃ loc op left right, v = .node (.binaryExpression loc op left right) := by
  unfold isBinary at h
  split at h
  · exact ⟨_, _, _, _, rfl⟩
  · exact absurd h Bool.false_ne_true

/-- An identifier is a node with a name. -/
lemma isIdentifier_eq_true {v : Value} (h : isIdentifier v = true) :
    ∃ loc name, v = .node (.identifier loc name) := by
  unfold isIdentifier at h
  split at h
  · exact ⟨_, _, rfl⟩
  · exact absurd h Bool.false_ne_true

/-- What declares a name with a value is a declarator with both. -/
lemma declaresName_eq_true {v : Value} (h : declaresName v = .ok true) :
    ∃ l₁ l₂ name first, v = .node (.variableDeclarator l₁ (.node (.identifier l₂ name)) first) ∧
      first.isNull = false := by
  unfold declaresName at h
  split at h
  · next l₁ id first =>
    obtain ⟨hid, hfirst⟩ := Bool.and_eq_true_iff.mp (Except.ok.inj h)
    obtain ⟨l₂, name, rfl⟩ := isIdentifier_eq_true hid
    exact ⟨l₁, l₂, name, first, rfl, by simpa using hfirst⟩
  · split at h <;> exact absurd h nofun
  · exact absurd h nofun

/-- A count declares one name with a value, tests by a binary operator and steps by `++`. -/
lemma isCount_eq_true {init test update : Value} (h : isCount init test update = .ok true) :
    ∃ (l₁ l₂ l₃ l₄ l₅ : Location) (kind name first op left last argument inFront : Value),
      init = .node (.variableDeclaration l₁ kind
        (.list [.node (.variableDeclarator l₂ (.node (.identifier l₃ name)) first)])) ∧
      first.isNull = false ∧
      test = .node (.binaryExpression l₄ op left last) ∧
      update = .node (.updateExpression l₅ (.text "++") argument inFront) := by
  unfold isCount at h
  split at h
  · next l₁ kind d =>
    cases hd : declaresName d with
    | error e => rw [hd] at h; exact absurd h nofun
    | ok b =>
      rw [hd] at h
      obtain ⟨hb, hu⟩ := Bool.and_eq_true_iff.mp (Except.ok.inj h)
      obtain ⟨hb, ht⟩ := Bool.and_eq_true_iff.mp hb
      obtain ⟨l₂, l₃, name, first, rfl, hfirst⟩ := declaresName_eq_true (hb ▸ hd)
      obtain ⟨l₄, op, left, last, rfl⟩ := isBinary_eq_true ht
      obtain ⟨l₅, argument, inFront, rfl⟩ := isIncrement_eq_true hu
      exact ⟨l₁, l₂, l₃, l₄, l₅, kind, name, first, op, left, last, argument, inFront, rfl,
        hfirst, rfl, rfl⟩
  · exact absurd h nofun
  · split at h <;> exact absurd h nofun
  · exact absurd h nofun
  · exact absurd h nofun

/-! ## What is rendered -/

/-- The header of a count over a name. -/
def countHeader (name low high : Text) : Text :=
  "for " ++ name ++ " in range(" ++ low ++ ", " ++ high ++ "):"

/-- The first clause of a loop as lines in front of its `while`. -/
def opening (strict : Bool) (m : Margin) (init : Value) : Logged (List Value) :=
  if init.isNull then pure []
  else (fun i => [if isDeclaration init then i else .text (m.indent i.plain)])
    <$> value strict m init

/-- The test of a loop; one without a test goes on for ever. -/
def condition (strict : Bool) (m : Margin) (test : Value) : Logged Value :=
  if test.isNull then pure (.text "True") else value strict m test

/-- The last clause of a loop as lines behind its body. -/
def closing (strict : Bool) (m : Margin) (update : Value) : Logged (List Value) :=
  if update.isNull then pure []
  else (fun u => [.text (m.next ++ u.plain)]) <$> step strict m update

section

variable (strict : Bool) (m : Margin) (loc : Location)

/-- A count is rendered by the first value, the last one and the body; the rest of its test and
its step are left out. -/
lemma node_count {l₁ l₂ l₃ l₄ : Location} {kind name first op left last update : Value}
    (body : Value)
    (h : isCount (.node (.variableDeclaration l₁ kind
        (.list [.node (.variableDeclarator l₂ (.node (.identifier l₃ name)) first)])))
      (.node (.binaryExpression l₄ op left last)) update = .ok true) :
    node strict m (.forStatement loc (.node (.variableDeclaration l₁ kind
        (.list [.node (.variableDeclarator l₂ (.node (.identifier l₃ name)) first)])))
      (.node (.binaryExpression l₄ op left last)) update body) = (do
        let low ← value strict m first
        let high ← value strict m last
        Logged.tell (.countingLoop name.plain loc)
        let b ← value strict m.enter body
        pure (.text
          (m.indent (countHeader name.plain low.plain high.plain) ++ "\n" ++ b.plain))) := by
  unfold node
  rw [h]
  simp only [Logged.ofExcept_mapError_ok, pure_bind, if_true]
  rfl

variable {init test update : Value} (body : Value)

/-- Any other loop is rendered clause by clause, in the order in which it runs. -/
lemma node_loop (h : isCount init test update = .ok false) :
    node strict m (.forStatement loc init test update body) = (do
      let first ← opening strict m init
      let t ← condition strict m test
      let b ← value strict m.enter body
      let last ← closing strict m update
      Value.text <$> joined "\n"
        (first ++ [.text (m.indent ("while " ++ t.plain ++ ":")), b] ++ last)) := by
  unfold node opening condition closing
  rw [h]
  simp only [Logged.ofExcept_mapError_ok, pure_bind, Bool.false_eq_true, if_false]
  split <;> split <;> split <;> simp

/-- A loop whose clauses do not allow to ask is not rendered. -/
lemma node_misuse {e : Misuse} (h : isCount init test update = .error e) :
    node strict m (.forStatement loc init test update body) = .fail (.misuse e) := by
  unfold node
  rw [h]
  simp only [Logged.ofExcept_mapError_error, Logged.fail_bind]

end

end Render

end Offside
