import Offside.Proofs.Legible
import Offside.Proofs.Outline

/-!
# Legible outlines

If rendering comes to legible names, literals and operators only, then every line that it writes
is legible.  The proof follows the tree: an expression begins and ends with one of its names or
literals or with a bracket, and everything in between stays on its line.

The same induction gives the other facts about an outline that a reader of the text depends on: no
suite is empty, and a tree without counts has no header of a count.
-/

namespace Offside

namespace Layout

/-! ## Pieces -/

section

variable {R : Rules}

/-- Two pieces with something between them that ends a word. -/
lemma Legible.between {l mid r : Text} (hl : Legible R l) (hmid : Unbroken R mid)
    (hhead : ∃ c ∈ mid.head?, isWordPart c = false) (hr : Unbroken R r) (hclose : Closes r) :
    Legible R (l ++ mid ++ r) := by
  obtain ⟨c, hc, hword⟩ := hhead
  refine ⟨(hl.unbroken.append hmid).append hr, ?_, hclose.append _⟩
  rw [List.append_assoc]
  refine hl.opens.append fun x hx => ?_
  rw [List.head?_append, Option.mem_def.mp hc] at hx
  rwa [← Option.some.inj hx]

/-- A piece between two fixed ones. -/
lemma Unbroken.around {t : Text} (first last : Text)
    (h : ∀ c ∈ first ++ last, c ≠ '\n' ∧ c ≠ '\r') (ht : Unbroken R t) :
    Unbroken R (first ++ t ++ last) := by
  rw [List.forall_mem_append] at h
  exact ((Unbroken.of_ne h.1).append ht).append (.of_ne h.2)

/-- Something in brackets. -/
lemma Legible.bracketed {t : Text} (first last : Text) (ht : Unbroken R t)
    (hfirst : ∃ c ∈ first.head?, isBlank c = false ∧ c.isAsciiLetter = false)
    (hstill : ∀ c ∈ first ++ last, c ≠ '\n' ∧ c ≠ '\r') (hlast : Closes last) :
    Legible R (first ++ t ++ last) := by
  obtain ⟨c, hc, hblank, hletter⟩ := hfirst
  refine ⟨.around first last hstill ht, ?_, hlast.append _⟩
  refine .of_head ?_ hblank hletter
  rw [List.append_assoc, List.head?_append, Option.mem_def.mp hc]
  rfl

end

/-! ## Lines -/

/-- The pieces of a header can stand on a line. -/
def Head.IsLegible (R : Rules) : Head → Prop
  | conditional test => Legible R test
  | loop test => ∀ t ∈ test, Legible R t
  | count name low high => Legible R name ∧ Legible R low ∧ Legible R high
  | classOf name => Legible R name

/-- The pieces of a line can stand on a line. -/
def Line.IsLegible (R : Rules) : Line → Prop
  | simple t => Legible R t
  | head h => h.IsLegible R
  | pass | otherwise => True

/-- The line is not the header of a count. -/
def Line.IsUncounted : Line → Prop
  | head (.count ..) => False
  | _ => True

section

variable {R : Rules}

/-- A legible header stays on its line. -/
lemma Head.IsLegible.unbroken {h : Head} (hh : h.IsLegible R) : Unbroken R h.text := by
  cases h with
  | conditional test => exact .around "if " ":" (by decide) (Legible.unbroken hh)
  | loop test =>
    cases test with
    | none => exact .of_ne (by decide)
    | some test => exact .around "while " ":" (by decide) (hh test rfl).unbroken
  | count name low high =>
    have hlow := (Unbroken.around "for " " in range(" (by decide) hh.1.unbroken).append
      hh.2.1.unbroken
    exact ((hlow.append (.of_ne (by decide))).append hh.2.2.unbroken).append (.of_ne (by decide))
  | classOf name => exact .around "class " ":" (by decide) (Legible.unbroken hh)

/-- A legible line stays on its line. -/
lemma Line.IsLegible.unbroken {l : Line} (h : l.IsLegible R) : Unbroken R l.text := by
  cases l with
  | simple t => exact Legible.unbroken h
  | head h' => exact Head.IsLegible.unbroken h
  | pass => exact .of_ne (by decide)
  | otherwise => exact .of_ne (by decide)

/-- A header begins with a letter. -/
lemma Head.head?_text (h : Head) : ∃ c ∈ h.text.head?, isBlank c = false := by
  cases h with
  | loop test => cases test <;> exact ⟨_, rfl, by decide⟩
  | _ => exact ⟨_, rfl, by decide⟩

/-- A legible line begins with something that does not indent it. -/
lemma Line.IsLegible.head?_text {l : Line} (h : l.IsLegible R) :
    ∃ c ∈ l.text.head?, isBlank c = false := by
  cases l with
  | simple t => exact (Legible.opens h).head
  | head h' => exact h'.head?_text
  | pass => exact ⟨_, rfl, by decide⟩
  | otherwise => exact ⟨_, rfl, by decide⟩

/-- A header ends with a colon. -/
lemma Head.getLast?_text (h : Head) : h.text.getLast? = some ':' := by
  have hcolon (t : Text) : (t ++ Text.ofString ":").getLast? = some ':' :=
    List.getLast?_append_of_ne_nil t (List.cons_ne_nil _ _)
  cases h with
  | loop test =>
    cases test with
    | none => rfl
    | some test => exact hcolon _
  | count name low high => exact List.getLast?_append_of_ne_nil _ (List.cons_ne_nil _ _)
  | _ => exact hcolon _

/-- Exactly the headers among legible lines end with a colon. -/
lemma Line.IsLegible.getLast?_text {l : Line} (h : l.IsLegible R) :
    l.text.getLast? = some ':' ↔ l.isHeader = true := by
  cases l with
  | simple t =>
    obtain ⟨c, hc, hcolon⟩ := Legible.closes h
    refine ⟨fun hlast => absurd ?_ hcolon, nofun⟩
    exact Option.some.inj (hc.symm.trans hlast)
  | head h' => exact iff_of_true h'.getLast?_text rfl
  | pass => exact iff_of_false (by decide) Bool.false_ne_true
  | otherwise => exact iff_of_true rfl rfl

end

end Layout

namespace Syntax

open Layout

variable {R : Rules}

/-- What rendering comes to can be read: a name is a word that is not special, a literal can stand
on a line, and an operator stays on its line. -/
def Encounter.IsLegible (R : Rules) : Encounter → Prop
  | name t => t ≠ [] ∧ (∀ c ∈ t, isWordPart c = true) ∧ t ∉ R.special
  | literal _ raw => Legible R raw
  | operator _ _ t => Unbroken R t
  | step _ => False
  | count _ _ => True

/-- All that rendering comes to can be read. -/
def AreLegible (R : Rules) (xs : List Encounter) : Prop := ∀ x ∈ xs, x.IsLegible R

/-! ## Expressions -/

/-- A name can stand on a line. -/
lemma legible_name {t : Text} (h : (Encounter.name t).IsLegible R) : Legible R t :=
  .of_word h.1 h.2.1 h.2.2

/-- An operand can stand on a line. -/
lemma legible_enclosed {t : Text} (inner : Bool) (h : Legible R t) :
    Legible R (enclosed inner t) := by
  cases inner with
  | false => exact h
  | true =>
    exact .bracketed "(" ")" h.unbroken ⟨_, rfl, by decide⟩ (by decide) ⟨_, rfl, by decide⟩

/-- An operator with blanks around it stays on its line. -/
lemma unbroken_operator {t : Text} (h : Unbroken R t) : Unbroken R (" " ++ t ++ " ") :=
  ((Unbroken.of_ne (by decide)).append h).append (.of_ne (by decide))

/-- Two pieces with an operator between them. -/
lemma legible_operator {l op r : Text} (hl : Legible R l) (hop : Unbroken R op)
    (hr : Legible R r) : Legible R (l ++ " " ++ op ++ " " ++ r) := by
  have h := hl.between (unbroken_operator hop) ⟨_, rfl, by decide⟩ hr.unbroken hr.closes
  simpa only [List.append_assoc] using h

/-- Two pieces with a dot between them. -/
lemma legible_dot {l r : Text} (hl : Legible R l) (hr : Legible R r) : Legible R (l ++ "." ++ r) :=
  hl.between (.of_ne (by decide)) ⟨_, rfl, by decide⟩ hr.unbroken hr.closes

/-- A piece with something in parentheses behind it. -/
lemma legible_call {f args : Text} (hf : Legible R f) (ha : Unbroken R args) :
    Legible R (f ++ "(" ++ args ++ ")") := by
  have hclose : Closes ")" := ⟨_, rfl, by decide⟩
  have h : Legible R (f ++ "(" ++ (args ++ ")")) :=
    hf.between (.of_ne (by decide)) ⟨_, rfl, by decide⟩ (ha.append (.of_ne (by decide)))
      (hclose.append args)
  rwa [← List.append_assoc] at h

/-- Pieces in a list with blanks inside its brackets. -/
lemma legible_list {ts : List Text} (h : ∀ t ∈ ts, Unbroken R t) :
    Legible R ("[ " ++ Text.join ", " ts ++ " ]") :=
  .bracketed "[ " " ]" (.join (.of_ne (by decide)) h) ⟨_, rfl, by decide⟩ (by decide)
    ⟨_, rfl, by decide⟩

mutual

/-- An expression can stand on a line if what rendering comes to in it can be read. -/
lemma Expression.legible : (e : Expression) → AreLegible R e.encounters → Legible R e.text
  | .identifier _ name, h => legible_name (h _ List.mem_cons_self)
  | .literal _ raw _, h => h _ List.mem_cons_self
  | .array _ elements, h => legible_list (unbroken_elements elements h)
  | .binary _ operator left right, h => by
    obtain ⟨hlr, hop⟩ := List.forall_mem_append.mp h
    obtain ⟨hl, hr⟩ := List.forall_mem_append.mp hlr
    exact legible_operator (legible_enclosed _ (left.legible hl)) (hop _ List.mem_cons_self)
      (legible_enclosed _ (right.legible hr))
  | .member _ object property _, h => by
    obtain ⟨ho, hp⟩ := List.forall_mem_append.mp h
    exact legible_dot (object.legible ho) (property.legible hp)
  | .call _ callee arguments, h => by
    obtain ⟨ha, hc⟩ := List.forall_mem_append.mp h
    exact legible_call (callee.legible hc)
      (.join (.of_ne (by decide)) (unbroken_arguments arguments ha))
  | .assignment _ operator target value, h => by
    obtain ⟨hop, htv⟩ := List.forall_mem_cons.mp h
    obtain ⟨ht, hv⟩ := List.forall_mem_append.mp htv
    exact legible_operator (target.legible ht) hop (value.legible hv)
  | .step _ _ _ _, h => absurd (h _ List.mem_cons_self) id

/-- A pattern can stand on a line if what rendering comes to in it can be read. -/
lemma Pattern.legible : (p : Pattern) → AreLegible R p.encounters → Legible R p.text
  | .identifier _ name, h => legible_name (h _ List.mem_cons_self)
  | .array _ elements, h => legible_list (unbroken_targets elements h)
  | .member _ object property _, h => by
    obtain ⟨ho, hp⟩ := List.forall_mem_append.mp h
    exact legible_dot (object.legible ho) (property.legible hp)

/-- The elements of an array stay on their line. -/
lemma unbroken_elements : (es : List (Option Expression)) → AreLegible R (elementEncounters es) →
    ∀ t ∈ elementTexts es, Unbroken R t
  | [], _ => nofun
  | none :: rest, h =>
    List.forall_mem_cons.mpr ⟨.of_ne (by decide), unbroken_elements rest h⟩
  | some e :: rest, h => by
    obtain ⟨he, hrest⟩ := List.forall_mem_append.mp h
    exact List.forall_mem_cons.mpr ⟨(e.legible he).unbroken, unbroken_elements rest hrest⟩

/-- The elements of an array pattern stay on their line. -/
lemma unbroken_targets : (ps : List (Option Pattern)) → AreLegible R (targetEncounters ps) →
    ∀ t ∈ targetTexts ps, Unbroken R t
  | [], _ => nofun
  | none :: rest, h =>
    List.forall_mem_cons.mpr ⟨.of_ne (by decide), unbroken_targets rest h⟩
  | some p :: rest, h => by
    obtain ⟨hp, hrest⟩ := List.forall_mem_append.mp h
    exact List.forall_mem_cons.mpr ⟨(p.legible hp).unbroken, unbroken_targets rest hrest⟩

/-- The arguments of a call stay on their line. -/
lemma unbroken_arguments : (es : List Expression) → AreLegible R (argumentEncounters es) →
    ∀ t ∈ argumentTexts es, Unbroken R t
  | [], _ => nofun
  | e :: rest, h => by
    obtain ⟨he, hrest⟩ := List.forall_mem_append.mp h
    exact List.forall_mem_cons.mpr ⟨(e.legible he).unbroken, unbroken_arguments rest hrest⟩

end

/-- An expression can stand on a line, a step included. -/
lemma Expression.legible_step {e : Expression} (h : AreLegible R e.stepEncounters) :
    Legible R e.text := by
  cases e with
  | step _ operator argument _ =>
    have hop : Unbroken R (" " ++ Render.stepOperator (.text operator.spelling)) := by
      cases operator <;> exact .of_ne (by decide)
    have hstep : Legible R
        (argument.text ++ (" " ++ Render.stepOperator (.text operator.spelling)) ++ " 1") :=
      (argument.legible h).between hop ⟨_, rfl, by decide⟩ (.of_ne (by decide))
        ⟨_, rfl, by decide⟩
    rw [text]
    simpa only [List.append_assoc] using hstep
  | _ => exact legible _ h

/-! ## Statements -/

/-- A suite is sound if its statements are; one that does nothing has a line for that. -/
lemma areSound_filled {P : Line → Prop} (hpass : P .pass) {bs : List Block} (h : AreSound P bs) :
    AreSound P (filled bs) := by
  cases bs with
  | nil => exact ⟨hpass, trivial⟩
  | cons => exact h

/-- The lines of the first clause of a loop are sound if there is none or its lines are. -/
lemma areSound_opening {P : Line → Prop} {init : Option Opening}
    (h : ∀ o ∈ init, AreSound P o.outline) :
    AreSound P (init.toList.flatMap Opening.outline) := by
  cases init with
  | none => trivial
  | some o =>
    rw [Option.toList, List.flatMap_singleton]
    exact h o rfl

/-- The line of the last clause of a loop is sound if there is none or what is written for it is. -/
lemma areSound_closing {P : Line → Prop} {update : Option Expression}
    (h : ∀ e ∈ update, P (.simple e.text)) :
    AreSound P (update.toList.map fun e => .simple e.text) :=
  areSound_map_simple fun e he => h e (Option.mem_toList.mp he)

/-- A declarator can stand on a line. -/
lemma Declarator.legible {d : Declarator} (h : AreLegible R d.encounters) : Legible R d.text := by
  obtain ⟨hvalue, htarget⟩ := List.forall_mem_append.mp h
  have hright : Unbroken R ((d.value.map Expression.text).getD Render.uninitialized) ∧
      Closes ((d.value.map Expression.text).getD Render.uninitialized) := by
    cases hv : d.value with
    | none => exact ⟨.of_ne (by decide), _, rfl, by decide⟩
    | some value =>
      rw [hv] at hvalue
      have hlegible := value.legible hvalue
      exact ⟨hlegible.unbroken, hlegible.closes⟩
  exact (d.target.legible htarget).between (.of_ne (by decide)) ⟨_, rfl, by decide⟩ hright.1
    hright.2

/-- The lines of a declaration are legible. -/
lemma Declaration.legible {d : Declaration} (h : AreLegible R d.encounters) :
    AreSound (Line.IsLegible R) (d.declarators.map fun x => .simple x.text) := by
  refine areSound_map_simple fun x hx => ?_
  exact x.legible fun y hy => h y (List.mem_flatMap.mpr ⟨x, hx, hy⟩)

/-- The lines of the first clause of a loop are legible. -/
lemma Opening.legible {o : Opening} (h : AreLegible R o.encounters) :
    AreSound (Line.IsLegible R) o.outline := by
  cases o with
  | declaration d =>
    rw [outline, texts, List.map_map]
    exact d.legible h
  | expression e => exact ⟨e.legible h, trivial⟩

/-- A class can be named in a header. -/
lemma legible_className {name : Text} {base : Option Expression}
    (hname : (Encounter.name name).IsLegible R)
    (hbase : AreLegible R ((base.map Expression.encounters).getD [])) :
    Legible R (className name base) := by
  cases base with
  | none => exact legible_name hname
  | some base =>
    have h := legible_call (legible_name hname) (base.legible hbase).unbroken
    rw [className]
    simpa only [List.append_assoc] using h

mutual

/-- The lines of a statement are legible if what rendering comes to in it can be read. -/
lemma Statement.legible : (s : Statement) → AreLegible R s.encounters →
    AreSound (Line.IsLegible R) s.outline
  | .expression _ e, h => ⟨e.legible_step h, trivial⟩
  | .block _ body, h => areSound_filled trivial (legible_outlineOfAll body h)
  | .classDeclaration _ _ name base _ body, h => by
    obtain ⟨hbase, hbody⟩ := List.forall_mem_append.mp h
    obtain ⟨hname, hbody⟩ := List.forall_mem_cons.mp hbody
    exact ⟨⟨legible_className hname hbase, filled_ne_nil _,
      areSound_filled trivial (legible_outlineOfAll body hbody)⟩, trivial⟩
  | .conditional _ test yes none, h => by
    obtain ⟨htest, hyes⟩ := List.forall_mem_append.mp h
    exact ⟨⟨test.legible htest, yes.outline_ne_nil, yes.legible hyes⟩, trivial⟩
  | .conditional _ test yes (some no), h => by
    obtain ⟨h, hno⟩ := List.forall_mem_append.mp h
    obtain ⟨htest, hyes⟩ := List.forall_mem_append.mp h
    exact ⟨⟨test.legible htest, ⟨yes.outline_ne_nil, yes.legible hyes⟩, trivial,
      no.outline_ne_nil, no.legible hno⟩, trivial⟩
  | .loop _ init test update body, h => by
    rw [Statement.encounters] at h
    rw [Statement.outline]
    split
    · next c hc =>
      rw [hc] at h
      obtain ⟨hvalues, hbody⟩ := List.forall_mem_append.mp h
      obtain ⟨hlow, hhigh⟩ := List.forall_mem_append.mp hvalues
      obtain ⟨hname, hbody⟩ := List.forall_mem_cons.mp hbody
      exact ⟨⟨⟨legible_name hname, c.low.legible hlow, c.high.legible hhigh⟩,
        body.outline_ne_nil, body.legible (List.forall_mem_cons.mp hbody).2⟩, trivial⟩
    · next hc =>
      rw [hc] at h
      obtain ⟨h, hupdate⟩ := List.forall_mem_append.mp h
      obtain ⟨h, hbody⟩ := List.forall_mem_append.mp h
      obtain ⟨hinit, htest⟩ := List.forall_mem_append.mp h
      have hfirst : AreSound (Line.IsLegible R) (init.toList.flatMap Opening.outline) := by
        refine areSound_opening ?_
        rintro o rfl
        exact o.legible hinit
      have hhead : (Head.loop (test.map Expression.text)).IsLegible R := by
        cases test with
        | none => exact nofun
        | some e =>
          rintro t ⟨⟩
          exact e.legible htest
      have hlast : AreSound (Line.IsLegible R)
          (update.toList.map fun e => Block.simple e.text) := by
        refine areSound_closing ?_
        rintro e rfl
        exact e.legible_step hupdate
      exact hfirst.append ⟨⟨hhead, List.append_ne_nil_of_left_ne_nil body.outline_ne_nil _,
        (body.legible hbody).append hlast⟩, trivial⟩
  | .declaration d, h => d.legible h

/-- The lines of statements are legible if what rendering comes to in them can be read. -/
lemma legible_outlineOfAll : (ss : List Statement) → AreLegible R (encountersOfAll ss) →
    AreSound (Line.IsLegible R) (outlineOfAll ss)
  | [], _ => trivial
  | s :: rest, h => by
    obtain ⟨hs, hrest⟩ := List.forall_mem_append.mp h
    exact (s.legible hs).append (legible_outlineOfAll rest hrest)

end

/-- The lines of a statement or a program are legible if what rendering comes to in it can be
read. -/
lemma Passage.legible (x : Passage) (h : AreLegible R x.encounters) :
    AreSound (Line.IsLegible R) x.outline := by
  cases x with
  | statement s => exact s.legible h
  | program p => exact legible_outlineOfAll p.body h

/-! ## Statements without counts -/

/-- A declaration is written without the header of a count. -/
lemma Declaration.uncounted (d : Declaration) :
    AreSound Line.IsUncounted (d.declarators.map fun x => .simple x.text) :=
  areSound_map_simple fun _ _ => trivial

mutual

/-- A statement without counts inside it is written without the header of a count. -/
lemma Statement.uncounted : (s : Statement) →
    (∀ q ∈ s.parts, q.toNode.isCount ≠ .ok true) →
    AreSound Line.IsUncounted s.outline
  | .expression _ _, _ => ⟨trivial, trivial⟩
  | .block _ body, h =>
    areSound_filled trivial (uncounted_outlineOfAll body (List.forall_mem_cons.mp h).2)
  | .classDeclaration _ _ _ _ _ body, h =>
    ⟨⟨trivial, filled_ne_nil _,
      areSound_filled trivial (uncounted_outlineOfAll body (List.forall_mem_cons.mp h).2)⟩, trivial⟩
  | .conditional _ _ yes none, h =>
    ⟨⟨trivial, yes.outline_ne_nil, yes.uncounted (List.forall_mem_cons.mp h).2⟩, trivial⟩
  | .conditional _ _ yes (some no), h => by
    obtain ⟨hyes, hno⟩ := List.forall_mem_append.mp (List.forall_mem_cons.mp h).2
    exact ⟨⟨trivial, ⟨yes.outline_ne_nil, yes.uncounted hyes⟩, trivial, no.outline_ne_nil,
      no.uncounted hno⟩, trivial⟩
  | .loop loc init test update body, h => by
    obtain ⟨hloop, hbody⟩ := List.forall_mem_cons.mp h
    have hcount := countOf?_eq_none hloop
    have hfirst : AreSound Line.IsUncounted (init.toList.flatMap Opening.outline) :=
      areSound_opening fun o _ => areSound_map_simple fun _ _ => trivial
    have hlast : AreSound Line.IsUncounted
        (update.toList.map fun e => Block.simple e.text) :=
      areSound_closing fun _ _ => trivial
    rw [Statement.outline, hcount]
    exact hfirst.append ⟨⟨trivial, List.append_ne_nil_of_left_ne_nil body.outline_ne_nil _,
      (body.uncounted hbody).append hlast⟩, trivial⟩
  | .declaration d, _ => d.uncounted

/-- Statements without counts inside them are written without the header of a count. -/
lemma uncounted_outlineOfAll : (ss : List Statement) →
    (∀ q ∈ partsOfAll ss, q.toNode.isCount ≠ .ok true) →
    AreSound Line.IsUncounted (outlineOfAll ss)
  | [], _ => trivial
  | s :: rest, h => by
    obtain ⟨hs, hrest⟩ := List.forall_mem_append.mp h
    exact (s.uncounted hs).append (uncounted_outlineOfAll rest hrest)

end

end Syntax

end Offside
