import Mathlib.Data.List.Infix
import Mathlib.Tactic.Lemma
import Offside.Logging
import Offside.Proofs.Loading

/-!
# Which loggers a set-up reaches

A logger without a level of its own has that of the nearest logger around it, and the names of the
loggers around it are what stands in front of the dots of its own name.  `mem_enclosing_iff` and
`pairwise_enclosing` say that these are all of them, from the inside out; so
`Logging.level_eq_of_nearest` and `Logging.level_eq_warning` say what the level of a logger is
without the walk through them.

Setting up sends records to one place and gives one logger a level of its own.  What one call makes
of a state (`Logging.IsPlain.isSetUp_configure`) carries over to any sequence of calls, of which only
the last one counts: `configured_reaches_namespace` says which records are shown after it.
-/

namespace Offside

/-! ## Loggers around a logger -/

/-- A logger is around another one if its name stands in front of a dot in the name of the other. -/
def IsAround (a name : Text) : Prop := a ≠ [] ∧ a ++ [CodePoint.ofChar '.'] <+: name

/-- The loggers around a logger are those that are listed. -/
theorem mem_enclosing_iff {a name : Text} : a ∈ Logging.enclosing name ↔ IsAround a name := by
  induction name generalizing a with
  | nil => simp [Logging.enclosing, IsAround]
  | cons c rest ih =>
    have hmem : a ∈ Logging.enclosing (c :: rest) ↔
        (∃ b, IsAround b rest ∧ c :: b = a) ∨
          rest.head? = some (CodePoint.ofChar '.') ∧ a = [c] := by
      rw [Logging.enclosing]
      by_cases hdot : rest.head? = some (CodePoint.ofChar '.')
      · simp [hdot, ih]
      · simp [hdot, ih]
    rw [hmem]
    cases a with
    | nil => simp [IsAround]
    | cons x b =>
      cases b with
      | nil =>
        cases rest with
        | nil => simp [IsAround]
        | cons d more => simp [IsAround, List.cons_prefix_cons, eq_comm, and_comm]
      | cons y more => simp [IsAround, List.cons_prefix_cons, eq_comm, and_comm]

/-- The loggers around a logger are listed from the inside out. -/
theorem pairwise_enclosing (name : Text) :
    (Logging.enclosing name).Pairwise fun a b => b.length < a.length := by
  induction name with
  | nil => exact List.Pairwise.nil
  | cons c rest ih =>
    have hinner : ((Logging.enclosing rest).map (c :: ·)).Pairwise fun a b =>
        b.length < a.length := by
      rw [List.pairwise_map]
      exact ih.imp fun h => Nat.succ_lt_succ h
    rw [Logging.enclosing]
    split
    · rw [List.pairwise_append]
      refine ⟨hinner, List.pairwise_singleton _ _, ?_⟩
      intro a ha b hb
      obtain ⟨a', ha', rfl⟩ := List.mem_map.mp ha
      obtain rfl := List.mem_singleton.mp hb
      have hne : a' ≠ [] := (mem_enclosing_iff.mp ha').1
      have hpos : 0 < a'.length := List.length_pos_iff.mpr hne
      simp only [List.length_cons, List.length_nil]
      omega
    · exact hinner

/-- A logger around another one has a shorter name. -/
lemma IsAround.length_lt {a name : Text} (h : IsAround a name) : a.length < name.length := by
  have hlength := h.2.length_le
  rw [List.length_append, List.length_singleton] at hlength
  omega

/-- A logger is the one around all loggers of the library, or inside it. -/
def IsInside (name : Text) : Prop :=
  name = rootLogger ∨ rootLogger ++ [CodePoint.ofChar '.'] <+: name

instance (name : Text) : Decidable (IsInside name) := inferInstanceAs (Decidable (_ ∨ _))

/-! ## Levels -/

namespace Logging

section

variable {l : Logging} {name : Text}

/-- A logger and the loggers around it are asked from the inside out. -/
lemma pairwise_asked (name : Text) :
    (name :: enclosing name).Pairwise fun a b => b.length < a.length :=
  List.pairwise_cons.mpr
    ⟨fun _ ha => (mem_enclosing_iff.mp ha).length_lt, pairwise_enclosing name⟩

/-- A logger has the level of the nearest one, of itself and the loggers around it, that has a level
of its own. -/
theorem level_eq_of_nearest {a : Text} {level : Level} (ha : a = name ∨ IsAround a name)
    (hlevel : l.levels.lookup a = some level)
    (hnearest : ∀ b, b = name ∨ IsAround b name → a.length < b.length →
      l.levels.lookup b = none) : l.level name = level := by
  have hmem : a ∈ name :: enclosing name := List.mem_cons.mpr (ha.imp_right mem_enclosing_iff.mpr)
  obtain ⟨inner, outer, hasked⟩ := List.append_of_mem hmem
  have horder := pairwise_asked name
  rw [hasked, List.pairwise_append] at horder
  have hinner : ∀ b ∈ inner, l.levels.lookup b = none := by
    intro b hb
    have hb' : b ∈ name :: enclosing name := hasked ▸ List.mem_append_left _ hb
    exact hnearest b ((List.mem_cons.mp hb').imp_right mem_enclosing_iff.mp)
      (horder.2.2 b hb a List.mem_cons_self)
  rw [Logging.level, hasked, List.findSome?_append, List.findSome?_eq_none_iff.mpr hinner,
    List.findSome?_cons, hlevel]
  rfl

/-- A logger of which none has a level, neither itself nor one around it, shows warnings. -/
theorem level_eq_warning (h : ∀ b, b = name ∨ IsAround b name → l.levels.lookup b = none) :
    l.level name = .warning := by
  have hnone : ∀ b ∈ name :: enclosing name, l.levels.lookup b = none := fun b hb =>
    h b ((List.mem_cons.mp hb).imp_right mem_enclosing_iff.mp)
  rw [Logging.level, List.findSome?_eq_none_iff.mpr hnone]
  rfl

end

/-! ## Setting up -/

/-- Set up by a sequence of calls. -/
def configureAll (calls : List Bool) (l : Logging) : Logging :=
  calls.foldl (fun l debug => l.configure debug) l

/-- Records are sent to one place at most, and no logger but the one around all loggers of the
library has a level of its own. -/
structure IsPlain (l : Logging) : Prop where
  handlers_le : l.handlers ≤ 1
  lookup_eq_none : ∀ a, a ≠ rootLogger → l.levels.lookup a = none

/-- Records are sent to one place, and one logger has a level, which a call has given it. -/
structure IsSetUp (debug : Bool) (l : Logging) : Prop where
  handlers_eq : l.handlers = 1
  lookup_root : l.levels.lookup rootLogger = some (if debug then .debug else .warning)
  lookup_eq_none : ∀ a, a ≠ rootLogger → l.levels.lookup a = none

/-- Nothing has been set up at the beginning. -/
lemma isPlain_fresh : IsPlain fresh := ⟨Nat.zero_le 1, fun _ _ => rfl⟩

/-- What has been set up can be set up again. -/
lemma IsSetUp.isPlain {l : Logging} {debug : Bool} (h : l.IsSetUp debug) : l.IsPlain :=
  ⟨h.handlers_eq.le, h.lookup_eq_none⟩

/-- A call sets up, whatever has been set up before. -/
theorem IsPlain.isSetUp_configure {l : Logging} (h : l.IsPlain) (debug : Bool) :
    (l.configure debug).IsSetUp debug where
  handlers_eq := by
    have hle := h.handlers_le
    simp only [configure]
    omega
  lookup_root := List.lookup_cons_self
  lookup_eq_none a ha := (lookup_cons_filter_of_ne ha _ l.levels).trans (h.lookup_eq_none a ha)

/-- Calls leave a state in which one can set up. -/
lemma IsPlain.configureAll {l : Logging} (h : l.IsPlain) (calls : List Bool) :
    (configureAll calls l).IsPlain := by
  induction calls generalizing l with
  | nil => exact h
  | cons debug rest ih => exact ih (h.isSetUp_configure debug).isPlain

/-- What is set up from the beginning by calls and a last one. -/
def configured (calls : List Bool) (last : Bool) : Logging :=
  configureAll (calls ++ [last]) fresh

/-- Of a sequence of calls, the last one counts. -/
theorem isSetUp_configured (calls : List Bool) (last : Bool) :
    (configured calls last).IsSetUp last := by
  have hplain := isPlain_fresh.configureAll calls
  rw [configured, Logging.configureAll, List.foldl_append]
  exact hplain.isSetUp_configure last

/-- What has been set up shows the debugging records of the loggers of the library if the call asked
for it, and the warnings of all loggers. -/
theorem IsSetUp.level_eq {l : Logging} {debug : Bool} (h : l.IsSetUp debug) (name : Text) :
    l.level name = if debug = true ∧ IsInside name then .debug else .warning := by
  have hnone : ∀ b, b ≠ rootLogger → l.levels.lookup b = none := h.lookup_eq_none
  by_cases hinside : IsInside name
  · have hroot : rootLogger = name ∨ IsAround rootLogger name := hinside.imp Eq.symm fun hprefix =>
      ⟨by decide, hprefix⟩
    have hlevel : l.level name = if debug then .debug else .warning := by
      refine level_eq_of_nearest hroot h.lookup_root fun b _ hlength => hnone b ?_
      rintro rfl
      exact absurd hlength (Nat.lt_irrefl _)
    simp [hlevel, hinside]
  · have hforeign : ∀ b, b = name ∨ IsAround b name → b ≠ rootLogger := by
      rintro b hb rfl
      exact hinside (hb.imp Eq.symm fun haround => haround.2)
    rw [level_eq_warning fun b hb => hnone b (hforeign b hb), if_neg fun h => hinside h.2]

/-! ## Records -/

/-- Records that are sent to one place are shown once, if they reach the level of their logger. -/
lemma IsSetUp.emit_eq {l : Logging} {debug : Bool} (h : l.IsSetUp debug) (logger : Text)
    (level : Level) (text : Text) :
    l.emit logger level text =
      if (l.level logger).rank ≤ level.rank then
        shownName logger ++ ": " ++ level.name ++ ": " ++ text ++ "\n"
      else [] := by
  simp [emit, line, h.handlers_eq, Text.times]

end Logging

/-! ## Names -/

/-- A name is put into the namespace of the library, and stays if it is there. -/
lemma isInside_loggerName (name : Text) : IsInside (loggerName name) := by
  unfold loggerName
  split
  · next h => exact h.imp_right List.isPrefixOf_iff_prefix.mp
  · exact .inr ⟨name, rfl⟩

/-- A name in the namespace of the library stays as it is. -/
lemma loggerName_eq_self {name : Text} (h : IsInside name) : loggerName name = name :=
  if_pos (h.imp_right List.isPrefixOf_iff_prefix.mpr)

/-- However often records have been set up, the last call counts: they are sent to one place; a
logger shows debugging records if the last call asked for it and the logger is the one around all
loggers of the library or inside it, and else warnings; a record of any level is shown exactly once
if it reaches the level of its logger, and else not at all.  The names that the library gives to its
loggers are all inside, and giving a name twice is giving it once. -/
theorem configured_reaches_namespace (calls : List Bool) (last : Bool) :
    (Logging.configured calls last).handlers = 1 ∧
    (∀ name, (Logging.configured calls last).level name =
      if last = true ∧ IsInside name then .debug else .warning) ∧
    (∀ logger (level : Level) text, (Logging.configured calls last).emit logger level text =
      if ((Logging.configured calls last).level logger).rank ≤ level.rank then
        Logging.shownName logger ++ ": " ++ level.name ++ ": " ++ text ++ "\n"
      else []) ∧
    ∀ name, IsInside (loggerName name) ∧ loggerName (loggerName name) = loggerName name := by
  have hsetUp := Logging.isSetUp_configured calls last
  refine ⟨hsetUp.handlers_eq, hsetUp.level_eq, hsetUp.emit_eq, fun name => ?_⟩
  have hinside := isInside_loggerName name
  exact ⟨hinside, loggerName_eq_self hinside⟩

/-- A logger whose name only begins like that of the library is not reached. -/
example : (Logging.fresh.configure true).level "culebrax" = .warning ∧
    (Logging.fresh.configure true).level "culebra.x" = .debug := by decide

end Offside
