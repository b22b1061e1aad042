import Mathlib.Data.List.Basic
import Mathlib.Tactic.Lemma
import Offside.Proofs.Logged
import Offside.Proofs.Syntax
import Offside.Session

/-!
# Blocks of settings

A session enters a block of settings by `push` and leaves it by `pop`.  The settings that it returns
to are kept on a stack, so that what a `pop` brings back depends on all the steps since some `push`;
this file shows that it is what was current in front of the matching `push`.  All of it holds of any
session, so whatever the parser is that the session has, and whatever its conversions come to.

`Session.Moves` says once what a step can do to the current settings and to the stack.  From it
follows that steps with matching brackets (`IsBracketed`) leave the stack as it was, and so that
every `pop` among them has a matching entry and returns to the settings in front of it
(`Session.IsDisciplined`).

A program does not call `pop` by itself: it runs a part of it within a block, and the block is left
when the part has ended or when a fault ends it.  `Script` is such a program, with faults that end
blocks and parts in which faults are caught.  It has no stack; that its steps are bracketed, and
come to the same as the script, is `Script.isBracketed_trace` and `Script.run_eq_afterAll_trace`.
-/

namespace Offside

/-! ## Settings and the data they are made of -/

namespace Settings

/-- What settings have to be: a unit of indentation that is made of blanks and tabs and is not
empty, and one of the two words for the type of a source. -/
structure IsValid (own : Settings) : Prop where
  unit_ne : own.indentUnit ≠ []
  unit_blank : ∀ c ∈ own.indentUnit, c = CodePoint.ofChar ' ' ∨ c = CodePoint.ofChar '\t'
  type : own.sourceType.word = Text.ofString "script" ∨
    own.sourceType.word = Text.ofString "module"

end Settings

/-- Data of which settings can be made: an object whose unit of indentation and source type, if it
has them, are ones. -/
structure Data.IsSettings (data : Data) : Prop where
  object : ∃ shape entries, data = .object shape entries
  unit : ∀ d, data.entry? "indent_unit" = some d → ∃ t, d = .text t ∧ isIndentUnit t = true
  type : ∀ d, data.entry? "source_type" = some d → d = .text "script" ∨ d = .text "module"

/-- A unit of indentation is not empty, and each of its code points is a blank or a tab. -/
lemma isIndentUnit_eq_true {t : Text} : isIndentUnit t = true ↔
    t ≠ [] ∧ ∀ c ∈ t, c = CodePoint.ofChar ' ' ∨ c = CodePoint.ofChar '\t' := by
  simp [isIndentUnit]

namespace Settings

/-- All settings are valid. -/
lemma isValid (own : Settings) : own.IsValid := by
  obtain ⟨hne, hblank⟩ := isIndentUnit_eq_true.mp own.isIndentUnit_indentUnit
  refine ⟨hne, hblank, ?_⟩
  cases own.sourceType with
  | script => exact .inl rfl
  | module => exact .inr rfl

/-- A unit of indentation is read from a text that is one, and from nothing else. -/
lemma exists_readIndentUnit_iff {d : Data} :
    (∃ unit, readIndentUnit d = .ok unit) ↔ ∃ t, d = .text t ∧ isIndentUnit t = true := by
  constructor
  · rintro ⟨unit, h⟩
    unfold readIndentUnit at h
    split at h
    · next t =>
      split at h
      · next hunit => exact ⟨t, rfl, hunit⟩
      · exact absurd h nofun
    · split at h <;> exact absurd h nofun
  · rintro ⟨t, rfl, hunit⟩
    exact ⟨⟨t, hunit⟩, by simp only [readIndentUnit, dif_pos hunit]⟩

/-- A source type is read from each of the two words, and from nothing else. -/
lemma exists_readSourceType_iff {d : Data} :
    (∃ type, readSourceType d = .ok type) ↔ d = .text "script" ∨ d = .text "module" := by
  constructor
  · rintro ⟨type, h⟩
    unfold readSourceType at h
    split at h
    · next t =>
      split at h
      · next heq => exact .inl (congrArg Data.text heq)
      · split at h
        · next heq => exact .inr (congrArg Data.text heq)
        · exact absurd h nofun
    · exact absurd h nofun
  · rintro (rfl | rfl)
    · exact ⟨.script, rfl⟩
    · exact ⟨.module, rfl⟩

/-- Settings are made exactly if their unit of indentation and their source type can be read. -/
lemma exists_make_iff {unit type strict file : Data} :
    (∃ own, make unit type strict file = .ok own) ↔
      (∃ u, readIndentUnit unit = .ok u) ∧ ∃ t, readSourceType type = .ok t := by
  unfold make
  cases hunit : readIndentUnit unit with
  | error fault => simp [bind, Except.bind]
  | ok u =>
    cases htype : readSourceType type with
    | error fault => simp [bind, Except.bind]
    | ok t => simp [bind, Except.bind, pure, Except.pure]

/-- Settings are made of the data of which they can be made. -/
theorem exists_ofData_iff {data : Data} : (∃ own, ofData data = .ok own) ↔ data.IsSettings := by
  cases data with
  | scalar s => exact ⟨fun ⟨own, h⟩ => absurd h nofun, fun ⟨⟨_, _, h⟩, _, _⟩ => absurd h nofun⟩
  | list items => exact ⟨fun ⟨own, h⟩ => absurd h nofun, fun ⟨⟨_, _, h⟩, _, _⟩ => absurd h nofun⟩
  | object shape entries =>
    have hdefault : isIndentUnit Margin.defaultUnit = true := by decide
    change (∃ own, make _ _ _ _ = .ok own) ↔ _
    rw [exists_make_iff, exists_readIndentUnit_iff, exists_readSourceType_iff]
    constructor
    · rintro ⟨hunit, htype⟩
      refine ⟨⟨shape, entries, rfl⟩, fun d hd => ?_, fun d hd => ?_⟩
      · rwa [hd, Option.getD_some] at hunit
      · rwa [hd, Option.getD_some] at htype
    · rintro ⟨-, hunit, htype⟩
      constructor
      · cases h : Data.entry? (.object shape entries) "indent_unit" with
        | none => exact ⟨_, rfl, hdefault⟩
        | some d => exact hunit d h
      · cases h : Data.entry? (.object shape entries) "source_type" with
        | none => exact .inl rfl
        | some d => exact htype d h

/-- Where making settings fails, none can be made. -/
lemma not_isSettings_of_error {data : Data} {fault : Fault} (h : ofData data = .error fault) :
    ¬data.IsSettings := by
  intro hdata
  obtain ⟨own, hown⟩ := exists_ofData_iff.mpr hdata
  exact absurd (h.symm.trans hown) nofun

/-- Settings that are written as data are made of these data. -/
lemma ofData_toData (own : Settings) : ofData own.toData = .ok own := by
  obtain ⟨unit, type, strict, file, hunit⟩ := own
  have hread : readIndentUnit (.text unit) = .ok ⟨unit, hunit⟩ := dif_pos hunit
  have htype : readSourceType (.text type.word) = .ok type := by
    cases type <;> rfl
  change make (.text unit) (.text type.word) strict file = _
  rw [make, hread, htype]
  rfl

end Settings

/-! ## Steps -/

/-- A step that enters a block or leaves one. -/
def Step.isBracket : Step → Bool
  | .push _ | .pop => true
  | _ => false

namespace Session

/-- What a step that succeeds does to the current settings and to those that blocks have kept. -/
inductive Moves (s : Session) : Step → Answer → Session → Prop
  | set {data : Data} {own : Settings} (made : Settings.ofData data = .ok own) :
    Moves s (.set data) (.settings own) { s with current := own }
  | reset : Moves s .reset (.settings .default) { s with current := .default }
  | enter {data : Data} {own : Settings} (made : Settings.ofData data = .ok own) :
    Moves s (.push data) (.settings own) { s with current := own, kept := s.current :: s.kept }
  | leave {own : Settings} {kept : List Settings} (stack : s.kept = own :: kept) :
    Moves s .pop (.settings own) { s with current := own, kept }
  | other {step : Step} {answer : Answer} {t : Session} (plain : step.isBracket = false)
    (current : t.current = s.current) (kept : t.kept = s.kept) : Moves s step answer t

/-- A step that succeeds is one of these. -/
lemma moves_of_run {s t : Session} {step : Step} {answer : Answer}
    (h : (s.run step).result = .ok (answer, t)) : s.Moves step answer t := by
  cases step with
  | get | getElsewhere =>
    obtain ⟨rfl, rfl⟩ := Prod.mk.inj (Except.ok.inj h)
    exact .other rfl rfl rfl
  | set data =>
    obtain ⟨own, hown, h⟩ := Logged.bind_result_eq_ok h
    obtain ⟨rfl, rfl⟩ := Prod.mk.inj (Except.ok.inj h)
    exact .set hown
  | reset =>
    obtain ⟨rfl, rfl⟩ := Prod.mk.inj (Except.ok.inj h)
    exact .reset
  | push data =>
    obtain ⟨own, hown, h⟩ := Logged.bind_result_eq_ok h
    obtain ⟨rfl, rfl⟩ := Prod.mk.inj (Except.ok.inj h)
    exact .enter hown
  | pop =>
    rw [run] at h
    cases hkept : s.kept with
    | nil =>
      rw [hkept] at h
      exact absurd h nofun
    | cons own kept =>
      rw [hkept] at h
      obtain ⟨rfl, rfl⟩ := Prod.mk.inj (Except.ok.inj h)
      exact .leave hkept
  | assign => exact absurd h nofun
  | convert | converter =>
    obtain ⟨_, -, h⟩ := Logged.bind_result_eq_ok h
    obtain ⟨rfl, rfl⟩ := Prod.mk.inj (Except.ok.inj h)
    exact .other rfl rfl rfl
  | parse | call | callMany | callParse | same =>
    obtain ⟨_, -, h⟩ := Logged.bind_result_eq_ok h
    obtain ⟨_, -, h⟩ := Logged.bind_result_eq_ok h
    obtain ⟨rfl, rfl⟩ := Prod.mk.inj (Except.ok.inj h)
    exact .other rfl rfl rfl
  | convertTree | callRender =>
    obtain ⟨_, -, h⟩ := Logged.bind_result_eq_ok h
    obtain ⟨_, -, h⟩ := Logged.bind_result_eq_ok h
    obtain ⟨_, -, h⟩ := Logged.bind_result_eq_ok h
    obtain ⟨rfl, rfl⟩ := Prod.mk.inj (Except.ok.inj h)
    exact .other rfl rfl rfl

/-! ## Runs -/

/-- The session after a step; a step that fails leaves it as it is. -/
def after (s : Session) (step : Step) : Session :=
  match (s.run step).result with
  | .ok (_, t) => t
  | .error _ => s

/-- What a step answers. -/
def answer (s : Session) (step : Step) : Logged Answer :=
  ⟨(s.run step).log, (s.run step).result.map Prod.fst⟩

/-- The session after steps. -/
def afterAll (s : Session) (steps : List Step) : Session := steps.foldl after s

section

variable (s : Session)

/-- The session after steps and more steps. -/
lemma afterAll_append (steps more : List Step) :
    s.afterAll (steps ++ more) = (s.afterAll steps).afterAll more := List.foldl_append

/-- The first step answers, and the rest is run in the session after it. -/
lemma runAll_cons (step : Step) (rest : List Step) :
    s.runAll (step :: rest) = s.answer step :: (s.after step).runAll rest := by
  rw [runAll, after, answer]
  cases (s.run step).result with
  | error fault => rfl
  | ok p => rfl

/-- Steps answer first, and more steps are run in the session after them. -/
lemma runAll_append (steps more : List Step) :
    s.runAll (steps ++ more) = s.runAll steps ++ (s.afterAll steps).runAll more := by
  induction steps generalizing s with
  | nil => rfl
  | cons step rest ih =>
    rw [List.cons_append, runAll_cons, runAll_cons, ih, List.cons_append]
    rfl

/-- Every step has one answer. -/
lemma length_runAll (steps : List Step) : (s.runAll steps).length = steps.length := by
  induction steps generalizing s with
  | nil => rfl
  | cons step rest ih => rw [runAll_cons, List.length_cons, List.length_cons, ih]

/-- A step answers what it answers in the session after the steps before it. -/
lemma getElem?_runAll (before : List Step) (step : Step) (rest : List Step) :
    (s.runAll (before ++ step :: rest))[before.length]? = some ((s.afterAll before).answer step) := by
  have hlength := s.length_runAll before
  rw [runAll_append, runAll_cons, List.getElem?_append_right (by omega), hlength, Nat.sub_self]
  rfl

/-- A step that answers with a fault leaves the session as it is. -/
lemma after_eq_self {step : Step} {log : List Notice} {fault : Fault}
    (h : s.answer step = ⟨log, .error fault⟩) : s.after step = s := by
  unfold after
  unfold answer at h
  cases hresult : (s.run step).result with
  | error fault => rfl
  | ok p =>
    rw [hresult] at h
    exact absurd (congrArg Logged.result h) nofun

/-- Setting, or entering a block, fails for data of which no settings can be made. -/
lemma answer_of_not_isSettings {data : Data} (h : ¬data.IsSettings) :
    ∃ fault, s.answer (.set data) = ⟨[], .error fault⟩ ∧
      s.answer (.push data) = ⟨[], .error fault⟩ := by
  cases hmade : Settings.ofData data with
  | ok own => exact absurd (Settings.exists_ofData_iff.mp ⟨own, hmade⟩) h
  | error fault =>
    refine ⟨fault, ?_, ?_⟩
    · rw [answer, run, hmade]
      rfl
    · rw [answer, run, hmade]
      rfl

/-- A conversion that is given no settings uses the current ones. -/
lemma settingsFor_none (file : Option Text) :
    s.settingsFor none file = s.settingsFor (some s.current.toData) file := by
  simp only [settingsFor, Settings.ofData_toData]
  rfl

end

/-! ## Matching brackets -/

/-- Steps in which every block that is entered is left, and no other.  An entry with data of which
no settings can be made enters nothing. -/
inductive IsBracketed : List Step → Prop
  | nil : IsBracketed []
  | step {step : Step} {rest : List Step} (plain : step.isBracket = false)
    (hrest : IsBracketed rest) : IsBracketed (step :: rest)
  | refused {data : Data} {rest : List Step} (hdata : ¬data.IsSettings)
    (hrest : IsBracketed rest) : IsBracketed (.push data :: rest)
  | block {data : Data} {body rest : List Step} (hdata : data.IsSettings)
    (hbody : IsBracketed body) (hrest : IsBracketed rest) :
    IsBracketed (.push data :: (body ++ .pop :: rest))

/-- Bracketed steps go on with bracketed steps. -/
lemma IsBracketed.append {steps more : List Step} (h : IsBracketed steps)
    (hmore : IsBracketed more) : IsBracketed (steps ++ more) := by
  induction h with
  | nil => exact hmore
  | step plain _ ih => exact .step plain ih
  | refused hdata _ ih => exact .refused hdata ih
  | block hdata hbody _ _ ih =>
    rw [List.cons_append, List.append_assoc, List.cons_append]
    exact .block hdata hbody ih

section

variable {s : Session}

/-- A step that is no bracket leaves the stack as it is. -/
lemma kept_after {step : Step} (plain : step.isBracket = false) : (s.after step).kept = s.kept := by
  unfold after
  cases hresult : (s.run step).result with
  | error fault => rfl
  | ok p =>
    obtain ⟨answer, t⟩ := p
    cases moves_of_run hresult with
    | set made => rfl
    | reset => rfl
    | enter made => cases plain
    | leave stack => cases plain
    | other plain current kept => exact kept

/-- An entry that is refused changes nothing. -/
lemma after_push_of_not_isSettings {data : Data} (h : ¬data.IsSettings) :
    s.after (.push data) = s := by
  obtain ⟨fault, -, hanswer⟩ := s.answer_of_not_isSettings h
  exact s.after_eq_self hanswer

/-- An entry puts the current settings on the stack. -/
lemma kept_after_push {data : Data} (h : data.IsSettings) :
    (s.after (.push data)).kept = s.current :: s.kept := by
  obtain ⟨own, hmade⟩ := Settings.exists_ofData_iff.mpr h
  have hrun : (s.run (.push data)).result =
      .ok (.settings own, { s with current := own, kept := s.current :: s.kept }) := by
    rw [run, hmade]
    rfl
  rw [after, hrun]

/-- Leaving a block takes the settings off the stack that its entry has put there. -/
lemma run_pop {own : Settings} {kept : List Settings} (h : s.kept = own :: kept) :
    s.run .pop = pure (.settings own, { s with current := own, kept }) := by
  rw [run, h]

/-- Bracketed steps leave the stack as it was. -/
theorem IsBracketed.kept_afterAll {steps : List Step} (h : IsBracketed steps) :
    (s.afterAll steps).kept = s.kept := by
  induction h generalizing s with
  | nil => rfl
  | step plain _ ih => exact ih.trans (kept_after plain)
  | refused hdata _ ih =>
    exact ih.trans (congrArg Session.kept (after_push_of_not_isSettings hdata))
  | @block data body rest hdata _ _ ihbody ihrest =>
    have hinside : ((s.after (.push data)).afterAll body).kept = s.current :: s.kept :=
      ihbody.trans (kept_after_push hdata)
    have hleft : (((s.after (.push data)).afterAll body).after .pop).kept = s.kept := by
      rw [after, run_pop hinside]
      rfl
    change ((s.after (.push data)).afterAll (body ++ .pop :: rest)).kept = s.kept
    rw [afterAll_append]
    exact ihrest.trans hleft

/-- At the end of a block, the settings in front of it are on the stack. -/
lemma run_pop_of_block {data : Data} {body : List Step} (hdata : data.IsSettings)
    (hbody : IsBracketed body) :
    (s.afterAll (.push data :: body)).run .pop = pure (.settings s.current,
      { s.afterAll (.push data :: body) with current := s.current, kept := s.kept }) :=
  run_pop (hbody.kept_afterAll.trans (kept_after_push hdata))

/-- Leaving a block brings back the settings and the stack in front of it. -/
theorem afterAll_block {data : Data} {body : List Step} (hdata : data.IsSettings)
    (hbody : IsBracketed body) :
    s.afterAll (.push data :: body ++ [.pop]) =
      { s.afterAll (.push data :: body) with current := s.current, kept := s.kept } := by
  rw [afterAll_append]
  change (s.afterAll (.push data :: body)).after .pop = _
  rw [after, run_pop_of_block hdata hbody]
  rfl

end

/-- Among bracketed steps, every leaving has its entry, with bracketed steps in between. -/
theorem IsBracketed.exists_entry {steps : List Step} (h : IsBracketed steps) :
    ∀ {before rest : List Step}, steps = before ++ .pop :: rest →
      ∃ outer data body, before = outer ++ .push data :: body ∧ data.IsSettings ∧
        IsBracketed body := by
  induction h with
  | nil => exact fun hsteps => absurd hsteps (by simp)
  | step plain _ ih =>
    intro before rest hsteps
    cases before with
    | nil =>
      obtain ⟨rfl, -⟩ := List.cons.inj hsteps
      cases plain
    | cons first before =>
      obtain ⟨rfl, htail⟩ := List.cons.inj hsteps
      obtain ⟨outer, data, body, rfl, hentry⟩ := ih htail
      exact ⟨_ :: outer, data, body, rfl, hentry⟩
  | refused _ _ ih =>
    intro before rest hsteps
    cases before with
    | nil => exact absurd (List.cons.inj hsteps).1 nofun
    | cons first before =>
      obtain ⟨rfl, htail⟩ := List.cons.inj hsteps
      obtain ⟨outer, data, body, rfl, hentry⟩ := ih htail
      exact ⟨_ :: outer, data, body, rfl, hentry⟩
  | @block data body rest hdata hbody _ ihbody ihrest =>
    intro before rest' hsteps
    cases before with
    | nil => exact absurd (List.cons.inj hsteps).1 nofun
    | cons first before =>
      obtain ⟨rfl, htail⟩ := List.cons.inj hsteps
      -- The leaving is that of the block itself, one behind the block, or one inside of it.
      rcases List.append_eq_append_iff.mp htail with ⟨behind, rfl, hpop⟩ | ⟨inside, rfl, hpop⟩
      · cases behind with
        | nil => exact ⟨[], data, body, by simp, hdata, hbody⟩
        | cons leaving behind =>
          obtain ⟨rfl, hrest⟩ := List.cons.inj hpop
          obtain ⟨outer, data', body', rfl, hentry⟩ := ihrest hrest
          exact ⟨.push data :: (body ++ .pop :: outer), data', body', by simp, hentry⟩
      · cases inside with
        | nil => exact ⟨[], data, before, by simp, hdata, by simpa using hbody⟩
        | cons leaving inside =>
          obtain ⟨rfl, hrest⟩ := List.cons.inj hpop
          obtain ⟨outer, data', body', rfl, hentry⟩ := ihbody rfl
          exact ⟨.push data :: outer, data', body', rfl, hentry⟩

/-! ## What bracketed steps keep -/

/-- What is sure of the settings in a session that runs steps.  The answers that are spoken of are
those of `Session.runAll`. -/
structure IsDisciplined (s : Session) (steps : List Step) : Prop where
  /-- Every leaving has its entry, with bracketed steps in between, and brings back and answers the
  settings that were current just before the entry. -/
  leave : ∀ before rest, steps = before ++ .pop :: rest →
    ∃ outer data body, before = outer ++ .push data :: body ∧ data.IsSettings ∧ IsBracketed body ∧
      (s.afterAll (before ++ [.pop])).current = (s.afterAll outer).current ∧
      (s.runAll steps)[before.length]? = some ⟨[], .ok (.settings (s.afterAll outer).current)⟩
  /-- The current settings are what is answered when they are asked for. -/
  get : ∀ before rest, steps = before ++ .get :: rest →
    (s.runAll steps)[before.length]? = some ⟨[], .ok (.settings (s.afterAll before).current)⟩
  /-- A step that fails changes nothing. -/
  fault : ∀ before step rest log fault, steps = before ++ step :: rest →
    (s.runAll steps)[before.length]? = some ⟨log, .error fault⟩ →
    s.afterAll (before ++ [step]) = s.afterAll before
  /-- Setting or entering data fails exactly if no settings can be made of them. -/
  checked : ∀ before data rest step, (step = .set data ∨ step = .push data) →
    steps = before ++ step :: rest →
    ((∃ fault, (s.runAll steps)[before.length]? = some ⟨[], .error fault⟩) ↔ ¬data.IsSettings)
  /-- A conversion of a source without settings is one with the current settings. -/
  convert : ∀ before source file rest, steps = before ++ .convert source none file :: rest →
    (s.runAll steps)[before.length]? = some ((s.afterAll before).answer
      (.convert source (some (s.afterAll before).current.toData) file))
  /-- A conversion of a tree without settings is one with the current settings. -/
  convertTree : ∀ before tree rest, steps = before ++ .convertTree tree none :: rest →
    (s.runAll steps)[before.length]? = some ((s.afterAll before).answer
      (.convertTree tree (some (s.afterAll before).current.toData)))
  /-- The current settings are always valid. -/
  valid : ∀ before, before <+: steps → (s.afterAll before).current.IsValid

/-- A leaving among bracketed steps brings back what was current in front of its entry. -/
lemma exists_entry_of_pop {s : Session} {before rest : List Step}
    (h : IsBracketed (before ++ .pop :: rest)) :
    ∃ outer data body, before = outer ++ .push data :: body ∧ data.IsSettings ∧ IsBracketed body ∧
      (s.afterAll (before ++ [.pop])).current = (s.afterAll outer).current ∧
      (s.afterAll before).answer .pop = ⟨[], .ok (.settings (s.afterAll outer).current)⟩ := by
  obtain ⟨outer, data, body, rfl, hdata, hbody⟩ := h.exists_entry rfl
  refine ⟨outer, data, body, rfl, hdata, hbody, ?_, ?_⟩
  · rw [List.append_assoc, afterAll_append, afterAll_block hdata hbody]
  · rw [afterAll_append, answer, run_pop_of_block hdata hbody]
    rfl

/-- Setting or entering data answers with a fault exactly if no settings can be made of them. -/
lemma exists_fault_iff {s : Session} {data : Data} {step : Step}
    (hstep : step = .set data ∨ step = .push data) :
    (∃ fault, s.answer step = ⟨[], .error fault⟩) ↔ ¬data.IsSettings := by
  constructor
  · rintro ⟨fault, hanswer⟩ hdata
    obtain ⟨own, hmade⟩ := Settings.exists_ofData_iff.mpr hdata
    have hresult := congrArg Logged.result hanswer
    rcases hstep with rfl | rfl
    · rw [answer, run, hmade] at hresult
      exact absurd hresult nofun
    · rw [answer, run, hmade] at hresult
      exact absurd hresult nofun
  · intro hdata
    obtain ⟨fault, hset, hpush⟩ := s.answer_of_not_isSettings hdata
    rcases hstep with rfl | rfl
    · exact ⟨fault, hset⟩
    · exact ⟨fault, hpush⟩

end Session

/-! ## Scripts -/

/-- A script: steps that enter and leave no block by themselves, parts that are run within a block of
settings, and parts in which a fault is caught. -/
inductive Script where
  | single (step : Step) (plain : step.isBracket = false)
  | within (data : Data) (body : List Script)
  | attempt (body : List Script)

namespace Script

open Session (IsBracketed)

mutual

/-- Run a script: the session after it, and the fault that has ended it, if there is one.  What was
current in front of a block is brought back at its end, whether or not a fault has ended it. -/
def run (s : Session) : Script → Session × Option Fault
  | .single step _ =>
    match (s.run step).result with
    | .ok (_, t) => (t, none)
    | .error fault => (s, some fault)
  | .within data body =>
    match Settings.ofData data with
    | .error fault => (s, some fault)
    | .ok own =>
      let (t, ended) := runAll { s with current := own, kept := s.current :: s.kept } body
      ({ t with current := s.current, kept := s.kept }, ended)
  | .attempt body => ((runAll s body).1, none)

/-- Run scripts in order, up to the first fault. -/
def runAll (s : Session) : List Script → Session × Option Fault
  | [] => (s, none)
  | script :: rest =>
    match run s script with
    | (t, none) => runAll t rest
    | (t, some fault) => (t, some fault)

end

mutual

/-- The steps that a script takes.  A block that has been entered is left by a step, also where a
fault ends it. -/
def trace (s : Session) : Script → List Step
  | .single step _ => [step]
  | .within data body =>
    match Settings.ofData data with
    | .error _ => [.push data]
    | .ok own =>
      .push data :: (traceAll { s with current := own, kept := s.current :: s.kept } body ++ [.pop])
  | .attempt body => traceAll s body

/-- The steps that scripts take. -/
def traceAll (s : Session) : List Script → List Step
  | [] => []
  | script :: rest =>
    match run s script with
    | (t, none) => trace s script ++ traceAll t rest
    | (_, some _) => trace s script

end

mutual

/-- The steps of a script are bracketed. -/
theorem isBracketed_trace (s : Session) : ∀ script : Script, IsBracketed (script.trace s)
  | .single _ plain => .step plain .nil
  | .within data body => by
    rw [trace]
    split
    · next fault hmade => exact .refused (Settings.not_isSettings_of_error hmade) .nil
    · next own hmade =>
      exact .block (Settings.exists_ofData_iff.mp ⟨own, hmade⟩) (isBracketed_traceAll _ body) .nil
  | .attempt body => isBracketed_traceAll s body

/-- The steps of scripts are bracketed. -/
theorem isBracketed_traceAll (s : Session) :
    ∀ scripts : List Script, IsBracketed (traceAll s scripts)
  | [] => .nil
  | script :: rest => by
    rw [traceAll]
    split
    · exact (isBracketed_trace s script).append (isBracketed_traceAll _ rest)
    · exact isBracketed_trace s script

end

mutual

/-- A script comes to the same as its steps. -/
theorem run_eq_afterAll_trace (s : Session) :
    ∀ script : Script, (script.run s).1 = s.afterAll (script.trace s)
  | .single step plain => by
    rw [run, trace]
    change _ = s.after step
    rw [Session.after]
    split <;> rfl
  | .within data body => by
    rw [run, trace]
    cases hmade : Settings.ofData data with
    | error fault =>
      have hdata := Settings.not_isSettings_of_error hmade
      exact (Session.after_push_of_not_isSettings hdata).symm
    | ok own =>
      have hdata : data.IsSettings := Settings.exists_ofData_iff.mp ⟨own, hmade⟩
      have hpush : s.after (.push data) =
          { s with current := own, kept := s.current :: s.kept } := by
        rw [Session.after, Session.run, hmade]
        rfl
      have hbody := run_eq_afterAll_traceAll (s.after (.push data)) body
      change ({ (runAll { s with current := own, kept := s.current :: s.kept } body).1 with
          current := s.current, kept := s.kept } : Session) =
        s.afterAll (.push data ::
          traceAll { s with current := own, kept := s.current :: s.kept } body ++ [.pop])
      rw [← hpush, hbody, Session.afterAll_block hdata (isBracketed_traceAll _ body)]
      rfl
  | .attempt body => run_eq_afterAll_traceAll s body

/-- Scripts come to the same as their steps. -/
theorem run_eq_afterAll_traceAll (s : Session) :
    ∀ scripts : List Script, (runAll s scripts).1 = s.afterAll (traceAll s scripts)
  | [] => rfl
  | script :: rest => by
    have hfirst := run_eq_afterAll_trace s script
    rw [runAll, traceAll]
    split
    · next t hrun =>
      rw [hrun] at hfirst
      rw [Session.afterAll_append, ← hfirst]
      exact run_eq_afterAll_traceAll t rest
    · next t fault hrun =>
      rw [hrun] at hfirst
      exact hfirst

end

end Script

/-! ## Bracketed steps are disciplined -/

/-- The parser to which every source is the same program. -/
def Parser.constant (p : Node) : Parser := fun _ _ _ => pure p

/-- The program of one class without a body. -/
def emptyClass : Syntax.Program where
  loc := .unknown
  body := [.classDeclaration .unknown .unknown "A" none .unknown []]
  sourceType := .script

namespace Session

/-- The settings of a session obey the brackets of its steps, and the steps of scripts, which leave
their blocks at their end or by a fault, are bracketed and come to the same as the scripts. -/
theorem bracketed_isDisciplined (s : Session) :
    (∀ steps, IsBracketed steps → s.IsDisciplined steps) ∧
    ∀ scripts, IsBracketed (Script.traceAll s scripts) ∧
      (Script.runAll s scripts).1 = s.afterAll (Script.traceAll s scripts) := by
  refine ⟨fun steps hsteps => ?_, fun scripts =>
    ⟨Script.isBracketed_traceAll s scripts, Script.run_eq_afterAll_traceAll s scripts⟩⟩
  constructor
  case leave =>
    rintro before rest rfl
    obtain ⟨outer, data, body, hbefore, hdata, hbody, hcurrent, hanswer⟩ :=
      exists_entry_of_pop (s := s) hsteps
    refine ⟨outer, data, body, hbefore, hdata, hbody, hcurrent, ?_⟩
    rw [getElem?_runAll, hanswer]
  case get =>
    rintro before rest rfl
    rw [getElem?_runAll]
    rfl
  case fault =>
    rintro before step rest log fault rfl hanswer
    rw [getElem?_runAll] at hanswer
    rw [afterAll_append]
    exact after_eq_self _ (Option.some.inj hanswer)
  case checked =>
    rintro before data rest step hstep rfl
    rw [getElem?_runAll, ← exists_fault_iff (s := s.afterAll before) hstep]
    simp only [Option.some.injEq]
  case convert =>
    rintro before source file rest rfl
    rw [getElem?_runAll, answer, answer, run, run, convertBy, convertBy, settingsFor_none]
  case convertTree =>
    rintro before tree rest rfl
    rw [getElem?_runAll, answer, answer, run, run, settingsFor_none]
  case valid =>
    exact fun before _ => (s.afterAll before).current.isValid

/-- The text that a step answers, if it answers with one. -/
def answeredText? (x : Logged Answer) : Option Text :=
  match x.result with
  | .ok (.value (.scalar (.text t))) => some t
  | _ => none

/-- Data of settings with a unit of indentation. -/
def unitData (unit : Text) : Data := .dict [("indent_unit", .text unit)]

/-- Two blocks, the inner one left by a fault that is caught in the outer one, and the outer one by
an entry that is refused.  Between them the current settings are asked for and used. -/
def nestedScript : Script :=
  .within (unitData "\t") [.single (.set (unitData "    ")) rfl,
    .attempt [.within (unitData "  ") [.single .reset rfl, .single .assign rfl]],
    .single .get rfl, .single (.convert [] none none) rfl, .within (unitData "x") [],
    .single .reset rfl]

/-- The steps of `nestedScript`. -/
def nestedSteps : List Step :=
  [.push (unitData "\t"), .set (unitData "    "), .push (unitData "  "), .reset, .assign, .pop,
    .get, .convert [] none none, .push (unitData "x"), .pop]

/-- In a session to which every source is a class without a body, the settings of the outer block are
answered and used after the inner one.  The session ends with the settings that it began with, and
with the fault of the entry. -/
theorem bracketed_isDisciplined_nested :
    let s : Session := { fresh with parser := .constant emptyClass.toNode }
    Script.traceAll s [nestedScript] = nestedSteps ∧ s.IsDisciplined nestedSteps ∧
      (∃ own, Settings.ofData (unitData "    ") = .ok own ∧
        (s.runAll nestedSteps)[6]? = some ⟨[], .ok (.settings own)⟩) ∧
      (s.runAll nestedSteps)[7]?.bind answeredText? = some "class A:\n    pass" ∧
      (Script.runAll s [nestedScript]).1.current = .default ∧
      (Script.runAll s [nestedScript]).2 = some (.outOfRange (.indentUnit "'x'")) := by
  intro s
  have htrace : Script.traceAll s [nestedScript] = nestedSteps := rfl
  have hsteps : IsBracketed nestedSteps := htrace ▸ ((bracketed_isDisciplined s).2 [nestedScript]).1
  have hdisciplined := (bracketed_isDisciplined s).1 nestedSteps hsteps
  have hget := hdisciplined.get (nestedSteps.take 6) (nestedSteps.drop 7) rfl
  exact ⟨htrace, hdisciplined, ⟨_, rfl, hget⟩, by decide +kernel, rfl, rfl⟩

end Session

end Offside
