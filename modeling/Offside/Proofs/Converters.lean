import Mathlib.Tactic.Lemma
import Offside.Proofs.Bracketing

/-!
# Converters and conversions

A source can be converted in a session, or by a converter that has been made before.  Both parse and
render, but they come to their settings in two ways.  A conversion that is given no settings takes
the current ones of its session, and a converter that is made of no settings takes the ones that a
fresh session has; a conversion takes any name of a source that it is given, and a converter takes
an empty name for none.

This file says what follows for any parser.  A converter does what a conversion does that is given
the default settings where it is given none, and no empty name (`Session.callBy_result`).  By parsers
that show what they are given it is found which settings conversions can tell apart
(`Settings.alike_iff`), and so when a converter and a conversion agree
(`Session.callBy_agrees`).
-/

namespace Offside

/-! ## Conversions by steps -/

/-- The parser that refuses every source, and shows its type and file in the refusal. -/
def Parser.refusing : Parser := fun sourceType file _ =>
  .fail (.refused ⟨[], .text sourceType.word, .null, file⟩)

namespace Session

/-- Make a converter and have it convert a source, with a parser.  No session is asked. -/
def callBy (parser : Parser) (source : Text) (settings : Option Data) (file : Option Text) :
    Logged Value := do
  let c ← .ofExcept (Converter.make settings)
  c.convert parser source file

variable {s : Session} {source : Text} {settings : Option Data} {file : Option Text}

/-- A step that ends with an answer of what it has done answers that. -/
lemma answer_of_run {α : Type} {step : Step} {x : Logged α} {f : α → Answer} {next : α → Session}
    (h : s.run step = x >>= fun a => pure (f a, next a)) : s.answer step = f <$> x := by
  rw [answer, h, map_eq_pure_bind]
  obtain ⟨log, fault | a⟩ := x
  · rfl
  · rfl

/-- A conversion is a step of a session. -/
theorem answer_convert :
    s.answer (.convert source settings file) =
      Answer.value <$> s.convertBy s.parser source settings file := answer_of_run rfl

/-- Making a converter is a step of a session, and so is having it convert a source. -/
theorem answer_call {name : Text} :
    (∃ own, s.answer (.converter name settings) = pure (.settings own) ∧
      (s.after (.converter name settings)).answer (.call name source file) =
        Answer.value <$> callBy s.parser source settings file) ∨
    ∃ fault, s.answer (.converter name settings) = .fail fault ∧
      callBy s.parser source settings file = .fail fault := by
  rw [answer, after, run, callBy]
  cases Converter.make settings with
  | error fault =>
    exact .inr ⟨fault, rfl, rfl⟩
  | ok c =>
    refine .inl ⟨c.settings, rfl, ?_⟩
    have hfind : find ((name, c) :: s.converters) name = pure c := by
      rw [find, List.lookup_cons_self]
    have hcall : run { s with converters := (name, c) :: s.converters } (.call name source file) =
        c.convert s.parser source file >>= fun v =>
          pure (.value v, { s with converters := (name, c) :: s.converters }) := by
      rw [run, hfind, pure_bind]
    exact (answer_of_run hcall).trans
      (congrArg _ (pure_bind c fun c => c.convert s.parser source file).symm)

end Session

/-! ## Settings that conversions cannot tell apart -/

/-- Settings that no conversion can tell apart. -/
structure Settings.Alike (a b : Settings) : Prop where
  indentUnit : a.indentUnit = b.indentUnit
  isStrict : a.isStrict = b.isStrict
  sourceType : a.sourceType = b.sourceType
  file : a.file = b.file

/-- The program of one literal that is not portable. -/
def nullLiteral : Syntax.Program where
  loc := .unknown
  body := [.expression .unknown (.literal .unknown "null" .null)]
  sourceType := .script

/-- A class without a body shows the unit of indentation. -/
lemma render_emptyClass (s : Settings) :
    (render s emptyClass.toNode).result =
      .ok (.text ("class A:\n" ++ (s.indentUnit ++ Text.ofString "pass"))) := by
  have hhead : Text.ofString "class A:\n" =
      Text.ofString "class " ++ Text.ofString "A" ++ Text.ofString ":" ++ Text.ofString "\n" := by
    decide
  rw [hhead, ← List.append_nil s.indentUnit]
  rfl

/-- A literal that is not portable shows strictness. -/
lemma isOk_render_nullLiteral (s : Settings) :
    (render s nullLiteral.toNode).result.isOk = !s.isStrict := by
  rw [render]
  cases s.isStrict with
  | false => rfl
  | true => rfl

namespace Parser

/-- What a conversion ends with is what rendering ends with. -/
lemma convert_result (parser : Parser) (s : Settings) (source : Text) :
    (parser.convert s source).result = (parser.parse s source >>= render s).result := by
  rw [convert]
  obtain ⟨log, fault | p⟩ := parser.parse s source
  · rfl
  · rfl

/-- A conversion with the parser of a program ends with what rendering the program ends with. -/
lemma constant_convert_result (p : Node) (s : Settings) (source : Text) :
    ((constant p).convert s source).result = (render s p).result := rfl

/-- A conversion with the refusing parser shows the type and the file of the source. -/
lemma refusing_convert_result (s : Settings) (source : Text) :
    (refusing.convert s source).result =
      .error (.refused ⟨[], .text s.sourceType.word, .null, s.file⟩) := rfl

end Parser

/-- The types of sources have different words. -/
lemma Source.SourceType.word_injective : Function.Injective Source.SourceType.word := by
  intro a b h
  cases a <;> cases b
  · rfl
  · exact absurd h (by decide)
  · exact absurd h (by decide)
  · rfl

namespace Settings

variable {a b : Settings}

/-- Conversions with alike settings are the same. -/
lemma Alike.convert (h : a.Alike b) (parser : Parser) (source : Text) :
    parser.convert a source = parser.convert b source := by
  have hrender (p : Node) : render a p = render b p := by
    rw [render, render, margin, margin, h.isStrict, h.indentUnit]
  simp only [Parser.convert, Parser.parse, h.sourceType, h.file, hrender]

/-- Settings are alike if and only if all conversions with them end in the same way. -/
theorem alike_iff :
    a.Alike b ↔ ∀ (parser : Parser) (source : Text),
      (parser.convert a source).result = (parser.convert b source).result := by
  constructor
  · intro h parser source
    rw [h.convert]
  · intro h
    have hclass := h (.constant emptyClass.toNode) []
    have hnull := congrArg Except.isOk (h (.constant nullLiteral.toNode) [])
    have hrefused := h .refusing []
    rw [Parser.constant_convert_result, Parser.constant_convert_result] at hclass hnull
    rw [render_emptyClass, render_emptyClass] at hclass
    rw [isOk_render_nullLiteral, isOk_render_nullLiteral] at hnull
    rw [Parser.refusing_convert_result, Parser.refusing_convert_result] at hrefused
    simp only [Except.ok.injEq, Except.error.injEq, Value.text, Value.scalar.injEq, Data.text,
      Scalar.text.injEq, Fault.refused.injEq, Refusal.mk.injEq, Data.scalar.injEq,
      List.append_cancel_left_eq, List.append_cancel_right_eq, true_and] at hclass hrefused
    exact ⟨hclass, Bool.not_inj hnull, Source.SourceType.word_injective hrefused.1, hrefused.2⟩

end Settings

/-! ## Where converters and conversions agree -/

namespace Converter

variable {c : Converter} {settings : Option Data} {file : Option Text}

/-- A converter ends with what a conversion with its settings for the source ends with. -/
lemma convert_result (parser : Parser) (source : Text) :
    (c.convert parser source file).result =
      (parser.convert (c.settingsFor file) source).result := by
  have hrender (p : Node) : c.render p = Offside.render (c.settingsFor file) p := by
    unfold settingsFor
    cases file with
    | none => rfl
    | some t =>
      by_cases ht : t.isEmpty = true
      · simp only [ht, if_true, render]
      · simp only [ht, Bool.false_eq_true, if_false]
        rfl
  rw [Parser.convert_result, convert, parse]
  simp only [hrender]

/-- A converter of no settings is one of the default settings. -/
lemma make_eq :
    make settings = Converter.mk <$> Settings.ofData (settings.getD Settings.default.toData) := by
  cases settings with
  | some data => rfl
  | none =>
    rw [Option.getD_none, Settings.ofData_toData]
    rfl

end Converter

namespace Session

variable {s : Session} {settings : Option Data} {file : Option Text}

/-- A conversion with given settings, and without an empty name of the source, has the settings that
a converter has for the source. -/
lemma settingsFor_filter (data : Data) :
    s.settingsFor (some data) (file.filter fun t => !t.isEmpty) =
      (fun own => Converter.settingsFor ⟨own⟩ file) <$> Settings.ofData data := by
  cases hmade : Settings.ofData data with
  | error fault =>
    rw [settingsFor, hmade]
    rfl
  | ok own =>
    rw [settingsFor, hmade]
    cases file with
    | none => rfl
    | some t =>
      by_cases ht : t.isEmpty = true
      · simp only [Option.filter_some, ht, Converter.settingsFor, Bool.not_true, Bool.false_eq_true,
          if_true, if_false]
        rfl
      · simp only [Option.filter_some, ht, Converter.settingsFor, Bool.not_false, Bool.false_eq_true,
          if_true, if_false]
        rfl

/-- Where no converter can be made, there is no conversion; else a conversion has settings. -/
lemma settingsFor_of_make (s : Session) (settings : Option Data) (file : Option Text) :
    (∃ fault, Converter.make settings = .error fault ∧ s.settingsFor settings file = .error fault) ∨
    ∃ c used, Converter.make settings = .ok c ∧ s.settingsFor settings file = .ok used := by
  cases settings with
  | none => cases file <;> exact .inr ⟨_, _, rfl, rfl⟩
  | some data =>
    rw [Converter.make, settingsFor]
    cases Settings.ofData data with
    | error fault => exact .inl ⟨fault, rfl, rfl⟩
    | ok own => cases file <;> exact .inr ⟨_, _, rfl, rfl⟩

/-- A converter ends with what a conversion ends with that is given the default settings where the
converter is given none, and no empty name of a source. -/
theorem callBy_result (parser : Parser) (source : Text) :
    (callBy parser source settings file).result =
      (s.convertBy parser source (some (settings.getD Settings.default.toData))
        (file.filter fun t => !t.isEmpty)).result := by
  rw [callBy, convertBy, settingsFor_filter, Converter.make_eq]
  cases Settings.ofData (settings.getD Settings.default.toData) with
  | error fault => rfl
  | ok own =>
    change ((pure (Converter.mk own) : Logged Converter) >>= _).result =
      ((pure (Converter.settingsFor ⟨own⟩ file) : Logged Settings) >>= _).result
    rw [pure_bind, pure_bind, Converter.convert_result]

/-- A converter and a conversion that come to their settings end with what conversions with these
settings end with. -/
lemma results_of_ok {c : Converter} {used : Settings} (hmade : Converter.make settings = .ok c)
    (hused : s.settingsFor settings file = .ok used) (parser : Parser) (source : Text) :
    (callBy parser source settings file).result =
        (parser.convert (c.settingsFor file) source).result ∧
      (s.convertBy parser source settings file).result = (parser.convert used source).result := by
  rw [callBy, convertBy, hmade, hused]
  change ((pure c : Logged Converter) >>= _).result = _ ∧
    ((pure used : Logged Settings) >>= _).result = _
  rw [pure_bind, pure_bind, Converter.convert_result]
  exact ⟨rfl, rfl⟩

/-- A converter does what a conversion does, with two differences: it takes the default settings
where the conversion takes the current ones, and an empty name for none.  So they agree if they are
given settings and no empty name; and they agree for all parsers and sources exactly if the settings
that they come to are alike. -/
theorem callBy_agrees (s : Session) (settings : Option Data) (file : Option Text) :
    (∀ parser source, (callBy parser source settings file).result =
      (s.convertBy parser source (some (settings.getD Settings.default.toData))
        (file.filter fun t => !t.isEmpty)).result) ∧
    (∀ data, settings = some data → file ≠ some [] → ∀ parser source,
      (callBy parser source settings file).result =
        (s.convertBy parser source settings file).result) ∧
    ((∀ parser source, (callBy parser source settings file).result =
        (s.convertBy parser source settings file).result) ↔
      ∀ c used, Converter.make settings = .ok c → s.settingsFor settings file = .ok used →
        (c.settingsFor file).Alike used) := by
  refine ⟨fun parser source => callBy_result parser source, ?given, ?alike⟩
  case given =>
    rintro data rfl hfile parser source
    have hfilter : file.filter (fun t => !t.isEmpty) = file := by
      match file, hfile with
      | none, _ => rfl
      | some [], h => exact absurd rfl h
      | some (_ :: _), _ => rfl
    rw [callBy_result (s := s), hfilter, Option.getD_some]
  case alike =>
    constructor
    · intro h c used hmade hused
      refine Settings.alike_iff.mpr fun parser source => ?_
      obtain ⟨hcall, hconvert⟩ := results_of_ok hmade hused parser source
      rw [← hcall, ← hconvert, h]
    · intro h parser source
      obtain ⟨fault, hmade, hused⟩ | ⟨c, used, hmade, hused⟩ := s.settingsFor_of_make settings file
      · rw [callBy, convertBy, hmade, hused]
        rfl
      · obtain ⟨hcall, hconvert⟩ := results_of_ok hmade hused parser source
        rw [hcall, hconvert, (h c used hmade hused).convert]

/-- A session whose current settings have another unit of indentation than the default ones. -/
def widened : Session := fresh.after (.set (unitData "    "))

/-- In a session with a wider indentation, a converter of no settings does what a conversion with the
default ones does, which is not what all conversions without settings do. -/
theorem callBy_agrees_widened :
    (∀ source, (callBy .own source none none).result =
      (widened.convertBy .own source (some Settings.default.toData) none).result) ∧
    ¬∀ parser source, (callBy parser source none none).result =
      (widened.convertBy parser source none none).result := by
  obtain ⟨hsame, -, hagrees⟩ := callBy_agrees widened none none
  refine ⟨hsame .own, fun h => ?_⟩
  have halike := hagrees.mp h ⟨.default⟩ widened.current rfl rfl
  exact absurd halike.indentUnit (by decide)

/-- A step that answers with a text has that answer. -/
lemma result_of_answeredText? {x : Logged Answer} {t : Text} (h : answeredText? x = some t) :
    x.result = .ok (.value (.text t)) := by
  unfold answeredText? at h
  split at h
  · next hresult => rw [hresult, Option.some.inj h]
  · exact absurd h nofun

/-- A converter that is made and called in a session does not use the current settings, which a
conversion of the same source in the same session does; the parser gives the same class for it. -/
theorem call_overlooks_current :
    let s : Session := { fresh with parser := .constant emptyClass.toNode }
    let t := s.afterAll [.set (unitData "    "), .converter "c" none]
    (t.answer (.call "c" "class A \x7b\x7d" none)).result =
      .ok (.value (.text "class A:\n  pass")) ∧
    (t.answer (.convert "class A \x7b\x7d" none none)).result =
      .ok (.value (.text "class A:\n    pass")) :=
  ⟨result_of_answeredText? (by decide +kernel), result_of_answeredText? (by decide +kernel)⟩

end Session

end Offside
