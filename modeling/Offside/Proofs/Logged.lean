import Mathlib.Tactic.Lemma
import Offside.Render

/-!
# Laws of results with a log

`Logged` keeps what was told in front of a fault, so a run that goes on after a result tells its
log behind the log so far.  These laws make it a lawful monad, so that the rules of the renderer
can be rewritten one bind at a time.
-/

namespace Offside

namespace Logged

variable {α β : Type}

/-- Going on from a result without a log is going on from the result. -/
lemma pure_andThen (a : α) (f : α → Logged β) : (pure a : Logged α) >>= f = f a := by
  change (⟨[] ++ (f a).log, (f a).result⟩ : Logged β) = f a
  rw [List.nil_append]

/-- After a fault nothing goes on. -/
lemma error_bind (log : List Notice) (fault : Fault) (f : α → Logged β) :
    (⟨log, .error fault⟩ : Logged α) >>= f = ⟨log, .error fault⟩ := rfl

/-- What is told after a result stands behind what was told before it. -/
lemma ok_bind (log : List Notice) (a : α) (f : α → Logged β) :
    (⟨log, .ok a⟩ : Logged α) >>= f = ⟨log ++ (f a).log, (f a).result⟩ := rfl

/-- A fault ends a run. -/
@[simp] lemma fail_bind (fault : Fault) (f : α → Logged β) :
    (Logged.fail fault : Logged α) >>= f = Logged.fail fault := rfl

/-- A fault has no result to change. -/
@[simp] lemma map_fail (f : α → β) (fault : Fault) :
    f <$> (Logged.fail fault : Logged α) = Logged.fail fault := rfl

/-- A result without a log is the result, whatever becomes of faults. -/
@[simp] lemma ofExcept_mapError_ok {ε : Type} (f : ε → Fault) (a : α) :
    Logged.ofExcept ((Except.ok a).mapError f) = pure a := rfl

/-- A fault without a log is what has become of it. -/
@[simp] lemma ofExcept_mapError_error {ε : Type} (f : ε → Fault) (e : ε) :
    (Logged.ofExcept ((Except.error e).mapError f) : Logged α) = Logged.fail (f e) := rfl

instance : LawfulMonad Logged :=
  LawfulMonad.mk' Logged
    (fun x => by
      obtain ⟨log, _ | a⟩ := x
      · rfl
      · change (⟨log ++ [], .ok a⟩ : Logged _) = ⟨log, .ok a⟩
        rw [List.append_nil])
    pure_andThen
    (fun x f g => by
      obtain ⟨log, _ | a⟩ := x
      · rfl
      · rw [ok_bind, ok_bind]
        cases h : f a with
        | mk log' result =>
          cases result with
          | error fault => rfl
          | ok b => rw [ok_bind, ok_bind, List.append_assoc])

/-- Going on from a run with a result tells what the run told and what is told then. -/
lemma bind_of_result_eq_ok {x : Logged α} {a : α} (h : x.result = .ok a) (f : α → Logged β) :
    x >>= f = ⟨x.log ++ (f a).log, (f a).result⟩ := by
  obtain ⟨log, fault | b⟩ := x
  · exact absurd h nofun
  · rw [← Except.ok.inj h]
    rfl

/-- The result of a run that goes on is that of going on from the result. -/
lemma bind_result (x : Logged α) (f : α → Logged β) :
    (x >>= f).result = x.result >>= fun a => (f a).result := by
  obtain ⟨log, fault | a⟩ := x
  · rfl
  · rfl

/-- A run that gives a result after another one gave one before. -/
lemma bind_result_eq_ok {x : Logged α} {f : α → Logged β} {b : β}
    (h : (x >>= f).result = .ok b) : ∃ a, x.result = .ok a ∧ (f a).result = .ok b := by
  obtain ⟨log, fault | a⟩ := x
  · exact absurd h (by rw [error_bind]; exact nofun)
  · exact ⟨a, rfl, h⟩

/-- Changing the result of a run does not change what it gives a result for. -/
lemma map_result_eq_ok {x : Logged α} {f : α → β} {b : β}
    (h : (f <$> x).result = .ok b) : ∃ a, x.result = .ok a ∧ f a = b := by
  obtain ⟨a, ha, hb⟩ := bind_result_eq_ok (bind_pure_comp f x ▸ h)
  exact ⟨a, ha, Except.ok.inj hb⟩

/-- A run that can give one result only is the run without its result, with that result. -/
lemma eq_map_bind_pure {x : Logged α} {a : α} (h : ∀ b, x.result = .ok b → b = a) :
    x = ((fun _ => ()) <$> x) >>= fun _ => pure a := by
  obtain ⟨log, fault | b⟩ := x
  · rfl
  · rw [h b rfl]
    change (⟨log, .ok a⟩ : Logged α) = ⟨log ++ [] ++ [], .ok a⟩
    rw [List.append_nil, List.append_nil]

end Logged

end Offside
