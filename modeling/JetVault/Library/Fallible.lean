import Mathlib.Logic.Basic

/-!
# Sequences that can fail

When a computation in `Except` succeeds, read backwards from its result: a sequence succeeds
when each part does, a guard when its condition is false. A sequence fails with the failure of
its first part that does not succeed.
-/
namespace Fallible

variable {ε α β : Type}

/-- Fail with `e` when `refused` holds. -/
def refuseIf (refused : Prop) [Decidable refused] (e : ε) : Except ε Unit :=
  if refused then .error e else .ok ()

theorem ok_bind (a : α) (f : α → Except ε β) : (.ok a : Except ε α) >>= f = f a := rfl

theorem error_bind (e : ε) (f : α → Except ε β) :
    (.error e : Except ε α) >>= f = .error e := rfl

theorem bind_eq_ok (x : Except ε α) (f : α → Except ε β) (b : β) :
    (x >>= f) = .ok b ↔ ∃ a, x = .ok a ∧ f a = .ok b := by
  cases x with
  | error e => simp [bind, Except.bind]
  | ok a => simp [bind, Except.bind]

theorem pure_eq_ok (a b : α) : (pure a : Except ε α) = .ok b ↔ a = b := by
  rw [pure, Applicative.toPure]
  exact Except.ok.injEq a b ▸ Iff.rfl

theorem bind_eq_error (x : Except ε α) (f : α → Except ε β) (e : ε) :
    (x >>= f) = .error e ↔ x = .error e ∨ ∃ a, x = .ok a ∧ f a = .error e := by
  cases x with
  | error e' => simp [bind, Except.bind]
  | ok a => simp [bind, Except.bind]

theorem pure_eq_error (a : α) (e : ε) : (pure a : Except ε α) = .error e ↔ False := by
  simp [pure, Except.pure]

theorem forM_eq_ok (l : List α) (f : α → Except ε Unit) (u : Unit) :
    l.forM f = .ok u ↔ ∀ a ∈ l, f a = .ok () := by
  induction l with
  | nil => simp [pure, Except.pure]
  | cons a l ih =>
    change (f a >>= fun _ => l.forM f) = .ok u ↔ _
    rw [bind_eq_ok, List.forall_mem_cons, ← ih]
    constructor
    · rintro ⟨_, both⟩
      exact both
    · intro both
      exact ⟨(), both⟩

theorem refuseIf_eq_ok (refused : Prop) [Decidable refused] (e : ε) (u : Unit) :
    refuseIf refused e = .ok u ↔ ¬ refused := by
  unfold refuseIf
  split <;> simp_all

theorem refuseIf_eq_error (refused : Prop) [Decidable refused] (e e' : ε) :
    refuseIf refused e = .error e' ↔ refused ∧ e = e' := by
  unfold refuseIf
  split <;> simp_all

/-! ## Sequences that are run -/

theorem eq_ok_of_toOption {x : Except ε α} {a : α} (result : x.toOption = some a) :
    x = .ok a := by
  cases x with
  | error e => cases result
  | ok b => exact congrArg Except.ok (Option.some.inj result)

theorem eq_ok_getD {x : Except ε α} (succeeds : x.isOk = true) (a : α) :
    x = .ok (x.toOption.getD a) := by
  cases x with
  | error e => cases succeeds
  | ok b => rfl

end Fallible
