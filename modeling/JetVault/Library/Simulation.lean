import JetVault.Library.Transition
import Mathlib.Data.List.Forall2

/-!
# Forward simulation

A relation between the states of two fallible step systems that every admitted step of the first
keeps, the second answering with steps of its own. Which labels answer a label is part of the
simulation, so that whole runs are related with their labels, in order and in number.
-/
namespace Transition

variable {σ τ α β ε ε' : Type} {step : α → σ → Except ε σ} {allow : σ → α → Prop}
  {step' : β → τ → Except ε' τ} {allow' : τ → β → Prop}

/-! ## Traces -/

/-- A run of admitted successful steps, with its labels in order. -/
inductive Trace (step : α → σ → Except ε σ) (allow : σ → α → Prop) : List α → σ → σ → Prop
  | nil (s : σ) : Trace step allow [] s s
  | snoc {as : List α} {a : α} {s t u : σ} (run : Trace step allow as s t) (admitted : allow t a)
      (returned : step a t = .ok u) : Trace step allow (as ++ [a]) s u

theorem Trace.single {a : α} {s t : σ} (admitted : allow s a) (returned : step a s = .ok t) :
    Trace step allow [a] s t :=
  .snoc (.nil s) admitted returned

theorem Trace.append {as bs : List α} {s t u : σ} (first : Trace step allow as s t)
    (second : Trace step allow bs t u) : Trace step allow (as ++ bs) s u := by
  -- Induction on the second run: its last step stays the last one.
  induction second with
  | nil => rwa [List.append_nil]
  | snoc _ admitted returned ih =>
    rw [← List.append_assoc]
    exact (ih first).snoc admitted returned

theorem Trace.reaches {as : List α} {s t : σ} (run : Trace step allow as s t) :
    Reaches step allow s t := by
  induction run with
  | nil => exact .refl _
  | snoc _ admitted returned ih => exact ih.snoc admitted returned

/-- Every run has labels. -/
theorem Reaches.exists_trace {s t : σ} (run : Reaches step allow s t) :
    ∃ as, Trace step allow as s t := by
  induction run with
  | refl => exact ⟨[], .nil s⟩
  | tail _ last ih =>
    obtain ⟨as, run⟩ := ih
    obtain ⟨a, admitted, returned⟩ := last
    exact ⟨as ++ [a], run.snoc admitted returned⟩

/-- Attempting labels that are admitted and succeed. -/
theorem attemptAll_trace {as : List α} {s : σ}
    (succeeds : Admitted step (fun s a => allow s a ∧ (step a s).isOk = true) as s) :
    Trace step allow as s (attemptAll step as s) := by
  induction as generalizing s with
  | nil => exact .nil s
  | cons a as ih =>
    obtain ⟨⟨admitted, ok⟩, rest⟩ := succeeds
    exact (Trace.single admitted (attempt_eq_ok ok)).append (ih rest)

/-! ## Simulations -/

/-- Every admitted step from a related state is answered by a run that ends related, with labels
that answer the step's. -/
def Simulates (step : α → σ → Except ε σ) (allow : σ → α → Prop) (step' : β → τ → Except ε' τ)
    (allow' : τ → β → Prop) (answers : α → List β → Prop) (R : σ → τ → Prop) : Prop :=
  ∀ s a s' t, R s t → allow s a → step a s = .ok s' →
    ∃ bs t', answers a bs ∧ Trace step' allow' bs t t' ∧ R s' t'

variable {answers : α → List β → Prop} {R : σ → τ → Prop} {s s' : σ} {t : τ}

/-- The answers, one behind the other, are a run of the second system. -/
theorem Simulates.trace (simulates : Simulates step allow step' allow' answers R) {as : List α}
    (run : Trace step allow as s s') (related : R s t) :
    ∃ bss t', List.Forall₂ answers as bss ∧ Trace step' allow' bss.flatten t t' ∧ R s' t' := by
  -- Induction on the run: the answer to its last step goes behind the answers so far.
  induction run with
  | nil => exact ⟨[], t, .nil, .nil t, related⟩
  | snoc _ admitted returned ih =>
    obtain ⟨bss, u, answered, first, between⟩ := ih related
    obtain ⟨bs, t', last, second, after⟩ := simulates _ _ _ u between admitted returned
    refine ⟨bss ++ [bs], t', List.rel_append answered (.cons last .nil), ?_, after⟩
    rw [List.flatten_append, List.flatten_singleton]
    exact first.append second

theorem Simulates.run (simulates : Simulates step allow step' allow' answers R)
    (run : Reaches step allow s s') (related : R s t) :
    ∃ t', Reaches step' allow' t t' ∧ R s' t' := by
  obtain ⟨_, labelled⟩ := run.exists_trace
  obtain ⟨_, t', _, answer, after⟩ := simulates.trace labelled related
  exact ⟨t', answer.reaches, after⟩

end Transition
