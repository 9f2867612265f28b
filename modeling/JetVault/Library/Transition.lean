import JetVault.Library.Fallible
import Mathlib.Logic.Relation
import Mathlib.Algebra.Group.Basic

/-!
# Runs of a fallible step function

A step takes a label and a state and either fails or returns the next state. Runs are
taken in two ways: `Reaches` chains successful steps that a caller-chosen predicate admits,
`attemptAll` executes a list of labels and lets a failed step leave the state alone.
-/
namespace Transition

open Fallible

variable {σ α ε : Type}

/-- One successful step whose label is admitted in the state it starts from. -/
def Step (step : α → σ → Except ε σ) (allow : σ → α → Prop) (s t : σ) : Prop :=
  ∃ a, allow s a ∧ step a s = .ok t

/-- Finitely many admitted successful steps. -/
def Reaches (step : α → σ → Except ε σ) (allow : σ → α → Prop) : σ → σ → Prop :=
  Relation.ReflTransGen (Step step allow)

variable {step : α → σ → Except ε σ} {allow : σ → α → Prop}

theorem Reaches.refl (s : σ) : Reaches step allow s s :=
  Relation.ReflTransGen.refl

theorem Reaches.snoc {s t u : σ} (run : Reaches step allow s t) {a : α} (admitted : allow t a)
    (returned : step a t = .ok u) : Reaches step allow s u :=
  Relation.ReflTransGen.tail run ⟨a, admitted, returned⟩

theorem Reaches.trans {s t u : σ} (first : Reaches step allow s t)
    (second : Reaches step allow t u) : Reaches step allow s u :=
  Relation.ReflTransGen.trans first second

/-- Admitting more labels keeps every run. -/
theorem Reaches.mono {wider : σ → α → Prop} (weaker : ∀ s a, allow s a → wider s a) {s t : σ}
    (run : Reaches step allow s t) : Reaches step wider s t := by
  refine Relation.ReflTransGen.mono ?_ s t run
  rintro s t ⟨a, admitted, returned⟩
  exact ⟨a, weaker s a admitted, returned⟩

/-- It is enough that the steps of the run, which succeed, are admitted. -/
theorem Reaches.readmit {other : σ → α → Prop}
    (admits : ∀ s a t, allow s a → step a s = .ok t → other s a) {s t : σ}
    (run : Reaches step allow s t) : Reaches step other s t := by
  refine Relation.ReflTransGen.mono ?_ s t run
  rintro s t ⟨a, admitted, returned⟩
  exact ⟨a, admits s a t admitted returned, returned⟩

/-- What holds at the start and survives every admitted step holds at the end. -/
theorem Reaches.invariant {I : σ → Prop}
    (preserved : ∀ s a t, I s → allow s a → step a s = .ok t → I t) {s t : σ}
    (run : Reaches step allow s t) (initial : I s) : I t := by
  induction run with
  | refl => exact initial
  | tail _ last ih =>
    obtain ⟨a, admitted, returned⟩ := last
    exact preserved _ a _ ih admitted returned

/-- A quantity that no admitted step changes is the same at both ends. -/
theorem Reaches.constant {β : Type} (f : σ → β)
    (kept : ∀ s a t, allow s a → step a s = .ok t → f t = f s) {s t : σ}
    (run : Reaches step allow s t) : f t = f s := by
  apply run.invariant (I := fun u => f u = f s)
  · intro u a v same admitted returned
    exact (kept u a v admitted returned).trans same
  · rfl

/-! ## Executing a list of labels -/

/-- A failed step leaves the state as it was. -/
def attempt (step : α → σ → Except ε σ) (a : α) (s : σ) : σ :=
  match step a s with
  | .ok t => t
  | .error _ => s

def attemptAll (step : α → σ → Except ε σ) (as : List α) (s : σ) : σ :=
  as.foldl (fun s a => attempt step a s) s

theorem attemptAll_append (step : α → σ → Except ε σ) (as bs : List α) (s : σ) :
    attemptAll step (as ++ bs) s = attemptAll step bs (attemptAll step as s) :=
  List.foldl_append

/-- Every label of the list is admitted in the state it is attempted in. -/
def Admitted (step : α → σ → Except ε σ) (allow : σ → α → Prop) : List α → σ → Prop
  | [], _ => True
  | a :: as, s => allow s a ∧ Admitted step allow as (attempt step a s)

instance decidableAdmitted [∀ s a, Decidable (allow s a)] :
    ∀ (as : List α) (s : σ), Decidable (Admitted step allow as s)
  | [], _ => isTrue trivial
  | a :: as, s =>
    have := decidableAdmitted as (attempt step a s)
    inferInstanceAs (Decidable (_ ∧ _))

theorem attempt_eq_ok {a : α} {s : σ} (succeeds : (step a s).isOk = true) :
    step a s = .ok (attempt step a s) := by
  unfold attempt
  split
  next t returned => exact returned
  next e failed =>
    rw [failed] at succeeds
    cases succeeds

/-- A step that fails stands still. -/
theorem attempt_reaches {a : α} {s : σ} (admitted : allow s a) :
    Reaches step allow s (attempt step a s) := by
  unfold attempt
  split
  next t returned => exact Reaches.snoc (.refl s) admitted returned
  next => exact .refl s

/-- Attempting admitted labels, failures included, passes through admitted steps only. -/
theorem attemptAll_reaches {as : List α} {s : σ} (admitted : Admitted step allow as s) :
    Reaches step allow s (attemptAll step as s) := by
  induction as generalizing s with
  | nil => exact .refl s
  | cons a as ih => exact (attempt_reaches admitted.1).trans (ih admitted.2)

/-- A list of labels that are admitted everywhere is admitted. -/
theorem admitted_of_mem {as : List α} (always : ∀ a ∈ as, ∀ s, allow s a) (s : σ) :
    Admitted step allow as s := by
  induction as generalizing s with
  | nil => trivial
  | cons a as ih =>
    exact ⟨always a List.mem_cons_self s,
      ih (fun b member => always b (List.mem_cons_of_mem a member)) _⟩

theorem admitted_append {as bs : List α} {s : σ} :
    Admitted step allow (as ++ bs) s ↔
      Admitted step allow as s ∧ Admitted step allow bs (attemptAll step as s) := by
  induction as generalizing s with
  | nil => simp [Admitted, attemptAll]
  | cons a as ih => exact (and_congr_right fun _ => ih).trans and_assoc.symm

/-! ## Telescoping -/

variable {G : Type} [AddCommGroup G]

/-- The sum, over a run with failures, of what each label moved. -/
def flow (step : α → σ → Except ε σ) (moved : α → σ → σ → G) : List α → σ → G
  | [], _ => 0
  | a :: as, s => moved a s (attempt step a s) + flow step moved as (attempt step a s)

theorem flow_add (moved more : α → σ → σ → G) (as : List α) (s : σ) :
    flow step (fun a s t => moved a s t + more a s t) as s =
      flow step moved as s + flow step more as s := by
  induction as generalizing s with
  | nil => simp only [flow, add_zero]
  | cons a as ih => simp only [flow, ih, add_add_add_comm]

theorem flow_sub (moved back : α → σ → σ → G) (as : List α) (s : σ) :
    flow step (fun a s t => moved a s t - back a s t) as s =
      flow step moved as s - flow step back as s := by
  induction as generalizing s with
  | nil => simp only [flow, sub_zero]
  | cons a as ih => simp only [flow, ih, add_sub_add_comm]

/-- A potential that every successful step changes by exactly what it moved, while standing
still moves nothing, changes over a run by the sum of the moves. -/
theorem potential_eq_flow (potential : σ → G) (moved : α → σ → σ → G)
    (still : ∀ a s, moved a s s = 0)
    (changed : ∀ a s t, step a s = .ok t → potential t = potential s + moved a s t)
    (as : List α) (s : σ) :
    potential (attemptAll step as s) = potential s + flow step moved as s := by
  -- Induction on the labels: what the first one moved, then the rest from where it led.
  induction as generalizing s with
  | nil => simp only [attemptAll, List.foldl_nil, flow, add_zero]
  | cons a as ih =>
    have one : potential (attempt step a s) = potential s + moved a s (attempt step a s) := by
      cases returned : step a s with
      | error e => simp only [attempt, returned, still, add_zero]
      | ok t =>
        simp only [attempt, returned]
        exact changed a s t returned
    calc potential (attemptAll step (a :: as) s)
        = potential (attempt step a s) + flow step moved as (attempt step a s) := ih _
      _ = potential s + flow step moved (a :: as) s := by rw [one, flow, add_assoc]

end Transition
