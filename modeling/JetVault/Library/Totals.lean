import JetVault.Library.Fallible
import Mathlib.Algebra.BigOperators.Fin
import Mathlib.Data.UInt

/-!
# Totals

Sums of machine words, where a summand can fail to be computed. The sum itself wraps: it is the
exact sum modulo the word, and need not have its sign.
-/
namespace Totals

open Fallible

variable {ε α β : Type}

/-- Add up what `f` computes, from the front. -/
def total [Zero β] [Add β] (f : α → Except ε β) (l : List α) : Except ε β :=
  l.foldlM (fun sum a => do
    let b ← f a
    return sum + b) 0

/-- What `f` computes; 0 where it fails. -/
def value [Zero β] (f : α → Except ε β) (a : α) : β :=
  (f a).toOption.getD 0

theorem value_eq [Zero β] {f : α → Except ε β} {a : α} {b : β} (computed : f a = .ok b) :
    value f a = b := by
  rw [value, computed]
  rfl

/-- A total is computed only if every summand is. -/
theorem foldlM_ok [Zero β] [Add β] {f : α → Except ε β} {l : List α} {sum sum' : β}
    (returned : l.foldlM (fun sum a => do
      let b ← f a
      return sum + b) sum = .ok sum') :
    (∀ a ∈ l, f a = .ok (value f a)) ∧ sum' = l.foldl (fun sum a => sum + value f a) sum := by
  induction l generalizing sum with
  | nil =>
    cases returned
    exact ⟨List.forall_mem_nil _, rfl⟩
  | cons a l ih =>
    simp only [List.foldlM_cons, bind_eq_ok, pure_eq_ok] at returned
    obtain ⟨_, ⟨b, computed, rfl⟩, rest⟩ := returned
    obtain ⟨all, sums⟩ := ih rest
    refine ⟨List.forall_mem_cons.mpr ⟨by rw [value_eq computed, computed], all⟩, ?_⟩
    rw [List.foldl_cons, value_eq computed, sums]

/-- A total is computed where every summand is. -/
theorem foldlM_eq_ok [Add β] {f : α → Except ε β} {g : α → β} {l : List α}
    (computed : ∀ a ∈ l, f a = .ok (g a)) (sum : β) :
    l.foldlM (fun sum a => do
      let b ← f a
      return sum + b) sum = .ok (l.foldl (fun sum a => sum + g a) sum) := by
  induction l generalizing sum with
  | nil => rfl
  | cons a l ih =>
    obtain ⟨first, rest⟩ := List.forall_mem_cons.mp computed
    rw [List.foldlM_cons, first, List.foldl_cons]
    exact ih rest (sum + g a)

/-- Nothing adds up to nothing. -/
theorem total_eq_zero [Zero β] [Add β] (neutral : (0 : β) + 0 = 0) {f : α → Except ε β}
    {l : List α} (computed : ∀ a ∈ l, f a = .ok 0) : total f l = .ok 0 := by
  rw [total, foldlM_eq_ok computed]
  congr 1
  induction l with
  | nil => rfl
  | cons a l ih =>
    rw [List.foldl_cons, neutral]
    exact ih (List.forall_mem_cons.mp computed).2

theorem toNat_foldl (g : α → UInt64) (l : List α) (sum : UInt64) :
    ((l.foldl (fun sum a => sum + g a) sum).toNat : ℤ) =
      (sum.toNat + (l.map fun a => ((g a).toNat : ℤ)).sum) % 2 ^ 64 := by
  induction l generalizing sum with
  | nil =>
    have bound := sum.toNat_lt
    simp only [List.foldl_nil, List.map_nil, List.sum_nil]
    omega
  | cons a l ih =>
    rw [List.foldl_cons, ih, List.map_cons, List.sum_cons, UInt64.toNat_add]
    push_cast
    rw [Int.emod_add_emod, add_assoc]

theorem toInt_foldl (g : α → Int64) (l : List α) (sum : Int64) :
    (l.foldl (fun sum a => sum + g a) sum).toInt =
      (sum.toInt + (l.map fun a => (g a).toInt).sum).bmod (2 ^ 64) := by
  induction l generalizing sum with
  | nil =>
    have low := sum.le_toInt
    have high := sum.toInt_lt
    simp only [List.foldl_nil, List.map_nil, List.sum_nil, add_zero]
    exact (Int.bmod_eq_of_le (by omega) (by omega)).symm
  | cons a l ih =>
    rw [List.foldl_cons, ih, List.map_cons, List.sum_cons, Int64.toInt_add, Int.bmod_add_bmod,
      add_assoc]

variable {n : ℕ}

/-- A total of unsigned words. -/
theorem total_toNat {f : Fin n → Except ε UInt64} {sum : UInt64}
    (returned : total f (List.finRange n) = .ok sum) :
    ∃ g : Fin n → UInt64, (∀ i, f i = .ok (g i)) ∧
      (sum.toNat : ℤ) = (∑ i, ((g i).toNat : ℤ)) % 2 ^ 64 := by
  obtain ⟨computed, rfl⟩ := foldlM_ok returned
  refine ⟨value f, fun i => computed i (List.mem_finRange i), ?_⟩
  rw [toNat_foldl, UInt64.toNat_zero, Nat.cast_zero, zero_add, Fin.sum_univ_def]

/-- A total of unsigned words that are computed; it does not wrap where the exact sum fits. -/
theorem exists_total {f : Fin n → Except ε UInt64} {g : Fin n → UInt64}
    (computed : ∀ i, f i = .ok (g i)) (fits : ∑ i, (g i).toNat < 2 ^ 64) :
    ∃ sum, total f (List.finRange n) = .ok sum ∧ sum.toNat = ∑ i, (g i).toNat := by
  refine ⟨_, foldlM_eq_ok (fun i _ => computed i) 0, ?_⟩
  have exact := toNat_foldl g (List.finRange n) 0
  rw [UInt64.toNat_zero, Nat.cast_zero, zero_add, ← Fin.sum_univ_def,
    ← Nat.cast_sum] at exact
  omega

/-- A total of signed words. -/
theorem total_toInt {f : Fin n → Except ε Int64} {sum : Int64}
    (returned : total f (List.finRange n) = .ok sum) :
    ∃ g : Fin n → Int64, (∀ i, f i = .ok (g i)) ∧
      sum.toInt = (∑ i, (g i).toInt).bmod (2 ^ 64) := by
  obtain ⟨computed, rfl⟩ := foldlM_ok returned
  refine ⟨value f, fun i => computed i (List.mem_finRange i), ?_⟩
  rw [toInt_foldl, Int64.toInt_zero, zero_add, Fin.sum_univ_def]

/-! ## The sign of a wrapped total -/

/-- Read as a signed word, the integer keeps its sign: away from zero, it is less than half a turn
past a whole number of turns. -/
def KeepsSign (x : ℤ) : Prop :=
  (∃ turns : ℕ, 2 ^ 64 * turns < x ∧ x < 2 ^ 64 * turns + 2 ^ 63) ∨
    ∃ turns : ℕ, -(2 ^ 64 * turns) - 2 ^ 63 ≤ x ∧ x ≤ -(2 ^ 64 * turns)

theorem exists_turns (x : ℤ) : ∃ turns : ℤ, x = x.bmod (2 ^ 64) + 2 ^ 64 * turns :=
  ⟨x.bdiv (2 ^ 64), (Int.bmod_add_bdiv x (2 ^ 64)).symm⟩

theorem bmod_pos_iff (x : ℤ) : (0 < x.bmod (2 ^ 64) ↔ 0 < x) ↔ KeepsSign x := by
  obtain ⟨turns, turned⟩ := exists_turns x
  have low := Int.le_bmod (x := x) (m := 2 ^ 64) (by decide)
  have high := Int.bmod_lt (x := x) (m := 2 ^ 64) (by decide)
  generalize x.bmod (2 ^ 64) = rest at *
  constructor
  -- Half a turn either way, the rest has the sign of the integer only on its own side of zero.
  · intro same
    rcases lt_or_ge 0 x with positive | negative
    · have front := same.mpr positive
      exact Or.inl ⟨turns.toNat, by omega, by omega⟩
    · have back : ¬ 0 < rest := fun front => absurd (same.mp front) (by omega)
      exact Or.inr ⟨(-turns).toNat, by omega, by omega⟩
  · rintro (⟨k, lower, upper⟩ | ⟨k, lower, upper⟩)
    · constructor <;> intro <;> omega
    · constructor <;> intro <;> omega

end Totals
