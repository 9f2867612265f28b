import Mathlib.Algebra.Order.Ring.Int
import Mathlib.Algebra.Order.Ring.Nat
import Mathlib.Tactic.Linarith
import Mathlib.Tactic.LinearCombination
import Mathlib.Tactic.Positivity
import Mathlib.Tactic.Ring

/-!
# Value divided into shares

A book holds an amount of value and a number of shares. Issuing shares for value, or
redeeming shares for value, is fair to the other holders when the value of one share does
not fall. The comparison is cross-multiplied, so that it needs no division.
-/
namespace ProRata

structure Book (R : Type) where
  value : R
  shares : R

variable {R : Type} [CommRing R] [LinearOrder R] [IsStrictOrderedRing R]

/-- One share of `p` is worth at most one share of `q`. -/
def PerShareLE (p q : Book R) : Prop :=
  p.value * q.shares ≤ q.value * p.shares

def Book.issue (p : Book R) (paid minted : R) : Book R :=
  ⟨p.value + paid, p.shares + minted⟩

def Book.redeem (p : Book R) (paid burned : R) : Book R :=
  ⟨p.value - paid, p.shares - burned⟩

omit [IsStrictOrderedRing R] in
theorem PerShareLE.refl (p : Book R) : PerShareLE p p :=
  le_refl (p.value * p.shares)

/-- Comparisons chain through a book that still has shares. -/
theorem PerShareLE.trans {p q r : Book R} (left : PerShareLE p q) (right : PerShareLE q r)
    (issued : 0 < q.shares) (before : 0 ≤ p.shares) (after : 0 ≤ r.shares) : PerShareLE p r := by
  have scaled := mul_le_mul_of_nonneg_right left after
  have scaled' := mul_le_mul_of_nonneg_left right before
  -- Multiply both comparisons by the missing number of shares and cancel the one in between.
  apply le_of_mul_le_mul_right (a := q.shares) _ issued
  calc p.value * r.shares * q.shares
      = p.value * q.shares * r.shares := by ring
    _ ≤ q.value * p.shares * r.shares := scaled
    _ = p.shares * (q.value * r.shares) := by ring
    _ ≤ p.shares * (r.value * q.shares) := scaled'
    _ = r.value * p.shares * q.shares := by ring

/-- An issue is fair exactly when the new shares are paid for at the old value per share. -/
theorem perShareLE_issue_iff (p : Book R) (paid minted : R) :
    PerShareLE p (p.issue paid minted) ↔ p.value * minted ≤ paid * p.shares := by
  simp only [PerShareLE, Book.issue, mul_add, add_mul, add_le_add_iff_left]

/-- A redemption is fair exactly when it pays at most the old value of the shares burned. -/
theorem perShareLE_redeem_iff (p : Book R) (paid burned : R) :
    PerShareLE p (p.redeem paid burned) ↔ paid * p.shares ≤ p.value * burned := by
  simp only [PerShareLE, Book.redeem, mul_sub, sub_mul, sub_le_sub_iff_left]

/-! ## Whole prices and rates -/

/-- A payout at the whole rate `value / shares` is at most the exact pro-rata amount. -/
theorem payout_mul_le (burned value shares : ℕ) :
    burned * (value / shares) * shares ≤ burned * value := by
  rw [mul_assoc]
  exact Nat.mul_le_mul_left burned (Nat.div_mul_le_self value shares)

/-- Redeeming no more than all shares pays no more than all value. -/
theorem payout_le_value {burned shares : ℕ} (value : ℕ) (held : burned ≤ shares) :
    burned * (value / shares) ≤ value :=
  (Nat.mul_le_mul_right _ held).trans (Nat.mul_div_le value shares)

/-- The payout at the whole rate is the exact pro-rata amount rounded down exactly when what the
whole rate leaves undistributed comes to less than one unit for the burned shares. -/
theorem payout_eq_floor_iff (burned value : ℕ) {shares : ℕ} (issued : 0 < shares) :
    burned * (value / shares) = burned * value / shares ↔ burned * (value % shares) < shares := by
  have split : burned * value =
      shares * (burned * (value / shares)) + burned * (value % shares) := by
    calc burned * value = burned * (shares * (value / shares) + value % shares) := by
          rw [Nat.div_add_mod]
      _ = shares * (burned * (value / shares)) + burned * (value % shares) := by ring
  rw [split, Nat.mul_add_div issued, Nat.left_eq_add, Nat.div_eq_zero_iff_lt issued]

/-- A quotient rounded down is within one unit of the exact one. -/
theorem abs_floor_mul_sub_lt (value : ℤ) {shares : ℤ} (issued : 0 < shares) :
    |value / shares * shares - value| < shares := by
  have low := Int.emod_nonneg value issued.ne'
  have high := Int.emod_lt_of_pos value issued
  have divided := Int.ediv_mul_add_emod value shares
  rw [abs_lt]
  constructor
  · linarith
  · linarith

/-- Something that gets harder as the rate grows holds at the whole rate exactly when it
holds at some rate not below it. -/
theorem exists_rate_iff {P : ℕ → Prop} (easier : ∀ p q, p ≤ q → P q → P p) {value shares : ℕ}
    (issued : 0 < shares) : (∃ q, value < (q + 1) * shares ∧ P q) ↔ P (value / shares) := by
  constructor
  · rintro ⟨q, below, holds⟩
    exact easier _ q (Nat.lt_succ_iff.mp (Nat.div_lt_of_lt_mul (by linarith))) holds
  · intro holds
    exact ⟨_, by linarith [Nat.lt_mul_div_succ value issued], holds⟩

/-- The whole rate is the one whole number of times that the shares fit into the value. -/
theorem exists_whole_rate_iff {P : ℕ → Prop} {value shares : ℕ} (issued : 0 < shares) :
    (∃ q, q * shares ≤ value ∧ value < (q + 1) * shares ∧ P q) ↔ P (value / shares) := by
  constructor
  · rintro ⟨q, fits, below, holds⟩
    rwa [Nat.div_eq_of_lt_le fits below]
  · intro holds
    exact ⟨_, Nat.div_mul_le_self value shares, by linarith [Nat.lt_mul_div_succ value issued],
      holds⟩

/-- The price `due / unit` rounded down still covers `owed` exactly when some whole price
does that is not above the exact one. -/
theorem exists_price_iff {owed : ℤ} {due unit shares : ℕ} (priced : 0 < unit) :
    (∃ k : ℕ, owed ≤ k * shares ∧ k * unit ≤ due) ↔ owed ≤ (due / unit : ℕ) * shares := by
  constructor
  · rintro ⟨k, covers, affordable⟩
    have le : k ≤ due / unit := (Nat.le_div_iff_mul_le priced).mpr affordable
    have scaled : (k : ℤ) * shares ≤ (due / unit : ℕ) * shares := by
      exact_mod_cast Nat.mul_le_mul_right shares le
    exact covers.trans scaled
  · intro covers
    exact ⟨due / unit, covers, Nat.div_mul_le_self due unit⟩

/-- Reducing modulo a whole number of units keeps the part below one unit. -/
theorem emod_add_price (value : ℤ) (due : ℕ) {unit modulus : ℕ} (priced : 0 < unit)
    (bounded : 0 < modulus) :
    (value * unit + due) % (modulus * unit) =
      (value + (due / unit : ℕ)) % modulus * unit + (due % unit : ℕ) := by
  have split : (due : ℤ) = unit * (due / unit : ℕ) + (due % unit : ℕ) := by
    exact_mod_cast (Nat.div_add_mod due unit).symm
  have part : ((due % unit : ℕ) : ℤ) < unit := by exact_mod_cast Nat.mod_lt due priced
  have positive : (0 : ℤ) < modulus := by exact_mod_cast bounded
  have decomposed := Int.mul_ediv_add_emod (value + (due / unit : ℕ)) modulus
  have low := Int.emod_nonneg (value + (due / unit : ℕ)) positive.ne'
  have high := Int.emod_lt_of_pos (value + (due / unit : ℕ)) positive
  generalize (value + (due / unit : ℕ)) % modulus = rest at *
  generalize (value + (due / unit : ℕ)) / modulus = turns at *
  -- The sum is its remainder and a whole number of words, each a whole number of units.
  have whole : value * unit + due =
      rest * unit + (due % unit : ℕ) + modulus * unit * turns := by
    calc value * unit + due
        = (value + (due / unit : ℕ)) * unit + (due % unit : ℕ) := by linear_combination split
      _ = rest * unit + (due % unit : ℕ) + modulus * unit * turns := by rw [← decomposed]; ring
  rw [whole, Int.add_mul_emod_self_left]
  apply Int.emod_eq_of_lt
  · positivity
  · nlinarith

/-- Shares bought at the price `due / unit`, rounded down, and redeemed at the whole rate of
what the book then holds bring no profit exactly when some whole rate is not above the price
and not below the rate of the redemption. -/
theorem payout_le_price_iff (value : ℤ) {bought due unit shares modulus : ℕ} (priced : 0 < unit)
    (bounded : 0 < modulus) (issued : 0 < shares) :
    bought * (((value + (due / unit : ℕ)) % modulus).toNat / shares) ≤ due / unit ↔
      ∃ rate : ℕ, bought * rate * unit ≤ due ∧
        (value * unit + due) % (modulus * unit) < (rate + 1) * shares * unit := by
  have positive : (0 : ℤ) < modulus := by exact_mod_cast bounded
  have low := Int.emod_nonneg (value + (due / unit : ℕ)) positive.ne'
  rw [emod_add_price value due priced bounded]
  generalize (value + (due / unit : ℕ)) % modulus = held at *
  lift held to ℕ using low
  have easier : ∀ p q, p ≤ q → bought * q ≤ due / unit → bought * p ≤ due / unit :=
    fun p q le affordable => (Nat.mul_le_mul_left bought le).trans affordable
  rw [Int.toNat_natCast, ← exists_rate_iff easier issued]
  refine exists_congr fun rate => ?_
  rw [Nat.le_div_iff_mul_le priced, and_comm]
  refine and_congr_right fun _ => ?_
  have part := Nat.mod_lt due priced
  have unscaled : held * unit + due % unit < (rate + 1) * shares * unit ↔
      held < (rate + 1) * shares := by
    constructor
    · intro below
      exact Nat.lt_of_mul_lt_mul_right ((Nat.le_add_right _ _).trans_lt below)
    · intro below
      calc held * unit + due % unit < held * unit + unit := Nat.add_lt_add_left part _
        _ = (held + 1) * unit := by ring
        _ ≤ (rate + 1) * shares * unit := Nat.mul_le_mul_right unit below
  rw [← unscaled]
  exact_mod_cast Iff.rfl

end ProRata
