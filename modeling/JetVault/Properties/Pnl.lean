import JetVault.Library.Fallible
import JetVault.Zeta.Positions
import Mathlib.Tactic.Ring

/-!
# Unrealized profit

What a long position gains, the short position on the other side of its trades loses, to the
unit. The value of a position is rounded towards zero, which treats both sides alike.
-/
namespace JetVault.Zeta

open Fallible FixedWidth

variable {position long short : Position} {mark : UInt64} {pnl : Int64}

/-- The value of a position at a mark price, rounded towards zero. -/
def exactValue (size : ℤ) (mark : ℕ) : ℤ :=
  (size * mark).tdiv positionPrecisionDenominator

/-- What the trades of a position have brought in: a long has paid for them. -/
def Position.received (position : Position) : ℤ :=
  if 0 < position.position then -position.costOfTrades.toNat else position.costOfTrades.toNat

theorem exactValue_neg (size : ℤ) (mark : ℕ) :
    exactValue (-size) mark = -exactValue size mark := by
  rw [exactValue, exactValue, Int.neg_mul, Int.neg_tdiv]

theorem exactValue_mono {size : ℤ} (long : 0 ≤ size) {low high : ℕ} (rises : low ≤ high) :
    exactValue size low ≤ exactValue size high := by
  apply Int.tdiv_le_tdiv (by decide)
  exact Int.mul_le_mul_of_nonneg_left (Int.ofNat_le.mpr rises) long

/-- A profit that is computed is the exact one. -/
theorem getUnrealizedPnl_ok (opened : position.position ≠ 0)
    (computed : position.getUnrealizedPnl mark = .ok pnl) :
    pnl.toInt = exactValue position.position.toInt mark.toNat + position.received := by
  rw [Position.getUnrealizedPnl, if_neg opened] at computed
  unfold Position.received
  split at computed
  next long =>
    simp only [bind_eq_ok, tryInt128_eq_ok, tryInt64_eq_ok] at computed
    obtain ⟨_, ⟨_, _, rfl⟩, _, ⟨_, _, rfl⟩, _, ⟨_, _, rfl⟩, value⟩ := computed
    rw [if_pos long]
    exact value
  next short =>
    simp only [bind_eq_ok, tryInt128_eq_ok, tryInt64_eq_ok] at computed
    obtain ⟨_, ⟨_, _, rfl⟩, _, ⟨_, _, rfl⟩, _, ⟨_, _, rfl⟩, value⟩ := computed
    rw [if_neg short]
    exact value

/-- Two positions of the same size and cost on opposite sides. -/
structure Opposite (long short : Position) : Prop where
  opened : 0 < long.position.toInt
  position : short.position = -long.position
  cost : short.costOfTrades = long.costOfTrades

namespace Opposite

theorem toInt_eq (opposite : Opposite long short) :
    short.position.toInt = -long.position.toInt := by
  have positive := opposite.opened
  have high := long.position.toInt_lt
  rw [opposite.position, Int64.toInt_neg, Int.bmod_eq_of_le (by omega) (by omega)]

theorem received_eq (opposite : Opposite long short) : short.received = -long.received := by
  have positive := opposite.opened
  have negative := opposite.toInt_eq
  have bid : 0 < long.position := by rwa [Int64.lt_iff_toInt_lt, Int64.toInt_zero]
  have ask : ¬ 0 < short.position := by
    rw [Int64.lt_iff_toInt_lt, Int64.toInt_zero]
    omega
  rw [Position.received, Position.received, if_pos bid, if_neg ask, opposite.cost, Int.neg_neg]

theorem ne_zero (opposite : Opposite long short) :
    long.position ≠ 0 ∧ short.position ≠ 0 := by
  have positive := opposite.opened
  have negative := opposite.toInt_eq
  simp only [ne_eq, ← Int64.toInt_inj, Int64.toInt_zero]
  omega

end Opposite

/-- The profits of both sides add up to nothing, and a higher mark price is never worse for the
long side, nor better for the short side. -/
theorem unrealizedPnl_zero_sum {low high : UInt64} (opposite : Opposite long short)
    (rises : low ≤ high) :
    (∀ gain loss, long.getUnrealizedPnl low = .ok gain → short.getUnrealizedPnl low = .ok loss →
        gain.toInt + loss.toInt = 0) ∧
      (∀ before after, long.getUnrealizedPnl low = .ok before →
        long.getUnrealizedPnl high = .ok after → before ≤ after) ∧
      ∀ before after, short.getUnrealizedPnl low = .ok before →
        short.getUnrealizedPnl high = .ok after → after ≤ before := by
  obtain ⟨bid, ask⟩ := opposite.ne_zero
  have value := exactValue_mono opposite.opened.le (UInt64.le_iff_toNat_le.mp rises)
  refine ⟨?_, ?_, ?_⟩
  · intro gain loss gained lost
    rw [getUnrealizedPnl_ok bid gained, getUnrealizedPnl_ok ask lost, opposite.toInt_eq,
      exactValue_neg, opposite.received_eq]
    ring
  · intro before after first second
    rw [Int64.le_iff_toInt_le, getUnrealizedPnl_ok bid first, getUnrealizedPnl_ok bid second]
    omega
  · intro before after first second
    rw [Int64.le_iff_toInt_le, getUnrealizedPnl_ok ask first, getUnrealizedPnl_ok ask second,
      opposite.toInt_eq, exactValue_neg, exactValue_neg]
    omega

/-- Half a lot, bought at a price of 30. -/
def boughtHalfLot : Position := ⟨500, 15, #v[0, 0]⟩

def soldHalfLot : Position := ⟨-500, 15, #v[0, 0]⟩

/-- The marks 20 and 41, of which the second does not give a whole value. -/
theorem unrealizedPnl_zero_sum_halfLot :
    (-5 : Int64).toInt + (5 : Int64).toInt = 0 ∧ (-5 : Int64) ≤ 5 ∧ (-5 : Int64) ≤ 5 := by
  have opposite : Opposite boughtHalfLot soldHalfLot := ⟨by decide, by decide, by decide⟩
  obtain ⟨sum, long, short⟩ := unrealizedPnl_zero_sum opposite (by decide : (20 : UInt64) ≤ 41)
  refine ⟨sum _ _ ?_ ?_, long _ _ ?_ ?_, short _ _ ?_ ?_⟩
  all_goals exact eq_ok_of_toOption (by decide +kernel)

end JetVault.Zeta
