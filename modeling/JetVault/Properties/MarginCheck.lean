import JetVault.Library.Fallible
import JetVault.Zeta.Positions

/-!
# The margin check

When `check_margin_requirement` decides by the sign of the exact balance, profit and margins. Each
of its steps is checked but the three totals, so what it compares with zero is the exact integer
modulo the word.
-/
namespace JetVault.Zeta

open Fallible FixedWidth Totals

/-- The balance with all unrealized profit, less all margin. -/
def exactBuffer (balance : UInt64) (pnl : Fin 46 → Int64) (initial maintenance : Fin 46 → UInt64) :
    ℤ :=
  balance.toNat + ∑ i, (pnl i).toInt - ∑ i, ((initial i).toNat : ℤ) -
    ∑ i, ((maintenance i).toNat : ℤ)

variable {account : MarginAccount} {greeks : Greeks} {zetaGroup : ZetaGroup} {nativeSpot : UInt64}
  {sufficient : Bool}

/-- The profit and the margins of every position. -/
structure Computed (account : MarginAccount) (greeks : Greeks) (zetaGroup : ZetaGroup)
    (nativeSpot : UInt64) (pnl : Fin 46 → Int64) (initial maintenance : Fin 46 → UInt64) :
    Prop where
  pnl : ∀ i : Fin 46,
    (account.positions.get i).getUnrealizedPnl (greeks.markPrices.get i) = .ok (pnl i)
  initial : ∀ i : Fin 46, (account.positions.get i).getInitialMargin
    (greeks.markPrices.get i) (zetaGroup.products.get i) nativeSpot zetaGroup.marginParameters =
      .ok (initial i)
  maintenance : ∀ i : Fin 46, (account.positions.get i).getMaintenanceMargin
    (greeks.markPrices.get i) (zetaGroup.products.get i) nativeSpot zetaGroup.marginParameters =
      .ok (maintenance i)

/-- Three wrapped totals in one exact expression. -/
theorem buffer_eq (balance pnl initial maintenance : ℤ) {buffer : ℤ}
    (low : -2 ^ 63 ≤ buffer) (high : buffer < 2 ^ 63)
    (sums : buffer = balance + pnl.bmod (2 ^ 64) -
      (initial % 2 ^ 64 + maintenance % 2 ^ 64)) :
    buffer = (balance + pnl - initial - maintenance).bmod (2 ^ 64) := by
  obtain ⟨turns, turned⟩ := exists_turns pnl
  -- The buffer and the exact integer differ by the turns of the three totals.
  have exact : balance + pnl - initial - maintenance = buffer + (2 ^ 64 : ℕ) *
      (turns - initial / 2 ^ 64 - maintenance / 2 ^ 64) := by
    push_cast
    omega
  rw [exact, Int.add_mul_bmod_self_left, Int.bmod_eq_of_le (by omega) (by omega)]

/-- What `check_margin_requirement` compares with zero. -/
theorem checkMarginRequirement_ok
    (returned : account.checkMarginRequirement greeks zetaGroup nativeSpot = .ok sufficient) :
    ∃ pnl initial maintenance,
      Computed account greeks zetaGroup nativeSpot pnl initial maintenance ∧
      (sufficient = true ↔
        0 < (exactBuffer account.balance pnl initial maintenance).bmod (2 ^ 64)) := by
  simp only [MarginAccount.checkMarginRequirement, MarginAccount.getMarginRequirement,
    bind_eq_ok, pure_eq_ok, tryAdd_eq_ok, tryInt64_eq_ok, tryAddInt64_eq_ok, trySubInt64_eq_ok]
    at returned
  obtain ⟨profit, profits, requirement, ⟨first, initials, second, maintenances, required⟩,
    marginRequirement, narrowed, balance, balanced, covered, covers, buffer, buffered, rfl⟩ :=
    returned
  -- Unchecked, the totals are known modulo the word only.
  obtain ⟨pnl, eachPnl, profit_eq⟩ := total_toInt profits
  obtain ⟨initial, eachInitial, first_eq⟩ := total_toNat initials
  obtain ⟨maintenance, eachMaintenance, second_eq⟩ := total_toNat maintenances
  refine ⟨pnl, initial, maintenance, ⟨eachPnl, eachInitial, eachMaintenance⟩, ?_⟩
  have buffer_toInt := buffer_eq account.balance.toNat (∑ i, (pnl i).toInt)
    (∑ i, ((initial i).toNat : ℤ)) (∑ i, ((maintenance i).toNat : ℤ)) buffer.le_toInt
    buffer.toInt_lt (by omega)
  rw [exactBuffer, ← buffer_toInt, decide_eq_true_iff, Int64.lt_iff_toInt_lt, Int64.toInt_zero]

/-- The check decides by the sign of the exact buffer exactly when that integer keeps its sign as
a signed word. -/
theorem checkMarginRequirement_exact_iff
    (returned : account.checkMarginRequirement greeks zetaGroup nativeSpot = .ok sufficient) :
    ∃ pnl initial maintenance,
      Computed account greeks zetaGroup nativeSpot pnl initial maintenance ∧
      ((sufficient = true → 0 < exactBuffer account.balance pnl initial maintenance) ∧
          (sufficient = false → exactBuffer account.balance pnl initial maintenance ≤ 0) ↔
        KeepsSign (exactBuffer account.balance pnl initial maintenance)) := by
  obtain ⟨pnl, initial, maintenance, computed, decides⟩ := checkMarginRequirement_ok returned
  refine ⟨pnl, initial, maintenance, computed, ?_⟩
  rw [← bmod_pos_iff, ← decides]
  cases sufficient with
  | false => simp
  | true => simp

/-! ## An account without turns, and one with

Every product is a future with the strike set, and the spot price is `2 ^ 63`. -/

def futures (futureMarginInitial : UInt64) : ZetaGroup where
  marginParameters := ⟨futureMarginInitial, 0, 0, 0, 0, 0, 0, 0, 0, 0, 0⟩
  products := Vector.replicate 46 ⟨⟨true, 0⟩, .future⟩

def unmarked : Greeks where
  markPrices := Vector.replicate 46 0

/-- No position, and a bid for one lot in each of the first two markets. -/
def bidder : MarginAccount where
  balance := 1
  positions := Vector.ofFn fun i => ⟨0, 0, #v[if i.val < 2 then 1000 else 0, 0]⟩

theorem checkMarginRequirement_exact_iff_bidder :
    ∃ pnl initial maintenance,
      Computed bidder unmarked (futures 0) 9223372036854775808 pnl initial maintenance ∧
      ((true = true → 0 < exactBuffer bidder.balance pnl initial maintenance) ∧
          (true = false → exactBuffer bidder.balance pnl initial maintenance ≤ 0) ↔
        KeepsSign (exactBuffer bidder.balance pnl initial maintenance)) :=
  checkMarginRequirement_exact_iff (eq_ok_of_toOption (by decide +kernel))

/-- With a margin of 100 %, each bid needs `2 ^ 63`: the total is 0, and a balance of 1 covers
it. -/
theorem checkMarginRequirement_turns :
    ¬ ∀ (account : MarginAccount) (greeks : Greeks) (zetaGroup : ZetaGroup) (nativeSpot : UInt64)
      (sufficient : Bool) (pnl : Fin 46 → Int64) (initial maintenance : Fin 46 → UInt64),
      account.checkMarginRequirement greeks zetaGroup nativeSpot = .ok sufficient →
      Computed account greeks zetaGroup nativeSpot pnl initial maintenance →
      (sufficient = true → 0 < exactBuffer account.balance pnl initial maintenance) ∧
        (sufficient = false → exactBuffer account.balance pnl initial maintenance ≤ 0) := by
  intro sound
  have computed : Computed bidder unmarked (futures 100000000) 9223372036854775808 (fun _ => 0)
      (fun i => if i.val < 2 then 9223372036854775808 else 0) (fun _ => 0) := by
    constructor
    -- Each of the three is evaluated at all positions.
    all_goals
      intro i
      apply eq_ok_of_toOption
      revert i
      decide +kernel
  have passed := sound _ _ _ _ true _ _ _ (eq_ok_of_toOption (by decide +kernel)) computed
  exact absurd (passed.1 rfl) (by decide +kernel)

end JetVault.Zeta
