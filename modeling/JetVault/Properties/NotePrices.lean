import JetVault.Vault.Run
import Mathlib.Algebra.Order.Field.Rat
import Mathlib.Tactic.FieldSimp

/-!
# Note prices

A Jet note is worth an amount of USDC that grows with interest. `withdraw_vault` counts notes
as if each were worth one unit; what that costs or gains the vault, for any prices and any
behaviour of the Jet calls.
-/
namespace JetVault

open Fallible FixedWidth ProRata Transition

variable {Key : Type}

/-- The value of everything the vault owns, less its debt, at the given note prices. -/
def Balances.trueEquity (depositPrice loanPrice : ℚ) (b : Balances) : ℚ :=
  b.vaultUsdc.toNat + depositPrice * (b.depositAccount.toNat + b.collateralAccount.toNat) -
    loanPrice * b.loanAccount.toNat

/-- What the whole rate distributes is worth at most the true equity exactly when the debt's
interest is covered: by the interest of the collateral, by the notes in the deposit account,
and by what the whole rate leaves out. The last term is what a wrap of the equity adds. -/
theorem distributed_le_trueEquity_iff (s : Pool Key) (depositPrice loanPrice : ℚ) :
    ((s.equity.toNat - s.equity.toNat % s.redeemableSupply.toNat : ℕ) : ℚ) ≤
        s.trueEquity depositPrice loanPrice ↔
      (loanPrice - 1) * s.loanAccount.toNat ≤
        (depositPrice - 1) * s.collateralAccount.toNat + depositPrice * s.depositAccount.toNat +
          (s.exactEquity % 2 ^ 64 % s.redeemableSupply.toNat : ℤ) +
          2 ^ 64 * (s.exactEquity / 2 ^ 64 : ℤ) := by
  have turns := Int.mul_ediv_add_emod s.exactEquity (2 ^ 64)
  rw [← equity_toInt] at turns ⊢
  -- The equity read is the integer less a whole number of words.
  generalize s.exactEquity / 2 ^ 64 = wraps at *
  have exact : (2 ^ 64 * wraps + s.equity.toNat : ℚ) =
      s.vaultUsdc.toNat + s.collateralAccount.toNat - s.loanAccount.toNat := by
    rw [Pool.exactEquity] at turns
    exact_mod_cast congrArg (Int.cast : ℤ → ℚ) turns
  rw [Nat.cast_sub (Nat.mod_le _ _), Balances.trueEquity, ← Int.natCast_mod, Int.cast_natCast]
  constructor <;> intro covered <;> linarith

variable [DecidableEq Key] {user : Key} {clock : Int64} {redeemableAmount : UInt64}
  {s s' : Pool Key}

/-- The payout is within the holder's part of the true equity exactly when nothing is redeemed
or the interest of the debt is covered. -/
theorem payout_within_trueEquity_iff {jet : Jet} {depositPrice loanPrice : ℚ}
    (returned : withdrawVault jet clock user redeemableAmount s = .ok s') :
    ((s'.userUsdc user).toNat : ℚ) - (s.userUsdc user).toNat ≤
        redeemableAmount.toNat * s.trueEquity depositPrice loanPrice / s.redeemableSupply.toNat ↔
      redeemableAmount = 0 ∨
        (loanPrice - 1) * s.loanAccount.toNat ≤
          (depositPrice - 1) * s.collateralAccount.toNat + depositPrice * s.depositAccount.toNat +
            (s.exactEquity % 2 ^ 64 % s.redeemableSupply.toNat : ℤ) +
            2 ^ 64 * (s.exactEquity / 2 ^ 64 : ℤ) := by
  obtain ⟨issued, held, credited⟩ := withdrawVault_pays user returned
  have positive : (0 : ℚ) < s.redeemableSupply.toNat := by exact_mod_cast issued
  have whole : s.equity.toNat / s.redeemableSupply.toNat * s.redeemableSupply.toNat =
      s.equity.toNat - s.equity.toNat % s.redeemableSupply.toNat :=
    Nat.div_mul_self_eq_mod_sub_self
  -- Cleared of denominators, both sides are multiples of the amount redeemed.
  rw [← distributed_le_trueEquity_iff, ← whole, credited, payout_toNat held, le_div_iff₀ positive]
  rcases eq_or_ne redeemableAmount 0 with rfl | some_redeemed
  · simp
  have redeemed : (0 : ℚ) < redeemableAmount.toNat := by
    refine Nat.cast_pos.mpr (Nat.pos_of_ne_zero fun zero => some_redeemed ?_)
    rw [← UInt64.toNat_inj, zero, UInt64.toNat_zero]
  push_cast
  rw [or_iff_right some_redeemed, add_sub_cancel_left, mul_assoc, mul_le_mul_iff_right₀ redeemed]

/-! ## A Jet whose notes have a price -/

namespace Jet.Priced

variable (price tokens : UInt64) (b : Balances)

def deposit : Except Failure Balances := do
  let source ← trySub .jet b.vaultUsdc tokens
  let reserve ← tryAdd .jet b.jetVault tokens
  let notes ← tryAdd .jet b.depositAccount (tokens / price)
  let _ ← tryAdd .jet notes b.collateralAccount
  return { b with vaultUsdc := source, jetVault := reserve, depositAccount := notes }

def depositCollateral : Except Failure Balances := do
  let notes ← trySub .jet b.depositAccount (tokens / price)
  let collateral ← tryAdd .jet b.collateralAccount (tokens / price)
  return { b with depositAccount := notes, collateralAccount := collateral }

def borrow : Except Failure Balances := do
  let reserve ← trySub .jet b.jetVault tokens
  let receiver ← tryAdd .jet b.vaultUsdc tokens
  let loan ← tryAdd .jet b.loanAccount (tokens / price)
  return { b with jetVault := reserve, vaultUsdc := receiver, loanAccount := loan }

def repay : Except Failure Balances := do
  let payer ← trySub .jet b.vaultUsdc tokens
  let reserve ← tryAdd .jet b.jetVault tokens
  let loan ← trySub .jet b.loanAccount (tokens / price)
  return { b with vaultUsdc := payer, jetVault := reserve, loanAccount := loan }

def withdrawCollateral : Except Failure Balances := do
  let collateral ← trySub .jet b.collateralAccount (tokens / price)
  let notes ← tryAdd .jet b.depositAccount (tokens / price)
  return { b with collateralAccount := collateral, depositAccount := notes }

end Jet.Priced

/-- Every call moves the named amount of USDC, and the notes worth it at whole-number prices. -/
def Jet.priced (depositPrice loanPrice : UInt64) : Jet where
  initObligation := .ok
  initDepositAccount := .ok
  initCollateralAccount := .ok
  initLoanAccount := .ok
  refreshReserve := .ok
  deposit := Jet.Priced.deposit depositPrice
  depositCollateral := Jet.Priced.depositCollateral depositPrice
  borrow := Jet.Priced.borrow loanPrice
  repay := Jet.Priced.repay loanPrice
  withdrawCollateral := Jet.Priced.withdrawCollateral depositPrice

/-- The lone world with its debt doubled by interest, after ten of the hundred are redeemed. -/
def dearWorld : Pool Trader :=
  attempt (exec (Jet.priced 1 2)) (inWindow (.withdrawVault .early 10)) loneWorld

theorem loneWorld_dear_withdrawal :
    withdrawVault (Jet.priced 1 2) 15 .early 10 loneWorld = .ok dearWorld :=
  show exec (Jet.priced 1 2) (inWindow (.withdrawVault .early 10)) loneWorld = _ from
    attempt_eq_ok (by decide)

theorem payout_within_trueEquity_iff_loneWorld :
    ((dearWorld.userUsdc .early).toNat : ℚ) - (loneWorld.userUsdc .early).toNat ≤
        (10 : UInt64).toNat * loneWorld.trueEquity 1 2 / loneWorld.redeemableSupply.toNat ↔
      (10 : UInt64) = 0 ∨
        ((2 : ℚ) - 1) * loneWorld.loanAccount.toNat ≤
          (1 - 1) * loneWorld.collateralAccount.toNat + 1 * loneWorld.depositAccount.toNat +
            (loneWorld.exactEquity % 2 ^ 64 % loneWorld.redeemableSupply.toNat : ℤ) +
            2 ^ 64 * (loneWorld.exactEquity / 2 ^ 64 : ℤ) :=
  payout_within_trueEquity_iff loneWorld_dear_withdrawal

/-- Ten of the hundred tokens are paid 10, where their part of the true equity is 5. -/
theorem payout_exceeds_trueEquity :
    ¬ ∀ (depositPrice loanPrice : UInt64) (s s' : Pool Trader) (clock : Int64) (user : Trader)
      (redeemableAmount : UInt64), 1 ≤ depositPrice → 1 ≤ loanPrice → 0 < s.redeemableSupply →
      0 ≤ s.trueEquity depositPrice.toNat loanPrice.toNat →
      withdrawVault (Jet.priced depositPrice loanPrice) clock user redeemableAmount s = .ok s' →
      ((s'.userUsdc user).toNat : ℚ) - (s.userUsdc user).toNat ≤
        redeemableAmount.toNat * s.trueEquity depositPrice.toNat loanPrice.toNat /
          s.redeemableSupply.toNat := by
  intro within
  have paid := within 1 2 loneWorld dearWorld 15 .early 10 (by decide) (by decide) (by decide)
    (by decide +kernel) loneWorld_dear_withdrawal
  exact absurd paid (by decide +kernel)

end JetVault
