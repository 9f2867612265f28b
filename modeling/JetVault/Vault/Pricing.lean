import JetVault.Library.ProRata
import JetVault.Vault.State

/-!
# Pricing

The arithmetic of the deposit and withdraw handlers. Deposits compute in checked `u128` and
truncate the quotient; withdrawals and the Jet amounts use plain `u64` operators, which wrap
in the release profile.
-/
namespace JetVault

open FixedWidth

/-- `redeemable_amount` of `deposit_vault`, a `u128`. -/
def redeemableAmount (usdcAmount supply vaultUsdc : UInt64) : Except Failure Nat :=
  -- If N_z == 0, then set P_z = 1.
  if 0 < supply then do
    let product ← tryMul128 Failure.abort usdcAmount.toNat supply.toNat
    tryDiv128 Failure.abort product vaultUsdc.toNat
  else .ok usdcAmount.toNat

/-- The amount deposited at Jet, and posted as collateral. -/
def depositTokens (usdcAmount : UInt64) : UInt64 :=
  usdcAmount * 90 / 100

def borrowTokens (usdcAmount : UInt64) : UInt64 :=
  usdcAmount / 2

def usdcEquity (vaultUsdc collateral usdcLiabilities : UInt64) : UInt64 :=
  vaultUsdc + collateral - usdcLiabilities

def usdcFxRate (usdcEquity supply : UInt64) : Except Failure UInt64 :=
  tryDiv .abort usdcEquity supply

def usdcToSendUser (redeemableAmount usdcFxRate : UInt64) : UInt64 :=
  redeemableAmount * usdcFxRate

def usdcToRepayJet (usdcLiabilities usdcToSendUser vaultUsdc : UInt64) : UInt64 :=
  min (min usdcLiabilities usdcToSendUser) vaultUsdc

theorem depositTokens_toNat (usdcAmount : UInt64) :
    (depositTokens usdcAmount).toNat = usdcAmount.toNat * 90 % 2 ^ 64 / 100 := by
  rw [depositTokens, UInt64.toNat_div, UInt64.toNat_mul]
  rfl

theorem borrowTokens_toNat (usdcAmount : UInt64) :
    (borrowTokens usdcAmount).toNat = usdcAmount.toNat / 2 :=
  UInt64.toNat_div usdcAmount 2

/-- Redeeming no more than the supply, the product does not wrap. -/
theorem usdcToSendUser_toNat {redeemableAmount supply : UInt64} (usdcEquity : UInt64)
    (held : redeemableAmount.toNat ≤ supply.toNat) :
    (usdcToSendUser redeemableAmount (usdcEquity / supply)).toNat =
      redeemableAmount.toNat * (usdcEquity.toNat / supply.toNat) := by
  have le := ProRata.payout_le_value usdcEquity.toNat held
  rw [← UInt64.toNat_div] at le ⊢
  exact toNat_mul_of_lt _ _ (le.trans_lt usdcEquity.toNat_lt)

end JetVault
