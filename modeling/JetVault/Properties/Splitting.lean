import JetVault.Properties.Amounts
import JetVault.Properties.Liquidity

/-!
# Splitting a withdrawal

Two withdrawals in a row against one of the same tokens. The whole rate leaves a remainder of the
equity undistributed: once the first call has burned its tokens, the remainder can make up a
whole unit for each of the tokens left, and the second call is priced higher.
-/
namespace JetVault

open Transition ProRata

variable {Key : Type} {user : Key} {clock clock' clock'' : Int64}
  {part rest : UInt64} {t t' u v : Pool Key}

/-- Redeeming a part does not raise the whole rate: the remainder of the equity and one unit for
each burned token stay below the supply and the repayment together. In the second case the
equity that is left is negative and wraps. -/
def Pool.RateNotRaised (t : Pool Key) (part : UInt64) : Prop :=
  ∃ rate : ℕ, rate * t.redeemableSupply.toNat ≤ t.exactEquity % 2 ^ 64 ∧
    t.exactEquity % 2 ^ 64 < (rate + 1) * t.redeemableSupply.toNat ∧
    (t.drawn part.toNat rate ≤ t.exactEquity % 2 ^ 64 ∧
        t.exactEquity % 2 ^ 64 + part.toNat < (rate + 1) * t.redeemableSupply.toNat +
          min t.loanAccount.toNat (part.toNat * rate) ∨
      t.exactEquity % 2 ^ 64 < t.drawn part.toNat rate ∧
        2 ^ 64 + t.exactEquity % 2 ^ 64 + part.toNat < (rate + 1) * t.redeemableSupply.toNat +
          min t.loanAccount.toNat (part.toNat * rate))

theorem Withdrawn.rate_le_iff (effect : Withdrawn user clock part t t')
    (remaining : 0 < t'.redeemableSupply.toNat) :
    t'.equity.toNat / t'.redeemableSupply.toNat ≤ t.equity.toNat / t.redeemableSupply.toNat ↔
      t.RateNotRaised part := by
  have payout := payout_toNat effect.held
  have repayment := effect.repayment_eq
  have before := equity_toInt t
  have after := equity_toInt t'
  have bound := t.equity.toNat_lt
  have drawn := effect.vaultUsdc
  have liquid := t.vaultUsdc.toNat_lt
  rw [effect.exactEquity_eq] at after
  have supply := congrArg (t.equity.toNat / t.redeemableSupply.toNat * ·) effect.supply
  simp only [mul_add] at supply
  rw [mul_comm _ part.toNat, ← payout] at supply
  have supplied := effect.supply
  rw [Pool.RateNotRaised, ← before]
  norm_cast
  rw [exists_whole_rate_iff (P := fun rate =>
      t.drawn part.toNat rate ≤ t.equity.toNat ∧
          t.equity.toNat + part.toNat < (rate + 1) * t.redeemableSupply.toNat +
            min t.loanAccount.toNat (part.toNat * rate) ∨
        t.equity.toNat < t.drawn part.toNat rate ∧
          2 ^ 64 + t.equity.toNat + part.toNat < (rate + 1) * t.redeemableSupply.toNat +
            min t.loanAccount.toNat (part.toNat * rate)) effect.issued, Pool.drawn, ← payout,
    ← repayment, ← Nat.lt_succ_iff, Nat.div_lt_iff_lt_mul remaining, Nat.succ_eq_add_one,
    add_one_mul, add_one_mul]
  -- The equity left is the difference, or the difference is negative and wraps.
  omega

variable [DecidableEq Key]

/-- Two withdrawals pay at most what one withdrawal of both parts pays exactly when the first of
them does not raise the whole rate. -/
theorem splitting_gains_nothing_iff (positive : 0 < rest)
    (single : withdrawVault Jet.ideal clock user (part + rest) t = .ok v)
    (first : withdrawVault Jet.ideal clock' user part t = .ok t')
    (second : withdrawVault Jet.ideal clock'' user rest t' = .ok u) :
    u.userUsdc user ≤ v.userUsdc user ↔ t.RateNotRaised part := by
  have whole := withdrawVault_ok user single
  have former := withdrawVault_ok user first
  have latter := withdrawVault_ok user second
  rw [← former.rate_le_iff latter.issued]
  have positive := (FixedWidth.pos_iff _).mp positive
  -- The holder had both parts, so their sum does not wrap.
  have both : (part + rest).toNat = part.toNat + rest.toNat := by
    have bound := (t.shares user).toNat_lt
    have left := former.shares
    have left' := latter.shares
    rw [UInt64.toNat_add, Nat.mod_eq_of_lt (by omega)]
  have paid := whole.userUsdc
  have paidFirst := former.userUsdc
  have paidSecond := latter.userUsdc
  rw [payout_toNat whole.held, both, add_mul] at paid
  rw [payout_toNat former.held] at paidFirst
  rw [payout_toNat latter.held] at paidSecond
  rw [UInt64.le_iff_toNat_le, paid, paidSecond, paidFirst, add_assoc, add_le_add_iff_left,
    add_le_add_iff_left]
  exact Nat.mul_le_mul_left_iff positive

/-- The parted world after twenty tokens were redeemed at once, and ten by ten. -/
def singleWorld : Pool Trader :=
  attempt (exec Jet.ideal) (inWindow (.withdrawVault .early 20)) partedWorld

def splitWorld : Pool Trader :=
  attempt (exec Jet.ideal) (inWindow (.withdrawVault .early 10)) partedWorld'

theorem partedWorld_single : withdrawVault Jet.ideal 15 .early 20 partedWorld = .ok singleWorld :=
  show exec Jet.ideal (inWindow (.withdrawVault .early 20)) partedWorld = _ from
    attempt_eq_ok (by decide)

theorem partedWorld_split : withdrawVault Jet.ideal 15 .early 10 partedWorld' = .ok splitWorld :=
  show exec Jet.ideal (inWindow (.withdrawVault .early 10)) partedWorld' = _ from
    attempt_eq_ok (by decide)

theorem splitting_gains_nothing_iff_partedWorld :
    splitWorld.userUsdc .early ≤ singleWorld.userUsdc .early ↔ partedWorld.RateNotRaised 10 :=
  splitting_gains_nothing_iff (by decide) partedWorld_single partedWorld_withdrawal
    partedWorld_split

/-- Twenty of ninety tokens are paid nothing at once; ten by ten they are paid 10. -/
theorem splitting_gains :
    ¬ ∀ (s t t' u v : Pool Trader) (clock clock' clock'' : Int64) (user : Trader)
      (part rest : UInt64), Fresh s → Reaches (exec Jet.ideal) AnyCall s t → 0 < part →
      0 < rest → part.toNat + rest.toNat ≤ (t.shares user).toNat →
      withdrawVault Jet.ideal clock user (part + rest) t = .ok v →
      withdrawVault Jet.ideal clock' user part t = .ok t' →
      withdrawVault Jet.ideal clock'' user rest t' = .ok u →
      u.userUsdc user ≤ v.userUsdc user := by
  intro nothing
  have gained := nothing smallWorld partedWorld partedWorld' splitWorld singleWorld 15 15 15 .early
    10 10 smallWorld_fresh (partedWorld_reached.mono fun _ _ _ => trivial) (by decide) (by decide)
    (by decide) partedWorld_single partedWorld_withdrawal partedWorld_split
  exact absurd gained (by decide)

end JetVault
