import JetVault.Properties.Solvency

/-!
# Dilution by deposits

`deposit_vault` converts the named amount into redeemable tokens, transfers the quotient in
USDC and mints the named amount. So a deposit pays `supply / vault_usdc` for a token, and a
withdrawal receives `(vault_usdc + collateral - loan) / supply` for it.
-/
namespace JetVault

open Transition ProRata

variable {Key : Type} {user : Key} {usdcAmount : UInt64} {s s' : Pool Key}

/-! ## The price of a deposit

The debit is `due / unit`, rounded down: the truncation to `u64` reduces the product modulo
`2 ^ 64` units. Nothing is priced while nothing is issued. -/

def Pool.due (s : Pool Key) (usdcAmount : UInt64) : ℕ :=
  if 0 < s.redeemableSupply.toNat then
    usdcAmount.toNat * s.redeemableSupply.toNat % (2 ^ 64 * s.vaultUsdc.toNat)
  else usdcAmount.toNat

def Pool.unit (s : Pool Key) : ℕ :=
  if 0 < s.redeemableSupply.toNat then s.vaultUsdc.toNat else 1

theorem debit_eq (s : Pool Key) (usdcAmount : UInt64) :
    s.debit usdcAmount = s.due usdcAmount / s.unit := by
  unfold Pool.debit Pool.due Pool.unit
  split
  next => rw [mul_comm (2 ^ 64), Nat.mod_mul_right_div_self]
  next => rw [Nat.div_one]

theorem Deposited.unit_pos (effect : Deposited user usdcAmount s s') : 0 < s.unit := by
  unfold Pool.unit
  split
  next issued => exact effect.priced issued
  next => exact Nat.zero_lt_one

/-! ## Net equity per share -/

theorem Deposited.exactEquity_eq (effect : Deposited user usdcAmount s s') :
    s'.exactEquity = s.exactEquity + s.debit usdcAmount := by
  have vaultUsdc := effect.vaultUsdc
  have collateral := effect.collateral
  have loan := effect.loan
  simp only [Pool.exactEquity]
  omega

variable [DecidableEq Key]

/-- A deposit into a vault with a supply keeps the net equity per share exactly when some
whole price covers the net equity of the minted tokens and is not above
`usdc_amount * supply / vault_usdc` (reduced as the conversion to `u64` reduces it). -/
theorem deposit_keeps_equity_per_share_iff {clock : Int64} (issued : 0 < s.redeemableSupply)
    (returned : depositVault Jet.ideal clock user usdcAmount s = .ok s') :
    s.netEquity * s'.redeemableSupply.toNat ≤ s'.netEquity * s.redeemableSupply.toNat ↔
      ∃ price : ℕ, s.netEquity * usdcAmount.toNat ≤ price * s.redeemableSupply.toNat ∧
        price * s.vaultUsdc.toNat ≤
          usdcAmount.toNat * s.redeemableSupply.toNat % (2 ^ 64 * s.vaultUsdc.toNat) := by
  have effect := depositVault_ok user returned
  have issued := (FixedWidth.pos_iff _).mp issued
  -- The minted tokens are paid for at the old net equity per share.
  have fair : PerShareLE s.book s'.book ↔
      s.netEquity * usdcAmount.toNat ≤
        (s.debit usdcAmount : ℕ) * s.redeemableSupply.toNat := by
    rw [effect.book_eq, perShareLE_issue_iff]
    exact Iff.rfl
  rw [debit_eq, ← exists_price_iff effect.unit_pos] at fair
  simpa only [PerShareLE, Pool.book, Pool.due, Pool.unit, if_pos issued] using fair

/-- A vault whose first depositor made a small deposit and then a large one. -/
def crowdedWorld : Pool Trader :=
  smallWorldAfter [.initializeUserRedeemableTokenAccount .early, .depositVault .early 10,
    .depositVault .early 1000, .initializeUserRedeemableTokenAccount .late]

def crowdedWorld' : Pool Trader :=
  attempt (exec Jet.ideal) (inWindow (.depositVault .late 100)) crowdedWorld

theorem crowdedWorld_deposit :
    depositVault Jet.ideal 15 .late 100 crowdedWorld = .ok crowdedWorld' :=
  show exec Jet.ideal (inWindow (.depositVault .late 100)) crowdedWorld = _ from
    attempt_eq_ok (by decide)

theorem deposit_keeps_equity_per_share_iff_crowdedWorld :
    crowdedWorld.netEquity * crowdedWorld'.redeemableSupply.toNat ≤
        crowdedWorld'.netEquity * crowdedWorld.redeemableSupply.toNat ↔
      ∃ price : ℕ, crowdedWorld.netEquity * (100 : UInt64).toNat ≤
          price * crowdedWorld.redeemableSupply.toNat ∧
        price * crowdedWorld.vaultUsdc.toNat ≤
          (100 : UInt64).toNat * crowdedWorld.redeemableSupply.toNat %
            (2 ^ 64 * crowdedWorld.vaultUsdc.toNat) :=
  deposit_keeps_equity_per_share_iff (by decide) crowdedWorld_deposit

/-- The second depositor pays 79 for 100 tokens that stand for 165 units of net equity. -/
theorem deposit_dilutes :
    ¬ ∀ (s t t' : Pool Trader) (clock : Int64) (user : Trader) (usdcAmount : UInt64),
      Fresh s → Reaches (exec Jet.ideal) Instruction s t → 0 < t.redeemableSupply →
      depositVault Jet.ideal clock user usdcAmount t = .ok t' →
      t.netEquity * t'.redeemableSupply.toNat ≤ t'.netEquity * t.redeemableSupply.toNat := by
  intro keeps
  have kept := keeps smallWorld crowdedWorld crowdedWorld' 15 .late 100 smallWorld_fresh
    (attemptAll_reaches (by decide)) (by decide) crowdedWorld_deposit
  exact absurd kept (by decide)

/-! ## Round trips -/

/-- Depositing an amount and redeeming the tokens just minted brings no profit exactly when
some whole rate is affordable at the deposit's price and not below the withdrawal's rate. -/
theorem roundTrip_no_profit_iff {clock clock' : Int64} {t : Pool Key}
    (deposit : depositVault Jet.ideal clock user usdcAmount s = .ok s')
    (withdrawal : withdrawVault Jet.ideal clock' user usdcAmount s' = .ok t) :
    t.userUsdc user ≤ s.userUsdc user ↔
      ∃ rate : ℕ, usdcAmount.toNat * rate * s.unit ≤ s.due usdcAmount ∧
        (s.exactEquity * s.unit + s.due usdcAmount) % (2 ^ 64 * s.unit) <
          (rate + 1) * (s.redeemableSupply.toNat + usdcAmount.toNat) * s.unit := by
  have entered := depositVault_ok user deposit
  have left := withdrawVault_ok user withdrawal
  have debited := entered.userUsdc
  have credited := left.userUsdc
  have issued := left.issued
  have held : usdcAmount.toNat ≤ s'.redeemableSupply.toNat :=
    (Nat.le_add_left _ _).trans left.supply.le
  -- The withdrawal reads the equity the deposit left: more by the debit, whatever Jet moved.
  have equity : s'.equity.toNat =
      ((s.exactEquity + (s.due usdcAmount / s.unit : ℕ)) % (2 ^ 64 : ℕ)).toNat := by
    rw [← debit_eq, ← entered.exactEquity_eq]
    have wrapped := equity_toInt s'
    push_cast
    omega
  have profit : t.userUsdc user ≤ s.userUsdc user ↔
      (s'.payout usdcAmount).toNat ≤ s.due usdcAmount / s.unit := by
    rw [UInt64.le_iff_toNat_le, ← debit_eq]
    omega
  rw [entered.supply] at issued
  rw [profit, payout_toNat held, equity, entered.supply,
    payout_le_price_iff _ entered.unit_pos (by norm_num) issued]
  norm_cast

/-- The second depositor of the crowded world leaves at once, with 100 for the 79. -/
def profitWorld : Pool Trader :=
  attempt (exec Jet.ideal) (inWindow (.withdrawVault .late 100)) crowdedWorld'

theorem crowdedWorld_withdrawal :
    withdrawVault Jet.ideal 15 .late 100 crowdedWorld' = .ok profitWorld :=
  show exec Jet.ideal (inWindow (.withdrawVault .late 100)) crowdedWorld' = _ from
    attempt_eq_ok (by decide)

theorem roundTrip_no_profit_iff_crowdedWorld :
    profitWorld.userUsdc .late ≤ crowdedWorld.userUsdc .late ↔
      ∃ rate : ℕ, (100 : UInt64).toNat * rate * crowdedWorld.unit ≤ crowdedWorld.due 100 ∧
        (crowdedWorld.exactEquity * crowdedWorld.unit + crowdedWorld.due 100) %
            (2 ^ 64 * crowdedWorld.unit) <
          (rate + 1) * (crowdedWorld.redeemableSupply.toNat + (100 : UInt64).toNat) *
            crowdedWorld.unit :=
  roundTrip_no_profit_iff crowdedWorld_deposit crowdedWorld_withdrawal

theorem roundTrip_profits :
    ¬ ∀ (s t t' u : Pool Trader) (clock clock' : Int64) (user : Trader) (usdcAmount : UInt64),
      Fresh s → Reaches (exec Jet.ideal) AnyCall s t → t.shares user = 0 →
      depositVault Jet.ideal clock user usdcAmount t = .ok t' →
      withdrawVault Jet.ideal clock' user usdcAmount t' = .ok u →
      u.userUsdc user ≤ t.userUsdc user := by
  intro fair
  have lost := fair smallWorld crowdedWorld crowdedWorld' profitWorld 15 15 .late 100
    smallWorld_fresh (attemptAll_reaches (by decide)) (by decide) crowdedWorld_deposit
    crowdedWorld_withdrawal
  exact absurd lost (by decide)

end JetVault
