import JetVault.Properties.Solvency

/-!
# Leaving the vault

A withdrawal repays the loan and releases the same amount of collateral, but the released notes
stay in the deposit account, which no later withdrawal counts. What this costs the holders who
stay, the holder who leaves, and the vault whose last holder has left.
-/
namespace JetVault

open Transition ProRata

variable {Key : Type} {user : Key} {clock : Int64} {redeemableAmount : UInt64} {s s' : Pool Key}

/-! ## The next caller's rate -/

theorem Withdrawn.held (effect : Withdrawn user clock redeemableAmount s s') :
    redeemableAmount.toNat ≤ s.redeemableSupply.toNat :=
  (Nat.le_add_left _ _).trans effect.supply.le

/-- `vault_usdc` paid both, so its own balance was not the least of the three. -/
theorem Withdrawn.repayment_eq (effect : Withdrawn user clock redeemableAmount s s') :
    (s.repayment redeemableAmount).toNat =
      min s.loanAccount.toNat (s.payout redeemableAmount).toNat := by
  have drawn := effect.vaultUsdc
  have repayment := repayment_toNat s redeemableAmount
  omega

theorem Withdrawn.exactEquity_eq (effect : Withdrawn user clock redeemableAmount s s') :
    s'.exactEquity =
      s.exactEquity - (s.repayment redeemableAmount).toNat - (s.payout redeemableAmount).toNat := by
  have vaultUsdc := effect.vaultUsdc
  have collateral := effect.collateral
  have loan := effect.loan
  simp only [Pool.exactEquity]
  omega

variable [DecidableEq Key]

/-- A withdrawal does not lower the rate of the next caller exactly when what the whole rate
leaves undistributed pays for the repayment, or when the equity that is left wraps. -/
theorem withdrawal_keeps_rate_iff
    (returned : withdrawVault Jet.ideal clock user redeemableAmount s = .ok s')
    (remaining : 0 < s'.redeemableSupply) :
    s.rate ≤ s'.rate ↔
      ∃ rate : ℕ, rate * s.redeemableSupply.toNat ≤ s.exactEquity % 2 ^ 64 ∧
        s.exactEquity % 2 ^ 64 < (rate + 1) * s.redeemableSupply.toNat ∧
        (rate * s.redeemableSupply.toNat +
              min s.loanAccount.toNat (redeemableAmount.toNat * rate) ≤ s.exactEquity % 2 ^ 64 ∨
          s.exactEquity % 2 ^ 64 < redeemableAmount.toNat * rate +
            min s.loanAccount.toNat (redeemableAmount.toNat * rate)) := by
  have effect := withdrawVault_ok user returned
  have payout := payout_toNat effect.held
  have repayment := effect.repayment_eq
  have drawn := effect.vaultUsdc
  have bound := s.vaultUsdc.toNat_lt
  have before := equity_toInt s
  have after := equity_toInt s'
  rw [effect.exactEquity_eq] at after
  have supply := congrArg (s.equity.toNat / s.redeemableSupply.toNat * ·) effect.supply
  simp only [mul_add] at supply
  -- The next rate is not lower when the shares left, at the old rate, fit into what is left.
  rw [UInt64.le_iff_toNat_le, rate_toNat, rate_toNat,
    Nat.le_div_iff_mul_le ((FixedWidth.pos_iff _).mp remaining), ← before]
  norm_cast
  rw [exists_whole_rate_iff (P := fun rate => rate * s.redeemableSupply.toNat +
        min s.loanAccount.toNat (redeemableAmount.toNat * rate) ≤ s.equity.toNat ∨
      s.equity.toNat < redeemableAmount.toNat * rate +
        min s.loanAccount.toNat (redeemableAmount.toNat * rate)) effect.issued, ← payout,
    ← repayment]
  rw [mul_comm _ redeemableAmount.toNat, ← payout] at supply
  have fits := Nat.div_mul_le_self s.equity.toNat s.redeemableSupply.toNat
  -- Either the equity left is the difference, or the difference is negative and wraps.
  omega

/-- The lone world after its depositor redeemed ten of the hundred. -/
def partedWorld : Pool Trader :=
  attempt (exec Jet.ideal) (inWindow (.withdrawVault .early 10)) loneWorld

theorem loneWorld_withdrawal : withdrawVault Jet.ideal 15 .early 10 loneWorld = .ok partedWorld :=
  show exec Jet.ideal (inWindow (.withdrawVault .early 10)) loneWorld = _ from
    attempt_eq_ok (by decide)

theorem withdrawal_keeps_rate_iff_loneWorld :
    loneWorld.rate ≤ partedWorld.rate ↔
      ∃ rate : ℕ, rate * loneWorld.redeemableSupply.toNat ≤ loneWorld.exactEquity % 2 ^ 64 ∧
        loneWorld.exactEquity % 2 ^ 64 < (rate + 1) * loneWorld.redeemableSupply.toNat ∧
        (rate * loneWorld.redeemableSupply.toNat +
              min loneWorld.loanAccount.toNat ((10 : UInt64).toNat * rate) ≤
            loneWorld.exactEquity % 2 ^ 64 ∨
          loneWorld.exactEquity % 2 ^ 64 < (10 : UInt64).toNat * rate +
            min loneWorld.loanAccount.toNat ((10 : UInt64).toNat * rate)) :=
  withdrawal_keeps_rate_iff loneWorld_withdrawal (by decide)

/-- The first withdrawal is priced at 1, the next one at 0. -/
theorem withdrawal_lowers_rate :
    ¬ ∀ (s t t' : Pool Trader) (clock : Int64) (user : Trader) (redeemableAmount : UInt64),
      Fresh s → Reaches (exec Jet.ideal) Instruction s t →
      withdrawVault Jet.ideal clock user redeemableAmount t = .ok t' → 0 < t'.redeemableSupply →
      t.rate ≤ t'.rate := by
  intro keeps
  have kept := keeps smallWorld loneWorld partedWorld 15 .early 10 smallWorld_fresh
    loneWorld_reached loneWorld_withdrawal (by decide)
  exact absurd kept (by decide)

/-! ## The holder who leaves -/

omit [DecidableEq Key] in
theorem isSome_of_shares (holds : 0 < (s.shares user).toNat) : (s.userRedeemable user).isSome := by
  cases absent : s.userRedeemable user with
  | none => simp [Pool.shares, absent] at holds
  | some _ => rfl

/-- At the given whole rate, `vault_usdc` covers payout and repayment, and the collateral account
covers the repayment. -/
def Pool.Covers (s : Pool Key) (redeemed rate : ℕ) : Prop :=
  redeemed * rate + min s.loanAccount.toNat (redeemed * rate) ≤ s.vaultUsdc.toNat ∧
    min s.loanAccount.toNat (redeemed * rate) ≤ s.collateralAccount.toNat

omit [DecidableEq Key] in
/-- A lower rate is easier to cover. -/
theorem covers_of_le (redeemed p q : ℕ) (le : p ≤ q) (covers : s.Covers redeemed q) :
    s.Covers redeemed p := by
  have scaled := Nat.mul_le_mul_left redeemed le
  obtain ⟨covered, posted⟩ := covers
  constructor
  · omega
  · omega

/-- In a vault whose books are in order, redeeming everything a user holds succeeds exactly
when the vault covers a whole rate not below the one the equity gives. -/
theorem Accounted.withdrawal_succeeds_iff [Fintype Key] (accounted : Accounted s)
    (window : InWindow clock s.vault) (holds : 0 < (s.shares user).toNat) :
    (∃ s', withdrawVault Jet.ideal clock user (s.shares user) s = .ok s') ↔
      ∃ rate : ℕ, s.exactEquity % 2 ^ 64 < (rate + 1) * s.redeemableSupply.toNat ∧
        s.Covers (s.shares user).toNat rate := by
  have supplied := accounted.shares_le user
  have issued : 0 < s.redeemableSupply.toNat := holds.trans_le supplied
  have repayment := repayment_toNat s (s.shares user)
  rw [← equity_toInt]
  norm_cast
  rw [exists_rate_iff (covers_of_le _) issued, Pool.Covers, ← payout_toNat supplied,
    withdrawVault_succeeds_iff]
  -- The caps on the USDC and the notes in existence leave only the two balances to run short.
  have usdcMint := accounted.usdcMint
  have notesMint := accounted.notesMint
  have wallet := Accounted.userUsdc_le (s := s) user
  constructor
  · rintro ⟨_, _, _, _, _, covered, posted, _⟩
    omega
  · rintro ⟨covered, posted⟩
    exact ⟨isSome_of_shares holds, window, le_refl _, issued, supplied, by omega, by omega,
      by omega, by omega, by omega⟩

theorem opening_keeps {s t : Pool Key} (opened : Reaches (exec Jet.ideal) Opening s t) :
    (t.toBalances, t.redeemableSupply) = (s.toBalances, s.redeemableSupply) := by
  apply opened.constant fun u : Pool Key => (u.toBalances, u.redeemableSupply)
  rintro u ⟨clock, call⟩ v opening returned
  cases call with
  | initializeUserRedeemableTokenAccount user =>
    obtain ⟨_, rfl⟩ := (show Opened u v from exec_effect returned).accounts
    rfl
  | _ => cases opening

/-- What the first deposit into a vault leaves. -/
structure FirstDeposit (user : Key) (usdcAmount : UInt64) (t : Pool Key) : Prop where
  vaultUsdc : t.vaultUsdc.toNat + (depositTokens usdcAmount).toNat =
    usdcAmount.toNat + (borrowTokens usdcAmount).toNat
  collateral : t.collateralAccount.toNat = (depositTokens usdcAmount).toNat
  loan : t.loanAccount.toNat = (borrowTokens usdcAmount).toNat
  supply : t.redeemableSupply.toNat = usdcAmount.toNat
  shares : (t.shares user).toNat = usdcAmount.toNat

theorem FirstDeposit.of_opening [Fintype Key] {usdcAmount : UInt64} {s t u : Pool Key}
    (fresh : Fresh s) (opened : Reaches (exec Jet.ideal) Opening s t)
    (returned : depositVault Jet.ideal clock user usdcAmount t = .ok u) :
    FirstDeposit user usdcAmount u := by
  have effect := depositVault_ok user returned
  have shares := (Accounted.of_reaches fresh opened).shares_le user
  obtain ⟨balances, supply⟩ := Prod.mk.inj (opening_keeps opened)
  have vaultUsdc : t.vaultUsdc.toNat = 0 := by
    rw [balances, fresh.vaultUsdc, UInt64.toNat_zero]
  have collateral : t.collateralAccount.toNat = 0 := by
    rw [balances, fresh.collateralAccount, UInt64.toNat_zero]
  have loan : t.loanAccount.toNat = 0 := by
    rw [balances, fresh.loanAccount, UInt64.toNat_zero]
  have supply : t.redeemableSupply.toNat = 0 := by
    rw [supply, fresh.redeemableSupply, UInt64.toNat_zero]
  have debit : t.debit usdcAmount = usdcAmount.toNat := if_neg (by omega)
  have moved := effect.vaultUsdc
  have posted := effect.collateral
  have owed := effect.loan
  have minted := effect.supply
  have credited := effect.shares
  exact ⟨by omega, by omega, by omega, by omega, by omega⟩

namespace FirstDeposit

variable {usdcAmount : UInt64}

omit [DecidableEq Key]

/-- The first depositor is priced at one for one. -/
theorem payout_eq (first : FirstDeposit user usdcAmount s) (positive : 0 < usdcAmount.toNat) :
    (s.payout usdcAmount).toNat = usdcAmount.toNat := by
  have vaultUsdc := first.vaultUsdc
  have collateral := first.collateral
  have loan := first.loan
  have bound := usdcAmount.toNat_lt
  have equity := equity_toInt s
  have exact : s.equity.toNat = usdcAmount.toNat := by
    rw [Pool.exactEquity] at equity
    omega
  rw [payout_toNat first.supply.ge, exact, first.supply, Nat.div_self positive, mul_one]

/-- The vault keeps so little of the first deposit that it cannot repay anything and pay the
depositor too; nothing is owed only where half of the deposit is nothing. -/
theorem succeeds_iff [Fintype Key] [DecidableEq Key] (accounted : Accounted s)
    (first : FirstDeposit user usdcAmount s) (positive : 0 < usdcAmount.toNat)
    (window : InWindow clock s.vault) :
    (∃ s', withdrawVault Jet.ideal clock user usdcAmount s = .ok s') ↔ usdcAmount.toNat = 1 := by
  have payout := first.payout_eq positive
  have repayment := repayment_toNat s usdcAmount
  have vaultUsdc := first.vaultUsdc
  have collateral := first.collateral
  have loan := first.loan
  rw [depositTokens_toNat] at vaultUsdc collateral
  rw [borrowTokens_toNat] at vaultUsdc loan
  rw [withdrawVault_succeeds_iff]
  constructor
  -- Where 90 % of the amount does not wrap, `vault_usdc` is short; where it wraps to nothing
  -- posted, the collateral account is.
  · rintro ⟨_, _, _, _, _, covered, posted, _⟩
    omega
  · intro one
    have usdcMint := accounted.usdcMint
    have notesMint := accounted.notesMint
    have wallet := Accounted.userUsdc_le (s := s) user
    have supply := first.supply
    exact ⟨isSome_of_shares (first.shares ▸ positive), window, first.shares.ge, by omega,
      by omega, by omega, by omega, by omega, by omega, by omega⟩

end FirstDeposit

/-- Redeeming everything a user holds, inside the window. In a reachable state it succeeds
exactly when the two balances suffice; the sole depositor is repaid in full only after a
deposit of one unit. -/
theorem holder_leaves_iff [Fintype Key] {s : Pool Key} (fresh : Fresh s) :
    (∀ (t : Pool Key) (clock : Int64) (user : Key), Reaches (exec Jet.ideal) Instruction s t →
      InWindow clock t.vault → 0 < t.shares user →
      ((∃ u, withdrawVault Jet.ideal clock user (t.shares user) t = .ok u) ↔
        ∃ rate : ℕ, t.exactEquity % 2 ^ 64 < (rate + 1) * t.redeemableSupply.toNat ∧
          t.Covers (t.shares user).toNat rate)) ∧
    ∀ (t u : Pool Key) (clock clock' : Int64) (user : Key) (usdcAmount : UInt64),
      Reaches (exec Jet.ideal) Opening s t → 0 < usdcAmount →
      depositVault Jet.ideal clock user usdcAmount t = .ok u → InWindow clock' u.vault →
      ((∃ v, withdrawVault Jet.ideal clock' user usdcAmount u = .ok v ∧
          (v.userUsdc user).toNat = (u.userUsdc user).toNat + usdcAmount.toNat ∧
          v.vaultUsdc = 0) ↔ usdcAmount = 1) := by
  constructor
  · intro t clock user run window holds
    exact (Accounted.of_reaches fresh run).withdrawal_succeeds_iff window
      ((FixedWidth.pos_iff _).mp holds)
  · intro t u clock clock' user usdcAmount opened positive returned window
    have positive := (FixedWidth.pos_iff _).mp positive
    have first := FirstDeposit.of_opening fresh opened returned
    have accounted := (Accounted.of_reaches fresh opened).deposited (depositVault_ok user returned)
    rw [← UInt64.toNat_inj, show (1 : UInt64).toNat = 1 from rfl,
      ← first.succeeds_iff accounted positive window]
    constructor
    · rintro ⟨v, left, _⟩
      exact ⟨v, left⟩
    · rintro ⟨v, left⟩
      have one := (first.succeeds_iff accounted positive window).mp ⟨v, left⟩
      have effect := withdrawVault_ok user left
      have credited := effect.userUsdc
      have drawn := effect.vaultUsdc
      have vaultUsdc := first.vaultUsdc
      rw [first.payout_eq positive] at credited drawn
      rw [borrowTokens_toNat] at vaultUsdc
      have emptied : v.vaultUsdc = 0 := by
        rw [← UInt64.toNat_inj, UInt64.toNat_zero]
        omega
      exact ⟨v, left, credited, emptied⟩

/-- The open world after a deposit of one unit. -/
def pennyWorld : Pool Trader :=
  attempt (exec Jet.ideal) (inWindow (.depositVault .early 1)) openWorld

theorem openWorld_deposit : depositVault Jet.ideal 15 .early 1 openWorld = .ok pennyWorld :=
  show exec Jet.ideal (inWindow (.depositVault .early 1)) openWorld = _ from
    attempt_eq_ok (by decide)

theorem holder_leaves_iff_smallWorld :
    ((∃ u, withdrawVault Jet.ideal 15 .early (loneWorld.shares .early) loneWorld = .ok u) ↔
      ∃ rate : ℕ, loneWorld.exactEquity % 2 ^ 64 < (rate + 1) * loneWorld.redeemableSupply.toNat ∧
        loneWorld.Covers (loneWorld.shares .early).toNat rate) ∧
    ((∃ v, withdrawVault Jet.ideal 15 .early 1 pennyWorld = .ok v ∧
        (v.userUsdc .early).toNat = (pennyWorld.userUsdc .early).toNat + (1 : UInt64).toNat ∧
        v.vaultUsdc = 0) ↔ (1 : UInt64) = 1) :=
  ⟨(holder_leaves_iff smallWorld_fresh).1 loneWorld 15 .early loneWorld_reached (by decide)
      (by decide),
    (holder_leaves_iff smallWorld_fresh).2 openWorld pennyWorld 15 15 .early 1
      (attemptAll_reaches (by decide)) (by decide) openWorld_deposit (by decide)⟩

/-- The depositor of a hundred cannot leave: 60 of it stayed in `vault_usdc`. -/
theorem holder_cannot_leave :
    ¬ ∀ (s t : Pool Trader) (clock : Int64) (user : Trader), Fresh s →
      Reaches (exec Jet.ideal) Instruction s t → InWindow clock t.vault → 0 < t.shares user →
      ∃ u, withdrawVault Jet.ideal clock user (t.shares user) t = .ok u := by
  intro leaves
  obtain ⟨u, returned⟩ := leaves smallWorld loneWorld 15 .early smallWorld_fresh loneWorld_reached
    (by decide) (by decide)
  have fails : (withdrawVault Jet.ideal 15 .early (loneWorld.shares .early)
      loneWorld).isOk = false := by
    decide
  rw [returned] at fails
  cases fails

/-! ## The vault whose last holder has left -/

/-- Redeeming the whole supply pays the whole net equity: no note waits in the deposit account
and the supply divides the rest. The last case is the one in which the equity wraps. -/
def LeavesNothing (s : Pool Key) : Prop :=
  s.depositAccount = 0 ∧ 0 ≤ s.exactEquity ∧ (s.redeemableSupply.toNat : ℤ) ∣ s.exactEquity ∨
    s.exactEquity < 0 ∧
      s.depositAccount.toNat + (2 ^ 64 + s.exactEquity) % s.redeemableSupply.toNat = 2 ^ 64

instance (s : Pool Key) : Decidable (LeavesNothing s) :=
  inferInstanceAs (Decidable (_ ∨ _))

omit [DecidableEq Key] in
theorem Withdrawn.netEquity_eq_zero_iff [Fintype Key] (accounted : Accounted s)
    (effect : Withdrawn user clock redeemableAmount s s')
    (everything : redeemableAmount = s.redeemableSupply) :
    s'.netEquity = 0 ↔ LeavesNothing s := by
  have after : s'.netEquity = s.netEquity - (s.payout redeemableAmount).toNat :=
    congrArg Book.value effect.book_eq
  have payout := payout_toNat effect.held
  have divided := Nat.div_add_mod s.equity.toNat s.redeemableSupply.toNat
  have bound := accounted.netEquity_lt
  have le := exactEquity_le_netEquity s
  have equity := equity_toInt s
  have net : s.netEquity = s.exactEquity + s.depositAccount.toNat := by
    rw [Balances.netEquity, Pool.exactEquity]
    ring
  have zero : s.depositAccount = 0 ↔ s.depositAccount.toNat = 0 := by
    rw [← UInt64.toNat_inj, UInt64.toNat_zero]
  have low : -2 ^ 64 < s.exactEquity := by
    have owed := s.loanAccount.toNat_lt
    rw [Pool.exactEquity]
    omega
  rw [everything] at payout after
  rw [LeavesNothing, zero]
  -- The payout is the equity read less its remainder; only a negative equity is read wrapped.
  rcases lt_or_ge s.exactEquity 0 with wraps | exact
  · have wrapped : 2 ^ 64 + s.exactEquity = s.equity.toNat := by omega
    rw [wrapped]
    norm_cast
    omega
  · have unwrapped : s.exactEquity = s.equity.toNat := by omega
    have fits : (s.redeemableSupply.toNat : ℤ) ∣ s.exactEquity ↔
        s.equity.toNat % s.redeemableSupply.toNat = 0 := by
      rw [unwrapped, Int.natCast_dvd_natCast, Nat.dvd_iff_mod_eq_zero]
    rw [fits]
    omega

/-- Instructions of this program that redeem the whole supply only where nothing is left. -/
def CleanExit (s : Pool Key) (tx : Tx Key) : Prop :=
  tx.call.isTransfer = false ∧
    (tx.call.redeemableAmount = some s.redeemableSupply → LeavesNothing s)

instance (s : Pool Key) (tx : Tx Key) : Decidable (CleanExit s tx) :=
  inferInstanceAs (Decidable (_ ∧ (_ → _)))

/-- A vault with its books in order that holds nothing once no redeemable token is left. -/
structure Owned [Fintype Key] (s : Pool Key) : Prop extends Accounted s where
  owned : s.redeemableSupply.toNat = 0 → s.netEquity = 0

theorem Owned.step [Fintype Key] {tx : Tx Key} (vault : Owned s) (clean : CleanExit s tx)
    (returned : exec Jet.ideal tx s = .ok s') : Owned s' := by
  refine { vault.toAccounted.step returned with owned := fun empty => ?_ }
  have effect := exec_effect returned
  obtain ⟨clock, call⟩ := tx
  obtain ⟨instruction, clean⟩ := clean
  cases call with
  | initializeUserRedeemableTokenAccount user =>
    obtain ⟨_, rfl⟩ := (show Opened s s' from effect).accounts
    exact vault.owned empty
  | depositVault user usdcAmount =>
    -- Only a deposit of nothing into a vault without a supply leaves it without one.
    have effect : Deposited user usdcAmount s s' := effect
    have supply := effect.supply
    have debit : s.debit usdcAmount = usdcAmount.toNat := if_neg (by omega)
    have after : s'.netEquity = s.netEquity + (s.debit usdcAmount : ℕ) :=
      congrArg Book.value effect.book_eq
    have before := vault.owned (by omega)
    omega
  | withdrawVault user redeemableAmount =>
    have effect : Withdrawn user clock redeemableAmount s s' := effect
    have supply := effect.supply
    have everything : redeemableAmount = s.redeemableSupply := by
      rw [← UInt64.toNat_inj]
      omega
    exact (effect.netEquity_eq_zero_iff vault.toAccounted everything).mpr
      (clean (congrArg some everything))
  | transferUsdc user amount => cases instruction

/-- In every run whose full redemptions leave nothing, no net equity is left where no
redeemable token is. -/
theorem no_supply_no_equity [Fintype Key] {s t : Pool Key} (fresh : Fresh s)
    (run : Reaches (exec Jet.ideal) CleanExit s t) (redeemed : t.redeemableSupply = 0) :
    t.netEquity = 0 := by
  have vault : Owned t :=
    run.invariant (fun _ _ _ vault clean returned => vault.step clean returned)
      { Accounted.of_fresh fresh with owned := fun _ => fresh.netEquity_eq }
  exact vault.owned (by rw [redeemed, UInt64.toNat_zero])

/-- The open world after a deposit of one unit and its redemption. -/
def emptiedWorld : Pool Trader :=
  smallWorldAfter [.initializeUserRedeemableTokenAccount .early, .depositVault .early 1,
    .withdrawVault .early 1]

theorem no_supply_no_equity_emptiedWorld : emptiedWorld.netEquity = 0 :=
  no_supply_no_equity smallWorld_fresh (attemptAll_reaches (by decide)) (by decide)

/-- The lone depositor redeems in two parts: the second part is priced at 0. -/
def orphanedWorld : Pool Trader :=
  smallWorldAfter [.initializeUserRedeemableTokenAccount .early, .depositVault .early 100,
    .withdrawVault .early 10, .withdrawVault .early 90]

theorem equity_left_without_supply :
    ¬ ∀ s t : Pool Trader, Fresh s → Reaches (exec Jet.ideal) Instruction s t →
      t.redeemableSupply = 0 → t.netEquity = 0 := by
  intro owned
  have nothing := owned smallWorld orphanedWorld smallWorld_fresh (attemptAll_reaches (by decide))
    (by decide)
  exact absurd nothing (by decide)

end JetVault
