import JetVault.Properties.Conservation

/-!
# Solvency

While deposits stay below the wrap of their 90 %, the loan never exceeds the collateral. The
equity that prices a withdrawal is then a true amount, not above the net equity, so that no
withdrawal takes more than its share.
-/
namespace JetVault

open Transition ProRata

variable {Key : Type}

/-- What prices a withdrawal leaves the deposit account out. -/
theorem exactEquity_le_netEquity (s : Pool Key) : s.exactEquity ≤ s.netEquity := by
  rw [Pool.exactEquity, Balances.netEquity]
  omega

/-- A vault whose loan is covered, with its books in order. -/
structure Solvent [Fintype Key] (s : Pool Key) : Prop extends Accounted s where
  covered : s.loanAccount.toNat ≤ s.collateralAccount.toNat

namespace Solvent

variable [Fintype Key] {s : Pool Key}

theorem exactEquity_nonneg (solvent : Solvent s) : 0 ≤ s.exactEquity := by
  have covered := solvent.covered
  rw [Pool.exactEquity]
  omega

/-- The wrapping arithmetic of the withdrawal computes the integer. -/
theorem equity_eq (solvent : Solvent s) : (s.equity.toNat : ℤ) = s.exactEquity := by
  have bound := solvent.toAccounted.netEquity_lt
  have le := exactEquity_le_netEquity s
  rw [equity_toInt]
  exact Int.emod_eq_of_lt solvent.exactEquity_nonneg (by omega)

end Solvent

variable [DecidableEq Key]

/-! ## The loan stays covered -/

/-- A deposit posts at least what it borrows, and a withdrawal releases what it repays. -/
theorem covered_step {tx : Tx Key} {s s' : Pool Key} (small : SmallDeposit s tx)
    (covered : s.loanAccount.toNat ≤ s.collateralAccount.toNat)
    (returned : exec Jet.ideal tx s = .ok s') :
    s'.loanAccount.toNat ≤ s'.collateralAccount.toNat := by
  have effect := exec_effect returned
  obtain ⟨clock, call⟩ := tx
  cases call with
  | initializeUserRedeemableTokenAccount user =>
    obtain ⟨_, rfl⟩ := (show Opened s s' from effect).accounts
    exact covered
  | depositVault user usdcAmount =>
    have effect : Deposited user usdcAmount s s' := effect
    have posted := effect.collateral
    have owed := effect.loan
    have small : usdcAmount.toNat * 90 < 2 ^ 64 := small
    rw [depositTokens_toNat, Nat.mod_eq_of_lt small] at posted
    rw [borrowTokens_toNat] at owed
    -- 90 % of the amount, rounded down, is at least half of it, rounded down.
    omega
  | withdrawVault user redeemableAmount =>
    have effect : Withdrawn user clock redeemableAmount s s' := effect
    have released := effect.collateral
    have repaid := effect.loan
    omega
  | transferUsdc user amount =>
    obtain ⟨_, _, rfl⟩ := (show Transferred user amount s s' from effect).kept
    exact covered

namespace Solvent

variable [Fintype Key] {s t : Pool Key}

theorem step {tx : Tx Key} (solvent : Solvent s) (small : SmallDeposit s tx)
    (returned : exec Jet.ideal tx s = .ok t) : Solvent t :=
  { solvent.toAccounted.step returned with
    covered := covered_step small solvent.covered returned }

theorem of_reaches (fresh : Fresh s) (run : Reaches (exec Jet.ideal) SmallDeposit s t) :
    Solvent t :=
  run.invariant (fun _ _ _ solvent small returned => solvent.step small returned)
    { Accounted.of_fresh fresh with
      covered := by rw [fresh.loanAccount, fresh.collateralAccount] }

end Solvent

/-- In every state that small deposits lead to, the loan is covered and the arithmetic of
every withdrawal that passes the balance check stays in range. -/
theorem loan_covered [Fintype Key] {s t : Pool Key} (fresh : Fresh s)
    (run : Reaches (exec Jet.ideal) SmallDeposit s t) :
    t.loanAccount ≤ t.collateralAccount ∧
      ∀ (user : Key) (redeemableAmount : UInt64), redeemableAmount ≤ t.shares user →
        0 < t.redeemableSupply →
        0 ≤ t.exactEquity ∧
        redeemableAmount.toNat * (t.exactEquity / t.redeemableSupply.toNat) ≤ t.exactEquity ∧
        t.repayment redeemableAmount ≤ t.loanAccount ∧
        t.repayment redeemableAmount ≤ t.collateralAccount ∧
        t.repayment redeemableAmount ≤ t.vaultUsdc := by
  have solvent := Solvent.of_reaches fresh run
  have covered := solvent.covered
  refine ⟨UInt64.le_iff_toNat_le.mpr covered, fun user redeemableAmount held _ => ?_⟩
  have held : redeemableAmount.toNat ≤ t.redeemableSupply.toNat :=
    (UInt64.le_iff_toNat_le.mp held).trans (solvent.toAccounted.shares_le user)
  have repayment := repayment_toNat t redeemableAmount
  refine ⟨solvent.exactEquity_nonneg, ?_, ?_, ?_, ?_⟩
  · rw [← solvent.equity_eq]
    exact_mod_cast payout_le_value t.equity.toNat held
  all_goals
    rw [UInt64.le_iff_toNat_le]
    omega

/-- The small world after deposits and withdrawals by both users. -/
def busyWorld : Pool Trader :=
  smallWorldAfter [.initializeUserRedeemableTokenAccount .early, .depositVault .early 1000,
    .transferUsdc .late 40, .initializeUserRedeemableTokenAccount .late, .depositVault .late 300,
    .withdrawVault .early 30]

theorem loan_covered_busyWorld :
    busyWorld.loanAccount ≤ busyWorld.collateralAccount ∧
      ∀ (user : Trader) (redeemableAmount : UInt64), redeemableAmount ≤ busyWorld.shares user →
        0 < busyWorld.redeemableSupply →
        0 ≤ busyWorld.exactEquity ∧
        redeemableAmount.toNat * (busyWorld.exactEquity / busyWorld.redeemableSupply.toNat) ≤
          busyWorld.exactEquity ∧
        busyWorld.repayment redeemableAmount ≤ busyWorld.loanAccount ∧
        busyWorld.repayment redeemableAmount ≤ busyWorld.collateralAccount ∧
        busyWorld.repayment redeemableAmount ≤ busyWorld.vaultUsdc :=
  loan_covered smallWorld_fresh (attemptAll_reaches (by decide))

/-! ## Withdrawals take at most their share -/

/-- The true equity of a vault, divided into its redeemable tokens. -/
def Pool.book (s : Pool Key) : Book ℤ :=
  ⟨s.netEquity, s.redeemableSupply.toNat⟩

omit [DecidableEq Key] in
theorem Deposited.book_eq {user : Key} {usdcAmount : UInt64} {s s' : Pool Key}
    (effect : Deposited user usdcAmount s s') :
    s'.book = s.book.issue (s.debit usdcAmount) usdcAmount.toNat := by
  have vaultUsdc := effect.vaultUsdc
  have collateral := effect.collateral
  have loan := effect.loan
  have supply := effect.supply
  simp only [Pool.book, Book.issue, Book.mk.injEq, Balances.netEquity, effect.depositAccount]
  omega

omit [DecidableEq Key] in
theorem Withdrawn.book_eq {user : Key} {clock : Int64} {redeemableAmount : UInt64}
    {s s' : Pool Key} (effect : Withdrawn user clock redeemableAmount s s') :
    s'.book = s.book.redeem (s.payout redeemableAmount).toNat redeemableAmount.toNat := by
  have vaultUsdc := effect.vaultUsdc
  have notes := effect.depositAccount
  have collateral := effect.collateral
  have loan := effect.loan
  have supply := effect.supply
  simp only [Pool.book, Book.redeem, Book.mk.injEq, Balances.netEquity]
  omega

omit [DecidableEq Key] in
theorem Withdrawn.perShareLE [Fintype Key] {user : Key} {clock : Int64}
    {redeemableAmount : UInt64} {s s' : Pool Key} (solvent : Solvent s)
    (effect : Withdrawn user clock redeemableAmount s s') : PerShareLE s.book s'.book := by
  have held : redeemableAmount.toNat ≤ s.redeemableSupply.toNat :=
    (Nat.le_add_left _ _).trans effect.supply.le
  rw [effect.book_eq, perShareLE_redeem_iff, payout_toNat held]
  calc ((redeemableAmount.toNat * (s.equity.toNat / s.redeemableSupply.toNat) : ℕ) : ℤ) *
        s.redeemableSupply.toNat
      ≤ redeemableAmount.toNat * s.equity.toNat := by
        exact_mod_cast payout_mul_le redeemableAmount.toNat s.equity.toNat s.redeemableSupply.toNat
    _ ≤ redeemableAmount.toNat * s.netEquity := by
        rw [solvent.equity_eq]
        exact Int.mul_le_mul_of_nonneg_left (exactEquity_le_netEquity s) (Int.natCast_nonneg _)
    _ = s.netEquity * redeemableAmount.toNat := mul_comm _ _

/-- No sequence of withdrawals lowers the true equity per remaining share. -/
theorem withdrawals_keep_equity_per_share [Fintype Key] {s t u : Pool Key} (fresh : Fresh s)
    (run : Reaches (exec Jet.ideal) SmallDeposit s t)
    (withdrawals : Reaches (exec Jet.ideal) Withdrawal t u) (remaining : 0 < u.redeemableSupply) :
    t.netEquity * u.redeemableSupply.toNat ≤ u.netEquity * t.redeemableSupply.toNat := by
  have fair : Solvent u ∧ (0 < u.redeemableSupply.toNat → PerShareLE t.book u.book) := by
    refine withdrawals.invariant (I := fun v => Solvent v ∧
      (0 < v.redeemableSupply.toNat → PerShareLE t.book v.book)) ?_
      ⟨Solvent.of_reaches fresh run, fun _ => .refl _⟩
    rintro v ⟨clock, call⟩ w ⟨solvent, fair⟩ withdrawal returned
    cases call with
    | withdrawVault user redeemableAmount =>
      have effect : Withdrawn user clock redeemableAmount v w := exec_effect returned
      refine ⟨solvent.step withdrawal.smallDeposit returned, fun remaining => ?_⟩
      -- Shares remained before this withdrawal too, so the comparisons chain.
      have supply := effect.supply
      exact (fair (by omega)).trans (effect.perShareLE solvent)
        (Int.natCast_pos.mpr (by omega)) (Int.natCast_nonneg _) (Int.natCast_nonneg _)
    | _ => cases withdrawal
  exact fair.2 ((FixedWidth.pos_iff _).mp remaining)

/-- The busy world after two more withdrawals. -/
def quietWorld : Pool Trader :=
  attemptAll (exec Jet.ideal)
    [inWindow (.withdrawVault .early 7), inWindow (.withdrawVault .late 20)] busyWorld

theorem withdrawals_keep_equity_per_share_quietWorld :
    busyWorld.netEquity * quietWorld.redeemableSupply.toNat ≤
      quietWorld.netEquity * busyWorld.redeemableSupply.toNat :=
  withdrawals_keep_equity_per_share smallWorld_fresh (attemptAll_reaches (by decide))
    (attemptAll_reaches (by decide)) (by decide)

end JetVault
