import JetVault.Properties.Solvency

/-!
# Liquidity

A deposit into a vault with a supply divides by `vault_usdc`. Deposits always leave something
there, but a withdrawal takes from it twice, for the payout and for the repayment, and can take
the last of it while redeemable tokens remain.
-/
namespace JetVault

open Fallible FixedWidth Transition ProRata

variable {Key : Type} {user : Key} {clock : Int64} {usdcAmount redeemableAmount : UInt64}
  {s s' : Pool Key}

/-! ## When a deposit aborts -/

theorem depositWithdrawPhase_ne_abort (clock : Int64) (vault : Vault Key) :
    depositWithdrawPhase clock vault ≠ .error .abort := by
  unfold depositWithdrawPhase
  split
  next => simp
  next => split <;> simp

theorem redeemableAmount_aborts_iff (usdcAmount supply vaultUsdc : UInt64) :
    JetVault.redeemableAmount usdcAmount supply vaultUsdc = .error .abort ↔
      0 < supply ∧ vaultUsdc = 0 := by
  unfold JetVault.redeemableAmount
  split
  next issued =>
    simp [bind_eq_error, tryMul128_toNat, tryDiv128_eq_error, issued, ← UInt64.toNat_inj]
  next empty => simp [empty]

variable [DecidableEq Key]

/-- The division by `vault_usdc` is the only abort of a deposit. Every other failure is an error
of a constraint, a check, the token program or Jet. -/
theorem depositVault_aborts_iff (clock : Int64) (user : Key) (usdcAmount : UInt64)
    (s : Pool Key) :
    depositVault Jet.ideal clock user usdcAmount s = .error .abort ↔
      (s.userRedeemable user).isSome ∧ InWindow clock s.vault ∧ usdcAmount ≤ s.userUsdc user ∧
        0 < s.redeemableSupply ∧ s.vaultUsdc = 0 := by
  simp only [depositVault, bind_eq_error, refuseIf_eq_error, refuseIf_eq_ok, reduceCtorEq,
    and_false, false_or, exists_and_left, exists_const, depositWithdrawPhase_ne_abort,
    depositWithdrawPhase_eq_ok, redeemableAmount_aborts_iff, Pool.transferToVault, Pool.mintTo,
    Pool.invoke, trySub_eq_error, tryAdd_eq_error, pure_eq_error, Jet.ideal, Jet.Ideal.deposit,
    Jet.Ideal.depositCollateral, Jet.Ideal.borrow, or_false, exists_false, UInt64.not_lt,
    Option.isNone_iff_eq_none, ← Option.isSome_iff_ne_none]

/-! ## Deposits leave something -/

/-- The last Jet call of a deposit pays the borrowed half into `vault_usdc`. -/
theorem depositVault_borrows
    (returned : depositVault Jet.ideal clock user usdcAmount s = .ok s') :
    (borrowTokens usdcAmount).toNat ≤ s'.vaultUsdc.toNat := by
  obtain ⟨_, _, _, _, _, _, _, _, _, _, _, _, _, _, _, _, borrow, rfl⟩ :=
    (depositVault_eq_ok ..).mp returned
  obtain ⟨_, received, _, _, credited, _, rfl⟩ := (Jet.Ideal.borrow_eq_ok ..).mp borrow
  rw [credited]
  exact Nat.le_add_left _ _

/-- The supply is backed by something that a deposit can be priced with. -/
def Liquid (s : Pool Key) : Prop :=
  0 < s.redeemableSupply.toNat → 0 < s.vaultUsdc.toNat

theorem depositVault_liquid
    (returned : depositVault Jet.ideal clock user usdcAmount s = .ok s') : Liquid s' := by
  intro remaining
  have effect := depositVault_ok user returned
  have borrowed := depositVault_borrows returned
  have priced := effect.priced
  have supply := effect.supply
  have vaultUsdc := effect.vaultUsdc
  rw [borrowTokens_toNat] at borrowed vaultUsdc
  rw [depositTokens_toNat] at vaultUsdc
  -- From two units on, half of the amount is borrowed; below that nothing goes to Jet.
  by_cases large : 2 ≤ usdcAmount.toNat
  · omega
  · have nothing : usdcAmount.toNat * 90 % 2 ^ 64 / 100 = 0 := by
      rw [Nat.mod_eq_of_lt (by omega)]
      omega
    by_cases issued : 0 < s.redeemableSupply.toNat
    · have priced := priced issued
      omega
    · have debit : s.debit usdcAmount = usdcAmount.toNat := if_neg issued
      omega

/-! ## Withdrawals may not -/

/-- What a redemption at the given whole rate takes from `vault_usdc`: payout and repayment. -/
def Pool.drawn (s : Pool Key) (redeemed rate : ℕ) : ℕ :=
  redeemed * rate + min s.loanAccount.toNat (redeemed * rate)

/-- Some whole rate, not below the one the equity gives, leaves something in `vault_usdc`. -/
def Pool.LeavesSome (s : Pool Key) (redeemed : ℕ) : Prop :=
  ∃ rate : ℕ, s.exactEquity % 2 ^ 64 < (rate + 1) * s.redeemableSupply.toNat ∧
    s.drawn redeemed rate < s.vaultUsdc.toNat

omit [DecidableEq Key] in
theorem leavesSome_iff {redeemed : ℕ} :
    s.LeavesSome redeemed ↔ 0 < s.redeemableSupply.toNat ∧
      s.drawn redeemed (s.equity.toNat / s.redeemableSupply.toNat) < s.vaultUsdc.toNat := by
  have easier : ∀ p q, p ≤ q → s.drawn redeemed q < s.vaultUsdc.toNat →
      s.drawn redeemed p < s.vaultUsdc.toNat := by
    intro p q le covered
    have scaled := Nat.mul_le_mul_left redeemed le
    unfold Pool.drawn at *
    omega
  unfold Pool.LeavesSome
  rw [← equity_toInt]
  norm_cast
  by_cases issued : 0 < s.redeemableSupply.toNat
  · rw [exists_rate_iff easier issued, and_iff_right issued]
  · simp [Nat.eq_zero_of_not_pos issued]

instance (s : Pool Key) (redeemed : ℕ) : Decidable (s.LeavesSome redeemed) :=
  decidable_of_iff _ leavesSome_iff.symm

omit [DecidableEq Key] in
/-- A withdrawal keeps the vault liquid exactly when it redeems the whole supply or leaves
something. -/
theorem Withdrawn.liquid_iff (effect : Withdrawn user clock redeemableAmount s s') :
    Liquid s' ↔
      redeemableAmount = s.redeemableSupply ∨ s.LeavesSome redeemableAmount.toNat := by
  have supply := effect.supply
  have vaultUsdc := effect.vaultUsdc
  have payout := payout_toNat ((Nat.le_add_left _ _).trans effect.supply.le)
  have repayment := repayment_toNat s redeemableAmount
  rw [leavesSome_iff, and_iff_right effect.issued, Pool.drawn, Liquid, ← payout, ← UInt64.toNat_inj]
  omega

/-- Instructions of this program, where a withdrawal that does not redeem the whole supply
leaves something in `vault_usdc`. -/
def Sparing (s : Pool Key) (tx : Tx Key) : Prop :=
  tx.call.isTransfer = false ∧ ∀ redeemed ∈ tx.call.redeemableAmount,
    redeemed = s.redeemableSupply ∨ s.LeavesSome redeemed.toNat

instance (s : Pool Key) (tx : Tx Key) : Decidable (Sparing s tx) :=
  @instDecidableAnd _ _ inferInstance (Option.decidableForallMem _)

theorem liquid_step {tx : Tx Key} (liquid : Liquid s) (sparing : Sparing s tx)
    (returned : exec Jet.ideal tx s = .ok s') : Liquid s' := by
  obtain ⟨clock, call⟩ := tx
  obtain ⟨instruction, sparing⟩ := sparing
  cases call with
  | initializeUserRedeemableTokenAccount user =>
    obtain ⟨_, rfl⟩ := (show Opened s s' from exec_effect returned).accounts
    exact liquid
  | depositVault user usdcAmount => exact depositVault_liquid returned
  | withdrawVault user redeemableAmount =>
    have effect : Withdrawn user clock redeemableAmount s s' := exec_effect returned
    exact effect.liquid_iff.mpr (sparing redeemableAmount rfl)
  | transferUsdc user amount => cases instruction

/-- In every run whose withdrawals leave something in `vault_usdc` or no supply, a positive
supply is backed by a positive `vault_usdc`, and no deposit aborts. -/
theorem deposits_stay_possible [Fintype Key] {s t : Pool Key} (fresh : Fresh s)
    (run : Reaches (exec Jet.ideal) Sparing s t) :
    (0 < t.redeemableSupply → 0 < t.vaultUsdc) ∧
      ∀ (clock : Int64) (user : Key) (usdcAmount : UInt64),
        depositVault Jet.ideal clock user usdcAmount t ≠ .error .abort := by
  have initial : Liquid s := by
    intro issued
    rw [fresh.redeemableSupply] at issued
    cases issued
  have liquid : Liquid t :=
    run.invariant (fun _ _ _ liquid sparing returned => liquid_step liquid sparing returned)
      initial
  constructor
  · intro issued
    exact (pos_iff _).mpr (liquid ((pos_iff _).mp issued))
  · intro clock user usdcAmount aborted
    obtain ⟨_, _, _, issued, empty⟩ := (depositVault_aborts_iff ..).mp aborted
    have backed := liquid ((pos_iff _).mp issued)
    rw [empty] at backed
    cases backed

/-- The small world after both users deposited and one of them redeemed a part. -/
def sparedWorld : Pool Trader :=
  smallWorldAfter [.initializeUserRedeemableTokenAccount .early, .depositVault .early 100,
    .initializeUserRedeemableTokenAccount .late, .depositVault .late 300, .withdrawVault .early 20]

theorem deposits_stay_possible_sparedWorld :
    (0 < sparedWorld.redeemableSupply → 0 < sparedWorld.vaultUsdc) ∧
      ∀ (clock : Int64) (user : Trader) (usdcAmount : UInt64),
        depositVault Jet.ideal clock user usdcAmount sparedWorld ≠ .error .abort :=
  deposits_stay_possible smallWorld_fresh (attemptAll_reaches (by decide))

/-- The lone world after its depositor redeemed thirty of the hundred: payout and repayment took
the sixty that were liquid. -/
def drainedWorld : Pool Trader :=
  attempt (exec Jet.ideal) (inWindow (.withdrawVault .early 30)) loneWorld

/-- Seventy redeemable tokens remain, and the next deposit divides by zero. -/
theorem deposit_aborts :
    ¬ ∀ s t : Pool Trader, Fresh s → Reaches (exec Jet.ideal) Instruction s t →
      (0 < t.redeemableSupply → 0 < t.vaultUsdc) ∧
        ∀ (clock : Int64) (user : Trader) (usdcAmount : UInt64),
          depositVault Jet.ideal clock user usdcAmount t ≠ .error .abort := by
  intro possible
  have reached : Reaches (exec Jet.ideal) Instruction smallWorld drainedWorld :=
    loneWorld_reached.trans (attempt_reaches (by decide))
  exact (possible smallWorld drainedWorld smallWorld_fresh reached).2 15 .early 10
    ((depositVault_aborts_iff ..).mpr (by decide))

end JetVault
