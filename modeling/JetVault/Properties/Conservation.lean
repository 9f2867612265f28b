import JetVault.Vault.Run
import Mathlib.Algebra.Order.BigOperators.Group.Finset

/-!
# Conservation

What every run keeps: shares add up to the supply, no USDC appears or disappears, and the net
equity of a vault is what its users put in less what they took out.
-/
namespace JetVault

open Transition

variable {Key : Type} [Fintype Key]

/-- Two assignments that differ at one key have sums that differ by that key's values. -/
private theorem sum_changed_at [DecidableEq Key] {f g : Key → ℕ} (key : Key)
    (others : ∀ v, v ≠ key → g v = f v) : ∑ v, g v + f key = ∑ v, f v + g key := by
  have same : ∑ v ∈ Finset.univ.erase key, g v = ∑ v ∈ Finset.univ.erase key, f v :=
    Finset.sum_congr rfl fun v member => others v (Finset.ne_of_mem_erase member)
  rw [← Finset.sum_erase_add _ g (Finset.mem_univ key),
    ← Finset.sum_erase_add _ f (Finset.mem_univ key), same]
  omega

def Pool.usersUsdc (s : Pool Key) : ℕ :=
  ∑ user, (s.userUsdc user).toNat

def Pool.usersShares (s : Pool Key) : ℕ :=
  ∑ user, (s.shares user).toNat

/-- The books of a vault: the supply counts the users' shares, the USDC in existence and the
deposit notes in existence are counted by `u64` mints, and every deposit note that is not lent
out is backed by the reserve. -/
structure Accounted (s : Pool Key) : Prop where
  supply : s.redeemableSupply.toNat = s.usersShares
  usdcMint : s.usersUsdc + s.vaultUsdc.toNat + s.jetVault.toNat < 2 ^ 64
  notesMint : s.depositAccount.toNat + s.collateralAccount.toNat < 2 ^ 64
  reserve : s.depositAccount.toNat + s.collateralAccount.toNat ≤
    s.jetVault.toNat + s.loanAccount.toNat

namespace Accounted

variable {s : Pool Key}

theorem shares_le (accounted : Accounted s) (user : Key) :
    (s.shares user).toNat ≤ s.redeemableSupply.toNat := by
  rw [accounted.supply]
  exact Finset.single_le_sum (f := fun v => (s.shares v).toNat) (fun _ _ => Nat.zero_le _)
    (Finset.mem_univ user)

theorem userUsdc_le (user : Key) : (s.userUsdc user).toNat ≤ s.usersUsdc :=
  Finset.single_le_sum (f := fun v => (s.userUsdc v).toNat) (fun _ _ => Nat.zero_le _)
    (Finset.mem_univ user)

/-- The net equity is never more than the USDC in existence. -/
theorem netEquity_lt (accounted : Accounted s) : s.netEquity < 2 ^ 64 := by
  have usdcMint := accounted.usdcMint
  have reserve := accounted.reserve
  -- V + D + C - L ≤ V + R: what is lent out is owed to the reserve.
  simp only [Balances.netEquity]
  omega

theorem of_fresh (fresh : Fresh s) : Accounted s := by
  have empty : ∀ user, s.shares user = 0 := fun user => by
    rw [Pool.shares, fresh.userRedeemable, Option.getD_none]
  constructor
  · simp [Pool.usersShares, empty, fresh.redeemableSupply]
  · simpa [Pool.usersUsdc, fresh.vaultUsdc] using fresh.usdcMint
  · simp [fresh.depositAccount, fresh.collateralAccount]
  · simp [fresh.depositAccount, fresh.collateralAccount]

end Accounted

section Steps

variable [DecidableEq Key] {user : Key} {s s' : Pool Key}

theorem usersUsdc_changed_at (others : ∀ v, v ≠ user → s'.userUsdc v = s.userUsdc v) :
    s'.usersUsdc + (s.userUsdc user).toNat = s.usersUsdc + (s'.userUsdc user).toNat :=
  sum_changed_at (f := fun v => (s.userUsdc v).toNat) (g := fun v => (s'.userUsdc v).toNat) user
    fun v other => by rw [others v other]

theorem usersShares_changed_at (others : ∀ v, v ≠ user → s'.shares v = s.shares v) :
    s'.usersShares + (s.shares user).toNat = s.usersShares + (s'.shares user).toNat :=
  sum_changed_at (f := fun v => (s.shares v).toNat) (g := fun v => (s'.shares v).toNat) user
    fun v other => by rw [others v other]

omit [DecidableEq Key] in
theorem usersShares_congr (same : ∀ v, s'.shares v = s.shares v) :
    s'.usersShares = s.usersShares := by
  simp only [Pool.usersShares, same]

namespace Accounted

-- One lemma per call: what it did to the users' totals, then arithmetic.

omit [DecidableEq Key] in
theorem opened (accounted : Accounted s) (effect : Opened s s') : Accounted s' := by
  have shares := usersShares_congr effect.shares
  obtain ⟨_, rfl⟩ := effect.accounts
  exact { accounted with supply := accounted.supply.trans shares.symm }

theorem transferred {amount : UInt64} (accounted : Accounted s)
    (effect : Transferred user amount s s') : Accounted s' := by
  have usdcMint := accounted.usdcMint
  have moved := usersUsdc_changed_at effect.userUsdc_other
  have debited := effect.userUsdc
  have credited := effect.vaultUsdc
  obtain ⟨_, _, rfl⟩ := effect.kept
  refine { accounted with usdcMint := ?_ }
  dsimp only at *
  omega

theorem deposited {usdcAmount : UInt64} (accounted : Accounted s)
    (effect : Deposited user usdcAmount s s') : Accounted s' where
  supply := by
    have moved := usersShares_changed_at effect.shares_other
    have minted := effect.shares
    have supply := effect.supply
    have before := accounted.supply
    omega
  usdcMint := by
    have moved := usersUsdc_changed_at effect.userUsdc_other
    have debited := effect.userUsdc
    have credited := effect.vaultUsdc
    have reserve := effect.jetVault
    have before := accounted.usdcMint
    omega
  notesMint := effect.notes
  reserve := by
    have collateral := effect.collateral
    have loan := effect.loan
    have reserve := effect.jetVault
    have before := accounted.reserve
    rw [effect.depositAccount]
    omega

theorem withdrawn {clock : Int64} {redeemableAmount : UInt64} (accounted : Accounted s)
    (effect : Withdrawn user clock redeemableAmount s s') : Accounted s' where
  supply := by
    have moved := usersShares_changed_at effect.shares_other
    have burned := effect.shares
    have supply := effect.supply
    have before := accounted.supply
    omega
  usdcMint := by
    have moved := usersUsdc_changed_at effect.userUsdc_other
    have paid := effect.userUsdc
    have drawn := effect.vaultUsdc
    have reserve := effect.jetVault
    have before := accounted.usdcMint
    omega
  notesMint := by
    have notes := effect.depositAccount
    have collateral := effect.collateral
    have before := accounted.notesMint
    omega
  reserve := by
    have notes := effect.depositAccount
    have collateral := effect.collateral
    have loan := effect.loan
    have reserve := effect.jetVault
    have before := accounted.reserve
    omega

theorem step {tx : Tx Key} (accounted : Accounted s)
    (returned : exec Jet.ideal tx s = .ok s') : Accounted s' := by
  have effect := exec_effect returned
  obtain ⟨clock, call⟩ := tx
  cases call with
  | initializeUserRedeemableTokenAccount user => exact accounted.opened effect
  | depositVault user usdcAmount => exact accounted.deposited effect
  | withdrawVault user redeemableAmount => exact accounted.withdrawn effect
  | transferUsdc user amount => exact accounted.transferred effect

/-- Every reachable state has its books in order, whatever calls are admitted. -/
theorem of_reaches {allow : Pool Key → Tx Key → Prop} {s t : Pool Key} (fresh : Fresh s)
    (run : Reaches (exec Jet.ideal) allow s t) : Accounted t :=
  run.invariant (fun _ _ _ accounted _ returned => accounted.step returned) (of_fresh fresh)

end Accounted

end Steps

/-! ## Net equity over a run -/

omit [Fintype Key]

/-- The USDC that left the depositor's account. -/
def debited (tx : Tx Key) (s s' : Pool Key) : ℤ :=
  match tx.call with
  | .depositVault user _ => (s.userUsdc user).toNat - (s'.userUsdc user).toNat
  | _ => 0

/-- The USDC that left the account of a user who made a plain transfer. -/
def donated (tx : Tx Key) (s s' : Pool Key) : ℤ :=
  match tx.call with
  | .transferUsdc user _ => (s.userUsdc user).toNat - (s'.userUsdc user).toNat
  | _ => 0

/-- The USDC that reached the withdrawer's account. -/
def paid (tx : Tx Key) (s s' : Pool Key) : ℤ :=
  match tx.call with
  | .withdrawVault user _ => (s'.userUsdc user).toNat - (s.userUsdc user).toNat
  | _ => 0

variable [DecidableEq Key]

theorem netEquity_step {tx : Tx Key} {s s' : Pool Key}
    (returned : exec Jet.ideal tx s = .ok s') :
    s'.netEquity = s.netEquity + (debited tx s s' + donated tx s s' - paid tx s s') := by
  have effect := exec_effect returned
  obtain ⟨clock, call⟩ := tx
  cases call with
  | initializeUserRedeemableTokenAccount user =>
    obtain ⟨_, rfl⟩ := (show Opened s s' from effect).accounts
    simp [debited, donated, paid]
  | depositVault user usdcAmount =>
    have effect : Deposited user usdcAmount s s' := effect
    have debit := effect.userUsdc
    have vaultUsdc := effect.vaultUsdc
    have collateral := effect.collateral
    have loan := effect.loan
    simp only [Balances.netEquity, debited, donated, paid, effect.depositAccount]
    omega
  | withdrawVault user redeemableAmount =>
    have effect : Withdrawn user clock redeemableAmount s s' := effect
    have credit := effect.userUsdc
    have vaultUsdc := effect.vaultUsdc
    have notes := effect.depositAccount
    have collateral := effect.collateral
    have loan := effect.loan
    simp only [Balances.netEquity, debited, donated, paid]
    omega
  | transferUsdc user amount =>
    have effect : Transferred user amount s s' := effect
    have debit := effect.userUsdc
    have vaultUsdc := effect.vaultUsdc
    obtain ⟨_, _, rfl⟩ := effect.kept
    simp only [Balances.netEquity, debited, donated, paid] at *
    omega

/-- Conservation: after any calls, failed ones included, the net equity is what was debited
from depositors and donated, less what was paid out, and the shares add up to the supply. -/
theorem netEquity_eq_flows [Fintype Key] {s : Pool Key} (fresh : Fresh s) (txs : List (Tx Key)) :
    (attemptAll (exec Jet.ideal) txs s).netEquity =
        flow (exec Jet.ideal) debited txs s + flow (exec Jet.ideal) donated txs s -
          flow (exec Jet.ideal) paid txs s ∧
      (attemptAll (exec Jet.ideal) txs s).redeemableSupply.toNat =
        ∑ user, ((attemptAll (exec Jet.ideal) txs s).shares user).toNat := by
  constructor
  -- The net equity telescopes along the run: each call moves it by what it moved.
  · have still : ∀ (tx : Tx Key) (u : Pool Key),
        debited tx u u + donated tx u u - paid tx u u = 0 := by
      rintro ⟨_, call⟩ u
      cases call <;> simp [debited, donated, paid]
    rw [potential_eq_flow (fun u : Pool Key => u.netEquity)
      (fun tx u v => debited tx u v + donated tx u v - paid tx u v) still
      (fun _ _ _ returned => netEquity_step returned) txs s, flow_sub, flow_add,
      fresh.netEquity_eq, zero_add]
  · have run : Reaches (exec Jet.ideal) AnyCall s (attemptAll (exec Jet.ideal) txs s) :=
      attemptAll_reaches (admitted_of_mem (fun _ _ _ => trivial) s)
    exact (Accounted.of_reaches fresh run).supply

/-- A run with a donation, a withdrawal and a deposit that fails. -/
def mixedRun : List (Tx Trader) :=
  [inWindow (.initializeUserRedeemableTokenAccount .early), inWindow (.depositVault .early 1000),
    inWindow (.transferUsdc .late 40), inWindow (.depositVault .late 10),
    inWindow (.withdrawVault .early 30)]

theorem netEquity_eq_flows_mixedRun :
    (attemptAll (exec Jet.ideal) mixedRun smallWorld).netEquity =
        flow (exec Jet.ideal) debited mixedRun smallWorld +
            flow (exec Jet.ideal) donated mixedRun smallWorld -
          flow (exec Jet.ideal) paid mixedRun smallWorld ∧
      (attemptAll (exec Jet.ideal) mixedRun smallWorld).redeemableSupply.toNat =
        ∑ user, ((attemptAll (exec Jet.ideal) mixedRun smallWorld).shares user).toNat :=
  netEquity_eq_flows smallWorld_fresh mixedRun

end JetVault
