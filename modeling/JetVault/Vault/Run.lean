import JetVault.Library.Transition
import JetVault.Vault.Moves
import Mathlib.Algebra.BigOperators.Group.Finset.Basic
import Mathlib.Data.Fintype.Basic

/-!
# Runs of a vault

The calls that move a vault's balances, each made at a clock reading, and the runs they make
from a freshly initialised vault.
-/
namespace JetVault

open Fallible Transition

inductive Call (Key : Type) where
  | initializeUserRedeemableTokenAccount (user : Key)
  | depositVault (user : Key) (usdcAmount : UInt64)
  | withdrawVault (user : Key) (redeemableAmount : UInt64)
  /-- a plain SPL transfer of USDC into `vault_usdc`, outside this program -/
  | transferUsdc (user : Key) (amount : UInt64)
  deriving DecidableEq, Repr

structure Tx (Key : Type) where
  clock : Int64
  call : Call Key
  deriving DecidableEq, Repr

variable {Key : Type} [DecidableEq Key]

def exec (jet : Jet) (tx : Tx Key) (s : Pool Key) : Except Failure (Pool Key) :=
  match tx.call with
  | .initializeUserRedeemableTokenAccount user =>
      initializeUserRedeemableTokenAccount tx.clock user s
  | .depositVault user usdcAmount => depositVault jet tx.clock user usdcAmount s
  | .withdrawVault user redeemableAmount => withdrawVault jet tx.clock user redeemableAmount s
  | .transferUsdc user amount => s.transferToVault user amount

/-- Every call keeps the vault's record, whatever Jet does. -/
theorem exec_vault {jet : Jet} {tx : Tx Key} {s s' : Pool Key}
    (returned : exec jet tx s = .ok s') : s'.vault = s.vault := by
  obtain ⟨clock, call⟩ := tx
  cases call with
  | initializeUserRedeemableTokenAccount user =>
    simp only [exec, initializeUserRedeemableTokenAccount, bind_eq_ok, pure_eq_ok] at returned
    obtain ⟨_, _, _, _, rfl⟩ := returned
    rfl
  | depositVault user usdcAmount =>
    obtain ⟨_, _, _, _, _, paid, minted, pay, mint, _, _, _, _, _, _, _, _, rfl⟩ :=
      (depositVault_eq_ok ..).mp returned
    obtain ⟨_, _, _, _, rfl⟩ := (transferToVault_eq_ok ..).mp pay
    obtain ⟨_, _, _, _, rfl⟩ := (mintTo_eq_ok ..).mp mint
    rfl
  | withdrawVault user redeemableAmount =>
    simp only [exec, withdrawVault_eq_ok, burn_eq_ok, transferToUser_eq_ok] at returned
    obtain ⟨_, _, _, _, _, _, _, _, _, _, _, paid, ⟨_, _, _, _, rfl⟩, ⟨_, _, _, _, sent⟩,
      closed⟩ := returned
    obtain ⟨_, kept, _⟩ := closeIfEmpty_eq user paid
    rw [closed] at kept
    subst sent
    subst kept
    rfl
  | transferUsdc user amount =>
    obtain ⟨_, _, rfl⟩ := (transferToVault_ok user returned).kept
    rfl

/-- What a successful call did, whichever it was. -/
def Effect (tx : Tx Key) (s s' : Pool Key) : Prop :=
  match tx.call with
  | .initializeUserRedeemableTokenAccount _ => Opened s s'
  | .depositVault user usdcAmount => Deposited user usdcAmount s s'
  | .withdrawVault user redeemableAmount => Withdrawn user tx.clock redeemableAmount s s'
  | .transferUsdc user amount => Transferred user amount s s'

theorem exec_effect {tx : Tx Key} {s s' : Pool Key} (returned : exec Jet.ideal tx s = .ok s') :
    Effect tx s s' := by
  obtain ⟨clock, call⟩ := tx
  cases call with
  | initializeUserRedeemableTokenAccount user =>
    exact initializeUserRedeemableTokenAccount_ok user returned
  | depositVault user usdcAmount => exact depositVault_ok user returned
  | withdrawVault user redeemableAmount => exact withdrawVault_ok user returned
  | transferUsdc user amount => exact transferToVault_ok user returned

def Call.isTransfer : Call Key → Bool
  | .transferUsdc _ _ => true
  | _ => false

def Call.isWithdrawal : Call Key → Bool
  | .withdrawVault _ _ => true
  | _ => false

def Call.isOpening : Call Key → Bool
  | .initializeUserRedeemableTokenAccount _ => true
  | _ => false

/-- The `usdc_amount` of a deposit; nothing for the other calls. -/
def Call.usdcAmount : Call Key → UInt64
  | .depositVault _ usdcAmount => usdcAmount
  | _ => 0

/-- The `redeemable_amount` of a withdrawal. -/
def Call.redeemableAmount : Call Key → Option UInt64
  | .withdrawVault _ redeemableAmount => some redeemableAmount
  | _ => none

/-- Only this program's instructions. -/
def Instruction (_ : Pool Key) (tx : Tx Key) : Prop :=
  tx.call.isTransfer = false

/-- Deposits whose `usdc_amount * 90` fits in a `u64`; every other call, and transfers. -/
def SmallDeposit (_ : Pool Key) (tx : Tx Key) : Prop :=
  tx.call.usdcAmount.toNat * 90 < 2 ^ 64

/-- Only redeemable accounts are opened. -/
def Opening (_ : Pool Key) (tx : Tx Key) : Prop :=
  tx.call.isOpening = true

/-- Withdrawals only. -/
def Withdrawal (_ : Pool Key) (tx : Tx Key) : Prop :=
  tx.call.isWithdrawal = true

instance (s : Pool Key) (tx : Tx Key) : Decidable (Instruction s tx) :=
  inferInstanceAs (Decidable (_ = _))

instance (s : Pool Key) (tx : Tx Key) : Decidable (SmallDeposit s tx) :=
  inferInstanceAs (Decidable (_ < _))

instance (s : Pool Key) (tx : Tx Key) : Decidable (Opening s tx) :=
  inferInstanceAs (Decidable (_ = _))

instance (s : Pool Key) (tx : Tx Key) : Decidable (Withdrawal s tx) :=
  inferInstanceAs (Decidable (_ = _))

omit [DecidableEq Key] in
theorem Withdrawal.smallDeposit {s : Pool Key} {tx : Tx Key} (withdrawal : Withdrawal s tx) :
    SmallDeposit s tx := by
  obtain ⟨clock, call⟩ := tx
  cases call with
  | withdrawVault user redeemableAmount => exact Nat.zero_lt_succ _
  | _ => cases withdrawal

/-- Everything, transfers included. -/
def AnyCall (_ : Pool Key) (_ : Tx Key) : Prop := True

instance (s : Pool Key) (tx : Tx Key) : Decidable (AnyCall s tx) :=
  inferInstanceAs (Decidable True)

variable [Fintype Key]

/-- A vault right after its initialisation. The USDC in existence is counted by the `u64`
supply of its mint, and the users and the Jet reserve hold all of it. -/
structure Fresh (s : Pool Key) : Prop where
  vaultUsdc : s.vaultUsdc = 0
  depositAccount : s.depositAccount = 0
  collateralAccount : s.collateralAccount = 0
  loanAccount : s.loanAccount = 0
  redeemableSupply : s.redeemableSupply = 0
  userRedeemable : ∀ user, s.userRedeemable user = none
  usdcMint : ∑ user, (s.userUsdc user).toNat + s.jetVault.toNat < 2 ^ 64

omit [DecidableEq Key] in
theorem Fresh.netEquity_eq {s : Pool Key} (fresh : Fresh s) : s.netEquity = 0 := by
  simp [Balances.netEquity, fresh.vaultUsdc, fresh.depositAccount, fresh.collateralAccount,
    fresh.loanAccount]

omit [DecidableEq Key] in
/-- `initialize_vault` leaves a fresh vault. -/
theorem initializeVault_fresh {clock : Int64} {vaultAdmin usdcMint redeemableMint vaultUsdc : Key}
    {vaultName : List UInt8} {bumps : VaultBumps} {epochTimes : EpochTimes}
    {userUsdc : Key → UInt64} {jetVault : UInt64} {s : Pool Key}
    (counted : ∑ user, (userUsdc user).toNat + jetVault.toNat < 2 ^ 64)
    (returned : initializeVault Jet.ideal clock vaultAdmin usdcMint redeemableMint vaultUsdc
      vaultName bumps epochTimes userUsdc jetVault = .ok s) : Fresh s := by
  simp only [initializeVault, bind_eq_ok, invoke_eq_ok, Jet.ideal, Except.ok.injEq] at returned
  obtain ⟨_, _, _, _, _, ⟨_, rfl, rfl⟩, _, ⟨_, rfl, rfl⟩, _, ⟨_, rfl, rfl⟩, _, rfl, rfl⟩ := returned
  exact ⟨rfl, rfl, rfl, rfl, rfl, fun _ => rfl, counted⟩

/-! ## A small world

Two users with ten thousand units of USDC each, and a deep Jet reserve. -/

/-- The two users of the small world. -/
inductive Trader where
  | early
  | late
  deriving DecidableEq, Repr

instance : Fintype Trader where
  elems := {.early, .late}
  complete trader := by cases trader <;> decide

def smallWorld : Pool Trader where
  vaultUsdc := 0
  depositAccount := 0
  collateralAccount := 0
  loanAccount := 0
  jetVault := 1000000
  vault :=
    { vaultName := Vector.replicate 20 0x20
      bumps := ⟨255, 255, 255, 255, 255, 255, 255, 255, 255⟩
      vaultAdmin := .early, usdcMint := .early, redeemableMint := .early, vaultUsdc := .early
      epochTimes := ⟨10, 20, 30, 40, 50, 60, 50⟩ }
  redeemableSupply := 0
  userUsdc := fun _ => 10000
  userRedeemable := fun _ => none

theorem smallWorld_fresh : Fresh smallWorld :=
  ⟨rfl, rfl, rfl, rfl, rfl, fun _ => rfl, by decide⟩

/-- A call inside the window of the small world. -/
def inWindow (call : Call Trader) : Tx Trader :=
  ⟨15, call⟩

/-- The small world after some calls, failed ones included. -/
def smallWorldAfter (calls : List (Call Trader)) : Pool Trader :=
  attemptAll (exec Jet.ideal) (calls.map inWindow) smallWorld

def openWorld : Pool Trader :=
  smallWorldAfter [.initializeUserRedeemableTokenAccount .early]

/-- The open world after a deposit of a hundred: 60 stays liquid, 90 is posted, 50 is owed. -/
def loneWorld : Pool Trader :=
  attempt (exec Jet.ideal) (inWindow (.depositVault .early 100)) openWorld

theorem loneWorld_reached : Reaches (exec Jet.ideal) Instruction smallWorld loneWorld :=
  show Reaches (exec Jet.ideal) Instruction smallWorld (smallWorldAfter
    [.initializeUserRedeemableTokenAccount .early, .depositVault .early 100]) from
      attemptAll_reaches (by decide)

end JetVault
