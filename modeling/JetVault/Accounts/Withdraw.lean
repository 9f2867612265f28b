import JetVault.Accounts.Context
import JetVault.Vault.Phase
import JetVault.Vault.Pricing

/-!
# `withdraw_vault` on a ledger

The handler with its account list. It reads every balance from the accounts as they were
loaded; Jet is whatever program the list names.
-/
namespace JetVault.Accounts

open Fallible FixedWidth

variable {Key : Type} [DecidableEq Key]

/-- The ledger after the call, and the amount of the transfer to the user. -/
structure Outcome (Key : Type) where
  ledger : Ledger Key
  sent : UInt64

/-- The last lines of `withdraw_vault`: reload the redeemable account, close it when empty. -/
def closeIfEmpty (accounts : WithdrawVault Key) (ledger : Ledger Key) :
    Except Failure (Ledger Key) := do
  let userRedeemable ← ledger.tokenAccount accounts.userRedeemable.key
  if userRedeemable.amount = 0 then
    ledger.closeAccount accounts.userRedeemable.key accounts.userAuthority.key
      accounts.userAuthority.key
  else
    return ledger

def withdrawVault (runtime : Runtime Key) (clock : Int64) (accounts : WithdrawVault Key)
    (bumps : WithdrawVaultBumps) (redeemableAmount : UInt64) (ledger : Ledger Key) :
    Except Failure (Outcome Key) := do
  let loaded ← accounts.load runtime ledger
  accounts.constraints runtime bumps loaded
  depositWithdrawPhase clock loaded.vault
  refuseIf (loaded.userRedeemable.amount < redeemableAmount)
    (.program .insufficientRedeemableBalance)
  -- The two note accounts of the price are whatever accounts the caller named.
  let usdcLiabilities := loaded.loanAccount.amount
  let usdcEquity := usdcEquity loaded.vaultUsdc.amount loaded.collateralAccount.amount
    usdcLiabilities
  let usdcFxRate ← usdcFxRate usdcEquity loaded.redeemableMint.supply
  let usdcToSendUser := usdcToSendUser redeemableAmount usdcFxRate
  let usdcToRepayJet := usdcToRepayJet usdcLiabilities usdcToSendUser loaded.vaultUsdc.amount
  let jet := runtime.invoke accounts.jetProgram.key
  let ledger ← jet (.refreshReserve accounts.refreshReserve) ledger
  let ledger ← jet (.repay accounts.repay usdcToRepayJet) ledger
  let ledger ← jet (.withdrawCollateral accounts.withdrawCollateral
    { collateralAccount := bumps.collateralAccount, depositAccount := bumps.depositAccount }
    usdcToRepayJet) ledger
  -- The user signs for the burn, the vault authority for the transfer.
  let ledger ← ledger.burn accounts.userRedeemable.key accounts.redeemableMint.key
    accounts.userAuthority.key redeemableAmount
  let ledger ← ledger.transfer accounts.vaultUsdc.key accounts.userUsdc.key
    accounts.vaultAuthority.key usdcToSendUser
  let ledger ← closeIfEmpty accounts ledger
  return { ledger := ledger, sent := usdcToSendUser }

/-! ## What a successful call read -/

/-- The balances the price is made of, and the holder's. -/
structure Read (accounts : WithdrawVault Key) (redeemableAmount : UInt64) (ledger : Ledger Key)
    (loaded : Loaded Key) : Prop where
  userRedeemable : ledger accounts.userRedeemable.key = some (.token loaded.userRedeemable)
  redeemableMint : ledger accounts.redeemableMint.key = some (.mint loaded.redeemableMint)
  vaultUsdc : ledger accounts.vaultUsdc.key = some (.token loaded.vaultUsdc)
  collateralAccount :
    ledger accounts.collateralAccount.key = some (.token loaded.collateralAccount)
  loanAccount : ledger accounts.loanAccount.key = some (.token loaded.loanAccount)
  held : redeemableAmount.toNat ≤ loaded.userRedeemable.amount.toNat
  issued : 0 < loaded.redeemableMint.supply.toNat

theorem load_ok {runtime : Runtime Key} {accounts : WithdrawVault Key}
    {ledger : Ledger Key} {loaded : Loaded Key}
    (returned : accounts.load runtime ledger = .ok loaded) :
    ledger accounts.vault.key = some (.vault loaded.vault) ∧
      ledger accounts.userRedeemable.key = some (.token loaded.userRedeemable) ∧
      ledger accounts.redeemableMint.key = some (.mint loaded.redeemableMint) ∧
      ledger accounts.vaultUsdc.key = some (.token loaded.vaultUsdc) ∧
      ledger accounts.collateralAccount.key = some (.token loaded.collateralAccount) ∧
      ledger accounts.loanAccount.key = some (.token loaded.loanAccount) := by
  simp only [WithdrawVault.load, bind_eq_ok, refuseIf_eq_ok, pure_eq_ok,
    Ledger.tokenAccount_eq_ok, Ledger.mint_eq_ok, Ledger.vault_eq_ok] at returned
  obtain ⟨_, _, _, _, _, userRedeemable, _, vault, _, _, _, redeemableMint, _, vaultUsdc,
    _, collateralAccount, _, loanAccount, _, _, rfl⟩ := returned
  exact ⟨vault, userRedeemable, redeemableMint, vaultUsdc, collateralAccount, loanAccount⟩

theorem withdrawVault_ok {runtime : Runtime Key} {clock : Int64} {accounts : WithdrawVault Key}
    {bumps : WithdrawVaultBumps} {redeemableAmount : UInt64} {ledger : Ledger Key}
    {outcome : Outcome Key}
    (returned : withdrawVault runtime clock accounts bumps redeemableAmount ledger = .ok outcome) :
    ∃ loaded, Read accounts redeemableAmount ledger loaded ∧
      outcome.sent = usdcToSendUser redeemableAmount
        (usdcEquity loaded.vaultUsdc.amount loaded.collateralAccount.amount
          loaded.loanAccount.amount / loaded.redeemableMint.supply) := by
  simp only [withdrawVault, bind_eq_ok, refuseIf_eq_ok, pure_eq_ok, usdcFxRate, tryDiv_eq_ok]
    at returned
  obtain ⟨loaded, load, _, _, _, _, _, held, _, ⟨issued, rfl⟩, _, _, _, _, _, _, _, _, _, _, _, _,
    rfl⟩ := returned
  obtain ⟨_, userRedeemable, redeemableMint, vaultUsdc, collateralAccount, loanAccount⟩ :=
    load_ok load
  exact ⟨loaded, ⟨userRedeemable, redeemableMint, vaultUsdc, collateralAccount, loanAccount,
    UInt64.le_iff_toNat_le.mp (UInt64.not_lt.mp held), issued⟩, rfl⟩

/-! ## The price of a call -/

/-- The balance of a token account, and the supply of a mint; 0 for other accounts. -/
def Ledger.amount (ledger : Ledger Key) (key : Key) : ℕ :=
  match ledger key with
  | some (.token account) => account.amount.toNat
  | _ => 0

def Ledger.supply (ledger : Ledger Key) (key : Key) : ℕ :=
  match ledger key with
  | some (.mint mint) => mint.supply.toNat
  | _ => 0

/-- The integer that `usdc_equity` stands for, with the accounts of the list. -/
def WithdrawVault.exactEquity (accounts : WithdrawVault Key) (ledger : Ledger Key) : ℤ :=
  ledger.amount accounts.vaultUsdc.key + ledger.amount accounts.collateralAccount.key -
    ledger.amount accounts.loanAccount.key

theorem sent_toNat {runtime : Runtime Key} {clock : Int64} {accounts : WithdrawVault Key}
    {bumps : WithdrawVaultBumps} {redeemableAmount : UInt64} {ledger : Ledger Key}
    {outcome : Outcome Key}
    (counted : ledger.amount accounts.userRedeemable.key ≤
      ledger.supply accounts.redeemableMint.key)
    (returned : withdrawVault runtime clock accounts bumps redeemableAmount ledger = .ok outcome) :
    0 < ledger.supply accounts.redeemableMint.key ∧
      outcome.sent.toNat = redeemableAmount.toNat *
        ((accounts.exactEquity ledger % 2 ^ 64).toNat /
          ledger.supply accounts.redeemableMint.key) := by
  obtain ⟨loaded, read, sent⟩ := withdrawVault_ok returned
  simp only [Ledger.amount, Ledger.supply, read.userRedeemable, read.redeemableMint] at counted
  have held := read.held.trans counted
  have equity := toNat_add_sub loaded.vaultUsdc.amount loaded.collateralAccount.amount
    loaded.loanAccount.amount
  simp only [WithdrawVault.exactEquity, Ledger.amount, Ledger.supply, read.vaultUsdc,
    read.collateralAccount, read.loanAccount, read.redeemableMint]
  rw [← equity, Int.toNat_natCast, sent, usdcToSendUser_toNat _ held]
  exact ⟨read.issued, rfl⟩

end JetVault.Accounts
