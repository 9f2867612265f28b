import JetVault.Accounts.Initialize

/-!
# Account lists of depositors

The account lists of `initialize_user_redeemable_token_account` and `deposit_vault`, with every
constraint declared on them.
-/
namespace JetVault.Accounts

open Fallible

variable {Key : Type}

/-! ## `InitUserRedeemableTokenAccount` -/

structure InitUserRedeemableTokenAccount (Key : Type) where
  userAuthority : AccountMeta Key
  userRedeemable : AccountMeta Key
  vault : AccountMeta Key
  vaultAuthority : AccountMeta Key
  redeemableMint : AccountMeta Key
  systemProgram : AccountMeta Key
  tokenProgram : AccountMeta Key
  rent : AccountMeta Key
  deriving DecidableEq, Repr

namespace InitUserRedeemableTokenAccount

variable [DecidableEq Key] (accounts : InitUserRedeemableTokenAccount Key)

def load (runtime : InitRuntime Key) (ledger : Ledger Key) : Except Failure (Vault Key) := do
  refuseIf (accounts.userAuthority.isSigner = false) .account
  let vault ← ledger.vault accounts.vault.key
  let _ ← ledger.mint accounts.redeemableMint.key
  refuseIf (accounts.systemProgram.key ≠ runtime.systemProgram) .account
  refuseIf (accounts.tokenProgram.key ≠ runtime.tokenProgram) .account
  refuseIf (accounts.rent.key ≠ runtime.rent) .account
  return vault

/-- The account marked `init`. -/
def create (runtime : InitRuntime Key) (vault : Vault Key) (ledger : Ledger Key) :
    Except Failure (Ledger Key) := do
  let name ← strip vault.vaultName.toList
  runtime.init accounts.userAuthority accounts.userRedeemable
    [userRedeemableSeed, name, runtime.toBytes accounts.userAuthority.key]
    (.token ⟨accounts.redeemableMint.key, accounts.userAuthority.key, 0⟩) ledger

def constraints (runtime : InitRuntime Key) (vault : Vault Key) : Except Failure Unit := do
  let name ← strip vault.vaultName.toList
  accounts.userAuthority.writable
  runtime.derives accounts.vault [name] vault.bumps.vault
  runtime.derives accounts.vaultAuthority [vaultAuthoritySeed, name] vault.bumps.vaultAuthority
  runtime.derives accounts.redeemableMint [redeemableMintSeed, name] vault.bumps.redeemableMint

end InitUserRedeemableTokenAccount

/-! ## `DepositVault` -/

structure DepositVaultBumps where
  loanAccount : UInt8
  depositAccount : UInt8
  userRedeemableAccount : UInt8
  collateralAccount : UInt8
  obligation : UInt8
  deriving DecidableEq, Repr

structure DepositVault (Key : Type) where
  userAuthority : AccountMeta Key
  userUsdc : AccountMeta Key
  userRedeemable : AccountMeta Key
  vault : AccountMeta Key
  vaultAuthority : AccountMeta Key
  usdcMint : AccountMeta Key
  redeemableMint : AccountMeta Key
  vaultUsdc : AccountMeta Key
  collateralAccount : AccountMeta Key
  loanAccount : AccountMeta Key
  market : AccountMeta Key
  feeNoteVault : AccountMeta Key
  pythPriceOracle : AccountMeta Key
  reserve : AccountMeta Key
  marketAuthority : AccountMeta Key
  jetVault : AccountMeta Key
  depositAccount : AccountMeta Key
  depositNoteMint : AccountMeta Key
  loanNoteMint : AccountMeta Key
  obligation : AccountMeta Key
  tokenProgram : AccountMeta Key
  jetProgram : AccountMeta Key
  deriving DecidableEq, Repr

/-- The accounts of the list whose data is read, as they were loaded. The note accounts are not
read: they are unchecked here. -/
structure LoadedDeposit (Key : Type) where
  userUsdc : TokenAccount Key
  userRedeemable : TokenAccount Key
  vault : Vault Key
  redeemableMint : Mint
  vaultUsdc : TokenAccount Key
  deriving DecidableEq, Repr

namespace DepositVault

variable [DecidableEq Key] (accounts : DepositVault Key)

def load (runtime : Runtime Key) (ledger : Ledger Key) : Except Failure (LoadedDeposit Key) := do
  refuseIf (accounts.userAuthority.isSigner = false) .account
  let userUsdc ← ledger.tokenAccount accounts.userUsdc.key
  let userRedeemable ← ledger.tokenAccount accounts.userRedeemable.key
  let vault ← ledger.vault accounts.vault.key
  let _ ← ledger.mint accounts.usdcMint.key
  let redeemableMint ← ledger.mint accounts.redeemableMint.key
  let vaultUsdc ← ledger.tokenAccount accounts.vaultUsdc.key
  refuseIf (accounts.tokenProgram.key ≠ runtime.tokenProgram) .account
  return { userUsdc, userRedeemable, vault, redeemableMint, vaultUsdc }

def constraints (runtime : Runtime Key) (bumps : DepositVaultBumps) (loaded : LoadedDeposit Key) :
    Except Failure Unit := do
  let name ← strip loaded.vault.vaultName.toList
  accounts.userUsdc.writable
  refuseIf (loaded.userUsdc.owner ≠ accounts.userAuthority.key)
    (.program .invalidUserUsdcAccountOwner)
  refuseIf (loaded.userUsdc.mint ≠ accounts.usdcMint.key) (.program .invalidUsdcMint)
  runtime.derives accounts.userRedeemable
    [userRedeemableSeed, name, runtime.toBytes accounts.userAuthority.key]
    bumps.userRedeemableAccount
  accounts.userRedeemable.writable
  runtime.derives accounts.vault [name] loaded.vault.bumps.vault
  refuseIf (loaded.vault.usdcMint ≠ accounts.usdcMint.key) (.program .invalidUsdcMint)
  runtime.derives accounts.vaultAuthority [vaultAuthoritySeed, name]
    loaded.vault.bumps.vaultAuthority
  accounts.vaultAuthority.writable
  accounts.usdcMint.writable
  runtime.derives accounts.redeemableMint [redeemableMintSeed, name]
    loaded.vault.bumps.redeemableMint
  accounts.redeemableMint.writable
  runtime.derives accounts.vaultUsdc [vaultUsdcSeed, name] loaded.vault.bumps.vaultUsdc
  accounts.vaultUsdc.writable
  -- Nothing but `mut` is declared on the rest.
  accounts.collateralAccount.writable
  accounts.loanAccount.writable
  accounts.market.writable
  accounts.feeNoteVault.writable
  accounts.reserve.writable
  accounts.marketAuthority.writable
  accounts.jetVault.writable
  accounts.depositAccount.writable
  accounts.depositNoteMint.writable
  accounts.loanNoteMint.writable
  accounts.obligation.writable

end DepositVault

end JetVault.Accounts
