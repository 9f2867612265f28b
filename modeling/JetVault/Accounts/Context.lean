import JetVault.Accounts.Ledger
import JetVault.Vault.Name

/-!
# Account lists

The account list of `withdraw_vault` with every constraint declared on it, and the account
lists it hands to Jet. The Jet program, the derivation of addresses and the ids of other
programs are the runtime's.
-/
namespace JetVault.Accounts

open Fallible

/-! ## Seeds -/

def vaultAuthoritySeed : List UInt8 := "vault-authority".toUTF8.data.toList
def redeemableMintSeed : List UInt8 := "redeemable-mint".toUTF8.data.toList
def vaultUsdcSeed : List UInt8 := "vault-usdc".toUTF8.data.toList
def userRedeemableSeed : List UInt8 := "user-redeemable".toUTF8.data.toList

variable {Key : Type}

/-! ## Calls to Jet -/

structure RefreshReserve (Key : Type) where
  depositNoteMint : Key
  market : Key
  marketAuthority : Key
  tokenProgram : Key
  reserve : Key
  feeNoteVault : Key
  pythOraclePrice : Key
  deriving DecidableEq, Repr

structure Repay (Key : Type) where
  loanAccount : Key
  loanNoteMint : Key
  vault : Key
  payerAccount : Key
  obligation : Key
  market : Key
  marketAuthority : Key
  tokenProgram : Key
  payer : Key
  reserve : Key
  deriving DecidableEq, Repr

structure WithdrawCollateral (Key : Type) where
  collateralAccount : Key
  depositAccount : Key
  obligation : Key
  market : Key
  marketAuthority : Key
  tokenProgram : Key
  owner : Key
  reserve : Key
  deriving DecidableEq, Repr

structure WithdrawCollateralBumpSeeds where
  collateralAccount : UInt8
  depositAccount : UInt8
  deriving DecidableEq, Repr

/-- The calls `withdraw_vault` makes, signed for by the vault authority. -/
inductive JetCall (Key : Type) where
  | refreshReserve (accounts : RefreshReserve Key)
  | repay (accounts : Repay Key) (tokens : UInt64)
  | withdrawCollateral (accounts : WithdrawCollateral Key) (bumps : WithdrawCollateralBumpSeeds)
      (tokens : UInt64)
  deriving DecidableEq, Repr

/-- What the runtime provides: derived addresses, and the other programs. A program that is
called may do anything to the ledger. -/
structure Runtime (Key : Type) where
  /-- `create_program_address` for this program's id -/
  createProgramAddress : List (List UInt8) → Option Key
  toBytes : Key → List UInt8
  tokenProgram : Key
  invoke : Key → JetCall Key → Ledger Key → Except Failure (Ledger Key)

/-! ## The account list of `withdraw_vault` -/

structure AccountMeta (Key : Type) where
  key : Key
  isSigner : Bool
  isWritable : Bool
  deriving DecidableEq, Repr

/-- `#[account(mut)]` -/
def AccountMeta.writable (account : AccountMeta Key) : Except Failure Unit :=
  refuseIf (account.isWritable = false) .account

/-- `#[account(seeds = …, bump = …)]` -/
def Runtime.derives [DecidableEq Key] (runtime : Runtime Key) (account : AccountMeta Key)
    (seeds : List (List UInt8)) (bump : UInt8) : Except Failure Unit :=
  refuseIf (runtime.createProgramAddress (seeds ++ [[bump]]) ≠ some account.key) .account

structure WithdrawVaultBumps where
  loanAccount : UInt8
  depositAccount : UInt8
  userRedeemableAccount : UInt8
  collateralAccount : UInt8
  obligation : UInt8
  deriving DecidableEq, Repr

structure WithdrawVault (Key : Type) where
  userAuthority : AccountMeta Key
  userUsdc : AccountMeta Key
  userRedeemable : AccountMeta Key
  vault : AccountMeta Key
  vaultAuthority : AccountMeta Key
  usdcMint : AccountMeta Key
  redeemableMint : AccountMeta Key
  vaultUsdc : AccountMeta Key
  collateralAccount : AccountMeta Key
  loanAccount : AccountMeta Key
  depositAccount : AccountMeta Key
  market : AccountMeta Key
  reserve : AccountMeta Key
  marketAuthority : AccountMeta Key
  jetVault : AccountMeta Key
  loanNoteMint : AccountMeta Key
  obligation : AccountMeta Key
  feeNoteVault : AccountMeta Key
  pythPriceOracle : AccountMeta Key
  depositNoteMint : AccountMeta Key
  tokenProgram : AccountMeta Key
  jetProgram : AccountMeta Key
  deriving DecidableEq, Repr

/-- The accounts of the list whose data the handler reads, as they were loaded. -/
structure Loaded (Key : Type) where
  userUsdc : TokenAccount Key
  userRedeemable : TokenAccount Key
  vault : Vault Key
  redeemableMint : Mint
  vaultUsdc : TokenAccount Key
  collateralAccount : TokenAccount Key
  loanAccount : TokenAccount Key
  deriving DecidableEq, Repr

namespace WithdrawVault

variable (accounts : WithdrawVault Key)

/-- Every account of the list, in order, as its declared type. -/
def load [DecidableEq Key] (runtime : Runtime Key) (ledger : Ledger Key) :
    Except Failure (Loaded Key) := do
  refuseIf (accounts.userAuthority.isSigner = false) .account
  let userUsdc ← ledger.tokenAccount accounts.userUsdc.key
  let userRedeemable ← ledger.tokenAccount accounts.userRedeemable.key
  let vault ← ledger.vault accounts.vault.key
  let _ ← ledger.mint accounts.usdcMint.key
  let redeemableMint ← ledger.mint accounts.redeemableMint.key
  let vaultUsdc ← ledger.tokenAccount accounts.vaultUsdc.key
  let collateralAccount ← ledger.tokenAccount accounts.collateralAccount.key
  let loanAccount ← ledger.tokenAccount accounts.loanAccount.key
  refuseIf (accounts.tokenProgram.key ≠ runtime.tokenProgram) .account
  return { userUsdc, userRedeemable, vault, redeemableMint, vaultUsdc, collateralAccount,
           loanAccount }

/-- Every constraint declared on the list, field by field. -/
def constraints [DecidableEq Key] (runtime : Runtime Key) (bumps : WithdrawVaultBumps)
    (loaded : Loaded Key) : Except Failure Unit := do
  let name ← strip loaded.vault.vaultName.toList
  accounts.userAuthority.writable
  accounts.userUsdc.writable
  refuseIf (loaded.userUsdc.owner ≠ accounts.userAuthority.key)
    (.program .invalidUserUsdcAccountOwner)
  refuseIf (loaded.userUsdc.mint ≠ accounts.usdcMint.key) (.program .invalidUsdcMint)
  runtime.derives accounts.userRedeemable
    [userRedeemableSeed, name, runtime.toBytes accounts.userAuthority.key]
    bumps.userRedeemableAccount
  accounts.userRedeemable.writable
  runtime.derives accounts.vault [name] loaded.vault.bumps.vault
  refuseIf (loaded.vault.usdcMint ≠ accounts.usdcMint.key) (.program .invalidUsdcMint)
  runtime.derives accounts.vaultAuthority [vaultAuthoritySeed, name]
    loaded.vault.bumps.vaultAuthority
  runtime.derives accounts.redeemableMint [redeemableMintSeed, name]
    loaded.vault.bumps.redeemableMint
  accounts.redeemableMint.writable
  runtime.derives accounts.vaultUsdc [vaultUsdcSeed, name] loaded.vault.bumps.vaultUsdc
  accounts.vaultUsdc.writable
  -- Nothing but `mut` is declared on the rest.
  accounts.collateralAccount.writable
  accounts.loanAccount.writable
  accounts.depositAccount.writable
  accounts.market.writable
  accounts.reserve.writable
  accounts.marketAuthority.writable
  accounts.jetVault.writable
  accounts.loanNoteMint.writable
  accounts.obligation.writable
  accounts.feeNoteVault.writable
  accounts.depositNoteMint.writable

/-! ## The account lists handed to Jet -/

def refreshReserve : RefreshReserve Key where
  depositNoteMint := accounts.depositNoteMint.key
  market := accounts.market.key
  marketAuthority := accounts.marketAuthority.key
  tokenProgram := accounts.tokenProgram.key
  reserve := accounts.reserve.key
  feeNoteVault := accounts.feeNoteVault.key
  pythOraclePrice := accounts.pythPriceOracle.key

def repay : Repay Key where
  loanAccount := accounts.loanAccount.key
  loanNoteMint := accounts.loanNoteMint.key
  vault := accounts.jetVault.key
  payerAccount := accounts.vaultUsdc.key
  obligation := accounts.obligation.key
  market := accounts.market.key
  marketAuthority := accounts.marketAuthority.key
  tokenProgram := accounts.tokenProgram.key
  payer := accounts.vaultAuthority.key
  reserve := accounts.reserve.key

def withdrawCollateral : WithdrawCollateral Key where
  collateralAccount := accounts.collateralAccount.key
  depositAccount := accounts.depositAccount.key
  obligation := accounts.obligation.key
  market := accounts.market.key
  marketAuthority := accounts.marketAuthority.key
  tokenProgram := accounts.tokenProgram.key
  owner := accounts.vaultAuthority.key
  reserve := accounts.reserve.key

end WithdrawVault

end JetVault.Accounts
