import JetVault.Library.Fallible
import JetVault.Library.FixedWidth

/-!
# Vault accounts

The stored `Vault` record and the balances of one vault. `Key` is the type of public keys: it
names users and the accounts that the vault record stores.
-/
namespace JetVault

inductive ErrorCode where
  | vaultFuture
  | seqTimes
  | startEpochTime
  | endDepositsTime
  | insufficientUsdcBalance
  | insufficientRedeemableBalance
  | invalidUsdcMint
  | invalidUserUsdcAccountOwner
  deriving DecidableEq, Repr

/-- Why an instruction fails. Whatever the reason, the runtime rolls every account back. -/
inductive Failure where
  /-- the program's own error -/
  | program (code : ErrorCode)
  /-- Anchor refuses the account list -/
  | account
  /-- the token program refuses -/
  | token
  /-- the Jet program refuses -/
  | jet
  /-- a panic: `unwrap` of `None`, division by zero, slice index out of range -/
  | abort
  deriving DecidableEq, Repr

structure EpochTimes where
  startEpoch : Int64
  endDeposits : Int64
  startAuction : Int64
  endAuction : Int64
  startSettlement : Int64
  endEpoch : Int64
  epochCadence : UInt64
  deriving DecidableEq, Repr

structure VaultBumps where
  vault : UInt8
  vaultAuthority : UInt8
  redeemableMint : UInt8
  vaultUsdc : UInt8
  mintAuthority : UInt8
  obligation : UInt8
  depositAccount : UInt8
  collateralAccount : UInt8
  loanAccount : UInt8
  deriving DecidableEq, Repr

/-- The program's own account. -/
structure Vault (Key : Type) where
  vaultName : Vector UInt8 20
  bumps : VaultBumps
  vaultAdmin : Key
  usdcMint : Key
  redeemableMint : Key
  vaultUsdc : Key
  epochTimes : EpochTimes
  deriving DecidableEq, Repr

/-- The balances a Jet call can move: the vault's USDC account, its note accounts at Jet and
the USDC that the Jet reserve holds. -/
structure Balances where
  vaultUsdc : UInt64
  depositAccount : UInt64
  collateralAccount : UInt64
  loanAccount : UInt64
  jetVault : UInt64
  deriving DecidableEq, Repr

/-- One vault with everything its instructions read or move. A user's redeemable account does
not exist before its initialisation and after its closing. -/
structure Pool (Key : Type) extends Balances where
  vault : Vault Key
  redeemableSupply : UInt64
  userUsdc : Key → UInt64
  userRedeemable : Key → Option UInt64

variable {Key : Type}

/-- The redeemable tokens of a user; an absent account holds none. -/
def Pool.shares (s : Pool Key) (user : Key) : UInt64 :=
  (s.userRedeemable user).getD 0

/-- Everything the vault owns, less what it owes, with one note worth one unit of USDC. -/
def Balances.netEquity (b : Balances) : ℤ :=
  b.vaultUsdc.toNat + b.depositAccount.toNat + b.collateralAccount.toNat - b.loanAccount.toNat

end JetVault
