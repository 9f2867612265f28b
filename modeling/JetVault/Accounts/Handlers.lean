import JetVault.Accounts.Deposit
import JetVault.Accounts.Withdraw

/-!
# The depositor's handlers on a ledger

`initialize_user_redeemable_token_account` and `deposit_vault` with their account lists, and the
calls to Jet that a deposit makes.
-/
namespace JetVault.Accounts

open Fallible FixedWidth

variable {Key : Type}

/-! ## Calls to Jet -/

structure Deposit (Key : Type) where
  depositAccount : Key
  depositNoteMint : Key
  vault : Key
  market : Key
  marketAuthority : Key
  tokenProgram : Key
  depositor : Key
  depositSource : Key
  reserve : Key
  deriving DecidableEq, Repr

structure DepositCollateral (Key : Type) where
  depositAccount : Key
  obligation : Key
  market : Key
  marketAuthority : Key
  tokenProgram : Key
  owner : Key
  collateralAccount : Key
  reserve : Key
  deriving DecidableEq, Repr

structure DepositCollateralBumpSeeds where
  collateralAccount : UInt8
  depositAccount : UInt8
  deriving DecidableEq, Repr

structure Borrow (Key : Type) where
  loanAccount : Key
  loanNoteMint : Key
  vault : Key
  receiverAccount : Key
  obligation : Key
  market : Key
  marketAuthority : Key
  tokenProgram : Key
  borrower : Key
  reserve : Key
  deriving DecidableEq, Repr

/-- The calls `deposit_vault` makes after `refresh_reserve`, signed for by the vault authority. -/
inductive DepositCall (Key : Type) where
  | deposit (accounts : Deposit Key) (bump : UInt8) (tokens : UInt64)
  | depositCollateral (accounts : DepositCollateral Key) (bumps : DepositCollateralBumpSeeds)
      (tokens : UInt64)
  | borrow (accounts : Borrow Key) (bump : UInt8) (tokens : UInt64)
  deriving DecidableEq, Repr

/-- What the instructions of a vault need together. -/
structure DepositRuntime (Key : Type) extends InitRuntime Key where
  invokeDeposit : Key → DepositCall Key → Ledger Key → Except Failure (Ledger Key)

namespace DepositVault

variable (accounts : DepositVault Key)

def refreshReserve : RefreshReserve Key where
  depositNoteMint := accounts.depositNoteMint.key
  market := accounts.market.key
  marketAuthority := accounts.marketAuthority.key
  tokenProgram := accounts.tokenProgram.key
  reserve := accounts.reserve.key
  feeNoteVault := accounts.feeNoteVault.key
  pythOraclePrice := accounts.pythPriceOracle.key

def deposit : Deposit Key where
  depositAccount := accounts.depositAccount.key
  depositNoteMint := accounts.depositNoteMint.key
  vault := accounts.jetVault.key
  market := accounts.market.key
  marketAuthority := accounts.marketAuthority.key
  tokenProgram := accounts.tokenProgram.key
  depositor := accounts.vaultAuthority.key
  depositSource := accounts.vaultUsdc.key
  reserve := accounts.reserve.key

def depositCollateral : DepositCollateral Key where
  depositAccount := accounts.depositAccount.key
  obligation := accounts.obligation.key
  market := accounts.market.key
  marketAuthority := accounts.marketAuthority.key
  tokenProgram := accounts.tokenProgram.key
  owner := accounts.vaultAuthority.key
  collateralAccount := accounts.collateralAccount.key
  reserve := accounts.reserve.key

def borrow : Borrow Key where
  loanAccount := accounts.loanAccount.key
  loanNoteMint := accounts.loanNoteMint.key
  vault := accounts.jetVault.key
  receiverAccount := accounts.vaultUsdc.key
  obligation := accounts.obligation.key
  market := accounts.market.key
  marketAuthority := accounts.marketAuthority.key
  tokenProgram := accounts.tokenProgram.key
  borrower := accounts.vaultAuthority.key
  reserve := accounts.reserve.key

end DepositVault

variable [DecidableEq Key]

/-- The token program's `mint_to`. The authority of the mint is not on the ledger: a redeemable
mint is created with the vault authority, which signs. -/
def Ledger.mintTo (mint account : Key) (amount : UInt64) (ledger : Ledger Key) :
    Except Failure (Ledger Key) := do
  let holder ← ledger.tokenAccount account
  refuseIf (holder.mint ≠ mint) .token
  let issued ← ledger.mint mint
  let credited ← tryAdd Failure.token holder.amount amount
  let supply ← tryAdd Failure.token issued.supply amount
  return (ledger.set account (some (.token { holder with amount := credited }))).set mint
    (some (.mint { issued with supply := supply }))

/-! ## The handlers -/

/-- The account list does all of it. -/
def initializeUserRedeemableTokenAccount (runtime : DepositRuntime Key) (clock : Int64)
    (accounts : InitUserRedeemableTokenAccount Key) (ledger : Ledger Key) :
    Except Failure (Ledger Key) := do
  let vault ← accounts.load runtime.toInitRuntime ledger
  let ledger ← accounts.create runtime.toInitRuntime vault ledger
  accounts.constraints runtime.toInitRuntime vault
  depositWithdrawPhase clock vault
  return ledger

def depositVault (runtime : DepositRuntime Key) (clock : Int64) (accounts : DepositVault Key)
    (bumps : DepositVaultBumps) (usdcAmount : UInt64) (ledger : Ledger Key) :
    Except Failure (Ledger Key) := do
  let loaded ← accounts.load runtime.toRuntime ledger
  accounts.constraints runtime.toRuntime bumps loaded
  depositWithdrawPhase clock loaded.vault
  refuseIf (loaded.userUsdc.amount < usdcAmount) (.program .insufficientUsdcBalance)
  let redeemableAmount ← redeemableAmount usdcAmount loaded.redeemableMint.supply
    loaded.vaultUsdc.amount
  -- The user signs for the transfer, the vault authority for what follows.
  let ledger ← ledger.transfer accounts.userUsdc.key accounts.vaultUsdc.key
    accounts.userAuthority.key (.ofNat redeemableAmount)
  let ledger ← ledger.mintTo accounts.redeemableMint.key accounts.userRedeemable.key usdcAmount
  let ledger ← runtime.invoke accounts.jetProgram.key (.refreshReserve accounts.refreshReserve)
    ledger
  let jet := runtime.invokeDeposit accounts.jetProgram.key
  let ledger ← jet (.deposit accounts.deposit bumps.depositAccount (depositTokens usdcAmount))
    ledger
  let ledger ← jet (.depositCollateral accounts.depositCollateral
    { collateralAccount := bumps.collateralAccount, depositAccount := bumps.depositAccount }
    (depositTokens usdcAmount)) ledger
  jet (.borrow accounts.borrow bumps.loanAccount (borrowTokens usdcAmount)) ledger

/-! ## What a successful call loaded and checked -/

theorem DepositVault.load_ok {runtime : Runtime Key} {accounts : DepositVault Key}
    {ledger : Ledger Key} {loaded : LoadedDeposit Key}
    (returned : accounts.load runtime ledger = .ok loaded) :
    accounts.userAuthority.isSigner = true ∧
      ledger accounts.userUsdc.key = some (.token loaded.userUsdc) ∧
      ledger accounts.userRedeemable.key = some (.token loaded.userRedeemable) ∧
      ledger accounts.vault.key = some (.vault loaded.vault) ∧
      ledger accounts.redeemableMint.key = some (.mint loaded.redeemableMint) ∧
      ledger accounts.vaultUsdc.key = some (.token loaded.vaultUsdc) := by
  simp only [load, bind_eq_ok, refuseIf_eq_ok, pure_eq_ok, Ledger.tokenAccount_eq_ok,
    Ledger.mint_eq_ok, Ledger.vault_eq_ok] at returned
  obtain ⟨_, signer, _, userUsdc, _, userRedeemable, _, vault, _, _, _, redeemableMint, _,
    vaultUsdc, _, _, rfl⟩ := returned
  exact ⟨Bool.eq_true_of_not_eq_false signer, userUsdc, userRedeemable, vault, redeemableMint,
    vaultUsdc⟩

theorem InitUserRedeemableTokenAccount.load_ok {runtime : InitRuntime Key}
    {accounts : InitUserRedeemableTokenAccount Key} {ledger : Ledger Key} {vault : Vault Key}
    (returned : accounts.load runtime ledger = .ok vault) :
    accounts.userAuthority.isSigner = true ∧
      ledger accounts.vault.key = some (.vault vault) := by
  simp only [load, bind_eq_ok, refuseIf_eq_ok, pure_eq_ok, Ledger.mint_eq_ok,
    Ledger.vault_eq_ok] at returned
  obtain ⟨_, signer, _, vault, _, _, _, _, _, _, _, _, rfl⟩ := returned
  exact ⟨Bool.eq_true_of_not_eq_false signer, vault⟩

end JetVault.Accounts
