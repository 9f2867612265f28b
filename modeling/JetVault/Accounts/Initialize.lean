import JetVault.Accounts.Seeds
import JetVault.Vault.Phase

/-!
# `initialize_vault` on a ledger

The account list of the instruction that creates a vault, and the handler. The accounts marked
`init` are created at the canonical addresses of their seeds, which hold the name as it was given.
-/
namespace JetVault.Accounts

open Fallible

variable {Key : Type}

/-! ## Calls to other programs -/

structure InitializeObligation (Key : Type) where
  market : Key
  marketAuthority : Key
  tokenProgram : Key
  borrower : Key
  systemProgram : Key
  obligation : Key
  deriving DecidableEq, Repr

structure InitializeDepositAccount (Key : Type) where
  market : Key
  marketAuthority : Key
  tokenProgram : Key
  depositor : Key
  depositNoteMint : Key
  systemProgram : Key
  depositAccount : Key
  reserve : Key
  rent : Key
  deriving DecidableEq, Repr

structure InitializeCollateralAccount (Key : Type) where
  market : Key
  marketAuthority : Key
  tokenProgram : Key
  owner : Key
  depositNoteMint : Key
  systemProgram : Key
  obligation : Key
  reserve : Key
  collateralAccount : Key
  rent : Key
  deriving DecidableEq, Repr

structure InitializeLoanAccount (Key : Type) where
  market : Key
  marketAuthority : Key
  tokenProgram : Key
  owner : Key
  systemProgram : Key
  obligation : Key
  reserve : Key
  rent : Key
  loanAccount : Key
  loanNoteMint : Key
  deriving DecidableEq, Repr

/-- The calls `initialize_vault` makes to Jet, signed for by the vault authority. -/
inductive InitCall (Key : Type) where
  | initObligation (accounts : InitializeObligation Key) (bump : UInt8)
  | initDepositAccount (accounts : InitializeDepositAccount Key) (bump : UInt8)
  | initCollateralAccount (accounts : InitializeCollateralAccount Key) (bump : UInt8)
  | initLoanAccount (accounts : InitializeLoanAccount Key) (bump : UInt8)
  deriving DecidableEq, Repr

inductive SystemCall (Key : Type) where
  | createAccount (payer account : Key)
  | transfer (source destination : Key) (lamports : UInt64)
  deriving DecidableEq, Repr

/-- What `initialize_vault` needs besides. Lamports are not on the ledger: a system call only
succeeds or fails. -/
structure InitRuntime (Key : Type) extends Runtime Key where
  systemProgram : Key
  rent : Key
  /-- `Pubkey::default()` -/
  defaultKey : Key
  system : SystemCall Key → Ledger Key → Except Failure Unit
  invokeInit : Key → InitCall Key → Ledger Key → Except Failure (Ledger Key)

/-! ## The account list of `initialize_vault` -/

structure InitializeVault (Key : Type) where
  vaultAdmin : AccountMeta Key
  vault : AccountMeta Key
  vaultAuthority : AccountMeta Key
  redeemableMint : AccountMeta Key
  vaultUsdc : AccountMeta Key
  usdcMint : AccountMeta Key
  market : AccountMeta Key
  obligation : AccountMeta Key
  depositAccount : AccountMeta Key
  collateralAccount : AccountMeta Key
  loanAccount : AccountMeta Key
  depositNoteMint : AccountMeta Key
  loanNoteMint : AccountMeta Key
  reserve : AccountMeta Key
  marketAuthority : AccountMeta Key
  systemProgram : AccountMeta Key
  tokenProgram : AccountMeta Key
  jetProgram : AccountMeta Key
  rent : AccountMeta Key
  deriving DecidableEq, Repr

/-- `#[account(init, seeds = …, bump, payer = …)]` -/
def InitRuntime.init [DecidableEq Key] (runtime : InitRuntime Key) (payer account : AccountMeta Key)
    (seeds : List (List UInt8)) (data : AccountData Key) (ledger : Ledger Key) :
    Except Failure (Ledger Key) :=
  match runtime.findProgramAddress seeds with
  | none => .error .abort
  | some (address, _) => do
    refuseIf (account.key ≠ address) .account
    refuseIf (ledger account.key).isSome .account
    account.writable
    runtime.system (.createAccount payer.key account.key) ledger
    return ledger.set account.key (some data)

/-- `Vault::default()`, until the handler's record is written. -/
def InitRuntime.defaultVault (runtime : InitRuntime Key) : Vault Key where
  vaultName := Vector.replicate 20 0
  bumps := ⟨0, 0, 0, 0, 0, 0, 0, 0, 0⟩
  vaultAdmin := runtime.defaultKey
  usdcMint := runtime.defaultKey
  redeemableMint := runtime.defaultKey
  vaultUsdc := runtime.defaultKey
  epochTimes := ⟨0, 0, 0, 0, 0, 0, 0⟩

namespace InitializeVault

variable (accounts : InitializeVault Key)

/-- The accounts that exist before the call, in order, as their declared types. -/
def load [DecidableEq Key] (runtime : InitRuntime Key) (ledger : Ledger Key) :
    Except Failure Unit := do
  refuseIf (accounts.vaultAdmin.isSigner = false) .account
  let _ ← ledger.mint accounts.usdcMint.key
  refuseIf (accounts.systemProgram.key ≠ runtime.systemProgram) .account
  refuseIf (accounts.tokenProgram.key ≠ runtime.tokenProgram) .account
  refuseIf (accounts.rent.key ≠ runtime.rent) .account

/-- The accounts marked `init`, which are created before any constraint is checked. -/
def create [DecidableEq Key] (runtime : InitRuntime Key) (vaultName : List UInt8)
    (ledger : Ledger Key) : Except Failure (Ledger Key) := do
  let ledger ← runtime.init accounts.vaultAdmin accounts.vault [vaultName]
    (.vault runtime.defaultVault) ledger
  let ledger ← runtime.init accounts.vaultAdmin accounts.redeemableMint
    [redeemableMintSeed, vaultName] (.mint ⟨0⟩) ledger
  runtime.init accounts.vaultAdmin accounts.vaultUsdc [vaultUsdcSeed, vaultName]
    (.token ⟨accounts.usdcMint.key, accounts.vaultAuthority.key, 0⟩) ledger

/-- Only the authority is checked against a bump of the caller. -/
def constraints [DecidableEq Key] (runtime : InitRuntime Key) (vaultName : List UInt8)
    (bumps : VaultBumps) : Except Failure Unit := do
  accounts.vaultAdmin.writable
  runtime.derives accounts.vaultAuthority [vaultAuthoritySeed, vaultName] bumps.vaultAuthority
  accounts.vaultAuthority.writable
  accounts.obligation.writable
  accounts.depositAccount.writable
  accounts.collateralAccount.writable
  accounts.loanAccount.writable
  accounts.marketAuthority.writable

/-! ## The account lists handed to Jet -/

def initializeObligation : InitializeObligation Key where
  market := accounts.market.key
  marketAuthority := accounts.marketAuthority.key
  tokenProgram := accounts.tokenProgram.key
  borrower := accounts.vaultAuthority.key
  systemProgram := accounts.systemProgram.key
  obligation := accounts.obligation.key

def initializeDepositAccount : InitializeDepositAccount Key where
  market := accounts.market.key
  marketAuthority := accounts.marketAuthority.key
  tokenProgram := accounts.tokenProgram.key
  depositor := accounts.vaultAuthority.key
  depositNoteMint := accounts.depositNoteMint.key
  systemProgram := accounts.systemProgram.key
  depositAccount := accounts.depositAccount.key
  reserve := accounts.reserve.key
  rent := accounts.rent.key

def initializeCollateralAccount : InitializeCollateralAccount Key where
  market := accounts.market.key
  marketAuthority := accounts.marketAuthority.key
  tokenProgram := accounts.tokenProgram.key
  owner := accounts.vaultAuthority.key
  depositNoteMint := accounts.depositNoteMint.key
  systemProgram := accounts.systemProgram.key
  obligation := accounts.obligation.key
  reserve := accounts.reserve.key
  collateralAccount := accounts.collateralAccount.key
  rent := accounts.rent.key

def initializeLoanAccount : InitializeLoanAccount Key where
  market := accounts.market.key
  marketAuthority := accounts.marketAuthority.key
  tokenProgram := accounts.tokenProgram.key
  owner := accounts.vaultAuthority.key
  systemProgram := accounts.systemProgram.key
  obligation := accounts.obligation.key
  reserve := accounts.reserve.key
  rent := accounts.rent.key
  loanAccount := accounts.loanAccount.key
  loanNoteMint := accounts.loanNoteMint.key

end InitializeVault

/-! ## The handler -/

variable [DecidableEq Key]

def initializeVault (runtime : InitRuntime Key) (clock : Int64) (accounts : InitializeVault Key)
    (vaultName : List UInt8) (vaultLamports : UInt64) (bumps : VaultBumps)
    (epochTimes : EpochTimes) (ledger : Ledger Key) : Except Failure (Ledger Key) := do
  accounts.load runtime ledger
  let ledger ← accounts.create runtime vaultName ledger
  accounts.constraints runtime vaultName bumps
  validateEpochTimes clock epochTimes
  -- The record keeps the padded name and the bumps of the caller.
  let nameData ← padName vaultName
  runtime.system (.transfer accounts.vaultAdmin.key accounts.vaultAuthority.key vaultLamports)
    ledger
  let jet := runtime.invokeInit accounts.jetProgram.key
  -- The authority signs with the seeds and the bump of its constraint.
  let ledger ← jet (.initObligation accounts.initializeObligation bumps.obligation) ledger
  let ledger ← jet (.initDepositAccount accounts.initializeDepositAccount bumps.depositAccount)
    ledger
  let ledger ← jet
    (.initCollateralAccount accounts.initializeCollateralAccount bumps.collateralAccount) ledger
  let ledger ← jet (.initLoanAccount accounts.initializeLoanAccount bumps.loanAccount) ledger
  -- Anchor writes the record back when the handler returns.
  return ledger.set accounts.vault.key (some (.vault
    { vaultName := nameData
      bumps := bumps
      vaultAdmin := accounts.vaultAdmin.key
      usdcMint := accounts.usdcMint.key
      redeemableMint := accounts.redeemableMint.key
      vaultUsdc := accounts.vaultUsdc.key
      epochTimes := epochTimes }))

/-! ## What a successful call created -/

/-- The account that the list names for a role. -/
def InitializeVault.account (accounts : InitializeVault Key) : Role → AccountMeta Key
  | .vault => accounts.vault
  | .vaultAuthority => accounts.vaultAuthority
  | .redeemableMint => accounts.redeemableMint
  | .vaultUsdc => accounts.vaultUsdc

theorem init_ok {runtime : InitRuntime Key} {payer account : AccountMeta Key}
    {seeds : List (List UInt8)} {data : AccountData Key} {ledger ledger' : Ledger Key}
    (returned : runtime.init payer account seeds data ledger = .ok ledger') :
    ∃ bump, runtime.findProgramAddress seeds = some (account.key, bump) := by
  unfold InitRuntime.init at returned
  split at returned
  next => cases returned
  next address bump found =>
    simp only [bind_eq_ok, refuseIf_eq_ok] at returned
    obtain ⟨_, same, _⟩ := returned
    exact ⟨bump, by rw [found, Decidable.not_not.mp same]⟩

/-- The addresses and the record after a successful call. The authority alone need not be at the
canonical address of its seeds. -/
structure Initialized (runtime : InitRuntime Key) (accounts : InitializeVault Key)
    (vaultName : List UInt8) (bumps : VaultBumps) (ledger' : Ledger Key) : Prop where
  canonical : ∀ role, role ≠ .vaultAuthority → ∃ bump,
    runtime.findProgramAddress (role.seeds vaultName) = some ((accounts.account role).key, bump)
  vaultAuthority : runtime.createProgramAddress
    (Role.vaultAuthority.seeds vaultName ++ [[bumps.vaultAuthority]]) =
      some accounts.vaultAuthority.key
  stored : ∃ vault, ledger' accounts.vault.key = some (.vault vault) ∧ vault.bumps = bumps ∧
    padName vaultName = .ok vault.vaultName

theorem initializeVault_ok {runtime : InitRuntime Key} {clock : Int64}
    {accounts : InitializeVault Key} {vaultName : List UInt8} {vaultLamports : UInt64}
    {bumps : VaultBumps} {epochTimes : EpochTimes} {ledger ledger' : Ledger Key}
    (returned : initializeVault runtime clock accounts vaultName vaultLamports bumps epochTimes
      ledger = .ok ledger') :
    Initialized runtime accounts vaultName bumps ledger' := by
  simp only [initializeVault, InitializeVault.create, InitializeVault.constraints,
    Runtime.derives_eq_ok, bind_eq_ok, pure_eq_ok] at returned
  obtain ⟨_, _, _, ⟨_, vault, _, redeemableMint, vaultUsdc⟩, _, ⟨_, _, _, vaultAuthority, _⟩,
    _, _, nameData, padded, _, _, _, _, _, _, _, _, _, _, rfl⟩ := returned
  constructor
  · intro role other
    cases role with
    | vault => exact init_ok vault
    | vaultAuthority => exact absurd rfl other
    | redeemableMint => exact init_ok redeemableMint
    | vaultUsdc => exact init_ok vaultUsdc
  · exact vaultAuthority
  · exact ⟨_, Ledger.set_self _ _ _, rfl, padded⟩

end JetVault.Accounts
