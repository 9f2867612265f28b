import JetVault.Accounts.Lifecycle

/-!
# What a transaction can reach

A transaction changes only accounts that it names. A program that is called is handed some of them,
and the rules of the runtime and of the token program hold it to these.
-/
namespace JetVault.Accounts

open Fallible

variable {Key : Type}

/-! ## The accounts that are named -/

def RefreshReserve.keys (accounts : RefreshReserve Key) : List Key :=
  [accounts.depositNoteMint, accounts.market, accounts.marketAuthority, accounts.tokenProgram,
    accounts.reserve, accounts.feeNoteVault, accounts.pythOraclePrice]

def Repay.keys (accounts : Repay Key) : List Key :=
  [accounts.loanAccount, accounts.loanNoteMint, accounts.vault, accounts.payerAccount,
    accounts.obligation, accounts.market, accounts.marketAuthority, accounts.tokenProgram,
    accounts.payer, accounts.reserve]

def WithdrawCollateral.keys (accounts : WithdrawCollateral Key) : List Key :=
  [accounts.collateralAccount, accounts.depositAccount, accounts.obligation, accounts.market,
    accounts.marketAuthority, accounts.tokenProgram, accounts.owner, accounts.reserve]

def JetCall.keys : JetCall Key → List Key
  | .refreshReserve accounts => accounts.keys
  | .repay accounts _ => accounts.keys
  | .withdrawCollateral accounts .. => accounts.keys

def Deposit.keys (accounts : Deposit Key) : List Key :=
  [accounts.depositAccount, accounts.depositNoteMint, accounts.vault, accounts.market,
    accounts.marketAuthority, accounts.tokenProgram, accounts.depositor, accounts.depositSource,
    accounts.reserve]

def DepositCollateral.keys (accounts : DepositCollateral Key) : List Key :=
  [accounts.depositAccount, accounts.obligation, accounts.market, accounts.marketAuthority,
    accounts.tokenProgram, accounts.owner, accounts.collateralAccount, accounts.reserve]

def Borrow.keys (accounts : Borrow Key) : List Key :=
  [accounts.loanAccount, accounts.loanNoteMint, accounts.vault, accounts.receiverAccount,
    accounts.obligation, accounts.market, accounts.marketAuthority, accounts.tokenProgram,
    accounts.borrower, accounts.reserve]

def DepositCall.keys : DepositCall Key → List Key
  | .deposit accounts .. => accounts.keys
  | .depositCollateral accounts .. => accounts.keys
  | .borrow accounts .. => accounts.keys

def InitializeObligation.keys (accounts : InitializeObligation Key) : List Key :=
  [accounts.market, accounts.marketAuthority, accounts.tokenProgram, accounts.borrower,
    accounts.systemProgram, accounts.obligation]

def InitializeDepositAccount.keys (accounts : InitializeDepositAccount Key) : List Key :=
  [accounts.market, accounts.marketAuthority, accounts.tokenProgram, accounts.depositor,
    accounts.depositNoteMint, accounts.systemProgram, accounts.depositAccount, accounts.reserve,
    accounts.rent]

def InitializeCollateralAccount.keys (accounts : InitializeCollateralAccount Key) : List Key :=
  [accounts.market, accounts.marketAuthority, accounts.tokenProgram, accounts.owner,
    accounts.depositNoteMint, accounts.systemProgram, accounts.obligation, accounts.reserve,
    accounts.collateralAccount, accounts.rent]

def InitializeLoanAccount.keys (accounts : InitializeLoanAccount Key) : List Key :=
  [accounts.market, accounts.marketAuthority, accounts.tokenProgram, accounts.owner,
    accounts.systemProgram, accounts.obligation, accounts.reserve, accounts.rent,
    accounts.loanAccount, accounts.loanNoteMint]

def InitCall.keys : InitCall Key → List Key
  | .initObligation accounts _ => accounts.keys
  | .initDepositAccount accounts _ => accounts.keys
  | .initCollateralAccount accounts _ => accounts.keys
  | .initLoanAccount accounts _ => accounts.keys

def InitializeVault.keys (accounts : InitializeVault Key) : List Key :=
  [accounts.vaultAdmin.key, accounts.vault.key, accounts.vaultAuthority.key,
    accounts.redeemableMint.key, accounts.vaultUsdc.key, accounts.usdcMint.key,
    accounts.market.key, accounts.obligation.key, accounts.depositAccount.key,
    accounts.collateralAccount.key, accounts.loanAccount.key, accounts.depositNoteMint.key,
    accounts.loanNoteMint.key, accounts.reserve.key, accounts.marketAuthority.key,
    accounts.systemProgram.key, accounts.tokenProgram.key, accounts.jetProgram.key,
    accounts.rent.key]

def InitUserRedeemableTokenAccount.keys (accounts : InitUserRedeemableTokenAccount Key) :
    List Key :=
  [accounts.userAuthority.key, accounts.userRedeemable.key, accounts.vault.key,
    accounts.vaultAuthority.key, accounts.redeemableMint.key, accounts.systemProgram.key,
    accounts.tokenProgram.key, accounts.rent.key]

def DepositVault.keys (accounts : DepositVault Key) : List Key :=
  [accounts.userAuthority.key, accounts.userUsdc.key, accounts.userRedeemable.key,
    accounts.vault.key, accounts.vaultAuthority.key, accounts.usdcMint.key,
    accounts.redeemableMint.key, accounts.vaultUsdc.key, accounts.collateralAccount.key,
    accounts.loanAccount.key, accounts.market.key, accounts.feeNoteVault.key,
    accounts.pythPriceOracle.key, accounts.reserve.key, accounts.marketAuthority.key,
    accounts.jetVault.key, accounts.depositAccount.key, accounts.depositNoteMint.key,
    accounts.loanNoteMint.key, accounts.obligation.key, accounts.tokenProgram.key,
    accounts.jetProgram.key]

def WithdrawVault.keys (accounts : WithdrawVault Key) : List Key :=
  [accounts.userAuthority.key, accounts.userUsdc.key, accounts.userRedeemable.key,
    accounts.vault.key, accounts.vaultAuthority.key, accounts.usdcMint.key,
    accounts.redeemableMint.key, accounts.vaultUsdc.key, accounts.collateralAccount.key,
    accounts.loanAccount.key, accounts.depositAccount.key, accounts.market.key,
    accounts.reserve.key, accounts.marketAuthority.key, accounts.jetVault.key,
    accounts.loanNoteMint.key, accounts.obligation.key, accounts.feeNoteVault.key,
    accounts.pythPriceOracle.key, accounts.depositNoteMint.key, accounts.tokenProgram.key,
    accounts.jetProgram.key]

def Instruction.keys : Instruction Key → List Key
  | .initializeVault accounts .. => accounts.keys
  | .initializeUserRedeemableTokenAccount accounts => accounts.keys
  | .depositVault accounts .. => accounts.keys
  | .withdrawVault accounts .. => accounts.keys
  | .transfer source destination authority _ => [source, destination, authority]

/-! What is handed on was named. -/

theorem InitializeVault.calls_subset (accounts : InitializeVault Key) :
    accounts.initializeObligation.keys ⊆ accounts.keys ∧
      accounts.initializeDepositAccount.keys ⊆ accounts.keys ∧
      accounts.initializeCollateralAccount.keys ⊆ accounts.keys ∧
      accounts.initializeLoanAccount.keys ⊆ accounts.keys := by
  simp [InitializeObligation.keys, InitializeDepositAccount.keys,
    InitializeCollateralAccount.keys, InitializeLoanAccount.keys, initializeObligation,
    initializeDepositAccount, initializeCollateralAccount, initializeLoanAccount, keys]

theorem DepositVault.calls_subset (accounts : DepositVault Key) :
    accounts.refreshReserve.keys ⊆ accounts.keys ∧ accounts.deposit.keys ⊆ accounts.keys ∧
      accounts.depositCollateral.keys ⊆ accounts.keys ∧
      accounts.borrow.keys ⊆ accounts.keys := by
  simp [RefreshReserve.keys, Deposit.keys, DepositCollateral.keys, Borrow.keys, refreshReserve,
    deposit, depositCollateral, borrow, keys]

theorem WithdrawVault.calls_subset (accounts : WithdrawVault Key) :
    accounts.refreshReserve.keys ⊆ accounts.keys ∧ accounts.repay.keys ⊆ accounts.keys ∧
      accounts.withdrawCollateral.keys ⊆ accounts.keys := by
  simp [RefreshReserve.keys, Repay.keys, WithdrawCollateral.keys, refreshReserve, repay,
    withdrawCollateral, keys]

/-! ## What is not named -/

variable [DecidableEq Key]

/-- The balance of a token account of the mint. -/
def Ledger.held (ledger : Ledger Key) (mint key : Key) : Option UInt64 :=
  match ledger key with
  | some (.token account) => if account.mint = mint then some account.amount else none
  | _ => none

theorem Ledger.held_ne_none (ledger : Ledger Key) (mint key : Key) :
    ledger.held mint key ≠ none ↔
      ∃ account, ledger key = some (.token account) ∧ account.mint = mint := by
  unfold held
  split <;> simp_all

/-- From one ledger to a later one: an account that is not named is as it was, and a token account
is of a mint that it was of before or that is named. -/
structure Confined (keys : List Key) (before after : Ledger Key) : Prop where
  others : ∀ key, key ∉ keys → after key = before key
  minted : ∀ mint key, after.held mint key ≠ none → before.held mint key ≠ none ∨ mint ∈ keys

/-- A program that is called changes only accounts that it is handed, and makes token accounts only
of mints that it is handed. -/
structure DepositRuntime.Confined (runtime : DepositRuntime Key) : Prop where
  invoke : ∀ program call ledger ledger', runtime.invoke program call ledger = .ok ledger' →
    Accounts.Confined call.keys ledger ledger'
  invokeDeposit : ∀ program call ledger ledger',
    runtime.invokeDeposit program call ledger = .ok ledger' →
      Accounts.Confined call.keys ledger ledger'
  invokeInit : ∀ program call ledger ledger',
    runtime.invokeInit program call ledger = .ok ledger' →
      Accounts.Confined call.keys ledger ledger'

namespace Confined

variable {keys wider : List Key} {ledger ledger' ledger'' : Ledger Key} {key mint : Key}

theorem refl (keys : List Key) (ledger : Ledger Key) : Confined keys ledger ledger where
  others _ _ := rfl
  minted _ _ := .inl

theorem trans (first : Confined keys ledger ledger') (second : Confined keys ledger' ledger'') :
    Confined keys ledger ledger'' where
  others key unnamed := (second.others key unnamed).trans (first.others key unnamed)
  minted mint key held := (second.minted mint key held).elim (first.minted mint key) .inr

theorem widen (confined : Confined keys ledger ledger') (subset : keys ⊆ wider) :
    Confined wider ledger ledger' where
  others key unnamed := confined.others key fun named => unnamed (subset named)
  minted mint key held := (confined.minted mint key held).imp_right fun named => subset named

/-- A write to an account that is named, and that becomes no token account of a new mint that is
not. -/
theorem set {data : Option (AccountData Key)} (named : key ∈ keys)
    (fair : ∀ account, data = some (.token account) →
      ledger.held account.mint key ≠ none ∨ account.mint ∈ keys) :
    Confined keys ledger (ledger.set key data) where
  others other unnamed := Ledger.set_of_ne _ _ fun same => unnamed (same ▸ named)
  minted mint other held := by
    obtain ⟨account, found, rfl⟩ := (Ledger.held_ne_none ..).mp held
    -- At the key it is what was written; elsewhere it was there before.
    by_cases same : other = key
    · subst same
      exact fair account ((Ledger.set_self ..).symm.trans found)
    · rw [Ledger.set_of_ne _ _ same] at found
      exact .inl ((Ledger.held_ne_none ..).mpr ⟨account, found, rfl⟩)

/-- A balance is written. -/
theorem set_token {account : TokenAccount Key} (named : key ∈ keys)
    (found : ledger key = some (.token account)) (amount : UInt64) :
    Confined keys ledger
      (ledger.set key (some (.token { account with amount := amount }))) := by
  refine set named fun account' written => .inl ?_
  cases written
  exact (Ledger.held_ne_none ..).mpr ⟨account, found, rfl⟩

theorem set_mint {issued : Mint} (named : key ∈ keys) :
    Confined keys ledger (ledger.set key (some (.mint issued))) :=
  set named (by simp)

theorem init {runtime : InitRuntime Key} {payer account : AccountMeta Key}
    {seeds : List (List UInt8)} {data : AccountData Key} (named : account.key ∈ keys)
    (fair : ∀ opened, data = .token opened → opened.mint ∈ keys)
    (returned : runtime.init payer account seeds data ledger = .ok ledger') :
    Confined keys ledger ledger' := by
  obtain ⟨_, rfl⟩ := init_sets returned
  exact set named fun opened written => .inr (fair opened (Option.some.inj written))

/-! ## The token program -/

variable {authority source destination account : Key} {amount : UInt64}

theorem transfer (debited : source ∈ keys) (credited : destination ∈ keys)
    (returned : ledger.transfer source destination authority amount = .ok ledger') :
    Confined keys ledger ledger' := by
  simp only [Ledger.transfer, bind_eq_ok, Ledger.tokenAccount_eq_ok] at returned
  obtain ⟨payer, paid, receiver, received, _, _, _, _, _, _, moved⟩ := returned
  split at moved
  next same =>
    cases (pure_eq_ok _ _).mp moved
    exact refl keys ledger
  next different =>
    simp only [bind_eq_ok, pure_eq_ok] at moved
    obtain ⟨_, _, rfl⟩ := moved
    -- The receiver is another account, and still as it was when it was read.
    refine (set_token debited paid _).trans (set_token credited ?_ _)
    rw [Ledger.set_of_ne _ _ (Ne.symm different), received]

theorem mintTo (issued : mint ∈ keys) (credited : account ∈ keys)
    (returned : ledger.mintTo mint account amount = .ok ledger') :
    Confined keys ledger ledger' := by
  simp only [Ledger.mintTo, bind_eq_ok, pure_eq_ok, Ledger.tokenAccount_eq_ok] at returned
  obtain ⟨_, held, _, _, _, _, _, _, _, _, rfl⟩ := returned
  exact (set_token credited held _).trans (set_mint issued)

theorem burn (issued : mint ∈ keys) (debited : account ∈ keys)
    (returned : ledger.burn account mint authority amount = .ok ledger') :
    Confined keys ledger ledger' := by
  simp only [Ledger.burn, bind_eq_ok, pure_eq_ok, Ledger.tokenAccount_eq_ok] at returned
  obtain ⟨_, held, _, _, _, _, _, _, _, _, _, _, rfl⟩ := returned
  exact (set_token debited held _).trans (set_mint issued)

theorem closeAccount (closed : account ∈ keys)
    (returned : ledger.closeAccount account destination authority = .ok ledger') :
    Confined keys ledger ledger' := by
  simp only [Ledger.closeAccount, bind_eq_ok, pure_eq_ok] at returned
  obtain ⟨_, _, _, _, _, _, _, _, rfl⟩ := returned
  exact set closed (by simp)

end Confined

/-- Programs that do nothing reach nothing. -/
theorem DepositRuntime.Confined.of_idle {runtime : DepositRuntime Key}
    (invoke : ∀ program call ledger, runtime.invoke program call ledger = .ok ledger)
    (invokeDeposit : ∀ program call ledger, runtime.invokeDeposit program call ledger = .ok ledger)
    (invokeInit : ∀ program call ledger, runtime.invokeInit program call ledger = .ok ledger) :
    runtime.Confined where
  invoke program call ledger ledger' returned := by
    cases (invoke program call ledger).symm.trans returned
    exact .refl _ ledger
  invokeDeposit program call ledger ledger' returned := by
    cases (invokeDeposit program call ledger).symm.trans returned
    exact .refl _ ledger
  invokeInit program call ledger ledger' returned := by
    cases (invokeInit program call ledger).symm.trans returned
    exact .refl _ ledger

/-! ## The instructions -/

variable {runtime : DepositRuntime Key} {clock : Int64} {ledger ledger' : Ledger Key}

theorem initializeVault_confined (confined : runtime.Confined) {accounts : InitializeVault Key}
    {vaultName : List UInt8} {vaultLamports : UInt64} {bumps : VaultBumps} {epochTimes : EpochTimes}
    (returned : initializeVault runtime.toInitRuntime clock accounts vaultName vaultLamports bumps
      epochTimes ledger = .ok ledger') : Confined accounts.keys ledger ledger' := by
  simp only [initializeVault, InitializeVault.create, bind_eq_ok, pure_eq_ok] at returned
  obtain ⟨_, _, _, ⟨_, first, _, second, third⟩, _, _, _, _, _, _, _, _, _, obligation, _, deposit,
    _, collateral, _, loan, rfl⟩ := returned
  -- Three accounts are created, Jet is called four times, and the record is written last.
  have created : Confined accounts.keys ledger _ :=
    ((Confined.init (by simp [InitializeVault.keys]) (by simp) first).trans
      (.init (by simp [InitializeVault.keys]) (by simp) second)).trans
      (.init (by simp [InitializeVault.keys]) (by simp [InitializeVault.keys]) third)
  obtain ⟨byObligation, byDeposit, byCollateral, byLoan⟩ := accounts.calls_subset
  have called := ((((confined.invokeInit _ _ _ _ obligation).widen byObligation).trans
    ((confined.invokeInit _ _ _ _ deposit).widen byDeposit)).trans
    ((confined.invokeInit _ _ _ _ collateral).widen byCollateral)).trans
    ((confined.invokeInit _ _ _ _ loan).widen byLoan)
  exact (created.trans called).trans (.set (by simp [InitializeVault.keys]) (by simp))

theorem initializeUserRedeemableTokenAccount_confined
    {accounts : InitUserRedeemableTokenAccount Key}
    (returned : initializeUserRedeemableTokenAccount runtime clock accounts ledger = .ok ledger') :
    Confined accounts.keys ledger ledger' := by
  simp only [initializeUserRedeemableTokenAccount, InitUserRedeemableTokenAccount.create,
    bind_eq_ok, pure_eq_ok] at returned
  obtain ⟨_, _, _, ⟨_, _, created⟩, _, _, _, _, rfl⟩ := returned
  exact .init (by simp [InitUserRedeemableTokenAccount.keys])
    (by simp [InitUserRedeemableTokenAccount.keys]) created

theorem depositVault_confined (confined : runtime.Confined) {accounts : DepositVault Key}
    {bumps : DepositVaultBumps} {usdcAmount : UInt64}
    (returned : depositVault runtime clock accounts bumps usdcAmount ledger = .ok ledger') :
    Confined accounts.keys ledger ledger' := by
  simp only [depositVault, bind_eq_ok] at returned
  obtain ⟨_, _, _, _, _, _, _, _, _, _, _, pay, _, mint, _, refresh, _, lend, _, post, borrow⟩ :=
    returned
  -- The payment and the shares come in front of the calls.
  have moved : Confined accounts.keys ledger _ :=
    (Confined.transfer (by simp [DepositVault.keys]) (by simp [DepositVault.keys]) pay).trans
      (.mintTo (by simp [DepositVault.keys]) (by simp [DepositVault.keys]) mint)
  obtain ⟨byRefresh, byDeposit, byCollateral, byBorrow⟩ := accounts.calls_subset
  have called := ((((confined.invoke _ _ _ _ refresh).widen byRefresh).trans
    ((confined.invokeDeposit _ _ _ _ lend).widen byDeposit)).trans
    ((confined.invokeDeposit _ _ _ _ post).widen byCollateral)).trans
    ((confined.invokeDeposit _ _ _ _ borrow).widen byBorrow)
  exact moved.trans called

theorem withdrawVault_confined (confined : runtime.Confined) {accounts : WithdrawVault Key}
    {bumps : WithdrawVaultBumps} {redeemableAmount : UInt64} {outcome : Outcome Key}
    (returned : withdrawVault runtime.toRuntime clock accounts bumps redeemableAmount ledger =
      .ok outcome) : Confined accounts.keys ledger outcome.ledger := by
  simp only [withdrawVault, bind_eq_ok, pure_eq_ok] at returned
  obtain ⟨_, _, _, _, _, _, _, _, _, _, _, refresh, _, repay, _, release, _, burn, _, pay,
    _, close, rfl⟩ := returned
  -- The calls come first, and an account that is left without shares is closed at the end.
  obtain ⟨byRefresh, byRepay, byRelease⟩ := accounts.calls_subset
  have called := (((confined.invoke _ _ _ _ refresh).widen byRefresh).trans
    ((confined.invoke _ _ _ _ repay).widen byRepay)).trans
    ((confined.invoke _ _ _ _ release).widen byRelease)
  have moved : Confined accounts.keys _ _ :=
    (Confined.burn (by simp [WithdrawVault.keys]) (by simp [WithdrawVault.keys]) burn).trans
      (.transfer (by simp [WithdrawVault.keys]) (by simp [WithdrawVault.keys]) pay)
  refine (called.trans moved).trans ?_
  simp only [closeIfEmpty, bind_eq_ok] at close
  obtain ⟨_, _, closed⟩ := close
  split at closed
  next => exact .closeAccount (by simp [WithdrawVault.keys]) closed
  next =>
    cases (pure_eq_ok _ _).mp closed
    exact .refl _ _

/-- A transaction changes only accounts that it names. -/
theorem execute_confined (confined : runtime.Confined) {timed : Int64 × Instruction Key}
    (returned : execute runtime timed ledger = .ok ledger') :
    Confined timed.2.keys ledger ledger' := by
  obtain ⟨clock, instruction⟩ := timed
  cases instruction with
  | initializeVault => exact initializeVault_confined confined returned
  | initializeUserRedeemableTokenAccount =>
    exact initializeUserRedeemableTokenAccount_confined returned
  | depositVault => exact depositVault_confined confined returned
  | withdrawVault =>
    simp only [execute, bind_eq_ok, pure_eq_ok] at returned
    obtain ⟨outcome, returned, rfl⟩ := returned
    exact withdrawVault_confined confined returned
  | transfer =>
    exact .transfer (by simp [Instruction.keys]) (by simp [Instruction.keys]) returned

end JetVault.Accounts
