import JetVault.Accounts.HostedJet

/-!
# Safety against every account list

What no run can do, whatever accounts its lists name and whatever programs they name as Jet: take
from an owner who does not sign, or touch the record of a vault.
-/
namespace JetVault.Accounts

open Fallible FixedWidth Transition

variable {Key : Type}

/-! ## What is left alone -/

/-- The owners whose token accounts are to lose nothing, and the mints that are to be left alone. -/
structure Guard (Key : Type) where
  owns : Key → Prop
  issues : Key → Prop

def Guard.ofWallets (wallets : Key → Prop) : Guard Key := ⟨wallets, fun _ => False⟩

/-- Only records are left alone. -/
def unguarded : Guard Key := .ofWallets fun _ => False

/-- What is guarded against a call with a signature: nothing of the owner who signed, and the mints
only if no owner did. -/
def Guard.without (guard : Guard Key) (signer : Option Key) : Guard Key where
  owns key := guard.owns key ∧ signer ≠ some key
  issues key := guard.issues key ∧ ∀ owner, signer = some owner → ¬ guard.owns owner

/-- Where a vault record can be created: a canonical address with one seed. -/
def Runtime.Canonical (runtime : Runtime Key) (key : Key) : Prop :=
  ∃ name bump, runtime.findProgramAddress [name] = some (key, bump)

/-- From one ledger to a later one: the records of vaults are as they were, and new ones are where
they can be created; what is guarded is left alone, but token accounts may have gained. -/
structure Spares (runtime : Runtime Key) (guard : Guard Key) (before after : Ledger Key) :
    Prop where
  vaults : ∀ key vault, before key = some (.vault vault) → after key = some (.vault vault)
  records : ∀ key vault, after key = some (.vault vault) →
    before key = some (.vault vault) ∨ runtime.Canonical key
  tokens : ∀ key account, before key = some (.token account) → guard.owns account.owner →
    ∃ account', after key = some (.token account') ∧ account'.mint = account.mint ∧
      account'.owner = account.owner ∧ account.amount.toNat ≤ account'.amount.toNat
  mints : ∀ key mint, before key = some (.mint mint) → guard.issues key →
    after key = some (.mint mint)

/-! ## Signatures -/

/-- The account of a call that signs it, with the signature of a derived address. -/
def JetCall.signer : JetCall Key → Option Key
  | .refreshReserve _ => none
  | .repay accounts _ => some accounts.payer
  | .withdrawCollateral accounts .. => some accounts.owner

def DepositCall.signer : DepositCall Key → Option Key
  | .deposit accounts .. => some accounts.depositor
  | .depositCollateral accounts .. => some accounts.owner
  | .borrow accounts .. => some accounts.borrower

def InitCall.signer : InitCall Key → Option Key
  | .initObligation accounts _ => some accounts.borrower
  | .initDepositAccount accounts _ => some accounts.depositor
  | .initCollateralAccount accounts _ => some accounts.owner
  | .initLoanAccount accounts _ => some accounts.owner

/-- A program that is called leaves the accounts of this program alone, and what is guarded against
the signature it is called with. -/
structure DepositRuntime.Contained (runtime : DepositRuntime Key) (guard : Guard Key) : Prop where
  invoke : ∀ program call ledger ledger', runtime.invoke program call ledger = .ok ledger' →
    Spares runtime.toRuntime (guard.without call.signer) ledger ledger'
  invokeDeposit : ∀ program call ledger ledger',
    runtime.invokeDeposit program call ledger = .ok ledger' →
      Spares runtime.toRuntime (guard.without call.signer) ledger ledger'
  invokeInit : ∀ program call ledger ledger',
    runtime.invokeInit program call ledger = .ok ledger' →
      Spares runtime.toRuntime (guard.without call.signer) ledger ledger'

/-- Who signs a transaction. -/
def Instruction.Signs (key : Key) : Instruction Key → Prop
  | .initializeVault accounts .. =>
      accounts.vaultAdmin.key = key ∧ accounts.vaultAdmin.isSigner = true
  | .initializeUserRedeemableTokenAccount accounts =>
      accounts.userAuthority.key = key ∧ accounts.userAuthority.isSigner = true
  | .depositVault accounts .. =>
      accounts.userAuthority.key = key ∧ accounts.userAuthority.isSigner = true
  | .withdrawVault accounts .. =>
      accounts.userAuthority.key = key ∧ accounts.userAuthority.isSigner = true
  | .transfer _ _ authority _ => authority = key

/-- The derived address that the program signs for. -/
def Instruction.vaultAuthority : Instruction Key → Option Key
  | .initializeVault accounts .. => some accounts.vaultAuthority.key
  | .initializeUserRedeemableTokenAccount _ => none
  | .depositVault accounts .. => some accounts.vaultAuthority.key
  | .withdrawVault accounts .. => some accounts.vaultAuthority.key
  | .transfer .. => none

/-- The mint that is issued or burned. -/
def Instruction.redeemableMint : Instruction Key → Option Key
  | .initializeVault .. => none
  | .initializeUserRedeemableTokenAccount _ => none
  | .depositVault accounts .. => some accounts.redeemableMint.key
  | .withdrawVault accounts .. => some accounts.redeemableMint.key
  | .transfer .. => none

/-- No guarded owner signs, not even through the program, and no guarded mint is named. -/
structure Unsigned (guard : Guard Key) (_ : Ledger Key) (timed : Int64 × Instruction Key) :
    Prop where
  wallet : ∀ key, timed.2.Signs key → ¬ guard.owns key
  vaultAuthority : ∀ key, timed.2.vaultAuthority = some key → ¬ guard.owns key
  redeemableMint : ∀ key, timed.2.redeemableMint = some key → ¬ guard.issues key

theorem Unsigned.unguarded (ledger : Ledger Key) (timed : Int64 × Instruction Key) :
    Unsigned unguarded ledger timed :=
  ⟨fun _ _ => id, fun _ _ => id, fun _ _ => id⟩

namespace Spares

variable {runtime : Runtime Key} {guard : Guard Key} {ledger ledger' ledger'' : Ledger Key}

theorem refl (runtime : Runtime Key) (guard : Guard Key) (ledger : Ledger Key) :
    Spares runtime guard ledger ledger where
  vaults _ _ found := found
  records _ _ found := .inl found
  tokens _ account found _ := ⟨account, found, rfl, rfl, le_rfl⟩
  mints _ _ found _ := found

theorem trans (first : Spares runtime guard ledger ledger')
    (second : Spares runtime guard ledger' ledger'') : Spares runtime guard ledger ledger'' where
  vaults key vault found := second.vaults key vault (first.vaults key vault found)
  records key vault found := by
    rcases second.records key vault found with between | canonical
    · exact first.records key vault between
    · exact .inr canonical
  tokens key account found owned := by
    obtain ⟨account', found', mint, owner, gained⟩ := first.tokens key account found owned
    obtain ⟨account'', found'', mint', owner', gained'⟩ :=
      second.tokens key account' found' (owner ▸ owned)
    exact ⟨account'', found'', mint'.trans mint, owner'.trans owner, gained.trans gained'⟩
  mints key mint found issued := second.mints key mint (first.mints key mint found issued) issued

/-- A call without a guarded signature. -/
theorem of_without {signer : Option Key} (unsigned : ∀ key, signer = some key → ¬ guard.owns key)
    (spares : Spares runtime (guard.without signer) ledger ledger') :
    Spares runtime guard ledger ledger' where
  vaults := spares.vaults
  records := spares.records
  tokens key account found owned :=
    spares.tokens key account found ⟨owned, fun same => unsigned _ same owned⟩
  mints key mint found issued := spares.mints key mint found ⟨issued, unsigned⟩

theorem of_without_none (spares : Spares runtime (guard.without none) ledger ledger') :
    Spares runtime guard ledger ledger' :=
  of_without (by simp) spares

/-- Records are left alone in any case. -/
theorem unguard {signer : Option Key}
    (spares : Spares runtime (guard.without signer) ledger ledger') :
    Spares runtime (unguarded.without signer) ledger ledger' where
  vaults := spares.vaults
  records := spares.records
  tokens _ _ _ owned := owned.1.elim
  mints _ _ _ issued := issued.1.elim

variable [DecidableEq Key] {key : Key}

/-- A write spares what is guarded when it neither replaces nor makes a record, and what it replaces
is no guarded mint and no tokens of a guarded owner, or more of them than before. -/
theorem set {data : Option (AccountData Key)} (noVault : ∀ vault, ledger key ≠ some (.vault vault))
    (noRecord : ∀ vault, data ≠ some (.vault vault))
    (gains : ∀ account, ledger key = some (.token account) → guard.owns account.owner →
      ∃ account', data = some (.token account') ∧ account'.mint = account.mint ∧
        account'.owner = account.owner ∧ account.amount.toNat ≤ account'.amount.toNat)
    (unissued : ∀ mint, ledger key = some (.mint mint) → ¬ guard.issues key) :
    Spares runtime guard ledger (ledger.set key data) where
  vaults other vault found := by
    -- A record elsewhere is as it was, and here there was none.
    have different : other ≠ key := fun same => noVault vault (same ▸ found)
    rw [Ledger.set_of_ne _ _ different, found]
  records other vault found := by
    by_cases same : other = key
    · rw [same, Ledger.set_self] at found
      exact absurd found (noRecord vault)
    · exact .inl ((Ledger.set_of_ne _ _ same).symm.trans found)
  tokens other account found owned := by
    by_cases same : other = key
    · subst same
      rw [Ledger.set_self]
      exact gains account found owned
    · exact ⟨account, (Ledger.set_of_ne _ _ same).trans found, rfl, rfl, le_rfl⟩
  mints other mint found issued := by
    have different : other ≠ key := fun same => unissued mint (same ▸ found) (same ▸ issued)
    rw [Ledger.set_of_ne _ _ different, found]

/-- A token account whose owner is not guarded, or that gains. -/
theorem set_token {account : TokenAccount Key} (found : ledger key = some (.token account))
    (amount : UInt64) (fair : guard.owns account.owner → account.amount.toNat ≤ amount.toNat) :
    Spares runtime guard ledger
      (ledger.set key (some (.token { account with amount := amount }))) := by
  apply set
  · simp [found]
  · simp
  · intro account' found' owned
    cases found.symm.trans found'
    exact ⟨_, rfl, rfl, rfl, fair owned⟩
  · simp [found]

theorem set_mint {mint mint' : Mint} (found : ledger key = some (.mint mint))
    (unissued : ¬ guard.issues key) :
    Spares runtime guard ledger (ledger.set key (some (.mint mint'))) :=
  set (by simp [found]) (by simp) (by simp [found]) fun _ _ => unissued

/-- What did not exist at first is nobody's. A record may be made where records are made. -/
theorem set_absent (spares : Spares runtime guard ledger ledger') (absent : ledger key = none)
    (data : Option (AccountData Key))
    (placed : ∀ vault, data = some (.vault vault) → runtime.Canonical key) :
    Spares runtime guard ledger (ledger'.set key data) where
  vaults other vault found := by
    have different : other ≠ key := fun same => by simp [← same, found] at absent
    rw [Ledger.set_of_ne _ _ different]
    exact spares.vaults other vault found
  records other vault found := by
    by_cases same : other = key
    · subst same
      rw [Ledger.set_self] at found
      exact .inr (placed vault found)
    · rw [Ledger.set_of_ne _ _ same] at found
      exact spares.records other vault found
  tokens other account found owned := by
    have different : other ≠ key := fun same => by simp [← same, found] at absent
    rw [Ledger.set_of_ne _ _ different]
    exact spares.tokens other account found owned
  mints other mint found issued := by
    have different : other ≠ key := fun same => by simp [← same, found] at absent
    rw [Ledger.set_of_ne _ _ different]
    exact spares.mints other mint found issued

theorem init {runtime : InitRuntime Key} {payer account : AccountMeta Key}
    {seeds : List (List UInt8)} {data : AccountData Key}
    (placed : ∀ vault, data = .vault vault → ∃ name, seeds = [name])
    (returned : runtime.init payer account seeds data ledger = .ok ledger') :
    Spares runtime.toRuntime guard ledger ledger' := by
  obtain ⟨bump, found⟩ := init_ok returned
  obtain ⟨absent, rfl⟩ := init_sets returned
  refine (refl _ guard ledger).set_absent absent _ fun vault same => ?_
  obtain ⟨name, rfl⟩ := placed vault (Option.some.inj same)
  exact ⟨name, bump, found⟩

/-! ## The token program -/

variable {authority source destination account mint : Key} {amount : UInt64}

theorem transfer (unsigned : ¬ guard.owns authority)
    (returned : ledger.transfer source destination authority amount = .ok ledger') :
    Spares runtime guard ledger ledger' := by
  simp only [Ledger.transfer, bind_eq_ok, refuseIf_eq_ok, Ledger.tokenAccount_eq_ok,
    Decidable.not_not] at returned
  obtain ⟨payer, paid, receiver, received, debited, _, _, _, _, owner, moved⟩ := returned
  split at moved
  next same =>
    cases (pure_eq_ok _ _).mp moved
    exact refl runtime guard ledger
  next different =>
    simp only [bind_eq_ok, pure_eq_ok, tryAdd_eq_ok] at moved
    obtain ⟨credited, credit, rfl⟩ := moved
    have debit : Spares runtime guard ledger _ :=
      set_token paid debited fun owned => absurd owned (owner ▸ unsigned)
    -- The receiver only gains, whoever owns it.
    refine debit.trans (set_token ?_ credited fun _ => by omega)
    rw [Ledger.set_of_ne _ _ (Ne.symm different), received]

theorem mintTo (unissued : ¬ guard.issues mint)
    (returned : ledger.mintTo mint account amount = .ok ledger') :
    Spares runtime guard ledger ledger' := by
  simp only [Ledger.mintTo, bind_eq_ok, refuseIf_eq_ok, pure_eq_ok, Ledger.tokenAccount_eq_ok,
    Ledger.mint_eq_ok, tryAdd_eq_ok] at returned
  obtain ⟨holder, held, _, _, issued, found, credited, credit, supply, _, rfl⟩ := returned
  have different : mint ≠ account := ne_of_data found held (by simp)
  exact (set_token held credited fun _ => by omega).trans
    (set_mint ((Ledger.set_of_ne _ _ different).trans found) unissued)

theorem burn (unsigned : ¬ guard.owns authority) (unissued : ¬ guard.issues mint)
    (returned : ledger.burn account mint authority amount = .ok ledger') :
    Spares runtime guard ledger ledger' := by
  simp only [Ledger.burn, bind_eq_ok, refuseIf_eq_ok, pure_eq_ok, Ledger.tokenAccount_eq_ok,
    Ledger.mint_eq_ok, Decidable.not_not] at returned
  obtain ⟨holder, held, issued, found, _, _, debited, _, _, owner, supply, _, rfl⟩ := returned
  have different : mint ≠ account := ne_of_data found held (by simp)
  exact (set_token held debited fun owned => absurd owned (owner ▸ unsigned)).trans
    (set_mint ((Ledger.set_of_ne _ _ different).trans found) unissued)

theorem closeAccount (unsigned : ¬ guard.owns authority)
    (returned : ledger.closeAccount account destination authority = .ok ledger') :
    Spares runtime guard ledger ledger' := by
  simp only [Ledger.closeAccount, bind_eq_ok, refuseIf_eq_ok, pure_eq_ok,
    Ledger.tokenAccount_eq_ok, Decidable.not_not] at returned
  obtain ⟨_, _, closed, found, _, _, _, owner, rfl⟩ := returned
  apply set
  · simp [found]
  · simp
  · intro account' found' owned
    cases found.symm.trans found'
    exact absurd owned (owner ▸ unsigned)
  · simp [found]

end Spares

theorem DepositRuntime.Contained.unguard {runtime : DepositRuntime Key} {guard : Guard Key}
    (contained : runtime.Contained guard) : runtime.Contained unguarded where
  invoke program call ledger ledger' returned :=
    (contained.invoke program call ledger ledger' returned).unguard
  invokeDeposit program call ledger ledger' returned :=
    (contained.invokeDeposit program call ledger ledger' returned).unguard
  invokeInit program call ledger ledger' returned :=
    (contained.invokeInit program call ledger ledger' returned).unguard

/-- An instruction about a stored vault: the authority and the mint that it names are derived from
the name in the record, and the address of the record is, too. -/
structure Names (runtime : Runtime Key) (ledger : Ledger Key)
    (vault vaultAuthority redeemableMint : Key) (name : List UInt8) : Prop where
  stored : ∃ record, ledger vault = some (.vault record)
  vault : ∃ bump : UInt8, runtime.createProgramAddress ([name] ++ [[bump]]) = some vault
  vaultAuthority : ∃ bump : UInt8,
    runtime.createProgramAddress ([vaultAuthoritySeed, name] ++ [[bump]]) = some vaultAuthority
  redeemableMint : ∃ bump : UInt8,
    runtime.createProgramAddress ([redeemableMintSeed, name] ++ [[bump]]) = some redeemableMint

/-- Programs that do nothing leave everything alone. -/
theorem DepositRuntime.Contained.of_idle {runtime : DepositRuntime Key}
    (invoke : ∀ program call ledger, runtime.invoke program call ledger = .ok ledger)
    (invokeDeposit : ∀ program call ledger, runtime.invokeDeposit program call ledger = .ok ledger)
    (invokeInit : ∀ program call ledger, runtime.invokeInit program call ledger = .ok ledger)
    (guard : Guard Key) : runtime.Contained guard where
  invoke program call ledger ledger' returned := by
    cases (invoke program call ledger).symm.trans returned
    exact Spares.refl _ _ ledger
  invokeDeposit program call ledger ledger' returned := by
    cases (invokeDeposit program call ledger).symm.trans returned
    exact Spares.refl _ _ ledger
  invokeInit program call ledger ledger' returned := by
    cases (invokeInit program call ledger).symm.trans returned
    exact Spares.refl _ _ ledger

/-! ## The instructions -/

variable [DecidableEq Key] {guard : Guard Key} {runtime : DepositRuntime Key} {clock : Int64}
  {ledger ledger' : Ledger Key}

/-- The signature that the list asks for is checked. -/
theorem WithdrawVault.load_signer {runtime : Runtime Key} {accounts : WithdrawVault Key}
    {loaded : Loaded Key} (returned : accounts.load runtime ledger = .ok loaded) :
    accounts.userAuthority.isSigner = true := by
  simp only [load, bind_eq_ok, refuseIf_eq_ok] at returned
  obtain ⟨_, signer, _⟩ := returned
  exact Bool.eq_true_of_not_eq_false signer

theorem initializeVault_spares (contained : runtime.Contained guard)
    {accounts : InitializeVault Key} {vaultName : List UInt8} {vaultLamports : UInt64}
    {bumps : VaultBumps} {epochTimes : EpochTimes}
    (unsigned : Unsigned guard ledger
      (clock, .initializeVault accounts vaultName vaultLamports bumps epochTimes))
    (returned : initializeVault runtime.toInitRuntime clock accounts vaultName vaultLamports bumps
      epochTimes ledger = .ok ledger') : Spares runtime.toRuntime guard ledger ledger' := by
  simp only [initializeVault, InitializeVault.create, bind_eq_ok, pure_eq_ok] at returned
  obtain ⟨_, _, _, ⟨_, first, _, second, third⟩, _, _, _, _, _, _, _, _, _, obligation, _, deposit,
    _, collateral, _, loan, rfl⟩ := returned
  have created : Spares runtime.toRuntime guard ledger _ :=
    ((Spares.init (by simp) first).trans (Spares.init (by simp) second)).trans
      (Spares.init (by simp) third)
  have called :=
    (((Spares.of_without unsigned.vaultAuthority (contained.invokeInit _ _ _ _ obligation)).trans
      (.of_without unsigned.vaultAuthority (contained.invokeInit _ _ _ _ deposit))).trans
      (.of_without unsigned.vaultAuthority (contained.invokeInit _ _ _ _ collateral))).trans
      (.of_without unsigned.vaultAuthority (contained.invokeInit _ _ _ _ loan))
  -- Whatever the calls did to the record, it did not exist before.
  obtain ⟨bump, found⟩ := init_ok first
  exact (created.trans called).set_absent (init_sets first).1 _ fun _ _ => ⟨_, bump, found⟩

theorem initializeUserRedeemableTokenAccount_spares {accounts : InitUserRedeemableTokenAccount Key}
    (returned : initializeUserRedeemableTokenAccount runtime clock accounts ledger = .ok ledger') :
    Spares runtime.toRuntime guard ledger ledger' := by
  simp only [initializeUserRedeemableTokenAccount, InitUserRedeemableTokenAccount.create,
    bind_eq_ok, pure_eq_ok] at returned
  obtain ⟨_, _, _, ⟨_, _, created⟩, _, _, _, _, rfl⟩ := returned
  exact Spares.init (by simp) created

theorem depositVault_spares (contained : runtime.Contained guard) {accounts : DepositVault Key}
    {bumps : DepositVaultBumps} {usdcAmount : UInt64}
    (unsigned : Unsigned guard ledger (clock, .depositVault accounts bumps usdcAmount))
    (returned : depositVault runtime clock accounts bumps usdcAmount ledger = .ok ledger') :
    Spares runtime.toRuntime guard ledger ledger' := by
  simp only [depositVault, bind_eq_ok] at returned
  obtain ⟨loaded, load, _, _, _, _, _, _, _, _, _, pay, _, mint, _, refresh, _, lend, _, post,
    borrow⟩ := returned
  -- The user pays and gets shares, and then the vault's authority signs for what Jet does.
  have signed := unsigned.wallet _ ⟨rfl, (DepositVault.load_ok load).1⟩
  have moved : Spares runtime.toRuntime guard ledger _ :=
    (Spares.transfer signed pay).trans (Spares.mintTo (unsigned.redeemableMint _ rfl) mint)
  have called := (((Spares.of_without_none (contained.invoke _ _ _ _ refresh)).trans
    (.of_without unsigned.vaultAuthority (contained.invokeDeposit _ _ _ _ lend))).trans
    (.of_without unsigned.vaultAuthority (contained.invokeDeposit _ _ _ _ post))).trans
    (.of_without unsigned.vaultAuthority (contained.invokeDeposit _ _ _ _ borrow))
  exact moved.trans called

theorem withdrawVault_spares (contained : runtime.Contained guard) {accounts : WithdrawVault Key}
    {bumps : WithdrawVaultBumps} {redeemableAmount : UInt64} {outcome : Outcome Key}
    (unsigned : Unsigned guard ledger (clock, .withdrawVault accounts bumps redeemableAmount))
    (returned : withdrawVault runtime.toRuntime clock accounts bumps redeemableAmount ledger =
      .ok outcome) : Spares runtime.toRuntime guard ledger outcome.ledger := by
  simp only [withdrawVault, bind_eq_ok, pure_eq_ok] at returned
  obtain ⟨loaded, load, _, _, _, _, _, _, _, _, _, refresh, _, repay, _, release, _, burn,
    _, pay, _, close, rfl⟩ := returned
  -- The vault's authority signs first, up to the payment, and the user for the shares.
  have signed := unsigned.wallet _ ⟨rfl, WithdrawVault.load_signer load⟩
  have called := ((Spares.of_without_none (contained.invoke _ _ _ _ refresh)).trans
    (.of_without unsigned.vaultAuthority (contained.invoke _ _ _ _ repay))).trans
    (.of_without unsigned.vaultAuthority (contained.invoke _ _ _ _ release))
  have moved : Spares runtime.toRuntime guard _ _ :=
    (Spares.burn signed (unsigned.redeemableMint _ rfl) burn).trans
      (Spares.transfer (unsigned.vaultAuthority _ rfl) pay)
  refine (called.trans moved).trans ?_
  simp only [closeIfEmpty, bind_eq_ok] at close
  obtain ⟨_, _, closed⟩ := close
  split at closed
  next => exact Spares.closeAccount signed closed
  next =>
    cases (pure_eq_ok _ _).mp closed
    exact Spares.refl _ guard _

theorem execute_spares (contained : runtime.Contained guard)
    {timed : Int64 × Instruction Key} (unsigned : Unsigned guard ledger timed)
    (returned : execute runtime timed ledger = .ok ledger') :
    Spares runtime.toRuntime guard ledger ledger' := by
  obtain ⟨clock, instruction⟩ := timed
  cases instruction with
  | initializeVault => exact initializeVault_spares contained unsigned returned
  | initializeUserRedeemableTokenAccount =>
    exact initializeUserRedeemableTokenAccount_spares returned
  | depositVault => exact depositVault_spares contained unsigned returned
  | withdrawVault =>
    simp only [execute, bind_eq_ok, pure_eq_ok] at returned
    obtain ⟨outcome, returned, rfl⟩ := returned
    exact withdrawVault_spares contained unsigned returned
  | transfer => exact Spares.transfer (unsigned.wallet _ rfl) returned

theorem Spares.of_reaches (contained : runtime.Contained guard)
    (run : Reaches (execute runtime) (Unsigned guard) ledger ledger') :
    Spares runtime.toRuntime guard ledger ledger' := by
  refine run.invariant ?_ (Spares.refl _ guard ledger)
  intro between timed after spared unsigned returned
  exact spared.trans (execute_spares contained unsigned returned)

/-! ## Wallets -/

theorem depositVault_names {accounts : DepositVault Key} {bumps : DepositVaultBumps}
    {usdcAmount : UInt64}
    (returned : depositVault runtime clock accounts bumps usdcAmount ledger = .ok ledger') :
    ∃ name, Names runtime.toRuntime ledger accounts.vault.key accounts.vaultAuthority.key
      accounts.redeemableMint.key name := by
  simp only [depositVault, DepositVault.constraints, bind_eq_ok, Runtime.derives_eq_ok] at returned
  obtain ⟨loaded, load, _, ⟨name, _, _, _, _, _, _, _, _, _, _, _, _, vault, _, _, _,
    vaultAuthority, _, _, _, _, _, redeemableMint, _⟩, _⟩ := returned
  exact ⟨name, ⟨_, (DepositVault.load_ok load).2.2.2.1⟩, ⟨_, vault⟩, ⟨_, vaultAuthority⟩,
    ⟨_, redeemableMint⟩⟩

theorem withdrawVault_names {runtime : Runtime Key} {accounts : WithdrawVault Key}
    {bumps : WithdrawVaultBumps} {redeemableAmount : UInt64} {outcome : Outcome Key}
    (returned : withdrawVault runtime clock accounts bumps redeemableAmount ledger =
      .ok outcome) :
    ∃ name, Names runtime ledger accounts.vault.key accounts.vaultAuthority.key
      accounts.redeemableMint.key name := by
  simp only [withdrawVault, WithdrawVault.constraints, bind_eq_ok, Runtime.derives_eq_ok]
    at returned
  obtain ⟨loaded, load, _, ⟨name, _, _, _, _, _, _, _, _, _, _, _, _, _, _, vault, _, _, _,
    vaultAuthority, _, redeemableMint, _⟩, _⟩ := returned
  exact ⟨name, ⟨_, (load_ok load).1⟩, ⟨_, vault⟩, ⟨_, vaultAuthority⟩, ⟨_, redeemableMint⟩⟩

/-- The program signs for derived addresses only. -/
theorem execute_vaultAuthority {timed : Int64 × Instruction Key} {key : Key}
    (named : timed.2.vaultAuthority = some key)
    (returned : execute runtime timed ledger = .ok ledger') :
    ∃ seeds, runtime.createProgramAddress seeds = some key := by
  obtain ⟨clock, instruction⟩ := timed
  cases instruction with
  | initializeVault accounts =>
    cases named
    exact ⟨_, (initializeVault_ok returned).vaultAuthority⟩
  | initializeUserRedeemableTokenAccount => cases named
  | depositVault accounts =>
    cases named
    obtain ⟨_, names⟩ := depositVault_names returned
    obtain ⟨_, derived⟩ := names.vaultAuthority
    exact ⟨_, derived⟩
  | withdrawVault accounts =>
    cases named
    simp only [execute, bind_eq_ok] at returned
    obtain ⟨_, withdrawn, _⟩ := returned
    obtain ⟨_, names⟩ := withdrawVault_names withdrawn
    obtain ⟨_, derived⟩ := names.vaultAuthority
    exact ⟨_, derived⟩
  | transfer => cases named

/-- None of the wallets signs. -/
def NoneSigns (wallets : Key → Prop) (_ : Ledger Key) (timed : Int64 × Instruction Key) : Prop :=
  ∀ key, timed.2.Signs key → ¬ wallets key

variable {wallets : Key → Prop}

/-- Over any run of the program's instructions and of token transfers, with any account lists and
any programs named as Jet, a token account of a wallet that never signs keeps its mint and its
owner, and loses nothing. -/
theorem unsigned_lose_nothing
    (underived : ∀ seeds key, runtime.createProgramAddress seeds = some key → ¬ wallets key)
    (contained : runtime.Contained (.ofWallets wallets))
    (run : Reaches (execute runtime) (NoneSigns wallets) ledger ledger') {key : Key}
    {account : TokenAccount Key} (found : ledger key = some (.token account))
    (owned : wallets account.owner) :
    ∃ account', ledger' key = some (.token account') ∧ account'.mint = account.mint ∧
      account'.owner = account.owner ∧ account.amount.toNat ≤ account'.amount.toNat := by
  have unsigned : Reaches (execute runtime) (Unsigned (.ofWallets wallets)) ledger ledger' := by
    -- A step that succeeds signs for derived addresses, and these are no wallets.
    refine run.readmit fun between timed after none returned => ⟨none, ?_, fun _ _ => id⟩
    intro authority named
    obtain ⟨seeds, derived⟩ := execute_vaultAuthority named returned
    exact underived seeds authority derived
  exact (Spares.of_reaches contained unsigned).tokens key account found owned

theorem placeRuntime_contained (guard : Guard Place) : placeRuntime.Contained guard :=
  .of_idle (fun _ _ _ => rfl) (fun _ _ _ => rfl) (fun _ _ _ => rfl) guard

theorem placeOf_ne_late (seeds : List (List UInt8)) (key : Place)
    (found : placeOf seeds = some key) : ¬ key = .late := by
  rintro rfl
  unfold placeOf at found
  split_ifs at found <;> simp at found

/-- The early user's instructions after the creation of the vault, where every program accepts
everything. -/
def earlyRun : List (Int64 × Instruction Place) :=
  [(5, .initializeVault placeCreation.accounts placeName 0 placeCreation.bumps
      placeCreation.epochTimes),
    (15, .initializeUserRedeemableTokenAccount placeOpening),
    (15, .depositVault placeDeposit ⟨255, 255, 255, 255, 255⟩ 100)]

def earlyAfter : Ledger Place :=
  attemptAll (execute placeRuntime) earlyRun placeLedger

theorem earlyAfter_reached :
    Reaches (execute placeRuntime) (NoneSigns (· = .late)) placeLedger earlyAfter := by
  refine attemptAll_reaches ⟨?_, ?_, ?_, trivial⟩
  · rintro _ ⟨rfl, _⟩
    decide
  · rintro _ ⟨rfl, _⟩
    decide
  · rintro _ ⟨rfl, _⟩
    decide

theorem unsigned_lose_nothing_earlyAfter :
    ∃ account', earlyAfter .lateUsdc = some (.token account') ∧ account'.mint = .usdcMint ∧
      account'.owner = .late ∧ (10000 : UInt64).toNat ≤ account'.amount.toNat :=
  unsigned_lose_nothing placeOf_ne_late (placeRuntime_contained _) earlyAfter_reached
    (show placeLedger .lateUsdc = some (.token ⟨.usdcMint, .late, 10000⟩) from rfl) rfl

/-! ## Records -/

omit [DecidableEq Key] in
/-- The vault that an instruction is about. -/
def Instruction.vault : Instruction Key → Option Key
  | .initializeVault accounts .. => some accounts.vault.key
  | .initializeUserRedeemableTokenAccount accounts => some accounts.vault.key
  | .depositVault accounts .. => some accounts.vault.key
  | .withdrawVault accounts .. => some accounts.vault.key
  | .transfer .. => none

omit [DecidableEq Key] in
/-- Any transaction. -/
def AnyInstruction (_ : Ledger Key) (_ : Int64 × Instruction Key) : Prop := True

theorem anyInstruction_spares (contained : runtime.Contained unguarded)
    (run : Reaches (execute runtime) AnyInstruction ledger ledger') :
    Spares runtime.toRuntime unguarded ledger ledger' :=
  Spares.of_reaches contained
    (run.mono fun _ _ _ => Unsigned.unguarded _ _)

/-- An instruction about a vault that exists is made in the window of its record. -/
theorem execute_inWindow {timed : Int64 × Instruction Key} {key : Key} {vault : Vault Key}
    (stored : ledger key = some (.vault vault)) (about : timed.2.vault = some key)
    (returned : execute runtime timed ledger = .ok ledger') : InWindow timed.1 vault := by
  obtain ⟨clock, instruction⟩ := timed
  cases instruction with
  | initializeVault accounts =>
    cases about
    -- A vault is not created where there is one.
    exact absurd returned (initializeVault_fails (by simp [stored]))
  | initializeUserRedeemableTokenAccount accounts =>
    cases about
    simp only [execute, initializeUserRedeemableTokenAccount, bind_eq_ok,
      depositWithdrawPhase_eq_ok] at returned
    obtain ⟨_, load, _, _, _, _, _, window, _⟩ := returned
    cases stored.symm.trans (InitUserRedeemableTokenAccount.load_ok load).2
    exact window
  | depositVault accounts =>
    cases about
    simp only [execute, depositVault, bind_eq_ok, depositWithdrawPhase_eq_ok] at returned
    obtain ⟨loaded, load, _, _, _, window, _⟩ := returned
    obtain ⟨_, _, _, found, _⟩ := DepositVault.load_ok load
    cases stored.symm.trans found
    exact window
  | withdrawVault accounts =>
    cases about
    simp only [execute, withdrawVault, bind_eq_ok, depositWithdrawPhase_eq_ok] at returned
    obtain ⟨_, ⟨loaded, load, _, _, _, window, _⟩, _⟩ := returned
    cases stored.symm.trans (load_ok load).1
    exact window
  | transfer => cases about

/-- The record of a vault is permanent: after any run, with any account lists, it is as it was,
and an instruction about the vault succeeds only in the window that it sets. -/
theorem record_permanent (contained : runtime.Contained unguarded)
    (run : Reaches (execute runtime) AnyInstruction ledger ledger') {key : Key} {vault : Vault Key}
    (stored : ledger key = some (.vault vault)) :
    ledger' key = some (.vault vault) ∧
      ∀ timed ledger'', timed.2.vault = some key → execute runtime timed ledger' = .ok ledger'' →
        InWindow timed.1 vault := by
  have kept := (anyInstruction_spares contained run).vaults key vault stored
  exact ⟨kept, fun _ _ about returned => execute_inWindow kept about returned⟩

/-- The ledger right after the creation of the vault. -/
def earlyBorn : Ledger Place :=
  attemptAll (execute placeRuntime) (earlyRun.take 1) placeLedger

theorem earlyAfter_reached_from_born :
    Reaches (execute placeRuntime) AnyInstruction earlyBorn earlyAfter :=
  show Reaches (execute placeRuntime) AnyInstruction earlyBorn
    (attemptAll (execute placeRuntime) (earlyRun.drop 1) earlyBorn) from
      attemptAll_reaches ⟨trivial, trivial, trivial⟩

theorem record_permanent_earlyAfter :
    ∃ vault, earlyAfter .vault = some (.vault vault) ∧
      ∀ timed ledger'', timed.2.vault = some .vault →
        execute placeRuntime timed earlyAfter = .ok ledger'' → InWindow timed.1 vault := by
  have stored : earlyBorn .vault = placeBorn .vault := by decide +kernel
  exact ⟨_, record_permanent (placeRuntime_contained _) earlyAfter_reached_from_born
    (stored.trans placeBorn_vault)⟩

end JetVault.Accounts
