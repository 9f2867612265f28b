import JetVault.Accounts.Simulation
import JetVault.Library.Simulation
import JetVault.Vault.Run

/-!
# The life of a vault on a ledger

Its creation, and the transactions after it: every instruction of the program with its account
list, and plain token transfers. The ledger represents the pool throughout.
-/
namespace JetVault.Accounts

open Fallible FixedWidth Transition

variable {Key : Type}

/-! ## Creation -/

structure InitializeVault.Follows (accounts : InitializeVault Key) (site : Site Key) : Prop where
  vault : accounts.vault.key = site.vault
  redeemableMint : accounts.redeemableMint.key = site.redeemableMint
  vaultUsdc : accounts.vaultUsdc.key = site.account .vaultUsdc
  depositAccount : accounts.depositAccount.key = site.account .depositAccount
  collateralAccount : accounts.collateralAccount.key = site.account .collateralAccount
  loanAccount : accounts.loanAccount.key = site.account .loanAccount
  jetProgram : accounts.jetProgram.key = site.jetProgram

/-- The program of the site creates its accounts as `jet` does. -/
structure Site.ImplementsInit (site : Site Key) (runtime : InitRuntime Key) (jet : Jet) :
    Prop where
  initObligation : ∀ accounts bump,
    site.Serves (runtime.invokeInit site.jetProgram (.initObligation accounts bump))
      jet.initObligation
  initDepositAccount : ∀ accounts bump,
    accounts.depositAccount = site.account .depositAccount →
    site.Serves (runtime.invokeInit site.jetProgram (.initDepositAccount accounts bump))
      jet.initDepositAccount
  initCollateralAccount : ∀ accounts bump,
    accounts.collateralAccount = site.account .collateralAccount →
    site.Serves (runtime.invokeInit site.jetProgram (.initCollateralAccount accounts bump))
      jet.initCollateralAccount
  initLoanAccount : ∀ accounts bump, accounts.loanAccount = site.account .loanAccount →
    site.Serves (runtime.invokeInit site.jetProgram (.initLoanAccount accounts bump))
      jet.initLoanAccount

/-- What a site asks of the program it names. -/
structure Site.Hosts (site : Site Key) (runtime : DepositRuntime Key) (jet : Jet) : Prop
    extends site.Implements runtime jet, site.ImplementsInit runtime.toInitRuntime jet

/-- A vault that holds nothing, in a world where the users and Jet hold their USDC. -/
def unfunded (vault : Vault Key) (userUsdc : Key → UInt64) (jetVault : UInt64) : Pool Key where
  vault := vault
  vaultUsdc := 0
  depositAccount := 0
  collateralAccount := 0
  loanAccount := 0
  jetVault := jetVault
  redeemableSupply := 0
  userUsdc := userUsdc
  userRedeemable := fun _ => none

variable [DecidableEq Key] {site : Site Key} {ledger ledger' : Ledger Key} {s : Pool Key}

/-- An account marked `init` did not exist. -/
theorem init_sets {runtime : InitRuntime Key} {payer account : AccountMeta Key}
    {seeds : List (List UInt8)} {data : AccountData Key}
    (returned : runtime.init payer account seeds data ledger = .ok ledger') :
    ledger account.key = none ∧ ledger' = ledger.set account.key (some data) := by
  unfold InitRuntime.init at returned
  split at returned
  next => cases returned
  next =>
    simp only [bind_eq_ok, refuseIf_eq_ok, pure_eq_ok] at returned
    obtain ⟨_, _, _, absent, _, _, _, _, rfl⟩ := returned
    exact ⟨by simpa using absent, rfl⟩

/-- The accounts marked `init` are those of an empty vault with a default record. -/
theorem create_represents {runtime : InitRuntime Key} {accounts : InitializeVault Key}
    {vaultName : List UInt8} {vault : Vault Key} {userUsdc : Key → UInt64} {jetVault : UInt64}
    (books : site.Books ledger (unfunded vault userUsdc jetVault))
    (follows : accounts.Follows site)
    (returned : accounts.create runtime vaultName ledger = .ok ledger') :
    site.Represents ledger' (unfunded runtime.defaultVault userUsdc jetVault) := by
  simp only [InitializeVault.create, bind_eq_ok] at returned
  obtain ⟨withVault, first, withMint, second, third⟩ := returned
  obtain ⟨noVault, rfl⟩ := init_sets first
  obtain ⟨noMint, rfl⟩ := init_sets second
  obtain ⟨noUsdc, rfl⟩ := init_sets third
  rw [follows.vault] at noVault noMint noUsdc ⊢
  rw [follows.redeemableMint] at noMint noUsdc ⊢
  rw [follows.vaultUsdc] at noUsdc ⊢
  -- An account created later is a different one.
  have mintNotVault : site.redeemableMint ≠ site.vault := fun same => by simp [same] at noMint
  have usdcNotMint : site.account .vaultUsdc ≠ site.redeemableMint :=
    fun same => by simp [same] at noUsdc
  rw [Ledger.set_of_ne _ _ usdcNotMint] at noUsdc
  have usdcNotVault : site.account .vaultUsdc ≠ site.vault := fun same => by simp [same] at noUsdc
  have empty : site.Books ledger (unfunded runtime.defaultVault userUsdc jetVault) :=
    books.congr (fun slot => by cases slot <;> rfl) rfl
  have recorded : site.Books (ledger.set site.vault (some (.vault runtime.defaultVault)))
      (unfunded runtime.defaultVault userUsdc jetVault) :=
    empty.set_other (by simp [Ledger.Open, noVault]) (by simp)
  have issued : site.Books ((ledger.set site.vault (some (.vault runtime.defaultVault))).set
      site.redeemableMint (some (.mint ⟨0⟩)))
      (unfunded runtime.defaultVault userUsdc jetVault) :=
    recorded.set_other (by simp [Ledger.Open, noMint]) (by simp)
  have opened := issued.write .vaultUsdc trivial
    ⟨accounts.usdcMint.key, accounts.vaultAuthority.key, 0⟩
  refine ⟨opened, ?_, ?_⟩
  · rw [Ledger.set_of_ne _ _ (Ne.symm usdcNotVault), Ledger.set_of_ne _ _ (Ne.symm mintNotVault),
      Ledger.set_self]
    rfl
  · rw [Ledger.set_of_ne _ _ (Ne.symm usdcNotMint), Ledger.set_self]
    rfl

theorem initializeVault_simulated {runtime : InitRuntime Key} {jet : Jet} {clock : Int64}
    {accounts : InitializeVault Key} {vaultName : List UInt8} {vaultLamports : UInt64}
    {bumps : VaultBumps} {epochTimes : EpochTimes} {vault : Vault Key} {userUsdc : Key → UInt64}
    {jetVault : UInt64} (books : site.Books ledger (unfunded vault userUsdc jetVault))
    (implements : site.ImplementsInit runtime jet) (follows : accounts.Follows site)
    (returned : initializeVault runtime clock accounts vaultName vaultLamports bumps epochTimes
      ledger = .ok ledger') :
    ∃ s, JetVault.initializeVault jet clock accounts.vaultAdmin.key accounts.usdcMint.key
        accounts.redeemableMint.key accounts.vaultUsdc.key vaultName bumps epochTimes userUsdc
        jetVault = .ok s ∧ site.Represents ledger' s := by
  simp only [initializeVault, bind_eq_ok, pure_eq_ok] at returned
  obtain ⟨_, _, _, created, _, _, _, valid, nameData, padded, _, _, _, obligation, _, deposit,
    _, collateral, _, loan, rfl⟩ := returned
  rw [follows.jetProgram] at obligation deposit collateral loan
  -- Four calls of Jet on the new accounts, each from the pool that the last one left.
  have represents := create_represents books follows created
  obtain ⟨b₁, first, represents₁⟩ :=
    implements.initObligation _ _ _ _ _ represents obligation
  obtain ⟨b₂, second, represents₂⟩ :=
    implements.initDepositAccount _ _ follows.depositAccount _ _ _ represents₁ deposit
  obtain ⟨b₃, third, represents₃⟩ :=
    implements.initCollateralAccount _ _ follows.collateralAccount _ _ _ represents₂ collateral
  obtain ⟨b₄, fourth, represents₄⟩ :=
    implements.initLoanAccount _ _ follows.loanAccount _ _ _ represents₃ loan
  rw [follows.vault]
  refine ⟨_, ?_, represents₄.write_vault _⟩
  simp only [JetVault.initializeVault, bind_eq_ok, invoke_eq_ok]
  exact ⟨(), valid, nameData, padded, _, ⟨b₁, first, rfl⟩, _, ⟨b₂, second, rfl⟩, _,
    ⟨b₃, third, rfl⟩, b₄, fourth, rfl⟩

/-- A call of `initialize_vault`, and the USDC of the users and of Jet that it finds. -/
structure Creation (Key : Type) where
  clock : Int64
  accounts : InitializeVault Key
  vaultName : List UInt8
  vaultLamports : UInt64
  bumps : VaultBumps
  epochTimes : EpochTimes
  userUsdc : Key → UInt64
  jetVault : UInt64

namespace Creation

variable (creation : Creation Key)

def onLedger (runtime : InitRuntime Key) : Ledger Key → Except Failure (Ledger Key) :=
  initializeVault runtime creation.clock creation.accounts creation.vaultName
    creation.vaultLamports creation.bumps creation.epochTimes

omit [DecidableEq Key] in
def onPool (jet : Jet) : Except Failure (Pool Key) :=
  JetVault.initializeVault jet creation.clock creation.accounts.vaultAdmin.key
    creation.accounts.usdcMint.key creation.accounts.redeemableMint.key
    creation.accounts.vaultUsdc.key creation.vaultName creation.bumps creation.epochTimes
    creation.userUsdc creation.jetVault

/-- The call creates the vault of the site, and its record leads back to the site. -/
structure At (site : Site Key) (runtime : DepositRuntime Key) (ledger born : Ledger Key) :
    Prop where
  books : ∃ vault, site.Books ledger (unfunded vault creation.userUsdc creation.jetVault)
  follows : creation.accounts.Follows site
  returned : creation.onLedger runtime.toInitRuntime ledger = .ok born
  derived : ∀ vault, born site.vault = some (.vault vault) → site.Derived runtime.toRuntime vault

end Creation

/-! ## Transactions -/

/-- The instructions of the program with their account lists, and the token program's transfer. -/
inductive Instruction (Key : Type) where
  | initializeVault (accounts : InitializeVault Key) (vaultName : List UInt8)
      (vaultLamports : UInt64) (bumps : VaultBumps) (epochTimes : EpochTimes)
  | initializeUserRedeemableTokenAccount (accounts : InitUserRedeemableTokenAccount Key)
  | depositVault (accounts : DepositVault Key) (bumps : DepositVaultBumps) (usdcAmount : UInt64)
  | withdrawVault (accounts : WithdrawVault Key) (bumps : WithdrawVaultBumps)
      (redeemableAmount : UInt64)
  | transfer (source destination authority : Key) (amount : UInt64)

def execute (runtime : DepositRuntime Key) (timed : Int64 × Instruction Key)
    (ledger : Ledger Key) : Except Failure (Ledger Key) :=
  match timed.2 with
  | .initializeVault accounts vaultName vaultLamports bumps epochTimes =>
      initializeVault runtime.toInitRuntime timed.1 accounts vaultName vaultLamports bumps
        epochTimes ledger
  | .initializeUserRedeemableTokenAccount accounts =>
      initializeUserRedeemableTokenAccount runtime timed.1 accounts ledger
  | .depositVault accounts bumps usdcAmount =>
      depositVault runtime timed.1 accounts bumps usdcAmount ledger
  | .withdrawVault accounts bumps redeemableAmount => do
      let outcome ← withdrawVault runtime.toRuntime timed.1 accounts bumps redeemableAmount ledger
      return outcome.ledger
  | .transfer source destination authority amount =>
      ledger.transfer source destination authority amount

omit [DecidableEq Key] in
/-- The call of the pool that a transaction makes. -/
def Instruction.Makes (site : Site Key) : Instruction Key → Call Key → Prop
  | .initializeVault .., _ => False
  | .initializeUserRedeemableTokenAccount accounts, call =>
      call = .initializeUserRedeemableTokenAccount accounts.userAuthority.key
  | .depositVault accounts _ usdcAmount, call =>
      call = .depositVault accounts.userAuthority.key usdcAmount
  | .withdrawVault accounts _ redeemableAmount, call =>
      call = .withdrawVault accounts.userAuthority.key redeemableAmount
  | .transfer source destination _ amount, call =>
      ∃ user ∈ site.users, source = site.account (.userUsdc user) ∧
        destination = site.account .vaultUsdc ∧ call = .transferUsdc user amount

omit [DecidableEq Key] in
/-- The calls of the pool that a transaction makes, at its clock reading: one, or none. -/
def Answers (site : Site Key) (timed : Int64 × Instruction Key) (calls : List (Tx Key)) : Prop :=
  (∃ call, timed.2.Makes site call ∧ calls = [⟨timed.1, call⟩]) ∨
    (∀ call, ¬ timed.2.Makes site call) ∧ calls = []

omit [DecidableEq Key] in
/-- The transaction is about the vault of the site, and names its accounts where the program does
not check. A transfer is a user's into the vault, or does not touch the accounts of the site. -/
def Instruction.Follows (site : Site Key) : Instruction Key → Prop
  | .initializeVault accounts .. => accounts.vault.key = site.vault
  | .initializeUserRedeemableTokenAccount accounts =>
      accounts.vault.key = site.vault ∧ accounts.userAuthority.key ∈ site.users
  | .depositVault accounts .. => accounts.Follows site
  | .withdrawVault accounts .. => accounts.Follows site
  | .transfer source destination authority amount =>
      (∃ call, (Instruction.transfer source destination authority amount).Makes site call) ∨
      ∀ slot : Slot Key, slot.Within site.users →
        site.account slot ≠ source ∧ site.account slot ≠ destination

omit [DecidableEq Key] in
/-- Transactions that follow the site, and make calls of the given kind only. -/
def Following (site : Site Key) (kind : Tx Key → Prop) (_ : Ledger Key)
    (timed : Int64 × Instruction Key) : Prop :=
  timed.2.Follows site ∧ ∀ call, timed.2.Makes site call → kind ⟨timed.1, call⟩

/-- A vault is created once. -/
theorem initializeVault_fails {runtime : InitRuntime Key} {clock : Int64}
    {accounts : InitializeVault Key} {vaultName : List UInt8} {vaultLamports : UInt64}
    {bumps : VaultBumps} {epochTimes : EpochTimes} (present : ledger accounts.vault.key ≠ none) :
    initializeVault runtime clock accounts vaultName vaultLamports bumps epochTimes ledger ≠
      .ok ledger' := by
  intro returned
  simp only [initializeVault, InitializeVault.create, bind_eq_ok] at returned
  obtain ⟨_, _, _, ⟨_, created, _⟩, _⟩ := returned
  exact present (init_sets created).1

/-- A transfer between accounts that the site does not count. -/
theorem Site.Represents.transfer_elsewhere (represents : site.Represents ledger s)
    {source destination authority : Key} {amount : UInt64}
    (elsewhere : ∀ slot : Slot Key, slot.Within site.users →
      site.account slot ≠ source ∧ site.account slot ≠ destination)
    (returned : ledger.transfer source destination authority amount = .ok ledger') :
    site.Represents ledger' s := by
  simp only [Ledger.transfer, bind_eq_ok, Ledger.tokenAccount_eq_ok] at returned
  obtain ⟨payer, paid, receiver, received, debited, _, _, _, _, _, moved⟩ := returned
  split at moved
  next same =>
    cases (pure_eq_ok _ _).mp moved
    exact represents
  next different =>
    simp only [bind_eq_ok, pure_eq_ok] at moved
    obtain ⟨credited, _, rfl⟩ := moved
    -- Neither the vault nor its mint is a token account.
    refine ⟨⟨?_, ?_, represents.others⟩, ?_, ?_⟩
    · intro slot within
      obtain ⟨notSource, notDestination⟩ := elsewhere slot within
      rw [Ledger.amount_set_token, if_neg notDestination, Ledger.amount_set_token,
        if_neg notSource, represents.balances slot within]
    · intro user member
      obtain ⟨notSource, notDestination⟩ := elsewhere (.userRedeemable user) member
      rw [Ledger.open_set_token, Ledger.open_set_token, represents.opened user member]
      simp [notSource, notDestination]
    · rw [Ledger.set_of_ne _ _ (represents.ne_vault received),
        Ledger.set_of_ne _ _ (represents.ne_vault paid), represents.vault]
    · rw [Ledger.set_of_ne _ _ (represents.ne_mint received),
        Ledger.set_of_ne _ _ (represents.ne_mint paid), represents.redeemableMint]

/-- What relates a ledger and a pool throughout a run. -/
structure Tracks (site : Site Key) (runtime : Runtime Key) (ledger : Ledger Key) (s : Pool Key) :
    Prop extends site.Represents ledger s where
  derived : site.Derived runtime s.vault

variable {runtime : DepositRuntime Key} {jet : Jet}

/-- A call of the pool keeps what pins the addresses. -/
theorem Tracks.of_exec (tracks : Tracks site runtime.toRuntime ledger s) {kind : Tx Key → Prop}
    {timed : Int64 × Instruction Key} {call : Call Key} {s' : Pool Key}
    (represents : site.Represents ledger' s') (makes : timed.2.Makes site call)
    (admitted : kind ⟨timed.1, call⟩) (returned : exec jet ⟨timed.1, call⟩ s = .ok s') :
    ∃ calls s', Answers site timed calls ∧ Trace (exec jet) (fun _ tx => kind tx) calls s s' ∧
      Tracks site runtime.toRuntime ledger' s' := by
  have derived := tracks.derived
  rw [← exec_vault returned] at derived
  exact ⟨[⟨timed.1, call⟩], s', .inl ⟨call, makes, rfl⟩, .single admitted returned, represents,
    derived⟩

/-- Every transaction that follows the site is a call of the pool, or none. -/
theorem execute_simulates (implements : site.Implements runtime jet) (kind : Tx Key → Prop) :
    Simulates (execute runtime) (Following site kind) (exec jet) (fun _ tx => kind tx)
      (Answers site) (Tracks site runtime.toRuntime) := by
  rintro ledger ⟨clock, instruction⟩ ledger' s tracks ⟨follows, calls⟩ returned
  cases instruction with
  | initializeVault accounts =>
    -- The vault of the site exists, and is not created again.
    have present : ledger accounts.vault.key ≠ none := by
      rw [show accounts.vault.key = site.vault from follows, tracks.vault]
      exact nofun
    exact absurd returned (initializeVault_fails present)
  | initializeUserRedeemableTokenAccount accounts =>
    obtain ⟨s', called, represents⟩ := initializeUserRedeemableTokenAccount_simulated
      tracks.toRepresents tracks.derived follows.1 follows.2 returned
    exact tracks.of_exec represents rfl (calls _ rfl) called
  | depositVault accounts bumps usdcAmount =>
    obtain ⟨s', called, represents⟩ := depositVault_simulated tracks.toRepresents tracks.derived
      implements follows returned
    exact tracks.of_exec represents rfl (calls _ rfl) called
  | withdrawVault accounts bumps redeemableAmount =>
    simp only [execute, bind_eq_ok, pure_eq_ok] at returned
    obtain ⟨outcome, returned, rfl⟩ := returned
    obtain ⟨s', called, represents, _⟩ := withdrawVault_simulated tracks.toRepresents tracks.derived
      implements follows returned
    exact tracks.of_exec represents rfl (calls _ rfl) called
  | transfer source destination authority amount =>
    -- A payment into the vault is a call of the pool, and any other transfer is none.
    rcases follows with ⟨call, makes⟩ | elsewhere
    · obtain ⟨user, member, rfl, rfl, rfl⟩ := makes
      obtain ⟨debited, credited, debit, credit, represents⟩ := tracks.toRepresents.transfer
        (.userUsdc user) .vaultUsdc member trivial (by simp) returned
      have called : exec jet ⟨clock, .transferUsdc user amount⟩ s = .ok _ :=
        (transferToVault_eq_ok ..).mpr ⟨debited, credited, debit, credit, rfl⟩
      have makes : (Instruction.transfer _ _ authority amount).Makes site _ :=
        ⟨user, member, rfl, rfl, rfl⟩
      exact tracks.of_exec represents makes (calls _ makes) called
    · have makesNone : ∀ call, ¬ (Instruction.transfer source destination authority amount).Makes
          site call := by
        rintro _ ⟨user, member, rfl, _⟩
        exact (elsewhere (.userUsdc user) member).1 rfl
      exact ⟨[], s, .inr ⟨makesNone, rfl⟩, .nil s,
        tracks.toRepresents.transfer_elsewhere elsewhere returned, tracks.derived⟩

/-- A vault that was created is tracked from then on. -/
theorem Creation.At.tracks {creation : Creation Key} {born : Ledger Key}
    (hosts : site.Hosts runtime jet) (created : creation.At site runtime ledger born) :
    ∃ s, creation.onPool jet = .ok s ∧ Tracks site runtime.toRuntime born s := by
  obtain ⟨vault, books⟩ := created.books
  obtain ⟨s, returned, represents⟩ := initializeVault_simulated books hosts.toImplementsInit
    created.follows created.returned
  exact ⟨s, returned, represents, created.derived _ represents.vault⟩

end JetVault.Accounts
