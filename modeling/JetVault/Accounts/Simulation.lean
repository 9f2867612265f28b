import JetVault.Accounts.Site

/-!
# The handlers move a pool

Where an account list names the accounts of a site, and the program it names moves the balances
there as a `Jet` does, each handler on the ledger is the handler on the pool the ledger represents.
-/
namespace JetVault.Accounts

open Fallible FixedWidth

variable {Key : Type}

/-! ## What a list has to name

The seeds pin the mint and the vault's USDC account; the rest is the caller's choice. -/

/-- The addresses of the site are those that the vault's record leads to. -/
structure Site.Derived (site : Site Key) (runtime : Runtime Key) (vault : Vault Key) : Prop where
  redeemableMint : ∀ name, strip vault.vaultName.toList = .ok name →
    runtime.createProgramAddress [redeemableMintSeed, name, [vault.bumps.redeemableMint]] =
      some site.redeemableMint
  vaultUsdc : ∀ name, strip vault.vaultName.toList = .ok name →
    runtime.createProgramAddress [vaultUsdcSeed, name, [vault.bumps.vaultUsdc]] =
      some (site.account .vaultUsdc)
  userRedeemable : ∀ name, strip vault.vaultName.toList = .ok name → ∀ user ∈ site.users,
    ∃ bump, runtime.findProgramAddress [userRedeemableSeed, name, runtime.toBytes user] =
      some (site.account (.userRedeemable user), bump)

/-- The seeds of a record and its bumps lead to these accounts. -/
def Runtime.Pins (runtime : Runtime Key) (vault : Vault Key) (redeemableMint vaultUsdc : Key) :
    Prop :=
  ∃ name, strip vault.vaultName.toList = .ok name ∧
    runtime.createProgramAddress [redeemableMintSeed, name, [vault.bumps.redeemableMint]] =
      some redeemableMint ∧
    runtime.createProgramAddress [vaultUsdcSeed, name, [vault.bumps.vaultUsdc]] = some vaultUsdc

theorem Site.Derived.pinned {site : Site Key} {runtime : Runtime Key} {vault : Vault Key}
    {redeemableMint vaultUsdc : Key} (derived : site.Derived runtime vault)
    (pins : runtime.Pins vault redeemableMint vaultUsdc) :
    redeemableMint = site.redeemableMint ∧ vaultUsdc = site.account .vaultUsdc := by
  obtain ⟨name, stripped, mintAddress, usdcAddress⟩ := pins
  exact ⟨Option.some.inj (mintAddress.symm.trans (derived.redeemableMint name stripped)),
    Option.some.inj (usdcAddress.symm.trans (derived.vaultUsdc name stripped))⟩

structure DepositVault.Follows (accounts : DepositVault Key) (site : Site Key) : Prop where
  user : accounts.userAuthority.key ∈ site.users
  vault : accounts.vault.key = site.vault
  userUsdc : accounts.userUsdc.key = site.account (.userUsdc accounts.userAuthority.key)
  userRedeemable :
    accounts.userRedeemable.key = site.account (.userRedeemable accounts.userAuthority.key)
  depositAccount : accounts.depositAccount.key = site.account .depositAccount
  collateralAccount : accounts.collateralAccount.key = site.account .collateralAccount
  loanAccount : accounts.loanAccount.key = site.account .loanAccount
  jetVault : accounts.jetVault.key = site.account .jetVault
  jetProgram : accounts.jetProgram.key = site.jetProgram

structure WithdrawVault.Follows (accounts : WithdrawVault Key) (site : Site Key) : Prop where
  user : accounts.userAuthority.key ∈ site.users
  vault : accounts.vault.key = site.vault
  userUsdc : accounts.userUsdc.key = site.account (.userUsdc accounts.userAuthority.key)
  userRedeemable :
    accounts.userRedeemable.key = site.account (.userRedeemable accounts.userAuthority.key)
  depositAccount : accounts.depositAccount.key = site.account .depositAccount
  collateralAccount : accounts.collateralAccount.key = site.account .collateralAccount
  loanAccount : accounts.loanAccount.key = site.account .loanAccount
  jetVault : accounts.jetVault.key = site.account .jetVault
  jetProgram : accounts.jetProgram.key = site.jetProgram

/-- A call that moves the balances of the pool as `balances` does, and nothing else of it. -/
def Site.Serves (site : Site Key) (call : Ledger Key → Except Failure (Ledger Key))
    (balances : Balances → Except Failure Balances) : Prop :=
  ∀ s ledger ledger', site.Represents ledger s → call ledger = .ok ledger' →
    ∃ b, balances s.toBalances = .ok b ∧ site.Represents ledger' { s with toBalances := b }

/-- The program of the site moves the balances as `jet` does, whenever it is given the accounts of
the site. -/
structure Site.Implements (site : Site Key) (runtime : DepositRuntime Key) (jet : Jet) : Prop where
  refreshReserve : ∀ accounts,
    site.Serves (runtime.invoke site.jetProgram (.refreshReserve accounts)) jet.refreshReserve
  deposit : ∀ accounts bump tokens, accounts.depositSource = site.account .vaultUsdc →
    accounts.vault = site.account .jetVault →
    accounts.depositAccount = site.account .depositAccount →
    site.Serves (runtime.invokeDeposit site.jetProgram (.deposit accounts bump tokens))
      (jet.deposit tokens)
  depositCollateral : ∀ accounts bumps tokens,
    accounts.depositAccount = site.account .depositAccount →
    accounts.collateralAccount = site.account .collateralAccount →
    site.Serves (runtime.invokeDeposit site.jetProgram (.depositCollateral accounts bumps tokens))
      (jet.depositCollateral tokens)
  borrow : ∀ accounts bump tokens, accounts.vault = site.account .jetVault →
    accounts.receiverAccount = site.account .vaultUsdc →
    accounts.loanAccount = site.account .loanAccount →
    site.Serves (runtime.invokeDeposit site.jetProgram (.borrow accounts bump tokens))
      (jet.borrow tokens)
  repay : ∀ accounts tokens, accounts.payerAccount = site.account .vaultUsdc →
    accounts.vault = site.account .jetVault → accounts.loanAccount = site.account .loanAccount →
    site.Serves (runtime.invoke site.jetProgram (.repay accounts tokens)) (jet.repay tokens)
  withdrawCollateral : ∀ accounts bumps tokens,
    accounts.collateralAccount = site.account .collateralAccount →
    accounts.depositAccount = site.account .depositAccount →
    site.Serves (runtime.invoke site.jetProgram (.withdrawCollateral accounts bumps tokens))
      (jet.withdrawCollateral tokens)

variable [DecidableEq Key]

theorem DepositVault.pins {runtime : Runtime Key} {accounts : DepositVault Key}
    {bumps : DepositVaultBumps} {loaded : LoadedDeposit Key} {u : Unit}
    (returned : accounts.constraints runtime bumps loaded = .ok u) :
    runtime.Pins loaded.vault accounts.redeemableMint.key accounts.vaultUsdc.key := by
  simp only [constraints, bind_eq_ok, Runtime.derives_eq_ok] at returned
  obtain ⟨name, stripped, _, _, _, _, _, _, _, _, _, _, _, _, _, _, _, _, _, _, _, _, _,
    redeemableMint, _, _, _, vaultUsdc, _⟩ := returned
  exact ⟨name, stripped, redeemableMint, vaultUsdc⟩

theorem WithdrawVault.pins {runtime : Runtime Key} {accounts : WithdrawVault Key}
    {bumps : WithdrawVaultBumps} {loaded : Loaded Key} {u : Unit}
    (returned : accounts.constraints runtime bumps loaded = .ok u) :
    runtime.Pins loaded.vault accounts.redeemableMint.key accounts.vaultUsdc.key := by
  simp only [constraints, bind_eq_ok, Runtime.derives_eq_ok] at returned
  obtain ⟨name, stripped, _, _, _, _, _, _, _, _, _, _, _, _, _, _, _, _, _, _, _,
    redeemableMint, _, _, _, vaultUsdc, _⟩ := returned
  exact ⟨name, stripped, redeemableMint, vaultUsdc⟩

/-! ## The token program -/

variable {site : Site Key} {ledger ledger' : Ledger Key} {s : Pool Key} {amount : UInt64}
  {authority : Key}

namespace Site.Represents

theorem transfer (represents : site.Represents ledger s) (source destination : Slot Key)
    (paying : source.Within site.users) (receiving : destination.Within site.users)
    (different : source ≠ destination)
    (returned : ledger.transfer (site.account source) (site.account destination) authority amount =
      .ok ledger') :
    ∃ debited credited : UInt64, debited.toNat + amount.toNat = (source.balance s).toNat ∧
      credited.toNat = (destination.balance s).toNat + amount.toNat ∧
      site.Represents ledger' (destination.write credited (source.write debited s)) := by
  have apart : site.account source ≠ site.account destination :=
    fun same => different (site.separate _ _ paying receiving same)
  simp only [Ledger.transfer, bind_eq_ok, refuseIf_eq_ok, pure_eq_ok, Ledger.tokenAccount_eq_ok,
    trySub_eq_ok, if_neg apart, tryAdd_eq_ok] at returned
  obtain ⟨payer, paid, receiver, received, debited, debit, _, _, _, _, credited, credit, rfl⟩ :=
    returned
  rw [represents.balance_eq _ paying paid] at debit
  rw [represents.balance_eq _ receiving received] at credit
  refine ⟨debited, credited, debit, credit,
    (represents.write_token paying paid debited).write_token receiving ?_ _⟩
  rw [Ledger.set_of_ne _ _ (Ne.symm apart), received]

theorem mintTo (represents : site.Represents ledger s) (slot : Slot Key)
    (within : slot.Within site.users)
    (returned : ledger.mintTo site.redeemableMint (site.account slot) amount = .ok ledger') :
    ∃ credited supply : UInt64, credited.toNat = (slot.balance s).toNat + amount.toNat ∧
      supply.toNat = s.redeemableSupply.toNat + amount.toNat ∧
      site.Represents ledger' { slot.write credited s with redeemableSupply := supply } := by
  simp only [Ledger.mintTo, bind_eq_ok, refuseIf_eq_ok, pure_eq_ok, Ledger.tokenAccount_eq_ok,
    Ledger.mint_eq_ok, tryAdd_eq_ok] at returned
  obtain ⟨holder, held, _, _, issued, found, credited, credit, supply, minted, rfl⟩ := returned
  cases represents.redeemableMint.symm.trans found
  rw [represents.balance_eq _ within held] at credit
  exact ⟨credited, supply, credit, minted,
    (represents.write_token within held credited).write_supply _⟩

theorem burn (represents : site.Represents ledger s) (slot : Slot Key)
    (within : slot.Within site.users)
    (returned : ledger.burn (site.account slot) site.redeemableMint authority amount =
      .ok ledger') :
    ∃ debited supply : UInt64, debited.toNat + amount.toNat = (slot.balance s).toNat ∧
      supply.toNat + amount.toNat = s.redeemableSupply.toNat ∧
      site.Represents ledger' { slot.write debited s with redeemableSupply := supply } := by
  simp only [Ledger.burn, bind_eq_ok, refuseIf_eq_ok, pure_eq_ok, Ledger.tokenAccount_eq_ok,
    Ledger.mint_eq_ok, trySub_eq_ok] at returned
  obtain ⟨holder, held, issued, found, _, _, debited, debit, _, _, supply, burned, rfl⟩ := returned
  cases represents.redeemableMint.symm.trans found
  rw [represents.balance_eq _ within held] at debit
  exact ⟨debited, supply, debit, burned,
    (represents.write_token within held debited).write_supply _⟩

theorem close (represents : site.Represents ledger s) {user : Key} (member : user ∈ site.users)
    {account : TokenAccount Key}
    (found : ledger (site.account (.userRedeemable user)) = some (.token account)) :
    site.Represents (ledger.set (site.account (.userRedeemable user)) none)
      { s with userRedeemable := Function.update s.userRedeemable user none } where
  vault := (Ledger.set_of_ne _ _ (represents.ne_vault found)).trans represents.vault
  redeemableMint := (Ledger.set_of_ne _ _ (represents.ne_mint found)).trans
    represents.redeemableMint
  balances slot within := by
    have before := represents.balances slot within
    by_cases same : slot = .userRedeemable user
    · -- An account that is gone holds nothing, as a user without one has no shares.
      subst same
      simp [Ledger.amount, Slot.balance, Pool.shares]
    · have apart : site.account slot ≠ site.account (.userRedeemable user) :=
        fun h => same (site.separate _ _ within member h)
      rw [Ledger.amount, Ledger.set_of_ne _ _ apart, ← Ledger.amount, before,
        Slot.balance_closed same]
  opened other member' := by
    by_cases same : other = user
    · subst same
      simp [Ledger.Open]
    · have apart : site.account (.userRedeemable other) ≠ site.account (.userRedeemable user) :=
        fun h => same (Slot.userRedeemable.inj (site.separate _ _ member' member h))
      simp only [Function.update_of_ne same, Ledger.Open, Ledger.set_of_ne _ _ apart]
      exact represents.opened other member'
  others slot outside := by
    rw [Slot.balance_closed, represents.others slot outside]
    rintro rfl
    exact outside member

/-- The last lines of a withdrawal. -/
theorem closeIfEmpty (represents : site.Represents ledger s) {accounts : WithdrawVault Key}
    (follows : accounts.Follows site) (returned : closeIfEmpty accounts ledger = .ok ledger') :
    site.Represents ledger' (s.closeIfEmpty accounts.userAuthority.key) := by
  simp only [Accounts.closeIfEmpty, bind_eq_ok, Ledger.tokenAccount_eq_ok, follows.userRedeemable]
    at returned
  obtain ⟨holder, held, closed⟩ := returned
  have shares : s.shares accounts.userAuthority.key = holder.amount :=
    (represents.balance_eq (.userRedeemable _) follows.user held).symm
  unfold Pool.closeIfEmpty
  rw [shares]
  split at closed
  next empty =>
    rw [if_pos empty]
    simp only [Ledger.closeAccount, bind_eq_ok, pure_eq_ok] at closed
    obtain ⟨_, _, _, _, _, _, _, _, rfl⟩ := closed
    exact represents.close follows.user held
  next filled =>
    rw [if_neg filled]
    cases (pure_eq_ok _ _).mp closed
    exact represents

end Site.Represents

/-! ## The handlers -/

variable {runtime : DepositRuntime Key} {jet : Jet} {clock : Int64}

theorem initializeUserRedeemableTokenAccount_simulated
    {accounts : InitUserRedeemableTokenAccount Key} (represents : site.Represents ledger s)
    (derived : site.Derived runtime.toRuntime s.vault) (named : accounts.vault.key = site.vault)
    (member : accounts.userAuthority.key ∈ site.users)
    (returned : initializeUserRedeemableTokenAccount runtime clock accounts ledger = .ok ledger') :
    ∃ s', JetVault.initializeUserRedeemableTokenAccount clock accounts.userAuthority.key s =
        .ok s' ∧ site.Represents ledger' s' := by
  simp only [initializeUserRedeemableTokenAccount, InitUserRedeemableTokenAccount.create,
    bind_eq_ok, depositWithdrawPhase_eq_ok, pure_eq_ok] at returned
  obtain ⟨vault, load, _, ⟨name, stripped, created⟩, _, _, _, window, rfl⟩ := returned
  obtain ⟨_, found⟩ := InitUserRedeemableTokenAccount.load_ok load
  rw [named, represents.vault] at found
  cases found
  -- The account that is created is the user's, and it did not exist.
  obtain ⟨bump, address⟩ := derived.userRedeemable name stripped _ member
  unfold InitRuntime.init at created
  rw [show runtime.toInitRuntime.toRuntime = runtime.toRuntime from rfl, address] at created
  simp only [bind_eq_ok, refuseIf_eq_ok, pure_eq_ok, Decidable.not_not] at created
  obtain ⟨_, same, _, absent, _, _, _, _, rfl⟩ := created
  rw [same] at absent ⊢
  have closed : ¬ (s.userRedeemable accounts.userAuthority.key).isSome := by
    rw [represents.opened _ member]
    rintro ⟨account, found⟩
    simp [found] at absent
  refine ⟨Slot.write 0 s (.userRedeemable accounts.userAuthority.key), ?_, ?_⟩
  · simp only [JetVault.initializeUserRedeemableTokenAccount, bind_eq_ok, refuseIf_eq_ok,
      depositWithdrawPhase_eq_ok, pure_eq_ok]
    exact ⟨(), closed, (), window, rfl⟩
  · apply represents.write (.userRedeemable accounts.userAuthority.key) member
    · exact fun h => absent (by simp [← h, represents.vault])
    · exact fun h => absent (by simp [← h, represents.redeemableMint])

theorem depositVault_simulated {accounts : DepositVault Key} {bumps : DepositVaultBumps}
    {usdcAmount : UInt64} (represents : site.Represents ledger s)
    (derived : site.Derived runtime.toRuntime s.vault) (implements : site.Implements runtime jet)
    (follows : accounts.Follows site)
    (returned : depositVault runtime clock accounts bumps usdcAmount ledger = .ok ledger') :
    ∃ s', JetVault.depositVault jet clock accounts.userAuthority.key usdcAmount s = .ok s' ∧
      site.Represents ledger' s' := by
  simp only [depositVault, bind_eq_ok, refuseIf_eq_ok, depositWithdrawPhase_eq_ok] at returned
  obtain ⟨loaded, load, _, checked, _, window, _, funded, quotient, quoted, _, pay, _, mint,
    _, refresh, _, lend, _, post, borrow⟩ := returned
  obtain ⟨_, userUsdc, userRedeemable, vault, redeemableMint, vaultUsdc⟩ :=
    DepositVault.load_ok load
  -- What was loaded is the pool's, and the seeds pin the mint and the vault's USDC account.
  rw [follows.vault] at vault
  have pins := DepositVault.pins checked
  rw [represents.vault_eq vault] at pins window
  obtain ⟨mintKey, usdcKey⟩ := derived.pinned pins
  rw [mintKey] at redeemableMint
  rw [follows.userUsdc] at userUsdc
  rw [follows.userRedeemable] at userRedeemable
  rw [usdcKey] at vaultUsdc
  have supply := represents.supply_eq redeemableMint
  have liquid : loaded.vaultUsdc.amount = s.vaultUsdc :=
    represents.balance_eq .vaultUsdc trivial vaultUsdc
  have balance : loaded.userUsdc.amount = s.userUsdc accounts.userAuthority.key :=
    represents.balance_eq (.userUsdc _) follows.user userUsdc
  rw [supply, liquid] at quoted
  rw [balance] at funded
  rw [follows.userUsdc, usdcKey] at pay
  rw [mintKey, follows.userRedeemable] at mint
  rw [follows.jetProgram] at refresh lend post borrow
  -- The moves of the pool, one for each call.
  obtain ⟨debited, credited, debit, credit, represents₁⟩ :=
    represents.transfer (.userUsdc _) .vaultUsdc follows.user trivial (by simp) pay
  obtain ⟨shares, issued, minted, supplied, represents₂⟩ :=
    represents₁.mintTo (.userRedeemable _) follows.user mint
  obtain ⟨refreshed, jetRefresh, represents₃⟩ :=
    implements.refreshReserve _ _ _ _ represents₂ refresh
  obtain ⟨lent, jetLend, represents₄⟩ := implements.deposit _ _ _ usdcKey follows.jetVault
    follows.depositAccount _ _ _ represents₃ lend
  obtain ⟨posted, jetPost, represents₅⟩ := implements.depositCollateral _ _ _
    follows.depositAccount follows.collateralAccount _ _ _ represents₄ post
  obtain ⟨borrowed, jetBorrow, represents₆⟩ := implements.borrow _ _ _ follows.jetVault usdcKey
    follows.loanAccount _ _ _ represents₅ borrow
  refine ⟨_, (depositVault_eq_ok ..).mpr ⟨?_, window,
    UInt64.le_iff_toNat_le.mp (UInt64.not_lt.mp funded), quotient, quoted, _, _,
    (transferToVault_eq_ok ..).mpr ⟨debited, credited, debit, credit, rfl⟩,
    (mintTo_eq_ok ..).mpr ⟨shares, issued, minted, supplied, rfl⟩,
    refreshed, lent, posted, borrowed, jetRefresh, jetLend, jetPost, jetBorrow, rfl⟩,
    represents₆⟩
  exact (represents.opened _ follows.user).mpr ⟨_, userRedeemable⟩

theorem withdrawVault_simulated {accounts : WithdrawVault Key} {bumps : WithdrawVaultBumps}
    {redeemableAmount : UInt64} {outcome : Outcome Key} (represents : site.Represents ledger s)
    (derived : site.Derived runtime.toRuntime s.vault) (implements : site.Implements runtime jet)
    (follows : accounts.Follows site)
    (returned : withdrawVault runtime.toRuntime clock accounts bumps redeemableAmount ledger =
      .ok outcome) :
    ∃ s', JetVault.withdrawVault jet clock accounts.userAuthority.key redeemableAmount s = .ok s' ∧
      site.Represents outcome.ledger s' ∧ outcome.sent = s.payout redeemableAmount := by
  simp only [withdrawVault, bind_eq_ok, refuseIf_eq_ok, pure_eq_ok, usdcFxRate, tryDiv_eq_ok,
    depositWithdrawPhase_eq_ok] at returned
  obtain ⟨loaded, load, _, checked, _, window, _, held, _, ⟨issued, rfl⟩, _, refresh, _, repay,
    _, release, _, burn, _, pay, _, close, rfl⟩ := returned
  obtain ⟨vault, userRedeemable, redeemableMint, vaultUsdc, collateralAccount, loanAccount⟩ :=
    load_ok load
  rw [follows.vault] at vault
  have pins := WithdrawVault.pins checked
  rw [represents.vault_eq vault] at pins window
  obtain ⟨mintKey, usdcKey⟩ := derived.pinned pins
  rw [mintKey] at redeemableMint
  rw [follows.userRedeemable] at userRedeemable
  rw [usdcKey] at vaultUsdc
  rw [follows.collateralAccount] at collateralAccount
  rw [follows.loanAccount] at loanAccount
  have supply := represents.supply_eq redeemableMint
  have liquid : loaded.vaultUsdc.amount = s.vaultUsdc :=
    represents.balance_eq .vaultUsdc trivial vaultUsdc
  have collateral : loaded.collateralAccount.amount = s.collateralAccount :=
    represents.balance_eq .collateralAccount trivial collateralAccount
  have loan : loaded.loanAccount.amount = s.loanAccount :=
    represents.balance_eq .loanAccount trivial loanAccount
  have shares : loaded.userRedeemable.amount = s.shares accounts.userAuthority.key :=
    represents.balance_eq (.userRedeemable _) follows.user userRedeemable
  rw [supply] at issued
  rw [shares] at held
  -- The quotes of the handler are those of the pool.
  rw [supply, liquid, collateral, loan] at repay release pay ⊢
  rw [follows.userRedeemable, mintKey] at burn
  rw [usdcKey, follows.userUsdc] at pay
  rw [follows.jetProgram] at refresh repay release
  obtain ⟨refreshed, jetRefresh, represents₁⟩ :=
    implements.refreshReserve _ _ _ _ represents refresh
  obtain ⟨repaid, jetRepay, represents₂⟩ := implements.repay _ _ usdcKey follows.jetVault
    follows.loanAccount _ _ _ represents₁ repay
  obtain ⟨released, jetRelease, represents₃⟩ := implements.withdrawCollateral _ _ _
    follows.collateralAccount follows.depositAccount _ _ _ represents₂ release
  obtain ⟨left, redeemed, debit, burned, represents₄⟩ :=
    represents₃.burn (.userRedeemable _) follows.user burn
  obtain ⟨kept, received, drawn, credit, represents₅⟩ :=
    represents₄.transfer .vaultUsdc (.userUsdc _) trivial follows.user (by simp) pay
  refine ⟨_, (withdrawVault_eq_ok ..).mpr
    ⟨(represents.opened _ follows.user).mpr ⟨_, userRedeemable⟩, window,
    UInt64.le_iff_toNat_le.mp (UInt64.not_lt.mp held), issued, refreshed, repaid, released,
    jetRefresh, jetRepay, jetRelease, _, _,
    (burn_eq_ok ..).mpr ⟨left, redeemed, debit, burned, rfl⟩,
    (transferToUser_eq_ok ..).mpr ⟨kept, received, drawn, credit, rfl⟩, rfl⟩,
    represents₅.closeIfEmpty follows close, rfl⟩

end JetVault.Accounts
