import JetVault.Accounts.Deposit
import JetVault.Properties.PinnedAccounts

/-!
# Addresses

Whether the addresses that later instructions derive from a vault's stored name and bumps are the
ones at which the vault was created. Creation derives them from the name as it was given and from
canonical bumps; later instructions, from the stripped copy and the bumps of the caller.
-/
namespace JetVault.Accounts

open Fallible

variable {Key : Type}

/-! ## Later account lists -/

inductive LaterAccounts (Key : Type) where
  | initUserRedeemableTokenAccount (accounts : InitUserRedeemableTokenAccount Key)
  | depositVault (accounts : DepositVault Key)
  | withdrawVault (accounts : WithdrawVault Key)

/-- The accounts on the list that a vault has once. -/
def LaterAccounts.vaultAccounts : LaterAccounts Key → List (Role × AccountMeta Key)
  | .initUserRedeemableTokenAccount accounts =>
    [(.vault, accounts.vault), (.vaultAuthority, accounts.vaultAuthority),
      (.redeemableMint, accounts.redeemableMint)]
  | .depositVault accounts =>
    [(.vault, accounts.vault), (.vaultAuthority, accounts.vaultAuthority),
      (.redeemableMint, accounts.redeemableMint), (.vaultUsdc, accounts.vaultUsdc)]
  | .withdrawVault accounts =>
    [(.vault, accounts.vault), (.vaultAuthority, accounts.vaultAuthority),
      (.redeemableMint, accounts.redeemableMint), (.vaultUsdc, accounts.vaultUsdc)]

variable [DecidableEq Key]

/-- The constraints on these accounts: their addresses are derived from the stored record. -/
def LaterAccounts.seedConstraints (later : LaterAccounts Key) (runtime : Runtime Key)
    (stored : Vault Key) : Except Failure Unit := do
  let name ← strip stored.vaultName.toList
  later.vaultAccounts.forM fun (role, account) =>
    runtime.derives account (role.seeds name) (role.bump stored.bumps)

theorem LaterAccounts.seedConstraints_eq_ok {later : LaterAccounts Key} {runtime : Runtime Key}
    {stored : Vault Key} {name : List UInt8} (stripped : strip stored.vaultName.toList = .ok name) :
    later.seedConstraints runtime stored = .ok () ↔
      ∀ entry ∈ later.vaultAccounts, runtime.createProgramAddress
        (entry.1.seeds name ++ [[entry.1.bump stored.bumps]]) = some entry.2.key := by
  simp only [seedConstraints, bind_eq_ok, stripped, Except.ok.injEq, exists_eq_left', forM_eq_ok,
    Runtime.derives_eq_ok]

/-- Every constraint on the list holds, for a vault with the given record. -/
def LaterAccounts.Accepted (runtime : InitRuntime Key) (stored : Vault Key) :
    LaterAccounts Key → Prop
  | .initUserRedeemableTokenAccount accounts => accounts.constraints runtime stored = .ok ()
  | .depositVault accounts => ∃ bumps loaded, loaded.vault = stored ∧
      accounts.constraints runtime.toRuntime bumps loaded = .ok ()
  | .withdrawVault accounts => ∃ bumps loaded, loaded.vault = stored ∧
      accounts.constraints runtime.toRuntime bumps loaded = .ok ()

theorem LaterAccounts.Accepted.seedConstraints {runtime : InitRuntime Key} {stored : Vault Key}
    {later : LaterAccounts Key} (accepted : later.Accepted runtime stored) :
    later.seedConstraints runtime.toRuntime stored = .ok () := by
  obtain ⟨_, name, _, _, _, _, _, stripped⟩ := strip_spec stored.vaultName.toList
  rw [seedConstraints_eq_ok stripped]
  cases later with
  | initUserRedeemableTokenAccount accounts =>
    simp only [Accepted, InitUserRedeemableTokenAccount.constraints, bind_eq_ok, stripped,
      Except.ok.injEq, exists_eq_left', Runtime.derives_eq_ok] at accepted
    obtain ⟨_, _, _, vault, _, vaultAuthority, redeemableMint⟩ := accepted
    simp only [vaultAccounts, List.forall_mem_cons]
    exact ⟨vault, vaultAuthority, redeemableMint, List.forall_mem_nil _⟩
  | depositVault accounts =>
    obtain ⟨bumps, loaded, rfl, accepted⟩ := accepted
    simp only [DepositVault.constraints, bind_eq_ok, stripped,
      Except.ok.injEq, exists_eq_left', Runtime.derives_eq_ok] at accepted
    obtain ⟨_, _, _, _, _, _, _, _, _, _, _, vault, _, _, _, vaultAuthority, _, _, _, _,
      _, redeemableMint, _, _, _, vaultUsdc, _⟩ := accepted
    simp only [vaultAccounts, List.forall_mem_cons]
    exact ⟨vault, vaultAuthority, redeemableMint, vaultUsdc, List.forall_mem_nil _⟩
  | withdrawVault accounts =>
    obtain ⟨bumps, loaded, rfl, accepted⟩ := accepted
    simp only [WithdrawVault.constraints, bind_eq_ok, stripped,
      Except.ok.injEq, exists_eq_left', Runtime.derives_eq_ok] at accepted
    obtain ⟨_, _, _, _, _, _, _, _, _, _, _, _, _, vault, _, _, _, vaultAuthority,
      _, redeemableMint, _, _, _, vaultUsdc, _⟩ := accepted
    simp only [vaultAccounts, List.forall_mem_cons]
    exact ⟨vault, vaultAuthority, redeemableMint, vaultUsdc, List.forall_mem_nil _⟩

/-! ## Created and derived addresses -/

theorem Role.name_eq_of_flatten (role : Role) {name name' : List UInt8}
    (same : (role.seeds name).flatten = (role.seeds name').flatten) : name = name' := by
  cases role <;> simpa [seeds] using same

section

variable {runtime : InitRuntime Key} {clock : Int64} {accounts : InitializeVault Key}
  {vaultName : List UInt8} {vaultLamports : UInt64} {bumps : VaultBumps}
  {epochTimes : EpochTimes} {ledger ledger' : Ledger Key} {stored : Vault Key}

omit [DecidableEq Key] in
/-- The stored name is stripped to some name, the given one where that has no whitespace at its
ends. -/
theorem Initialized.record (initialized : Initialized runtime accounts vaultName bumps ledger')
    (found : ledger'.vault accounts.vault.key = .ok stored) :
    stored.bumps = bumps ∧ ∃ name, strip stored.vaultName.toList = .ok name ∧
      (name = vaultName ↔ Trimmed vaultName) := by
  obtain ⟨vault, written, same, padded⟩ := initialized.stored
  cases ((Ledger.vault_eq_ok _ _ _).mp found).symm.trans written
  obtain ⟨_, name, _, _, _, _, _, stripped⟩ := strip_spec stored.vaultName.toList
  refine ⟨same, name, stripped, ?_⟩
  rw [← strip_padName_iff padded, stripped, Except.ok.injEq]

omit [DecidableEq Key] in
/-- The authority was created with the bump of the caller, the rest with their canonical bumps. -/
theorem Initialized.derived_iff (initialized : Initialized runtime accounts vaultName bumps ledger')
    (collisionFree : runtime.CollisionFree) (name : List UInt8) (role : Role) :
    runtime.createProgramAddress (role.seeds name ++ [[role.bump bumps]]) =
        some (accounts.account role).key ↔
      name = vaultName ∧ (role ≠ .vaultAuthority → ∃ address,
        runtime.findProgramAddress (role.seeds vaultName) = some (address, role.bump bumps)) := by
  by_cases authority : role = .vaultAuthority
  · subst authority
    constructor
    · intro derived
      obtain ⟨same, _⟩ := collisionFree.eq_of_address derived initialized.vaultAuthority
      exact ⟨Role.name_eq_of_flatten _ same, fun other => absurd rfl other⟩
    · rintro ⟨rfl, _⟩
      exact initialized.vaultAuthority
  -- An address tells the concatenation of its seeds and its bump.
  · obtain ⟨bump, canonical⟩ := initialized.canonical role authority
    have created := Runtime.createProgramAddress_of_find canonical
    constructor
    · intro derived
      obtain ⟨same, rfl⟩ := collisionFree.eq_of_address derived created
      exact ⟨Role.name_eq_of_flatten _ same, fun _ => ⟨_, canonical⟩⟩
    · rintro ⟨rfl, canonical'⟩
      obtain ⟨address, found⟩ := canonical' authority
      cases canonical.symm.trans found
      exact created

/-- A list of a depositor who names the created accounts. -/
def InitializeVault.depositVault (accounts : InitializeVault Key) : DepositVault Key where
  userAuthority := accounts.vaultAdmin
  userUsdc := accounts.vaultAdmin
  userRedeemable := accounts.vaultAdmin
  vault := accounts.vault
  vaultAuthority := accounts.vaultAuthority
  usdcMint := accounts.usdcMint
  redeemableMint := accounts.redeemableMint
  vaultUsdc := accounts.vaultUsdc
  collateralAccount := accounts.collateralAccount
  loanAccount := accounts.loanAccount
  market := accounts.market
  feeNoteVault := accounts.market
  pythPriceOracle := accounts.market
  reserve := accounts.reserve
  marketAuthority := accounts.marketAuthority
  jetVault := accounts.market
  depositAccount := accounts.depositAccount
  depositNoteMint := accounts.depositNoteMint
  loanNoteMint := accounts.loanNoteMint
  obligation := accounts.obligation
  tokenProgram := accounts.tokenProgram
  jetProgram := accounts.jetProgram

omit [DecidableEq Key] in
theorem InitializeVault.vaultAccounts_depositVault (accounts : InitializeVault Key) (role : Role) :
    (role, accounts.account role) ∈
      (LaterAccounts.depositVault accounts.depositVault).vaultAccounts := by
  cases role <;> simp [LaterAccounts.vaultAccounts, depositVault, account]

/-- A vault with whitespace at the ends of its name, or without its canonical bump, is out of
reach: no list that names it is accepted. -/
theorem not_accepted (collisionFree : runtime.CollisionFree)
    (returned : initializeVault runtime clock accounts vaultName vaultLamports bumps epochTimes
      ledger = .ok ledger')
    (found : ledger'.vault accounts.vault.key = .ok stored)
    (disagree : ¬ (Trimmed vaultName ∧
      ∃ address, runtime.findProgramAddress [vaultName] = some (address, bumps.vault)))
    {later : LaterAccounts Key} {account : AccountMeta Key}
    (listed : (Role.vault, account) ∈ later.vaultAccounts)
    (created : account.key = accounts.vault.key) : ¬ later.Accepted runtime stored := by
  intro accepted
  have initialized := initializeVault_ok returned
  obtain ⟨rfl, name, stripped, trimmed⟩ := initialized.record found
  have derived := (LaterAccounts.seedConstraints_eq_ok stripped).mp accepted.seedConstraints
    _ listed
  rw [created] at derived
  obtain ⟨same, canonical⟩ := (initialized.derived_iff collisionFree name .vault).mp derived
  exact disagree ⟨trimmed.mp same, canonical (by decide)⟩

/-- The addresses that every later list derives from the stored record are the created ones
exactly when the name has no whitespace at its ends and the stored bumps of the created accounts
are the canonical ones. -/
theorem later_addresses_iff (collisionFree : runtime.CollisionFree)
    (returned : initializeVault runtime clock accounts vaultName vaultLamports bumps epochTimes
      ledger = .ok ledger')
    (found : ledger'.vault accounts.vault.key = .ok stored) :
    (∀ later : LaterAccounts Key, later.seedConstraints runtime.toRuntime stored = .ok () ↔
        ∀ entry ∈ later.vaultAccounts, entry.2.key = (accounts.account entry.1).key) ↔
      Trimmed vaultName ∧ ∀ role : Role, role ≠ .vaultAuthority → ∃ address,
        runtime.findProgramAddress (role.seeds vaultName) = some (address, role.bump bumps) := by
  have initialized := initializeVault_ok returned
  obtain ⟨rfl, name, stripped, trimmed⟩ := initialized.record found
  have derived := initialized.derived_iff collisionFree name
  simp only [LaterAccounts.seedConstraints_eq_ok stripped, ← trimmed]
  constructor
  -- A depositor's list names all four accounts.
  · intro agree
    have all := (agree (.depositVault accounts.depositVault)).mpr (by
      simp [LaterAccounts.vaultAccounts, InitializeVault.depositVault, InitializeVault.account])
    have each := fun role => (derived role).mp
      (all _ (accounts.vaultAccounts_depositVault role))
    exact ⟨(each .vault).1, fun role => (each role).2⟩
  · rintro ⟨same, canonical⟩ later
    apply forall₂_congr
    intro entry _
    rw [(derived entry.1).mpr ⟨same, canonical entry.1⟩, Option.some.injEq]
    exact eq_comm

end

/-! ## A created vault

Derived addresses are the concatenations themselves. The system program and Jet accept every
call. -/

def hashingRuntime : InitRuntime Address :=
  { acceptingRuntime with
    createProgramAddress := fun seeds =>
      if seeds.all fun seed => seed.length ≤ 32 then some (.derived [seeds.flatten]) else none
    systemProgram := .named 17
    rent := .named 18
    defaultKey := .named 19
    system := fun _ _ => .ok ()
    invokeInit := fun _ _ ledger => .ok ledger }

theorem hashingRuntime_collisionFree : hashingRuntime.CollisionFree := by
  intro seeds seeds' key address address'
  simp only [hashingRuntime, Option.ite_none_right_eq_some, Option.some.injEq] at address address'
  simpa using address.2.trans address'.2.symm

/-- The list of an admin who creates a vault of the given name, with the bump 255 throughout. -/
def creation (name : List UInt8) : InitializeVault Address where
  vaultAdmin := ⟨.named 1, true, true⟩
  vault := ⟨.derived [name ++ [255]], false, true⟩
  vaultAuthority := ⟨.derived [vaultAuthoritySeed ++ name ++ [255]], false, true⟩
  redeemableMint := ⟨.derived [redeemableMintSeed ++ name ++ [255]], false, true⟩
  vaultUsdc := ⟨.derived [vaultUsdcSeed ++ name ++ [255]], false, true⟩
  usdcMint := ⟨.named 3, false, false⟩
  market := ⟨.named 7, false, false⟩
  obligation := ⟨.named 12, false, true⟩
  depositAccount := ⟨.named 6, false, true⟩
  collateralAccount := ⟨.named 4, false, true⟩
  loanAccount := ⟨.named 5, false, true⟩
  depositNoteMint := ⟨.named 15, false, false⟩
  loanNoteMint := ⟨.named 11, false, false⟩
  reserve := ⟨.named 8, false, false⟩
  marketAuthority := ⟨.named 9, false, true⟩
  systemProgram := ⟨.named 17, false, false⟩
  tokenProgram := ⟨.named 0, false, false⟩
  jetProgram := ⟨.named 16, false, false⟩
  rent := ⟨.named 18, false, false⟩

def mintLedger : Ledger Address :=
  .ofList [(.named 3, .mint ⟨350⟩)]

def createVault (name : List UInt8) : Except Failure (Ledger Address) :=
  initializeVault hashingRuntime 5 (creation name) name 100
    ⟨255, 255, 255, 255, 255, 255, 255, 255, 255⟩ ⟨10, 20, 30, 40, 50, 60, 50⟩ mintLedger

def ledgerOf (name : List UInt8) : Ledger Address :=
  (createVault name).toOption.getD mintLedger

def recordOf (name : List UInt8) : Vault Address :=
  ((ledgerOf name).vault (creation name).vault.key).toOption.getD ownVault

theorem later_addresses_iff_jet :
    (∀ later : LaterAccounts Address,
        later.seedConstraints hashingRuntime.toRuntime (recordOf vaultName) = .ok () ↔
          ∀ entry ∈ later.vaultAccounts,
            entry.2.key = ((creation vaultName).account entry.1).key) ↔
      Trimmed vaultName ∧ ∀ role : Role, role ≠ .vaultAuthority → ∃ address,
        hashingRuntime.findProgramAddress (role.seeds vaultName) = some (address,
          role.bump ⟨255, 255, 255, 255, 255, 255, 255, 255, 255⟩) :=
  later_addresses_iff hashingRuntime_collisionFree
    (eq_ok_getD (x := createVault vaultName) (by decide +kernel) _)
    (eq_ok_getD (by decide +kernel) _)

/-- The accounts of a vault named `jet` and a space are created; its depositors are told that
they are not the vault's. -/
theorem later_addresses_differ :
    ¬ ∀ (runtime : InitRuntime Address) (clock : Int64) (accounts : InitializeVault Address)
      (vaultName : List UInt8) (vaultLamports : UInt64) (bumps : VaultBumps)
      (epochTimes : EpochTimes) (ledger ledger' : Ledger Address) (stored : Vault Address),
      runtime.CollisionFree →
      initializeVault runtime clock accounts vaultName vaultLamports bumps epochTimes ledger =
        .ok ledger' →
      ledger'.vault accounts.vault.key = .ok stored →
      ∀ later : LaterAccounts Address, later.seedConstraints runtime.toRuntime stored = .ok () ↔
        ∀ entry ∈ later.vaultAccounts, entry.2.key = (accounts.account entry.1).key := by
  intro agree
  have accepted := (agree _ _ _ _ _ _ _ _ _ _ hashingRuntime_collisionFree
    (eq_ok_getD (x := createVault "jet ".toUTF8.data.toList) (by decide +kernel) mintLedger)
    (eq_ok_getD (by decide +kernel) ownVault)
    (.depositVault (creation "jet ".toUTF8.data.toList).depositVault)).mpr (by
      simp [LaterAccounts.vaultAccounts, InitializeVault.depositVault, InitializeVault.account])
  exact absurd (congrArg Except.isOk accepted) (by decide +kernel)

end JetVault.Accounts
