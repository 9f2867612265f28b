import JetVault.Properties.Addresses
import JetVault.Properties.LedgerSafety

/-!
# Isolation of vaults

One program serves many vaults, and a caller names all accounts. Instructions about one vault never
name the authority or the mint of another: those are derived from the name in a record, and there is
one record for each name. So they take nothing from the other vault.
-/
namespace JetVault.Accounts

open Fallible Transition

variable {Key : Type}

/-! ## Records and names -/

/-- All records are where records are made. -/
def RecordsPlaced (runtime : Runtime Key) (ledger : Ledger Key) : Prop :=
  ∀ key vault, ledger key = some (.vault vault) → runtime.Canonical key

theorem Spares.recordsPlaced {runtime : Runtime Key} {guard : Guard Key}
    {ledger ledger' : Ledger Key} (spares : Spares runtime guard ledger ledger')
    (placed : RecordsPlaced runtime ledger) : RecordsPlaced runtime ledger' := by
  intro key vault found
  rcases spares.records key vault found with before | canonical
  · exact placed key vault before
  · exact canonical

/-- The accounts that a vault was created with, by its name. -/
structure Home (runtime : Runtime Key) (accounts : InitializeVault Key) (name : List UInt8) :
    Prop where
  vault : ∃ bump, runtime.findProgramAddress [name] = some (accounts.vault.key, bump)
  vaultAuthority : ∃ bump : UInt8, runtime.createProgramAddress
    ([vaultAuthoritySeed, name] ++ [[bump]]) = some accounts.vaultAuthority.key
  redeemableMint : ∃ bump : UInt8, runtime.createProgramAddress
    ([redeemableMintSeed, name] ++ [[bump]]) = some accounts.redeemableMint.key

theorem Initialized.home {runtime : InitRuntime Key} {accounts : InitializeVault Key}
    {name : List UInt8} {bumps : VaultBumps} {ledger : Ledger Key}
    (initialized : Initialized runtime accounts name bumps ledger) :
    Home runtime.toRuntime accounts name where
  vault := initialized.canonical .vault (by decide)
  vaultAuthority := ⟨_, initialized.vaultAuthority⟩
  redeemableMint := by
    obtain ⟨bump, found⟩ := initialized.canonical .redeemableMint (by decide)
    exact ⟨bump, Runtime.createProgramAddress_of_find found⟩

section Names

variable {runtime : Runtime Key} (collisionFree : runtime.CollisionFree)
  {seed name name' : List UInt8} {bump bump' : UInt8} {key : Key}
include collisionFree

theorem name_eq_of_address
    (address : runtime.createProgramAddress ([seed, name] ++ [[bump]]) = some key)
    (address' : runtime.createProgramAddress ([seed, name'] ++ [[bump']]) = some key) :
    name = name' := by
  have same := (collisionFree.eq_of_address address address').1
  simpa using same

/-- A record at an address of a name is at the canonical one, and so it is the only one. -/
theorem key_eq_of_name {vault : Key} (placed : runtime.Canonical key)
    (found : runtime.findProgramAddress [name] = some (vault, bump'))
    (address : runtime.createProgramAddress ([name] ++ [[bump]]) = some key) : key = vault := by
  obtain ⟨placedName, placedBump, placedFound⟩ := placed
  have same := (collisionFree.eq_of_address
    (Runtime.createProgramAddress_of_find placedFound) address).1
  simp only [List.flatten_singleton] at same
  rw [same, found] at placedFound
  cases placedFound
  rfl

end Names

/-- Another vault has another name, and so another authority and another mint. -/
theorem Names.elsewhere {runtime : Runtime Key} (collisionFree : runtime.CollisionFree)
    {ledger : Ledger Key} (placed : RecordsPlaced runtime ledger) {accounts : InitializeVault Key}
    {name : List UInt8} (home : Home runtime accounts name)
    {vault vaultAuthority redeemableMint : Key} {name' : List UInt8}
    (names : Names runtime ledger vault vaultAuthority redeemableMint name')
    (other : vault ≠ accounts.vault.key) :
    vaultAuthority ≠ accounts.vaultAuthority.key ∧
      redeemableMint ≠ accounts.redeemableMint.key := by
  obtain ⟨record, stored⟩ := names.stored
  obtain ⟨_, address⟩ := names.vault
  obtain ⟨_, found⟩ := home.vault
  have different : name' ≠ name := by
    rintro rfl
    exact other (key_eq_of_name collisionFree (placed _ record stored) found address)
  obtain ⟨_, authority⟩ := names.vaultAuthority
  obtain ⟨_, homeAuthority⟩ := home.vaultAuthority
  obtain ⟨_, mint⟩ := names.redeemableMint
  obtain ⟨_, homeMint⟩ := home.redeemableMint
  constructor
  · rintro rfl
    exact different (name_eq_of_address collisionFree authority homeAuthority)
  · rintro rfl
    exact different (name_eq_of_address collisionFree mint homeMint)

/-! ## What is not named -/

variable [DecidableEq Key] {runtime : DepositRuntime Key} {clock : Int64}
  {ledger ledger' : Ledger Key}

/-- A transaction about another vault, or about none, that no derived address signs. -/
structure Elsewhere (runtime : Runtime Key) (vault : Key) (_ : Ledger Key)
    (timed : Int64 × Instruction Key) : Prop where
  other : timed.2.vault ≠ some vault
  signs : ∀ key, timed.2.Signs key → ∀ seeds, runtime.createProgramAddress seeds ≠ some key

/-- Whatever belongs to the authority of a vault, and its mint. -/
def InitializeVault.guard (accounts : InitializeVault Key) : Guard Key where
  owns key := key = accounts.vaultAuthority.key
  issues key := key = accounts.redeemableMint.key

omit [DecidableEq Key] in
/-- Whoever names the authority and the mint of another vault names nothing that is guarded. -/
theorem Names.unsigned (collisionFree : runtime.CollisionFree)
    (placed : RecordsPlaced runtime.toRuntime ledger) {home : InitializeVault Key}
    {name : List UInt8} (lives : Home runtime.toRuntime home name)
    {vault vaultAuthority redeemableMint : Key} {name' : List UInt8}
    (names : Names runtime.toRuntime ledger vault vaultAuthority redeemableMint name')
    (other : vault ≠ home.vault.key) {timed : Int64 × Instruction Key}
    (wallet : ∀ key, timed.2.Signs key → ¬ home.guard.owns key)
    (authority : timed.2.vaultAuthority = some vaultAuthority)
    (mint : timed.2.redeemableMint = some redeemableMint) : Unsigned home.guard ledger timed := by
  obtain ⟨authorityElsewhere, mintElsewhere⟩ := names.elsewhere collisionFree placed lives other
  refine ⟨wallet, ?_, ?_⟩
  · intro key named
    cases authority.symm.trans named
    exact authorityElsewhere
  · intro key named
    cases mint.symm.trans named
    exact mintElsewhere

theorem Elsewhere.unsigned (collisionFree : runtime.CollisionFree)
    (placed : RecordsPlaced runtime.toRuntime ledger) {home : InitializeVault Key}
    {name : List UInt8} (lives : Home runtime.toRuntime home name)
    {timed : Int64 × Instruction Key}
    (elsewhere : Elsewhere runtime.toRuntime home.vault.key ledger timed)
    (returned : execute runtime timed ledger = .ok ledger') :
    Unsigned home.guard ledger timed := by
  -- Only this program signs for an address that is derived.
  have wallet : ∀ key, timed.2.Signs key → ¬ home.guard.owns key := by
    rintro key signs rfl
    obtain ⟨_, derived⟩ := lives.vaultAuthority
    exact elsewhere.signs _ signs _ derived
  have other : ∀ vault, timed.2.vault = some vault → vault ≠ home.vault.key :=
    fun vault named same => elsewhere.other (same ▸ named)
  obtain ⟨clock, instruction⟩ := timed
  cases instruction with
  | initializeVault accounts =>
    refine ⟨wallet, ?_, by simp [Instruction.redeemableMint]⟩
    rintro _ ⟨rfl⟩ same
    have initialized := initializeVault_ok returned
    obtain ⟨_, authority⟩ := lives.vaultAuthority
    obtain ⟨_, found⟩ := lives.vault
    obtain ⟨_, found'⟩ := initialized.home.vault
    -- The authority of this vault has its name, so that it would be created again.
    have named := initialized.vaultAuthority
    rw [same] at named
    rw [name_eq_of_address collisionFree named authority, found] at found'
    exact other _ rfl (congrArg Prod.fst (Option.some.inj found')).symm
  | initializeUserRedeemableTokenAccount =>
    exact ⟨wallet, by simp [Instruction.vaultAuthority], by simp [Instruction.redeemableMint]⟩
  | depositVault accounts =>
    obtain ⟨_, names⟩ := depositVault_names returned
    exact names.unsigned collisionFree placed lives (other _ rfl) wallet rfl rfl
  | withdrawVault accounts =>
    simp only [execute, bind_eq_ok] at returned
    obtain ⟨_, withdrawn, _⟩ := returned
    obtain ⟨_, names⟩ := withdrawVault_names withdrawn
    exact names.unsigned collisionFree placed lives (other _ rfl) wallet rfl rfl
  | transfer =>
    exact ⟨wallet, by simp [Instruction.vaultAuthority], by simp [Instruction.redeemableMint]⟩

/-! ## Runs -/

/-- The record of a new vault is where records are made. -/
theorem initializeVault_recordsPlaced (contained : runtime.Contained unguarded)
    {accounts : InitializeVault Key} {vaultName : List UInt8} {vaultLamports : UInt64}
    {bumps : VaultBumps} {epochTimes : EpochTimes}
    (returned : initializeVault runtime.toInitRuntime clock accounts vaultName vaultLamports bumps
      epochTimes ledger = .ok ledger') (placed : RecordsPlaced runtime.toRuntime ledger) :
    RecordsPlaced runtime.toRuntime ledger' :=
  (initializeVault_spares contained (.unguarded ledger _) returned).recordsPlaced placed

theorem Spares.of_elsewhere (collisionFree : runtime.CollisionFree) {home : InitializeVault Key}
    {name : List UInt8} (lives : Home runtime.toRuntime home name)
    (contained : runtime.Contained home.guard) (placed : RecordsPlaced runtime.toRuntime ledger)
    (run : Reaches (execute runtime) (Elsewhere runtime.toRuntime home.vault.key) ledger ledger') :
    Spares runtime.toRuntime home.guard ledger ledger' := by
  -- By induction on the run: what was spared so far has left the records where they are made.
  refine run.invariant ?_ (Spares.refl _ home.guard ledger)
  intro between timed after spared elsewhere returned
  have unsigned := elsewhere.unsigned collisionFree (spared.recordsPlaced placed) lives returned
  exact spared.trans (execute_spares contained unsigned returned)

/-- Once a vault is created, and whatever was done with it since: a run of instructions about other
vaults leaves its record and the supply of its mint as they are, and no token account of its
authority loses anything. -/
theorem vaults_isolated (collisionFree : runtime.CollisionFree) {home : InitializeVault Key}
    (contained : runtime.Contained home.guard) {start born : Ledger Key}
    (placed : RecordsPlaced runtime.toRuntime start)
    {vaultName : List UInt8} {vaultLamports : UInt64} {bumps : VaultBumps} {epochTimes : EpochTimes}
    (created : initializeVault runtime.toInitRuntime clock home vaultName vaultLamports bumps
      epochTimes start = .ok born)
    (life : Reaches (execute runtime) AnyInstruction born ledger)
    (run : Reaches (execute runtime) (Elsewhere runtime.toRuntime home.vault.key) ledger ledger') :
    (∀ vault, ledger home.vault.key = some (.vault vault) →
      ledger' home.vault.key = some (.vault vault)) ∧
    (∀ mint, ledger home.redeemableMint.key = some (.mint mint) →
      ledger' home.redeemableMint.key = some (.mint mint)) ∧
    ∀ key account, ledger key = some (.token account) →
      account.owner = home.vaultAuthority.key →
      ∃ account', ledger' key = some (.token account') ∧ account'.mint = account.mint ∧
        account'.owner = account.owner ∧ account.amount.toNat ≤ account'.amount.toNat := by
  have lives := (initializeVault_ok created).home
  have placedBorn := initializeVault_recordsPlaced contained.unguard created placed
  have placedLater := (anyInstruction_spares contained.unguard life).recordsPlaced placedBorn
  have spared := Spares.of_elsewhere collisionFree lives contained placedLater run
  exact ⟨fun vault => spared.vaults _ vault, fun mint found => spared.mints _ mint found rfl,
    spared.tokens⟩

/-! Two vaults of one program: a user deposits in the first, and then in the second. -/

def sharedRuntime : DepositRuntime Address :=
  { hashingRuntime with invokeDeposit := fun _ _ ledger => .ok ledger }

theorem sharedRuntime_contained (guard : Guard Address) : sharedRuntime.Contained guard :=
  .of_idle (fun _ _ _ => rfl) (fun _ _ _ => rfl) (fun _ _ _ => rfl) guard

/-- The user's redeemable account at the vault of the given name. -/
def sharesAt (name : List UInt8) : AccountMeta Address :=
  ⟨.derived [userRedeemableSeed ++ name ++ [2] ++ [255]], false, true⟩

def openingAt (name : List UInt8) : InitUserRedeemableTokenAccount Address where
  userAuthority := ⟨.named 2, true, true⟩
  userRedeemable := sharesAt name
  vault := (creation name).vault
  vaultAuthority := (creation name).vaultAuthority
  redeemableMint := (creation name).redeemableMint
  systemProgram := (creation name).systemProgram
  tokenProgram := (creation name).tokenProgram
  rent := (creation name).rent

def depositAt (name : List UInt8) : DepositVault Address where
  userAuthority := ⟨.named 2, true, true⟩
  userUsdc := ⟨.named 20, false, true⟩
  userRedeemable := sharesAt name
  vault := (creation name).vault
  vaultAuthority := (creation name).vaultAuthority
  usdcMint := ⟨.named 3, false, true⟩
  redeemableMint := (creation name).redeemableMint
  vaultUsdc := (creation name).vaultUsdc
  collateralAccount := (creation name).collateralAccount
  loanAccount := (creation name).loanAccount
  market := ⟨.named 7, false, true⟩
  feeNoteVault := ⟨.named 13, false, true⟩
  pythPriceOracle := ⟨.named 14, false, true⟩
  reserve := ⟨.named 8, false, true⟩
  marketAuthority := ⟨.named 9, false, true⟩
  jetVault := ⟨.named 10, false, true⟩
  depositAccount := (creation name).depositAccount
  depositNoteMint := ⟨.named 15, false, true⟩
  loanNoteMint := ⟨.named 11, false, true⟩
  obligation := (creation name).obligation
  tokenProgram := (creation name).tokenProgram
  jetProgram := (creation name).jetProgram

def visitsOf (name : List UInt8) : List (Int64 × Instruction Address) :=
  [(15, .initializeUserRedeemableTokenAccount (openingAt name)),
    (15, .depositVault (depositAt name) ⟨255, 255, 255, 255, 255⟩ 100)]

def creationOf (name : List UInt8) : Int64 × Instruction Address :=
  (5, .initializeVault (creation name) name 100 ⟨255, 255, 255, 255, 255, 255, 255, 255, 255⟩
    ⟨10, 20, 30, 40, 50, 60, 50⟩)

def otherName : List UInt8 := "sol".toUTF8.data.toList

def sharedStart : Ledger Address :=
  .ofList [(.named 3, .mint ⟨350⟩), (.named 20, .token ⟨.named 3, .named 2, 350⟩)]

def sharedBorn : Ledger Address :=
  attempt (execute sharedRuntime) (creationOf vaultName) sharedStart

def sharedBefore : Ledger Address :=
  attemptAll (execute sharedRuntime) (visitsOf vaultName) sharedBorn

def sharedAfter : Ledger Address :=
  attemptAll (execute sharedRuntime) (creationOf otherName :: visitsOf otherName) sharedBefore

example : sharedAfter.amount (creation vaultName).vaultUsdc.key = 100 ∧
    sharedAfter.amount (creation otherName).vaultUsdc.key = 100 ∧
    sharedAfter.amount (.named 20) = 150 := by
  decide +kernel

theorem sharedStart_placed : RecordsPlaced sharedRuntime.toRuntime sharedStart := by
  intro key vault found
  obtain ⟨before, after, split, _⟩ := List.lookup_eq_some_iff.mp found
  have listed : (key, .vault vault) ∈ before ++ (key, .vault vault) :: after := by simp
  rw [← split] at listed
  simp at listed

theorem sharedBorn_created :
    execute sharedRuntime (creationOf vaultName) sharedStart = .ok sharedBorn :=
  attempt_eq_ok (by decide +kernel)

theorem user_underived (seeds : List (List UInt8)) :
    sharedRuntime.createProgramAddress seeds ≠ some (.named 2) := by
  simp [sharedRuntime, hashingRuntime]

theorem sharedBefore_reached :
    Reaches (execute sharedRuntime) AnyInstruction sharedBorn sharedBefore :=
  attemptAll_reaches ⟨trivial, trivial, trivial⟩

theorem sharedAfter_reached : Reaches (execute sharedRuntime)
    (Elsewhere sharedRuntime.toRuntime (creation vaultName).vault.key)
    sharedBefore sharedAfter := by
  refine attemptAll_reaches ⟨⟨by decide +kernel, ?_⟩, ⟨by decide +kernel, ?_⟩,
    ⟨by decide +kernel, ?_⟩, trivial⟩
  · rintro _ ⟨rfl, _⟩ seeds
    simp [sharedRuntime, hashingRuntime, creation]
  · rintro _ ⟨rfl, _⟩ seeds
    exact user_underived seeds
  · rintro _ ⟨rfl, _⟩ seeds
    exact user_underived seeds

theorem vaults_isolated_sharedAfter :
    sharedAfter (creation vaultName).redeemableMint.key = some (.mint ⟨100⟩) ∧
      ∃ account', sharedAfter (creation vaultName).vaultUsdc.key = some (.token account') ∧
        account'.mint = .named 3 ∧ account'.owner = (creation vaultName).vaultAuthority.key ∧
        (100 : UInt64).toNat ≤ account'.amount.toNat := by
  obtain ⟨_, mints, tokens⟩ := vaults_isolated hashingRuntime_collisionFree
    (sharedRuntime_contained _) sharedStart_placed sharedBorn_created
    sharedBefore_reached sharedAfter_reached
  exact ⟨mints ⟨100⟩ (by decide +kernel), tokens (creation vaultName).vaultUsdc.key
    ⟨.named 3, (creation vaultName).vaultAuthority.key, 100⟩ (by decide +kernel) rfl⟩

end JetVault.Accounts
