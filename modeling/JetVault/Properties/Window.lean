import JetVault.Accounts.Confinement
import JetVault.Properties.Isolation

/-!
# The deposit window

The schedule that `initialize_vault` accepts, and what follows for a vault's whole life: its
supply, its users' shares and its accounts at Jet move only while the window is open, as long as
these are named in no transaction about another vault. The program does not see to that: the
redeemable mint of a vault can be the USDC mint of the next one.
-/
namespace JetVault

open Fallible FixedWidth Transition

/-! ## Accepted schedules -/

/-- Every time is after the one before it, the first is in the future, and the cadence covers
the epoch. -/
structure Scheduled (clock : Int64) (epochTimes : EpochTimes) : Prop where
  startEpoch : clock.toInt < epochTimes.startEpoch.toInt
  endDeposits : epochTimes.startEpoch.toInt < epochTimes.endDeposits.toInt
  startAuction : epochTimes.endDeposits.toInt < epochTimes.startAuction.toInt
  endAuction : epochTimes.startAuction.toInt < epochTimes.endAuction.toInt
  startSettlement : epochTimes.endAuction.toInt < epochTimes.startSettlement.toInt
  endEpoch : epochTimes.startSettlement.toInt < epochTimes.endEpoch.toInt
  epochCadence : epochTimes.endEpoch.toInt - epochTimes.startEpoch.toInt ≤
    epochTimes.epochCadence.toNat

variable {clock : Int64} {epochTimes : EpochTimes}

/-- The subtraction is evaluated only for ordered times of the future, where it cannot overflow. -/
theorem validateEpochTimes_ne_abort (future : 0 ≤ clock) :
    validateEpochTimes clock epochTimes ≠ .error .abort := by
  intro aborted
  simp only [validateEpochTimes, bind_eq_error, refuseIf_eq_error, refuseIf_eq_ok, reduceCtorEq,
    and_false, false_or] at aborted
  obtain ⟨_, started, aborted⟩ := aborted
  split at aborted
  next ordered =>
    simp only [bind_eq_error, trySubInt64_eq_error] at aborted
    rcases aborted with ⟨overflow, _⟩ | ⟨_, _, failed⟩
    · simp only [Int64.lt_iff_toInt_lt, Int64.le_iff_toInt_le, Int64.toInt_zero] at *
      have bound := epochTimes.endEpoch.toInt_lt
      omega
    · split at failed <;> cases failed
  next => cases aborted

/-- The checks of the handler, in the exact integers. -/
theorem validateEpochTimes_eq_ok_iff (future : 0 ≤ clock) :
    validateEpochTimes clock epochTimes = .ok () ↔ Scheduled clock epochTimes := by
  simp only [validateEpochTimes, bind_eq_ok, refuseIf_eq_ok, Int64.le_iff_toInt_le, not_le,
    Int64.lt_iff_toInt_lt] at future ⊢
  rw [Int64.toInt_zero] at future
  constructor
  · rintro ⟨_, started, accepted⟩
    split at accepted
    next ordered =>
      simp only [bind_eq_ok, trySubInt64_eq_ok] at accepted
      obtain ⟨epoch, difference, accepted⟩ := accepted
      split at accepted
      next covered =>
        obtain ⟨first, second, third, fourth, fifth⟩ := ordered
        have cast := toNat_toUInt64 (a := epoch) (by omega)
        have covered := UInt64.le_iff_toNat_le.mp covered
        exact ⟨started, first, second, third, fourth, fifth, by omega⟩
      next => cases accepted
    next => cases accepted
  · rintro ⟨started, first, second, third, fourth, fifth, covered⟩
    have bound := epochTimes.endEpoch.toInt_lt
    have difference : trySubInt64 Failure.abort epochTimes.endEpoch epochTimes.startEpoch =
        .ok (epochTimes.endEpoch - epochTimes.startEpoch) :=
      if_pos ⟨by omega, by omega⟩
    have exact := (trySubInt64_eq_ok ..).mp difference
    have cast := toNat_toUInt64 (a := epochTimes.endEpoch - epochTimes.startEpoch) (by omega)
    refine ⟨(), started, ?_⟩
    rw [if_pos ⟨first, second, third, fourth, fifth⟩, bind_eq_ok]
    refine ⟨_, difference, if_pos ?_⟩
    rw [ge_iff_le, UInt64.le_iff_toNat_le]
    omega

/-- The clock readings of a run never go back, from the given one on. -/
def Nondecreasing {α : Type} (start : Int64) (run : List (Int64 × α)) : Prop :=
  (start :: run.map Prod.fst).Pairwise (· ≤ ·)

/-- No reading of the rest of a run is earlier than that of its first instruction. -/
theorem Nondecreasing.after {α : Type} {start : Int64} {before later : List (Int64 × α)}
    {timed : Int64 × α} (ordered : Nondecreasing start (before ++ timed :: later)) :
    ∀ next ∈ timed :: later, timed.1 ≤ next.1 := by
  rw [Nondecreasing, List.map_append, List.map_cons] at ordered
  -- The readings from the instruction on are in order by themselves.
  have after := (List.pairwise_append.mp (List.pairwise_cons.mp ordered).2).2.1
  rintro next member
  cases member with
  | head => exact Int64.le_refl _
  | tail _ member => exact List.rel_of_pairwise_cons after (List.mem_map_of_mem member)

namespace Accounts

variable {Key : Type} [DecidableEq Key]

/-! ## The position of a vault -/

/-- What a vault holds for its users and at Jet. -/
structure Position (Key : Type) where
  redeemableSupply : ℕ
  shares : Key → Option UInt64
  depositAccount : ℕ
  collateralAccount : ℕ
  loanAccount : ℕ

namespace InitializeVault

variable (home : InitializeVault Key)

def position (ledger : Ledger Key) : Position Key where
  redeemableSupply := ledger.supply home.redeemableMint.key
  shares := ledger.held home.redeemableMint.key
  depositAccount := ledger.amount home.depositAccount.key
  collateralAccount := ledger.amount home.collateralAccount.key
  loanAccount := ledger.amount home.loanAccount.key

/-- The accounts that the position is read from. -/
def Counts (ledger : Ledger Key) (key : Key) : Prop :=
  key = home.redeemableMint.key ∨ key = home.depositAccount.key ∨
    key = home.collateralAccount.key ∨ key = home.loanAccount.key ∨
    ledger.held home.redeemableMint.key key ≠ none

instance (ledger : Ledger Key) (key : Key) : Decidable (home.Counts ledger key) :=
  inferInstanceAs (Decidable (_ ∨ _))

/-- A transaction about the vault itself, or one that names none of the accounts of its
position. -/
def Apart (ledger : Ledger Key) (timed : Int64 × Instruction Key) : Prop :=
  timed.2.vault = some home.vault.key ∨ ∀ key ∈ timed.2.keys, ¬ home.Counts ledger key

instance (ledger : Ledger Key) (timed : Int64 × Instruction Key) :
    Decidable (home.Apart ledger timed) :=
  inferInstanceAs (Decidable (_ ∨ _))

end InitializeVault

variable {home : InitializeVault Key} {ledger ledger' : Ledger Key} {vault : Vault Key}
  {runtime : DepositRuntime Key} {clock : Int64} {timed : Int64 × Instruction Key}

theorem Confined.position {keys : List Key} (confined : Confined keys ledger ledger')
    (apart : ∀ key ∈ keys, ¬ home.Counts ledger key) :
    home.position ledger' = home.position ledger := by
  have kept : ∀ key, home.Counts ledger key → ledger' key = ledger key :=
    fun key counts => confined.others key fun named => apart key named counts
  have shares : ledger'.held home.redeemableMint.key = ledger.held home.redeemableMint.key := by
    funext key
    by_cases named : key ∈ keys
    · have none_before : ledger.held home.redeemableMint.key key = none :=
        Decidable.not_not.mp fun some => apart key named (by simp [InitializeVault.Counts, some])
      rw [none_before]
      -- It is none after, either: the mint was not named.
      by_contra held
      rcases confined.minted _ key held with before | issuer
      · exact before none_before
      · exact apart _ issuer (.inl rfl)
    · rw [Ledger.held, Ledger.held, confined.others key named]
  simp only [InitializeVault.position, shares, Ledger.supply, Ledger.amount,
    kept home.redeemableMint.key (by simp [InitializeVault.Counts]),
    kept home.depositAccount.key (by simp [InitializeVault.Counts]),
    kept home.collateralAccount.key (by simp [InitializeVault.Counts]),
    kept home.loanAccount.key (by simp [InitializeVault.Counts])]

/-! ## A vault's whole life -/

/-- The schedule of a created vault is the one given to `initialize_vault`. -/
theorem initializeVault_epochTimes {runtime : InitRuntime Key} {accounts : InitializeVault Key}
    {vaultName : List UInt8} {vaultLamports : UInt64} {bumps : VaultBumps}
    {epochTimes : EpochTimes}
    (returned : initializeVault runtime clock accounts vaultName vaultLamports bumps epochTimes
      ledger = .ok ledger') :
    ∃ vault, ledger' accounts.vault.key = some (.vault vault) ∧ vault.epochTimes = epochTimes := by
  simp only [initializeVault, bind_eq_ok, pure_eq_ok] at returned
  obtain ⟨_, _, _, _, _, _, _, _, _, _, _, _, _, _, _, _, _, _, _, _, rfl⟩ := returned
  exact ⟨_, Ledger.set_self _ _ _, rfl⟩

/-- What moves the position of a vault is about that vault, and so it is made in its window. -/
theorem execute_gated (confined : runtime.Confined)
    (stored : ledger home.vault.key = some (.vault vault)) (apart : home.Apart ledger timed)
    (returned : execute runtime timed ledger = .ok ledger') :
    home.position ledger' = home.position ledger ∨ InWindow timed.1 vault := by
  rcases apart with about | elsewhere
  · exact .inr (execute_inWindow stored about returned)
  · exact .inl ((execute_confined confined returned).position elsewhere)

theorem attempt_gated (confined : runtime.Confined)
    (stored : ledger home.vault.key = some (.vault vault)) (apart : home.Apart ledger timed) :
    home.position (attempt (execute runtime) timed ledger) = home.position ledger ∨
      InWindow timed.1 vault := by
  unfold attempt
  split
  next returned => exact execute_gated confined stored apart returned
  next => exact .inl rfl

/-- A record stays as it is, whatever is attempted. -/
theorem attemptAll_stored (contained : runtime.Contained unguarded)
    (stored : ledger home.vault.key = some (.vault vault))
    (run : List (Int64 × Instruction Key)) :
    attemptAll (execute runtime) run ledger home.vault.key = some (.vault vault) :=
  (anyInstruction_spares contained
    (attemptAll_reaches (admitted_of_mem (fun _ _ _ => trivial) _))).vaults _ vault stored

/-- A run that starts after the window moves nothing. -/
theorem attemptAll_after_window (contained : runtime.Contained unguarded)
    (confined : runtime.Confined) (run : List (Int64 × Instruction Key))
    (stored : ledger home.vault.key = some (.vault vault))
    (closed : ∀ timed ∈ run, vault.epochTimes.endDeposits < timed.1)
    (apart : Admitted (execute runtime) home.Apart run ledger) :
    home.position (attemptAll (execute runtime) run ledger) = home.position ledger := by
  -- Induction on the run: the record stays, so that the window is closed for the rest, too.
  induction run generalizing ledger with
  | nil => rfl
  | cons timed run ih =>
    obtain ⟨first, rest⟩ := apart
    have still := (attempt_gated confined stored first).resolve_right fun window =>
      absurd window.2 (Int64.not_le.mpr (closed timed List.mem_cons_self))
    have later := ih (attemptAll_stored contained stored [timed])
      (fun next member => closed next (List.mem_cons_of_mem timed member)) rest
    exact later.trans still

/-- The schedule check is total and exact for clock readings that are not negative. In every run of
a vault created with it, where the accounts of the vault's position are named in no transaction but
those about the vault, an instruction that moves the position is made inside the window. From the
first reading after the window on, nothing moves. -/
theorem position_moves_only_in_window (contained : runtime.Contained unguarded)
    (confined : runtime.Confined) {start : Int64} {epochTimes : EpochTimes} (future : 0 ≤ start) :
    validateEpochTimes start epochTimes ≠ .error .abort ∧
      (validateEpochTimes start epochTimes = .ok () ↔ Scheduled start epochTimes) ∧
      ∀ (home : InitializeVault Key) (vaultName : List UInt8) (vaultLamports : UInt64)
        (bumps : VaultBumps) (ledger born : Ledger Key),
        initializeVault runtime.toInitRuntime start home vaultName vaultLamports bumps epochTimes
          ledger = .ok born →
        ∀ (before later : List (Int64 × Instruction Key)) (timed : Int64 × Instruction Key),
          Nondecreasing start (before ++ timed :: later) →
          Admitted (execute runtime) home.Apart (before ++ timed :: later) born →
          (home.position (attempt (execute runtime) timed
                (attemptAll (execute runtime) before born)) ≠
              home.position (attemptAll (execute runtime) before born) →
            epochTimes.startEpoch < timed.1 ∧ timed.1 ≤ epochTimes.endDeposits) ∧
          (epochTimes.endDeposits < timed.1 →
            home.position (attemptAll (execute runtime) (before ++ timed :: later) born) =
              home.position (attemptAll (execute runtime) before born)) := by
  refine ⟨validateEpochTimes_ne_abort future, validateEpochTimes_eq_ok_iff future, ?_⟩
  intro home vaultName vaultLamports bumps ledger born created before later timed ordered apart
  obtain ⟨vault, stored, rfl⟩ := initializeVault_epochTimes created
  -- The record is the one that was created, however far the run got.
  have kept := attemptAll_stored contained stored before
  have rest := (admitted_append.mp apart).2
  constructor
  · intro moved
    exact (attempt_gated confined kept rest.1).resolve_left moved
  · intro closed
    rw [attemptAll_append]
    exact attemptAll_after_window contained confined (timed :: later) kept
      (fun next member => Int64.lt_of_lt_of_le closed (ordered.after next member)) rest

/-! A vault of its own, and later another one with a window of its own. -/

theorem sharedRuntime_confined : sharedRuntime.Confined :=
  .of_idle (fun _ _ _ => rfl) (fun _ _ _ => rfl) (fun _ _ _ => rfl)

def otherTimes : EpochTimes := ⟨25, 35, 45, 55, 65, 75, 50⟩

def otherBumps : VaultBumps := ⟨255, 255, 255, 255, 255, 255, 255, 255, 255⟩

/-- The other vault with its own accounts at Jet. -/
def separateCreation : InitializeVault Address :=
  { creation otherName with
    depositAccount := ⟨.named 26, false, true⟩
    collateralAccount := ⟨.named 24, false, true⟩
    loanAccount := ⟨.named 25, false, true⟩ }

def separateDeposit : DepositVault Address :=
  { depositAt otherName with
    depositAccount := separateCreation.depositAccount
    collateralAccount := separateCreation.collateralAccount
    loanAccount := separateCreation.loanAccount }

def separateBefore : List (Int64 × Instruction Address) :=
  visitsOf vaultName ++
    [(16, .initializeVault separateCreation otherName 100 otherBumps otherTimes)]

def separateOpening : Int64 × Instruction Address :=
  (30, .initializeUserRedeemableTokenAccount (openingAt otherName))

def separateLater : List (Int64 × Instruction Address) :=
  [(30, .depositVault separateDeposit ⟨255, 255, 255, 255, 255⟩ 100)]

theorem position_moves_only_in_window_separate :
    ((creation vaultName).position (attempt (execute sharedRuntime) separateOpening
          (attemptAll (execute sharedRuntime) separateBefore sharedBorn)) ≠
        (creation vaultName).position
          (attemptAll (execute sharedRuntime) separateBefore sharedBorn) →
      (10 : Int64) < separateOpening.1 ∧ separateOpening.1 ≤ (20 : Int64)) ∧
    ((20 : Int64) < separateOpening.1 →
      (creation vaultName).position (attemptAll (execute sharedRuntime)
          (separateBefore ++ separateOpening :: separateLater) sharedBorn) =
        (creation vaultName).position
          (attemptAll (execute sharedRuntime) separateBefore sharedBorn)) := by
  have ordered : Nondecreasing 5 (separateBefore ++ separateOpening :: separateLater) := by
    unfold Nondecreasing
    decide +kernel
  exact (position_moves_only_in_window (sharedRuntime_contained _) sharedRuntime_confined
    (by decide)).2.2 (creation vaultName) _ _ _ sharedStart sharedBorn sharedBorn_created
    separateBefore separateLater separateOpening ordered (by decide +kernel)

/-- The other vault with the shares of the first as its USDC. -/
def nestedCreation : InitializeVault Address :=
  { creation otherName with usdcMint := (creation vaultName).redeemableMint }

def nestedBefore : List (Int64 × Instruction Address) :=
  visitsOf vaultName ++
    [(16, .initializeVault nestedCreation otherName 100 otherBumps otherTimes), separateOpening]

/-- The user deposits shares of the first vault in the other one. -/
def nestedDeposit : Int64 × Instruction Address :=
  (30, .depositVault
    { depositAt otherName with
      userUsdc := sharesAt vaultName
      usdcMint := (creation vaultName).redeemableMint }
    ⟨255, 255, 255, 255, 255⟩ 30)

/-- The first vault takes deposits up to 20. At 30 a user of it has 100 shares and sends 30 of them
to the other vault. -/
theorem position_moves_after_window :
    ¬ ∀ (runtime : DepositRuntime Address) (start : Int64) (epochTimes : EpochTimes)
      (home : InitializeVault Address) (vaultName : List UInt8) (vaultLamports : UInt64)
      (bumps : VaultBumps) (ledger born : Ledger Address),
      runtime.Contained unguarded → runtime.Confined → 0 ≤ start →
      initializeVault runtime.toInitRuntime start home vaultName vaultLamports bumps epochTimes
        ledger = .ok born →
      ∀ (before : List (Int64 × Instruction Address)) (timed : Int64 × Instruction Address),
        (∀ each ∈ before ++ [timed], each.2.vault ≠ none) →
        Nondecreasing start (before ++ [timed]) →
        home.position (attempt (execute runtime) timed
            (attemptAll (execute runtime) before born)) ≠
          home.position (attemptAll (execute runtime) before born) →
        epochTimes.startEpoch < timed.1 ∧ timed.1 ≤ epochTimes.endDeposits := by
  intro gated
  have ordered : Nondecreasing 5 (nestedBefore ++ [nestedDeposit]) := by
    unfold Nondecreasing
    decide +kernel
  have window := gated sharedRuntime _ _ (creation vaultName) _ _ _ sharedStart sharedBorn
    (sharedRuntime_contained _) sharedRuntime_confined (by decide) sharedBorn_created
    nestedBefore nestedDeposit (by decide +kernel) ordered fun same =>
      absurd (congrFun (congrArg Position.shares same) (sharesAt vaultName).key) (by decide +kernel)
  exact absurd window.2 (by decide)

end Accounts

end JetVault
