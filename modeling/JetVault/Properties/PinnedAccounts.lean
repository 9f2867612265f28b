import JetVault.Accounts.Withdraw

/-!
# Pinned accounts

Which accounts of a `withdraw_vault` call decide the payout. The vault's own accounts are pinned
by their seeds; nothing pins the two note accounts that its price is made of.
-/
namespace JetVault.Accounts

variable {Key : Type}

/-- Two account lists name the same user, vault and accounts of the vault. -/
structure WithdrawVault.SameVault (accounts accounts' : WithdrawVault Key) : Prop where
  userAuthority : accounts'.userAuthority.key = accounts.userAuthority.key
  vault : accounts'.vault.key = accounts.vault.key
  redeemableMint : accounts'.redeemableMint.key = accounts.redeemableMint.key
  vaultUsdc : accounts'.vaultUsdc.key = accounts.vaultUsdc.key
  userRedeemable : accounts'.userRedeemable.key = accounts.userRedeemable.key

/-- The whole rate of a call: how many times the supply fits into the equity it reads. -/
def WithdrawVault.Rate (accounts : WithdrawVault Key) (ledger : Ledger Key) (rate : ℕ) : Prop :=
  rate * ledger.supply accounts.redeemableMint.key ≤ accounts.exactEquity ledger % 2 ^ 64 ∧
    accounts.exactEquity ledger % 2 ^ 64 <
      (rate + 1) * ledger.supply accounts.redeemableMint.key

theorem rate_iff (accounts : WithdrawVault Key) (ledger : Ledger Key) (rate : ℕ)
    (issued : 0 < ledger.supply accounts.redeemableMint.key) :
    accounts.Rate ledger rate ↔
      (accounts.exactEquity ledger % 2 ^ 64).toNat / ledger.supply accounts.redeemableMint.key =
        rate := by
  have low := Int.emod_nonneg (accounts.exactEquity ledger) (b := 2 ^ 64) (by norm_num)
  unfold WithdrawVault.Rate
  generalize accounts.exactEquity ledger % 2 ^ 64 = equity at *
  lift equity to ℕ using low
  rw [Int.toNat_natCast, Nat.div_eq_iff issued]
  norm_cast
  rw [add_one_mul]
  omega

variable [DecidableEq Key] {runtime : Runtime Key} {clock : Int64} {ledger : Ledger Key}
  {accounts accounts' : WithdrawVault Key} {bumps bumps' : WithdrawVaultBumps}
  {redeemableAmount : UInt64} {outcome outcome' : Outcome Key}

/-- Two calls from one ledger, for the same user and vault, pay the same amount exactly when
nothing is redeemed or the note accounts they name lead to the same whole rate. The supply of the
redeemable mint counts the user's tokens. -/
theorem sent_eq_iff (same : accounts.SameVault accounts')
    (counted : ledger.amount accounts.userRedeemable.key ≤
      ledger.supply accounts.redeemableMint.key)
    (first : withdrawVault runtime clock accounts bumps redeemableAmount ledger = .ok outcome)
    (second : withdrawVault runtime clock accounts' bumps' redeemableAmount ledger =
      .ok outcome') :
    outcome'.sent = outcome.sent ↔
      redeemableAmount = 0 ∨ ∃ rate, accounts.Rate ledger rate ∧ accounts'.Rate ledger rate := by
  obtain ⟨issued, sent⟩ := sent_toNat counted first
  have counted' : ledger.amount accounts'.userRedeemable.key ≤
      ledger.supply accounts'.redeemableMint.key := by
    rw [same.userRedeemable, same.redeemableMint]
    exact counted
  obtain ⟨issued', sent'⟩ := sent_toNat counted' second
  have zero : redeemableAmount = 0 ↔ redeemableAmount.toNat = 0 := by
    rw [← UInt64.toNat_inj, UInt64.toNat_zero]
  -- Both amounts are the same multiple of a whole rate.
  simp only [rate_iff _ _ _ issued, rate_iff _ _ _ issued', exists_eq_left']
  rw [← UInt64.toNat_inj, sent, sent', mul_eq_mul_left_iff, zero, or_comm]

/-! ## A ledger with a vault

Addresses are free terms: named ones, and those derived from seeds. The program named as Jet
accepts every call and does nothing. -/

inductive Address where
  | named (n : ℕ)
  | derived (seeds : List (List UInt8))
  deriving DecidableEq, Repr

def acceptingRuntime : Runtime Address where
  createProgramAddress := fun seeds => some (.derived seeds)
  toBytes
    | .named n => [n.toUInt8]
    | .derived seeds => seeds.flatten
  tokenProgram := .named 0
  invoke := fun _ _ ledger => .ok ledger

def vaultName : List UInt8 := "jet".toUTF8.data.toList

/-- Seeds of the vault's accounts, all with the bump 255. -/
def ownAddress (seeds : List (List UInt8)) : Address :=
  .derived (seeds ++ [[255]])

def ownVault : Vault Address where
  vaultName := ⟨(vaultName ++ List.replicate 17 0x20).toArray, by decide⟩
  bumps := ⟨255, 255, 255, 255, 255, 255, 255, 255, 255⟩
  vaultAdmin := .named 1
  usdcMint := .named 3
  redeemableMint := ownAddress [redeemableMintSeed, vaultName]
  vaultUsdc := ownAddress [vaultUsdcSeed, vaultName]
  epochTimes := ⟨10, 20, 30, 40, 50, 60, 50⟩

/-- The list with the vault's own note accounts: 90 notes of collateral and a loan of 50. -/
def ownAccounts : WithdrawVault Address where
  userAuthority := ⟨.named 1, true, true⟩
  userUsdc := ⟨.named 2, false, true⟩
  userRedeemable := ⟨ownAddress [userRedeemableSeed, vaultName, [1]], false, true⟩
  vault := ⟨ownAddress [vaultName], false, false⟩
  vaultAuthority := ⟨ownAddress [vaultAuthoritySeed, vaultName], false, false⟩
  usdcMint := ⟨.named 3, false, false⟩
  redeemableMint := ⟨ownAddress [redeemableMintSeed, vaultName], false, true⟩
  vaultUsdc := ⟨ownAddress [vaultUsdcSeed, vaultName], false, true⟩
  collateralAccount := ⟨.named 4, false, true⟩
  loanAccount := ⟨.named 5, false, true⟩
  depositAccount := ⟨.named 6, false, true⟩
  market := ⟨.named 7, false, true⟩
  reserve := ⟨.named 8, false, true⟩
  marketAuthority := ⟨.named 9, false, true⟩
  jetVault := ⟨.named 10, false, true⟩
  loanNoteMint := ⟨.named 11, false, true⟩
  obligation := ⟨.named 12, false, true⟩
  feeNoteVault := ⟨.named 13, false, true⟩
  pythPriceOracle := ⟨.named 14, false, false⟩
  depositNoteMint := ⟨.named 15, false, true⟩
  tokenProgram := ⟨.named 0, false, false⟩
  jetProgram := ⟨.named 16, false, false⟩

/-- The same list with the user's own USDC account in the place of the collateral account. -/
def forgedAccounts : WithdrawVault Address :=
  { ownAccounts with collateralAccount := ownAccounts.userUsdc }

def Ledger.ofList (entries : List (Address × AccountData Address)) : Ledger Address :=
  fun key => entries.lookup key

def vaultLedger : List (Address × AccountData Address) :=
  [(.named 2, .token ⟨.named 3, .named 1, 290⟩),
    (ownAccounts.userRedeemable.key,
      .token ⟨ownAccounts.redeemableMint.key, .named 1, 100⟩),
    (ownAccounts.vault.key, .vault ownVault),
    (.named 3, .mint ⟨350⟩),
    (ownAccounts.redeemableMint.key, .mint ⟨100⟩),
    (ownAccounts.vaultUsdc.key, .token ⟨.named 3, ownAccounts.vaultAuthority.key, 60⟩),
    (.named 4, .token ⟨.named 15, .named 9, 90⟩),
    (.named 15, .mint ⟨90⟩),
    (.named 5, .token ⟨.named 11, .named 9, 50⟩),
    (.named 11, .mint ⟨50⟩)]

def ownLedger : Ledger Address :=
  .ofList vaultLedger

def redeemTen (accounts : WithdrawVault Address) : Except Failure (Outcome Address) :=
  withdrawVault acceptingRuntime 15 accounts ⟨255, 255, 255, 255, 255⟩ 10 ownLedger

def outcomeOf (accounts : WithdrawVault Address) : Outcome Address :=
  (redeemTen accounts).toOption.getD ⟨ownLedger, 0⟩

private theorem redeemTen_ok {accounts : WithdrawVault Address}
    (succeeds : (redeemTen accounts).isOk = true) :
    redeemTen accounts = .ok (outcomeOf accounts) :=
  Fallible.eq_ok_getD succeeds _

theorem ownAccounts_sameVault : ownAccounts.SameVault forgedAccounts :=
  ⟨rfl, rfl, rfl, rfl, rfl⟩

theorem ownLedger_counted : ownLedger.amount ownAccounts.userRedeemable.key ≤
    ownLedger.supply ownAccounts.redeemableMint.key := by
  decide +kernel

theorem sent_eq_iff_ownLedger :
    (outcomeOf forgedAccounts).sent = (outcomeOf ownAccounts).sent ↔
      (10 : UInt64) = 0 ∨
        ∃ rate, ownAccounts.Rate ownLedger rate ∧ forgedAccounts.Rate ownLedger rate :=
  sent_eq_iff ownAccounts_sameVault ownLedger_counted (redeemTen_ok (by decide +kernel))
    (redeemTen_ok (by decide +kernel))

/-- With the vault's collateral the ten tokens are paid 10; with the user's own USDC account in
its place, 30. -/
theorem sent_depends_on_collateralAccount :
    ¬ ∀ (runtime : Runtime Address) (clock : Int64) (ledger : Ledger Address)
      (accounts accounts' : WithdrawVault Address) (bumps bumps' : WithdrawVaultBumps)
      (redeemableAmount : UInt64) (outcome outcome' : Outcome Address),
      accounts.SameVault accounts' →
      ledger.amount accounts.userRedeemable.key ≤ ledger.supply accounts.redeemableMint.key →
      withdrawVault runtime clock accounts bumps redeemableAmount ledger = .ok outcome →
      withdrawVault runtime clock accounts' bumps' redeemableAmount ledger = .ok outcome' →
      outcome'.sent = outcome.sent := by
  intro pinned
  have equal := pinned acceptingRuntime 15 ownLedger ownAccounts forgedAccounts
    ⟨255, 255, 255, 255, 255⟩ ⟨255, 255, 255, 255, 255⟩ 10 (outcomeOf ownAccounts)
    (outcomeOf forgedAccounts) ownAccounts_sameVault ownLedger_counted
    (redeemTen_ok (by decide +kernel)) (redeemTen_ok (by decide +kernel))
  exact absurd equal (by decide +kernel)

end JetVault.Accounts
