import JetVault.Accounts.HostedJet
import JetVault.Properties.Solvency

/-!
# Runs on a ledger

From the creation of a vault on, whatever its users do with account lists that follow the site:
the ledger stays the picture of a pool, and the pool's books are the ledger's.
-/
namespace JetVault.Accounts

open Fallible FixedWidth Transition

variable {Key : Type}

namespace Site

variable (site : Site Key) (ledger : Ledger Key)

/-- The redeemable tokens of the users. -/
def usersShares : ℕ :=
  ∑ user ∈ site.users, ledger.amount (site.account (.userRedeemable user))

/-- The USDC of the users, of the vault and of the Jet reserve. -/
def usdc : ℕ :=
  ∑ user ∈ site.users, ledger.amount (site.account (.userUsdc user)) +
    ledger.amount (site.account .vaultUsdc) + ledger.amount (site.account .jetVault)

end Site

/-! ## The pool's books, read off the ledger -/

section Books

variable [Fintype Key] {site : Site Key} {ledger : Ledger Key} {s : Pool Key}

/-- The users of the site hold everything. -/
private theorem sum_slots (books : site.Books ledger s) (slot : Key → Slot Key)
    (within : ∀ user, (slot user).Within site.users ↔ user ∈ site.users) :
    ∑ user, ((slot user).balance s).toNat =
      ∑ user ∈ site.users, ledger.amount (site.account (slot user)) := by
  rw [← Finset.sum_subset (Finset.subset_univ site.users)]
  · exact Finset.sum_congr rfl fun user member =>
      (books.balances _ ((within user).mpr member)).symm
  · intro user _ outside
    rw [books.others _ (mt (within user).mp outside), UInt64.toNat_zero]

theorem usersShares_eq (books : site.Books ledger s) : s.usersShares = site.usersShares ledger :=
  sum_slots books .userRedeemable fun _ => Iff.rfl

theorem usdc_eq (books : site.Books ledger s) :
    s.usersUsdc + s.vaultUsdc.toNat + s.jetVault.toNat = site.usdc ledger := by
  have users : s.usersUsdc = ∑ user ∈ site.users, ledger.amount (site.account (.userUsdc user)) :=
    sum_slots books .userUsdc fun _ => Iff.rfl
  have vaultUsdc := books.balances .vaultUsdc trivial
  have jetVault := books.balances .jetVault trivial
  rw [Site.usdc, users, vaultUsdc, jetVault]
  rfl

end Books

/-- No call creates or destroys USDC. -/
theorem usdc_step [Fintype Key] [DecidableEq Key] {tx : Tx Key} {s s' : Pool Key}
    (returned : exec Jet.ideal tx s = .ok s') :
    s'.usersUsdc + s'.vaultUsdc.toNat + s'.jetVault.toNat =
      s.usersUsdc + s.vaultUsdc.toNat + s.jetVault.toNat := by
  have effect := exec_effect returned
  obtain ⟨clock, call⟩ := tx
  cases call with
  | initializeUserRedeemableTokenAccount user =>
    obtain ⟨_, rfl⟩ := (show Opened s s' from effect).accounts
    rfl
  | depositVault user usdcAmount =>
    have effect : Deposited user usdcAmount s s' := effect
    -- Only this user's tokens have moved, and into the reserve.
    have moved := usersUsdc_changed_at effect.userUsdc_other
    have debited := effect.userUsdc
    have vaultUsdc := effect.vaultUsdc
    have reserve := effect.jetVault
    omega
  | withdrawVault user redeemableAmount =>
    have effect : Withdrawn user clock redeemableAmount s s' := effect
    have moved := usersUsdc_changed_at effect.userUsdc_other
    have paid := effect.userUsdc
    have drawn := effect.vaultUsdc
    have reserve := effect.jetVault
    omega
  | transferUsdc user amount =>
    have effect : Transferred user amount s s' := effect
    have moved := usersUsdc_changed_at effect.userUsdc_other
    have debited := effect.userUsdc
    have credited := effect.vaultUsdc
    obtain ⟨_, _, rfl⟩ := effect.kept
    dsimp only at *
    omega

/-! ## Runs -/

variable [DecidableEq Key] {site : Site Key} {runtime : DepositRuntime Key} {jet : Jet}
  {creation : Creation Key} {ledger born ledger' : Ledger Key} {kind : Tx Key → Prop}

/-- Whatever Jet is, the life of a vault on the ledger is the life of a pool: the creation is the
pool's, and the transactions are the calls they make, in their order and at their clock readings. -/
theorem life_simulated (hosts : site.Hosts runtime jet)
    (created : creation.At site runtime ledger born) {run : List (Int64 × Instruction Key)}
    (executed : Trace (execute runtime) (Following site kind) run born ledger') :
    ∃ s s' calls, creation.onPool jet = .ok s ∧ List.Forall₂ (Answers site) run calls ∧
      Trace (exec jet) (fun _ tx => kind tx) calls.flatten s s' ∧ site.Represents ledger' s' := by
  obtain ⟨s, returned, tracks⟩ := created.tracks hosts
  obtain ⟨calls, s', answered, called, tracks'⟩ :=
    (execute_simulates hosts.toImplements kind).trace executed tracks
  exact ⟨s, s', calls, returned, answered, called, tracks'.toRepresents⟩

theorem life_simulated_placeAfter :
    ∃ s s' calls, placeCreation.onPool Jet.ideal = .ok s ∧
      List.Forall₂ (Answers placeSite) placeRun calls ∧
      Trace (exec Jet.ideal) (fun _ tx => tx.call.usdcAmount.toNat * 90 < 2 ^ 64) calls.flatten
        s s' ∧
      placeSite.Represents placeAfter s' :=
  life_simulated (placeSite.hosting_hosts placeRuntime) placeCreation_at placeAfter_trace

variable [Fintype Key]

/-- With the ideal Jet, the pool behind a ledger comes from a fresh vault with all of the USDC. -/
theorem of_life (hosts : site.Hosts runtime Jet.ideal)
    (created : creation.At site runtime ledger born) (counted : site.usdc ledger < 2 ^ 64)
    (run : Reaches (execute runtime) (Following site kind) born ledger') :
    ∃ s s', Fresh s ∧ s.usersUsdc + s.vaultUsdc.toNat + s.jetVault.toNat = site.usdc ledger ∧
      Reaches (exec Jet.ideal) (fun _ tx => kind tx) s s' ∧
      Tracks site runtime.toRuntime ledger' s' := by
  obtain ⟨vault, books⟩ := created.books
  have usdc := usdc_eq books
  obtain ⟨s, returned, tracks⟩ := created.tracks hosts
  obtain ⟨s', calls, tracks'⟩ := (execute_simulates hosts.toImplements kind).run run tracks
  have world : s.userUsdc = creation.userUsdc ∧ s.jetVault = creation.jetVault := by
    simp only [Creation.onPool, JetVault.initializeVault, bind_eq_ok, invoke_eq_ok, Jet.ideal,
      Except.ok.injEq] at returned
    obtain ⟨_, _, _, _, _, ⟨_, rfl, rfl⟩, _, ⟨_, rfl, rfl⟩, _, ⟨_, rfl, rfl⟩, _, rfl, rfl⟩ :=
      returned
    exact ⟨rfl, rfl⟩
  have fresh : Fresh s := by
    refine initializeVault_fresh ?_ returned
    rw [← usdc] at counted
    simpa [unfunded, Pool.usersUsdc] using counted
  refine ⟨s, s', fresh, ?_, calls, tracks'⟩
  rw [← usdc, Pool.usersUsdc, world.1, world.2, fresh.vaultUsdc]
  rfl

/-- The books of a vault on its ledger, after any run of transactions that follow the site: the
supply of its mint counts the users' redeemable tokens, no USDC appeared or disappeared, and the
reserve and the loan stand behind the deposit notes. -/
theorem ledger_books (hosts : site.Hosts runtime Jet.ideal)
    (created : creation.At site runtime ledger born) (counted : site.usdc ledger < 2 ^ 64)
    (run : Reaches (execute runtime) (Following site kind) born ledger') :
    ledger'.supply site.redeemableMint = site.usersShares ledger' ∧
      site.usdc ledger' = site.usdc ledger ∧
      ledger'.amount (site.account .depositAccount) +
          ledger'.amount (site.account .collateralAccount) ≤
        ledger'.amount (site.account .jetVault) + ledger'.amount (site.account .loanAccount) := by
  obtain ⟨s, s', fresh, usdc, calls, tracks⟩ := of_life hosts created counted run
  have represents := tracks.toRepresents
  have accounted := Accounted.of_reaches fresh calls
  have kept : s'.usersUsdc + s'.vaultUsdc.toNat + s'.jetVault.toNat =
      s.usersUsdc + s.vaultUsdc.toNat + s.jetVault.toNat :=
    calls.constant (fun u => u.usersUsdc + u.vaultUsdc.toNat + u.jetVault.toNat)
      fun _ _ _ _ returned => usdc_step returned
  refine ⟨?_, ?_, ?_⟩
  · rw [← usersShares_eq represents.toBooks, ← accounted.supply, Ledger.supply,
      represents.redeemableMint]
  · rw [← usdc_eq represents.toBooks, kept, usdc]
  · rw [represents.balances .depositAccount trivial, represents.balances .collateralAccount trivial,
      represents.balances .jetVault trivial, represents.balances .loanAccount trivial]
    exact accounted.reserve

theorem ledger_books_placeAfter :
    placeAfter.supply .redeemableMint = placeSite.usersShares placeAfter ∧
      placeSite.usdc placeAfter = placeSite.usdc placeLedger ∧
      placeAfter.amount .depositAccount + placeAfter.amount .collateralAccount ≤
        placeAfter.amount .jetVault + placeAfter.amount .loanAccount :=
  ledger_books (placeSite.hosting_hosts placeRuntime) placeCreation_at (by decide +kernel)
    placeAfter_reached

/-- After deposits whose `usdc_amount * 90` fits in a `u64`, a withdrawal that follows the site
sends its whole multiple of the exact integer rate of the balances on the ledger. -/
theorem ledger_payout_exact {clock : Int64} {accounts : WithdrawVault Key}
    {bumps : WithdrawVaultBumps} {redeemableAmount : UInt64} {outcome : Outcome Key}
    (hosts : site.Hosts runtime Jet.ideal) (created : creation.At site runtime ledger born)
    (counted : site.usdc ledger < 2 ^ 64)
    (run : Reaches (execute runtime)
      (Following site fun tx => tx.call.usdcAmount.toNat * 90 < 2 ^ 64) born ledger')
    (follows : accounts.Follows site)
    (returned : withdrawVault runtime.toRuntime clock accounts bumps redeemableAmount ledger' =
      .ok outcome) :
    ledger'.amount (site.account .loanAccount) ≤
        ledger'.amount (site.account .collateralAccount) ∧
      outcome.sent.toNat = redeemableAmount.toNat *
        ((ledger'.amount (site.account .vaultUsdc) +
          ledger'.amount (site.account .collateralAccount) -
          ledger'.amount (site.account .loanAccount)) / ledger'.supply site.redeemableMint) := by
  obtain ⟨s, s', fresh, _, calls, tracks⟩ := of_life hosts created counted run
  have represents := tracks.toRepresents
  have solvent : Solvent s' := Solvent.of_reaches fresh calls
  obtain ⟨_, called, _, sent⟩ := withdrawVault_simulated represents tracks.derived
    hosts.toImplements follows returned
  obtain ⟨_, held, _⟩ := withdrawVault_pays _ called
  have equity := solvent.equity_eq
  have covered := solvent.covered
  rw [represents.balances .loanAccount trivial, represents.balances .collateralAccount trivial,
    represents.balances .vaultUsdc trivial, Ledger.supply, represents.redeemableMint, sent,
    payout_toNat held]
  refine ⟨covered, ?_⟩
  -- The wrapped equity is the difference itself.
  have exact : s'.equity.toNat = s'.vaultUsdc.toNat + s'.collateralAccount.toNat -
      s'.loanAccount.toNat := by
    rw [Pool.exactEquity] at equity
    omega
  rw [exact]
  rfl

/-- What the early user receives for thirty redeemable tokens after the run. -/
def placeOutcome : Outcome Place :=
  ((withdrawVault placeHost.toRuntime 15 placeWithdrawal ⟨255, 255, 255, 255, 255⟩ 30
    placeAfter).toOption).getD ⟨placeAfter, 0⟩

theorem placeOutcome_returned : withdrawVault placeHost.toRuntime 15 placeWithdrawal
    ⟨255, 255, 255, 255, 255⟩ 30 placeAfter = .ok placeOutcome :=
  eq_ok_getD (by decide +kernel) _

theorem ledger_payout_exact_placeOutcome :
    placeAfter.amount .loanAccount ≤ placeAfter.amount .collateralAccount ∧
      placeOutcome.sent.toNat = (30 : UInt64).toNat *
        ((placeAfter.amount .vaultUsdc + placeAfter.amount .collateralAccount -
          placeAfter.amount .loanAccount) / placeAfter.supply .redeemableMint) :=
  ledger_payout_exact (placeSite.hosting_hosts placeRuntime)
    placeCreation_at (by decide +kernel) placeAfter_reached placeWithdrawal_follows
    placeOutcome_returned

end JetVault.Accounts
