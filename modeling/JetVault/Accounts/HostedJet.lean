import JetVault.Accounts.Lifecycle
import Mathlib.Data.Fintype.Basic

/-!
# A Jet on the ledger

Any behaviour of the Jet calls can be carried out on the accounts of a site: read the balances,
move them, write them back. With the ideal Jet this gives a runtime whose program does what a site
asks of it.
-/
namespace JetVault.Accounts

open Fallible FixedWidth Transition

variable {Key : Type} [DecidableEq Key] {site : Site Key} {ledger ledger' : Ledger Key}

/-! ## Calls on the balances of a site -/

/-- Write one balance of the site. -/
def Site.put (site : Site Key) (slot : Slot Key) (amount : UInt64) (ledger : Ledger Key) :
    Except Failure (Ledger Key) := do
  let account ← ledger.tokenAccount (site.account slot)
  return ledger.set (site.account slot) (some (.token { account with amount := amount }))

/-- Carry a call out on the ledger. -/
def Site.onBalances (site : Site Key) (call : Balances → Except Failure Balances)
    (ledger : Ledger Key) : Except Failure (Ledger Key) := do
  let vaultUsdc ← ledger.tokenAccount (site.account .vaultUsdc)
  let depositAccount ← ledger.tokenAccount (site.account .depositAccount)
  let collateralAccount ← ledger.tokenAccount (site.account .collateralAccount)
  let loanAccount ← ledger.tokenAccount (site.account .loanAccount)
  let jetVault ← ledger.tokenAccount (site.account .jetVault)
  let b ← call
    { vaultUsdc := vaultUsdc.amount
      depositAccount := depositAccount.amount
      collateralAccount := collateralAccount.amount
      loanAccount := loanAccount.amount
      jetVault := jetVault.amount }
  let ledger ← site.put .vaultUsdc b.vaultUsdc ledger
  let ledger ← site.put .depositAccount b.depositAccount ledger
  let ledger ← site.put .collateralAccount b.collateralAccount ledger
  let ledger ← site.put .loanAccount b.loanAccount ledger
  site.put .jetVault b.jetVault ledger

theorem Site.put_represents (slot : Slot Key) {amount : UInt64} {s : Pool Key}
    (within : slot.Within site.users) (represents : site.Represents ledger s)
    (returned : site.put slot amount ledger = .ok ledger') :
    site.Represents ledger' (slot.write amount s) := by
  simp only [put, bind_eq_ok, pure_eq_ok, Ledger.tokenAccount_eq_ok] at returned
  obtain ⟨account, found, rfl⟩ := returned
  exact represents.write_token within found amount

theorem Site.onBalances_serves (site : Site Key) (call : Balances → Except Failure Balances) :
    site.Serves (site.onBalances call) call := by
  intro s ledger ledger' represents returned
  simp only [onBalances, bind_eq_ok, Ledger.tokenAccount_eq_ok] at returned
  obtain ⟨_, vaultUsdc, _, depositAccount, _, collateralAccount, _, loanAccount, _, jetVault,
    b, called, _, first, _, second, _, third, _, fourth, fifth⟩ := returned
  -- The balances that are read are those of the pool, and each write is one to the pool.
  rw [represents.balance_eq .vaultUsdc trivial vaultUsdc,
    represents.balance_eq .depositAccount trivial depositAccount,
    represents.balance_eq .collateralAccount trivial collateralAccount,
    represents.balance_eq .loanAccount trivial loanAccount,
    represents.balance_eq .jetVault trivial jetVault] at called
  have represents₁ := put_represents .vaultUsdc trivial represents first
  have represents₂ := put_represents .depositAccount trivial represents₁ second
  have represents₃ := put_represents .collateralAccount trivial represents₂ third
  have represents₄ := put_represents .loanAccount trivial represents₃ fourth
  exact ⟨b, called, put_represents .jetVault trivial represents₄ fifth⟩

/-- A new token account of the site, which holds nothing yet. -/
def createToken (key mint owner : Key) (ledger : Ledger Key) : Except Failure (Ledger Key) := do
  refuseIf (ledger key).isSome .jet
  return ledger.set key (some (.token ⟨mint, owner, 0⟩))

theorem createToken_ok {key mint owner : Key}
    (returned : createToken key mint owner ledger = .ok ledger') :
    ledger key = none ∧ ledger' = ledger.set key (some (.token ⟨mint, owner, 0⟩)) := by
  simp only [createToken, bind_eq_ok, refuseIf_eq_ok, pure_eq_ok] at returned
  obtain ⟨_, absent, rfl⟩ := returned
  exact ⟨by simpa using absent, rfl⟩

theorem createToken_serves (slot : Slot Key) {key : Key} (named : key = site.account slot)
    (within : slot.Within site.users) (notShares : ∀ user, slot ≠ .userRedeemable user)
    (mint owner : Key) : site.Serves (createToken key mint owner) .ok := by
  subst named
  intro s ledger ledger' represents returned
  obtain ⟨absent, rfl⟩ := createToken_ok returned
  -- Where there was no account, the pool has a balance of zero already.
  have zero : slot.balance s = 0 := by
    rw [← UInt64.toNat_inj, ← represents.balances slot within]
    simp [Ledger.amount, absent]
  have same : slot.write 0 s = s := by
    rw [← zero]
    exact Slot.write_balance notShares s
  have written := represents.write slot within ⟨mint, owner, 0⟩
    (fun same => by simp [← same, represents.vault] at absent)
    (fun same => by simp [← same, represents.redeemableMint] at absent)
  exact ⟨s.toBalances, rfl, same ▸ written⟩

/-! ## The ideal Jet as a program -/

/-- Every program of this runtime is the ideal Jet at the site. -/
def Site.hosting (site : Site Key) (base : DepositRuntime Key) : DepositRuntime Key :=
  { base with
    invoke := fun _ call =>
      match call with
      | .refreshReserve _ => site.onBalances Jet.ideal.refreshReserve
      | .repay _ tokens => site.onBalances (Jet.ideal.repay tokens)
      | .withdrawCollateral _ _ tokens => site.onBalances (Jet.ideal.withdrawCollateral tokens)
    invokeDeposit := fun _ call =>
      match call with
      | .deposit _ _ tokens => site.onBalances (Jet.ideal.deposit tokens)
      | .depositCollateral _ _ tokens => site.onBalances (Jet.ideal.depositCollateral tokens)
      | .borrow _ _ tokens => site.onBalances (Jet.ideal.borrow tokens)
    invokeInit := fun _ call =>
      match call with
      | .initObligation _ _ => .ok
      | .initDepositAccount accounts _ =>
          createToken accounts.depositAccount accounts.depositNoteMint accounts.depositor
      | .initCollateralAccount accounts _ =>
          createToken accounts.collateralAccount accounts.depositNoteMint accounts.owner
      | .initLoanAccount accounts _ =>
          createToken accounts.loanAccount accounts.loanNoteMint accounts.owner }

theorem Site.hosting_hosts (site : Site Key) (base : DepositRuntime Key) :
    site.Hosts (site.hosting base) Jet.ideal where
  refreshReserve _ := site.onBalances_serves _
  deposit _ _ _ _ _ _ := site.onBalances_serves _
  depositCollateral _ _ _ _ _ := site.onBalances_serves _
  borrow _ _ _ _ _ _ := site.onBalances_serves _
  repay _ _ _ _ _ := site.onBalances_serves _
  withdrawCollateral _ _ _ _ _ := site.onBalances_serves _
  initObligation _ _ := by
    intro s ledger ledger' represents returned
    cases returned
    exact ⟨s.toBalances, rfl, represents⟩
  initDepositAccount _ _ named := createToken_serves .depositAccount named trivial (by simp) _ _
  initCollateralAccount _ _ named :=
    createToken_serves .collateralAccount named trivial (by simp) _ _
  initLoanAccount _ _ named := createToken_serves .loanAccount named trivial (by simp) _ _

/-! ## A small ledger

One vault named `v`, two users with ten thousand units of USDC each, and a deep reserve. -/

inductive Place where
  | admin | early | late
  | earlyUsdc | lateUsdc | earlyShares | lateShares
  | vault | vaultAuthority | redeemableMint | vaultUsdc | usdcMint
  | depositAccount | collateralAccount | loanAccount | jetVault
  | token | jet | system | rent | other
  deriving DecidableEq, Repr

instance : Fintype Place where
  elems := {.admin, .early, .late, .earlyUsdc, .lateUsdc, .earlyShares, .lateShares, .vault,
    .vaultAuthority, .redeemableMint, .vaultUsdc, .usdcMint, .depositAccount, .collateralAccount,
    .loanAccount, .jetVault, .token, .jet, .system, .rent, .other}
  complete place := by cases place <;> decide

def placeName : List UInt8 := [118]

def placeOf (seeds : List (List UInt8)) : Option Place :=
  if seeds = [placeName, [255]] then some .vault
  else if seeds = [vaultAuthoritySeed, placeName, [255]] then some .vaultAuthority
  else if seeds = [redeemableMintSeed, placeName, [255]] then some .redeemableMint
  else if seeds = [vaultUsdcSeed, placeName, [255]] then some .vaultUsdc
  else if seeds = [userRedeemableSeed, placeName, [1], [255]] then some .earlyShares
  else if seeds = [userRedeemableSeed, placeName, [2], [255]] then some .lateShares
  else none

def placeRuntime : DepositRuntime Place where
  createProgramAddress := placeOf
  toBytes
    | .early => [1]
    | .late => [2]
    | _ => [0]
  tokenProgram := .token
  invoke := fun _ _ => .ok
  systemProgram := .system
  rent := .rent
  defaultKey := .other
  system := fun _ _ => .ok ()
  invokeInit := fun _ _ => .ok
  invokeDeposit := fun _ _ => .ok

def placeAccount : Slot Place → Place
  | .vaultUsdc => .vaultUsdc
  | .depositAccount => .depositAccount
  | .collateralAccount => .collateralAccount
  | .loanAccount => .loanAccount
  | .jetVault => .jetVault
  | .userUsdc .early => .earlyUsdc
  | .userUsdc .late => .lateUsdc
  | .userRedeemable .early => .earlyShares
  | .userRedeemable .late => .lateShares
  | _ => .other

def placeSlot : Place → Option (Slot Place)
  | .vaultUsdc => some .vaultUsdc
  | .depositAccount => some .depositAccount
  | .collateralAccount => some .collateralAccount
  | .loanAccount => some .loanAccount
  | .jetVault => some .jetVault
  | .earlyUsdc => some (.userUsdc .early)
  | .lateUsdc => some (.userUsdc .late)
  | .earlyShares => some (.userRedeemable .early)
  | .lateShares => some (.userRedeemable .late)
  | _ => none

def traders : Finset Place := {.early, .late}

theorem mem_traders {user : Place} (member : user ∈ traders) : user = .early ∨ user = .late := by
  simpa [traders] using member

theorem placeSlot_placeAccount {slot : Slot Place} (within : slot.Within traders) :
    placeSlot (placeAccount slot) = some slot := by
  cases slot with
  | userUsdc user => rcases mem_traders within with rfl | rfl <;> rfl
  | userRedeemable user => rcases mem_traders within with rfl | rfl <;> rfl
  | _ => rfl

def placeSite : Site Place where
  users := traders
  vault := .vault
  redeemableMint := .redeemableMint
  jetProgram := .jet
  account := placeAccount
  separate slot slot' within within' same := by
    have back := placeSlot_placeAccount within
    rw [same, placeSlot_placeAccount within'] at back
    exact (Option.some.inj back).symm

/-- The programs of the small ledger. -/
def placeHost : DepositRuntime Place :=
  placeSite.hosting placeRuntime

def placeLedger : Ledger Place
  | .usdcMint => some (.mint ⟨1020000⟩)
  | .earlyUsdc => some (.token ⟨.usdcMint, .early, 10000⟩)
  | .lateUsdc => some (.token ⟨.usdcMint, .late, 10000⟩)
  | .jetVault => some (.token ⟨.usdcMint, .jet, 1000000⟩)
  | _ => none

/-- An account that is written, and does not sign. -/
def writable (key : Place) : AccountMeta Place :=
  ⟨key, false, true⟩

/-- A user or an admin, who signs. -/
def signer (key : Place) : AccountMeta Place :=
  ⟨key, true, true⟩

def placeCreation : Creation Place where
  clock := 5
  accounts :=
    { vaultAdmin := signer .admin, vault := writable .vault
      vaultAuthority := writable .vaultAuthority, redeemableMint := writable .redeemableMint
      vaultUsdc := writable .vaultUsdc, usdcMint := writable .usdcMint, market := writable .other
      obligation := writable .other, depositAccount := writable .depositAccount
      collateralAccount := writable .collateralAccount, loanAccount := writable .loanAccount
      depositNoteMint := writable .other, loanNoteMint := writable .other
      reserve := writable .other, marketAuthority := writable .other
      systemProgram := writable .system, tokenProgram := writable .token
      jetProgram := writable .jet, rent := writable .rent }
  vaultName := placeName
  vaultLamports := 0
  bumps := ⟨255, 255, 255, 255, 255, 255, 255, 255, 255⟩
  epochTimes := ⟨10, 20, 30, 40, 50, 60, 50⟩
  userUsdc
    | .early => 10000
    | .late => 10000
    | _ => 0
  jetVault := 1000000

def placeBorn : Ledger Place :=
  ((placeCreation.onLedger placeHost.toInitRuntime placeLedger).toOption).getD placeLedger

theorem placeBooks :
    placeSite.Books placeLedger (unfunded placeHost.defaultVault placeCreation.userUsdc
      placeCreation.jetVault) where
  balances slot within := by
    cases slot with
    | userUsdc user => rcases mem_traders within with rfl | rfl <;> rfl
    | userRedeemable user => rcases mem_traders within with rfl | rfl <;> rfl
    | _ => rfl
  opened user member := by
    rcases mem_traders member with rfl | rfl <;>
      simp [unfunded, Ledger.Open, placeLedger, placeSite, placeAccount]
  others slot outside := by
    cases slot with
    | userUsdc user =>
      cases user with
      | early => exact absurd (by decide : Place.early ∈ traders) outside
      | late => exact absurd (by decide : Place.late ∈ traders) outside
      | _ => rfl
    | userRedeemable user => rfl
    | _ => exact absurd trivial outside

theorem placeBorn_vault : placeBorn .vault = some (.vault
    { vaultName := ⟨(placeName ++ List.replicate 19 0x20).toArray, by decide⟩
      bumps := placeCreation.bumps, vaultAdmin := .admin, usdcMint := .usdcMint
      redeemableMint := .redeemableMint, vaultUsdc := .vaultUsdc
      epochTimes := placeCreation.epochTimes }) := by
  decide +kernel

theorem placeCreation_at : placeCreation.At placeSite placeHost placeLedger placeBorn where
  books := ⟨_, placeBooks⟩
  follows := ⟨rfl, rfl, rfl, rfl, rfl, rfl, rfl⟩
  returned := eq_ok_getD (by decide +kernel) placeLedger
  derived := by
    intro vault found
    rw [show placeSite.vault = Place.vault from rfl, placeBorn_vault] at found
    cases found
    have name : ∀ name, strip (placeName ++ List.replicate 19 0x20) = .ok name →
        name = placeName := by
      intro name stripped
      have : strip (placeName ++ List.replicate 19 0x20) = (.ok placeName : Except Failure _) :=
        eq_ok_of_toOption (by decide +kernel)
      exact (Except.ok.inj (this.symm.trans stripped)).symm
    constructor
    · intro found stripped
      cases name _ stripped
      decide +kernel
    · intro found stripped
      cases name _ stripped
      decide +kernel
    · intro found stripped user member
      cases name _ stripped
      refine ⟨255, ?_⟩
      rcases mem_traders member with rfl | rfl <;> decide +kernel

/-! ## A run on the small ledger -/

def placeOpening : InitUserRedeemableTokenAccount Place where
  userAuthority := signer .early
  userRedeemable := writable .earlyShares
  vault := writable .vault
  vaultAuthority := writable .vaultAuthority
  redeemableMint := writable .redeemableMint
  systemProgram := writable .system
  tokenProgram := writable .token
  rent := writable .rent

def placeDeposit : DepositVault Place where
  userAuthority := signer .early
  userUsdc := writable .earlyUsdc
  userRedeemable := writable .earlyShares
  vault := writable .vault
  vaultAuthority := writable .vaultAuthority
  usdcMint := writable .usdcMint
  redeemableMint := writable .redeemableMint
  vaultUsdc := writable .vaultUsdc
  collateralAccount := writable .collateralAccount
  loanAccount := writable .loanAccount
  market := writable .other
  feeNoteVault := writable .other
  pythPriceOracle := writable .other
  reserve := writable .other
  marketAuthority := writable .other
  jetVault := writable .jetVault
  depositAccount := writable .depositAccount
  depositNoteMint := writable .other
  loanNoteMint := writable .other
  obligation := writable .other
  tokenProgram := writable .token
  jetProgram := writable .jet

def placeWithdrawal : WithdrawVault Place where
  userAuthority := signer .early
  userUsdc := writable .earlyUsdc
  userRedeemable := writable .earlyShares
  vault := writable .vault
  vaultAuthority := writable .vaultAuthority
  usdcMint := writable .usdcMint
  redeemableMint := writable .redeemableMint
  vaultUsdc := writable .vaultUsdc
  collateralAccount := writable .collateralAccount
  loanAccount := writable .loanAccount
  depositAccount := writable .depositAccount
  market := writable .other
  reserve := writable .other
  marketAuthority := writable .other
  jetVault := writable .jetVault
  loanNoteMint := writable .other
  obligation := writable .other
  feeNoteVault := writable .other
  pythPriceOracle := writable .other
  depositNoteMint := writable .other
  tokenProgram := writable .token
  jetProgram := writable .jet

theorem placeDeposit_follows : placeDeposit.Follows placeSite :=
  ⟨show Place.early ∈ traders by decide, rfl, rfl, rfl, rfl, rfl, rfl, rfl, rfl⟩

theorem placeWithdrawal_follows : placeWithdrawal.Follows placeSite :=
  ⟨show Place.early ∈ traders by decide, rfl, rfl, rfl, rfl, rfl, rfl, rfl, rfl⟩

/-- An opening, a deposit of a hundred and a donation of forty. -/
def placeRun : List (Int64 × Instruction Place) :=
  [(15, .initializeUserRedeemableTokenAccount placeOpening),
    (15, .depositVault placeDeposit ⟨255, 255, 255, 255, 255⟩ 100),
    (15, .transfer .lateUsdc .vaultUsdc .late 40)]

def placeAfter : Ledger Place :=
  attemptAll (execute placeHost) placeRun placeBorn

/-- Every transaction of the run follows the site, and its deposit is small. -/
theorem placeAfter_trace :
    Trace (execute placeHost)
      (Following placeSite fun tx => tx.call.usdcAmount.toNat * 90 < 2 ^ 64)
      placeRun placeBorn placeAfter := by
  refine attemptAll_trace ⟨⟨⟨⟨rfl, show Place.early ∈ traders by decide⟩, ?_⟩, by decide +kernel⟩,
    ⟨⟨placeDeposit_follows, ?_⟩, by decide +kernel⟩,
    ⟨⟨Or.inl ⟨_, .late, show Place.late ∈ traders by decide, rfl, rfl, rfl⟩, ?_⟩,
      by decide +kernel⟩, trivial⟩
  · rintro _ rfl
    decide
  · rintro _ rfl
    decide
  · rintro _ ⟨_, _, _, _, rfl⟩
    exact Nat.zero_lt_succ _

theorem placeAfter_reached :
    Reaches (execute placeHost)
      (Following placeSite fun tx => tx.call.usdcAmount.toNat * 90 < 2 ^ 64)
      placeBorn placeAfter :=
  placeAfter_trace.reaches

example : placeAfter.amount .earlyShares = 100 ∧ placeAfter.amount .vaultUsdc = 100 := by
  decide +kernel

end JetVault.Accounts
