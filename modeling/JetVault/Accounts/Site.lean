import JetVault.Accounts.Handlers
import JetVault.Vault.Moves
import Mathlib.Data.Finset.Basic

/-!
# One vault on a ledger

Where the accounts of one vault and of all its users are, and when a ledger represents a pool:
every balance the pool counts is the balance of its account. The token program's instructions on
these accounts are the pool's own moves.
-/
namespace JetVault.Accounts

open Fallible FixedWidth

variable {Key : Type}

/-- The token accounts whose balances a pool counts. -/
inductive Slot (Key : Type) where
  | vaultUsdc
  | depositAccount
  | collateralAccount
  | loanAccount
  | jetVault
  | userUsdc (user : Key)
  | userRedeemable (user : Key)
  deriving DecidableEq, Repr

/-- An account of the vault, or of one of the users. -/
def Slot.Within (users : Finset Key) : Slot Key → Prop
  | .userUsdc user => user ∈ users
  | .userRedeemable user => user ∈ users
  | _ => True

/-- The accounts of one vault and its users, which are different accounts. -/
structure Site (Key : Type) where
  users : Finset Key
  vault : Key
  redeemableMint : Key
  jetProgram : Key
  account : Slot Key → Key
  separate : ∀ slot slot' : Slot Key, slot.Within users → slot'.Within users →
    account slot = account slot' → slot = slot'

namespace Slot

/-- An absent redeemable account holds nothing. -/
def balance (s : Pool Key) : Slot Key → UInt64
  | .vaultUsdc => s.vaultUsdc
  | .depositAccount => s.depositAccount
  | .collateralAccount => s.collateralAccount
  | .loanAccount => s.loanAccount
  | .jetVault => s.jetVault
  | .userUsdc user => s.userUsdc user
  | .userRedeemable user => s.shares user

variable [DecidableEq Key]

def write (amount : UInt64) (s : Pool Key) : Slot Key → Pool Key
  | .vaultUsdc => { s with vaultUsdc := amount }
  | .depositAccount => { s with depositAccount := amount }
  | .collateralAccount => { s with collateralAccount := amount }
  | .loanAccount => { s with loanAccount := amount }
  | .jetVault => { s with jetVault := amount }
  | .userUsdc user => { s with userUsdc := Function.update s.userUsdc user amount }
  | .userRedeemable user =>
      { s with userRedeemable := Function.update s.userRedeemable user (some amount) }

theorem balance_write (slot other : Slot Key) (amount : UInt64) (s : Pool Key) :
    other.balance (slot.write amount s) = if other = slot then amount else other.balance s := by
  cases slot with
  | userUsdc user => cases other <;> simp [balance, write, Pool.shares, Function.update_apply]
  | userRedeemable user =>
    cases other with
    | userRedeemable other =>
      by_cases same : other = user <;> simp [balance, write, Pool.shares, same]
    | _ => simp [balance, write]
  | _ => cases other <;> simp [balance, write, Pool.shares]

theorem vault_write (slot : Slot Key) (amount : UInt64) (s : Pool Key) :
    (slot.write amount s).vault = s.vault := by
  cases slot <;> rfl

theorem redeemableSupply_write (slot : Slot Key) (amount : UInt64) (s : Pool Key) :
    (slot.write amount s).redeemableSupply = s.redeemableSupply := by
  cases slot <;> rfl

/-- Writing to a redeemable account opens it. -/
theorem isSome_write (slot : Slot Key) (amount : UInt64) (s : Pool Key) (user : Key) :
    ((slot.write amount s).userRedeemable user).isSome ↔
      slot = .userRedeemable user ∨ (s.userRedeemable user).isSome := by
  cases slot with
  | userRedeemable other =>
    by_cases same : user = other
    · simp [write, same]
    · simp [write, same, Ne.symm same]
  | _ => simp [write]

/-- Writing what is there, where the account need not be opened, changes nothing. -/
theorem write_balance {slot : Slot Key} (notShares : ∀ user, slot ≠ .userRedeemable user)
    (s : Pool Key) : slot.write (slot.balance s) s = s := by
  cases slot with
  | userRedeemable user => exact absurd rfl (notShares user)
  | userUsdc user => simp [write, balance]
  | _ => rfl

/-- Closing an account leaves the other balances. -/
theorem balance_closed {slot : Slot Key} {user : Key} (other : slot ≠ .userRedeemable user)
    (s : Pool Key) :
    slot.balance { s with userRedeemable := Function.update s.userRedeemable user none } =
      slot.balance s := by
  cases slot with
  | userRedeemable holder =>
    have different : holder ≠ user := fun h => other (congrArg Slot.userRedeemable h)
    simp [balance, Pool.shares, different]
  | _ => rfl

end Slot

/-! ## Balances on a ledger -/

namespace Ledger

variable (ledger : Ledger Key)

/-- The account is open. -/
def Open (key : Key) : Prop :=
  ∃ account, ledger key = some (.token account)

variable {ledger}

theorem amount_of_token {key : Key} {account : TokenAccount Key}
    (found : ledger key = some (.token account)) : ledger.amount key = account.amount.toNat := by
  simp only [amount, found]

variable [DecidableEq Key]

theorem amount_set_token (key other : Key) (account : TokenAccount Key) :
    (ledger.set key (some (.token account))).amount other =
      if other = key then account.amount.toNat else ledger.amount other := by
  unfold amount set
  split_ifs <;> rfl

theorem open_set_token (key other : Key) (account : TokenAccount Key) :
    (ledger.set key (some (.token account))).Open other ↔ other = key ∨ ledger.Open other := by
  unfold Open set
  by_cases same : other = key <;> simp [same]

/-- Data that is no token account, where there was none, moves no balance. -/
theorem amount_set_other {key : Key} {data : Option (AccountData Key)} (before : ¬ ledger.Open key)
    (after : ∀ account, data ≠ some (.token account)) (other : Key) :
    (ledger.set key data).amount other = ledger.amount other := by
  by_cases same : other = key
  · subst same
    unfold amount
    rw [set_self]
    split
    next _ account => exact absurd rfl (after account)
    next =>
      split
      next account found => exact absurd ⟨account, found⟩ before
      next => rfl
  · rw [amount, set_of_ne _ _ same, ← amount]

theorem open_set_other {key : Key} {data : Option (AccountData Key)} (before : ¬ ledger.Open key)
    (after : ∀ account, data ≠ some (.token account)) (other : Key) :
    (ledger.set key data).Open other ↔ ledger.Open other := by
  by_cases same : other = key
  · subst same
    simp only [before, iff_false]
    rintro ⟨account, found⟩
    exact after account (by rw [← found, set_self])
  · rw [Open, set_of_ne _ _ same, ← Open]

end Ledger

/-! ## Representation -/

/-- Every balance of the pool is the balance of its account, and the open redeemable accounts are
open. Nobody but the users of the site holds anything. -/
structure Site.Books (site : Site Key) (ledger : Ledger Key) (s : Pool Key) : Prop where
  balances : ∀ slot : Slot Key, slot.Within site.users →
    ledger.amount (site.account slot) = (slot.balance s).toNat
  opened : ∀ user ∈ site.users,
    (s.userRedeemable user).isSome ↔ ledger.Open (site.account (.userRedeemable user))
  others : ∀ slot : Slot Key, ¬ slot.Within site.users → slot.balance s = 0

structure Site.Represents (site : Site Key) (ledger : Ledger Key) (s : Pool Key) : Prop
    extends site.Books ledger s where
  vault : ledger site.vault = some (.vault s.vault)
  redeemableMint : ledger site.redeemableMint = some (.mint ⟨s.redeemableSupply⟩)

variable {site : Site Key} {ledger ledger' : Ledger Key} {s : Pool Key}

/-- The balance of a token account is the pool's. -/
theorem Site.Books.balance_eq (books : site.Books ledger s) (slot : Slot Key)
    (within : slot.Within site.users) {account : TokenAccount Key}
    (found : ledger (site.account slot) = some (.token account)) :
    account.amount = slot.balance s := by
  rw [← UInt64.toNat_inj, ← books.balances slot within, Ledger.amount_of_token found]

/-- A new balance in one account. -/
theorem Site.Books.write [DecidableEq Key] (books : site.Books ledger s) (slot : Slot Key)
    (within : slot.Within site.users) (account : TokenAccount Key) :
    site.Books (ledger.set (site.account slot) (some (.token account)))
      (slot.write account.amount s) where
  balances other inside := by
    rw [Ledger.amount_set_token, Slot.balance_write, books.balances other inside]
    -- The accounts of a site are distinct, so that no other slot sees the write.
    by_cases same : other = slot
    · rw [if_pos same, if_pos (congrArg site.account same)]
    · rw [if_neg same, if_neg fun h => same (site.separate _ _ inside within h)]
  opened user member := by
    rw [Slot.isSome_write, Ledger.open_set_token, books.opened user member]
    have : site.account (.userRedeemable user) = site.account slot ↔ slot = .userRedeemable user :=
      ⟨fun h => (site.separate (.userRedeemable user) _ member within h).symm,
        fun h => congrArg site.account h.symm⟩
    rw [this]
  others other outside := by
    rw [Slot.balance_write, if_neg, books.others other outside]
    rintro rfl
    exact outside within

/-- Data that is no token account, where there was none. -/
theorem Site.Books.set_other [DecidableEq Key] (books : site.Books ledger s) {key : Key}
    {data : Option (AccountData Key)} (before : ¬ ledger.Open key)
    (after : ∀ account, data ≠ some (.token account)) : site.Books (ledger.set key data) s where
  balances slot within :=
    (Ledger.amount_set_other before after _).trans (books.balances slot within)
  opened user member :=
    (books.opened user member).trans (Ledger.open_set_other before after _).symm
  others := books.others

/-- Only the balances count. -/
theorem Site.Books.congr {s' : Pool Key} (books : site.Books ledger s)
    (balances : ∀ slot, Slot.balance s' slot = Slot.balance s slot)
    (opened : s'.userRedeemable = s.userRedeemable) : site.Books ledger s' where
  balances slot within := by rw [balances, books.balances slot within]
  opened user member := by rw [opened, books.opened user member]
  others slot outside := by rw [balances, books.others slot outside]

namespace Site.Represents

theorem vault_eq (represents : site.Represents ledger s) {vault : Vault Key}
    (found : ledger site.vault = some (.vault vault)) : vault = s.vault := by
  rw [represents.vault] at found
  exact (AccountData.vault.inj (Option.some.inj found)).symm

theorem supply_eq (represents : site.Represents ledger s) {mint : Mint}
    (found : ledger site.redeemableMint = some (.mint mint)) :
    mint.supply = s.redeemableSupply := by
  rw [represents.redeemableMint] at found
  rw [← AccountData.mint.inj (Option.some.inj found)]

theorem ne_vault (represents : site.Represents ledger s) {key : Key} {account : TokenAccount Key}
    (found : ledger key = some (.token account)) : site.vault ≠ key :=
  ne_of_data represents.vault found (by simp)

theorem ne_mint (represents : site.Represents ledger s) {key : Key} {account : TokenAccount Key}
    (found : ledger key = some (.token account)) : site.redeemableMint ≠ key :=
  ne_of_data represents.redeemableMint found (by simp)

variable [DecidableEq Key]

/-- A new balance, in an account that is neither the vault nor its mint. -/
theorem write (represents : site.Represents ledger s) (slot : Slot Key)
    (within : slot.Within site.users) (account : TokenAccount Key)
    (notVault : site.vault ≠ site.account slot)
    (notMint : site.redeemableMint ≠ site.account slot) :
    site.Represents (ledger.set (site.account slot) (some (.token account)))
      (slot.write account.amount s) where
  toBooks := represents.toBooks.write slot within account
  vault := by
    rw [Ledger.set_of_ne _ _ notVault, represents.vault, Slot.vault_write]
  redeemableMint := by
    rw [Ledger.set_of_ne _ _ notMint, represents.redeemableMint, Slot.redeemableSupply_write]

/-- A new balance in a token account. -/
theorem write_token (represents : site.Represents ledger s) {slot : Slot Key}
    (within : slot.Within site.users) {account : TokenAccount Key}
    (found : ledger (site.account slot) = some (.token account)) (amount : UInt64) :
    site.Represents
      (ledger.set (site.account slot) (some (.token { account with amount := amount })))
      (slot.write amount s) :=
  represents.write slot within { account with amount := amount } (represents.ne_vault found)
    (represents.ne_mint found)

theorem write_supply (represents : site.Represents ledger s) (supply : UInt64) :
    site.Represents (ledger.set site.redeemableMint (some (.mint ⟨supply⟩)))
      { s with redeemableSupply := supply } where
  toBooks := by
    have same : site.Books ledger { s with redeemableSupply := supply } := by
      refine represents.toBooks.congr ?_ rfl
      intro slot
      cases slot <;> rfl
    exact same.set_other (by simp [Ledger.Open, represents.redeemableMint]) (by simp)
  vault := by
    rw [Ledger.set_of_ne _ _ (ne_of_data represents.vault represents.redeemableMint (by simp)),
      represents.vault]
  redeemableMint := Ledger.set_self ..

theorem write_vault (represents : site.Represents ledger s) (vault : Vault Key) :
    site.Represents (ledger.set site.vault (some (.vault vault))) { s with vault := vault } where
  toBooks := by
    have same : site.Books ledger { s with vault := vault } := by
      refine represents.toBooks.congr ?_ rfl
      intro slot
      cases slot <;> rfl
    exact same.set_other (by simp [Ledger.Open, represents.vault]) (by simp)
  vault := Ledger.set_self ..
  redeemableMint := by
    rw [Ledger.set_of_ne _ _ (ne_of_data represents.redeemableMint represents.vault (by simp)),
      represents.redeemableMint]

end Site.Represents

end JetVault.Accounts
