import JetVault.Library.Fallible
import JetVault.Vault.State

/-!
# Ledger

The accounts an instruction can name, by key, and the token program's instructions on them.
Only the owner of a token account signs for it: delegates and frozen accounts are left out.
-/
namespace JetVault.Accounts

open Fallible FixedWidth

structure TokenAccount (Key : Type) where
  mint : Key
  owner : Key
  amount : UInt64
  deriving DecidableEq, Repr

structure Mint where
  supply : UInt64
  deriving DecidableEq, Repr

/-- An account holds one kind of data. -/
inductive AccountData (Key : Type) where
  | token (account : TokenAccount Key)
  | mint (mint : Mint)
  | vault (vault : Vault Key)
  deriving DecidableEq, Repr

def Ledger (Key : Type) : Type :=
  Key → Option (AccountData Key)

/-- Accounts with different data are different accounts. -/
theorem ne_of_data {Key : Type} {ledger : Ledger Key} {key key' : Key}
    {data data' : AccountData Key} (found : ledger key = some data)
    (found' : ledger key' = some data') (different : data ≠ data') : key ≠ key' := by
  rintro rfl
  exact different (Option.some.inj (found.symm.trans found'))

namespace Ledger

variable {Key : Type}

/-! ## Loading an account

`Account<'info, T>` refuses data of another kind. -/

def tokenAccount (ledger : Ledger Key) (key : Key) : Except Failure (TokenAccount Key) :=
  match ledger key with
  | some (.token account) => .ok account
  | _ => .error .account

def mint (ledger : Ledger Key) (key : Key) : Except Failure Mint :=
  match ledger key with
  | some (.mint mint) => .ok mint
  | _ => .error .account

def vault (ledger : Ledger Key) (key : Key) : Except Failure (Vault Key) :=
  match ledger key with
  | some (.vault vault) => .ok vault
  | _ => .error .account

theorem tokenAccount_eq_ok (ledger : Ledger Key) (key : Key) (account : TokenAccount Key) :
    ledger.tokenAccount key = .ok account ↔ ledger key = some (.token account) := by
  unfold tokenAccount
  split <;> simp_all

theorem mint_eq_ok (ledger : Ledger Key) (key : Key) (mint : Mint) :
    ledger.mint key = .ok mint ↔ ledger key = some (.mint mint) := by
  unfold Ledger.mint
  split <;> simp_all

theorem vault_eq_ok (ledger : Ledger Key) (key : Key) (vault : Vault Key) :
    ledger.vault key = .ok vault ↔ ledger key = some (.vault vault) := by
  unfold Ledger.vault
  split <;> simp_all

/-! ## The token program -/

variable [DecidableEq Key]

def set (ledger : Ledger Key) (key : Key) (data : Option (AccountData Key)) : Ledger Key :=
  fun other => if other = key then data else ledger other

@[simp] theorem set_self (ledger : Ledger Key) (key : Key) (data : Option (AccountData Key)) :
    ledger.set key data key = data :=
  if_pos rfl

@[simp] theorem set_of_ne (ledger : Ledger Key) {key other : Key}
    (data : Option (AccountData Key)) (different : other ≠ key) :
    ledger.set key data other = ledger other :=
  if_neg different

/-- A transfer to the account itself checks everything and moves nothing. -/
def transfer (source destination authority : Key) (amount : UInt64) (ledger : Ledger Key) :
    Except Failure (Ledger Key) := do
  let payer ← ledger.tokenAccount source
  let receiver ← ledger.tokenAccount destination
  -- in the order of `process_transfer`
  let debited ← trySub Failure.token payer.amount amount
  refuseIf (payer.mint ≠ receiver.mint) .token
  refuseIf (payer.owner ≠ authority) .token
  if source = destination then
    return ledger
  let credited ← tryAdd Failure.token receiver.amount amount
  return (ledger.set source (some (.token { payer with amount := debited }))).set destination
    (some (.token { receiver with amount := credited }))

def burn (account mint authority : Key) (amount : UInt64) (ledger : Ledger Key) :
    Except Failure (Ledger Key) := do
  let holder ← ledger.tokenAccount account
  let issued ← ledger.mint mint
  refuseIf (holder.mint ≠ mint) .token
  let left ← trySub Failure.token holder.amount amount
  refuseIf (holder.owner ≠ authority) .token
  let supply ← trySub Failure.token issued.supply amount
  return (ledger.set account (some (.token { holder with amount := left }))).set mint
    (some (.mint { issued with supply := supply }))

def closeAccount (account destination authority : Key) (ledger : Ledger Key) :
    Except Failure (Ledger Key) := do
  refuseIf (account = destination) .token
  let closed ← ledger.tokenAccount account
  refuseIf (closed.amount ≠ 0) .token
  refuseIf (closed.owner ≠ authority) .token
  return ledger.set account none

end Ledger

end JetVault.Accounts
