import JetVault.Vault.State
import Mathlib.Logic.Function.Basic

/-!
# Token program

The moves of `token::transfer`, `mint_to`, `burn` and `close_account` on the accounts of one
vault. Every amount is a `u64`, and the token program refuses an overflow as well as a
missing balance.
-/
namespace JetVault

open FixedWidth

variable {Key : Type} [DecidableEq Key]

/-- `transfer` from the user's USDC account to `vault_usdc`. -/
def Pool.transferToVault (user : Key) (amount : UInt64) (s : Pool Key) :
    Except Failure (Pool Key) := do
  let source ← trySub .token (s.userUsdc user) amount
  let destination ← tryAdd .token s.vaultUsdc amount
  return { s with vaultUsdc := destination, userUsdc := Function.update s.userUsdc user source }

/-- `transfer` from `vault_usdc` to the user's USDC account. -/
def Pool.transferToUser (user : Key) (amount : UInt64) (s : Pool Key) :
    Except Failure (Pool Key) := do
  let source ← trySub .token s.vaultUsdc amount
  let destination ← tryAdd .token (s.userUsdc user) amount
  return { s with vaultUsdc := source, userUsdc := Function.update s.userUsdc user destination }

/-- `mint_to` the user's redeemable account, signed for by the vault authority. -/
def Pool.mintTo (user : Key) (amount : UInt64) (s : Pool Key) : Except Failure (Pool Key) := do
  let destination ← tryAdd .token (s.shares user) amount
  let supply ← tryAdd .token s.redeemableSupply amount
  return { s with
    redeemableSupply := supply
    userRedeemable := Function.update s.userRedeemable user (some destination) }

/-- `burn` from the user's redeemable account. -/
def Pool.burn (user : Key) (amount : UInt64) (s : Pool Key) : Except Failure (Pool Key) := do
  let source ← trySub .token (s.shares user) amount
  let supply ← trySub .token s.redeemableSupply amount
  return { s with
    redeemableSupply := supply
    userRedeemable := Function.update s.userRedeemable user (some source) }

/-- The last lines of `withdraw_vault`: reload the redeemable account, close it when empty. -/
def Pool.closeIfEmpty (user : Key) (s : Pool Key) : Pool Key :=
  if s.shares user = 0 then
    { s with userRedeemable := Function.update s.userRedeemable user none }
  else s

end JetVault
