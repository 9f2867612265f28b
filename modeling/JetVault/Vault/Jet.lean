import JetVault.Vault.State

/-!
# Jet

The lending program is not part of this repository. A `Jet` is any behaviour of the calls the
vault makes to it; `Jet.ideal` is the one in which a note is worth one unit of USDC and a call
moves exactly the named amount.
-/
namespace JetVault

open FixedWidth

/-- A behaviour of the Jet calls, on the balances they can move. -/
structure Jet where
  initObligation : Balances → Except Failure Balances
  initDepositAccount : Balances → Except Failure Balances
  initCollateralAccount : Balances → Except Failure Balances
  initLoanAccount : Balances → Except Failure Balances
  refreshReserve : Balances → Except Failure Balances
  deposit : UInt64 → Balances → Except Failure Balances
  depositCollateral : UInt64 → Balances → Except Failure Balances
  borrow : UInt64 → Balances → Except Failure Balances
  repay : UInt64 → Balances → Except Failure Balances
  withdrawCollateral : UInt64 → Balances → Except Failure Balances

namespace Jet.Ideal

/-- USDC goes to the reserve, new notes to the deposit account. The supply of deposit notes
is a `u64` that counts the notes posted as collateral too. -/
def deposit (tokens : UInt64) (b : Balances) : Except Failure Balances := do
  let source ← trySub .jet b.vaultUsdc tokens
  let reserve ← tryAdd .jet b.jetVault tokens
  let notes ← tryAdd .jet b.depositAccount tokens
  -- the supply of the note mint
  let _ ← tryAdd .jet notes b.collateralAccount
  return { b with vaultUsdc := source, jetVault := reserve, depositAccount := notes }

def depositCollateral (tokens : UInt64) (b : Balances) : Except Failure Balances := do
  let notes ← trySub .jet b.depositAccount tokens
  let collateral ← tryAdd .jet b.collateralAccount tokens
  return { b with depositAccount := notes, collateralAccount := collateral }

def borrow (tokens : UInt64) (b : Balances) : Except Failure Balances := do
  let reserve ← trySub .jet b.jetVault tokens
  let receiver ← tryAdd .jet b.vaultUsdc tokens
  let loan ← tryAdd .jet b.loanAccount tokens
  return { b with jetVault := reserve, vaultUsdc := receiver, loanAccount := loan }

def repay (tokens : UInt64) (b : Balances) : Except Failure Balances := do
  let payer ← trySub .jet b.vaultUsdc tokens
  let reserve ← tryAdd .jet b.jetVault tokens
  let loan ← trySub .jet b.loanAccount tokens
  return { b with vaultUsdc := payer, jetVault := reserve, loanAccount := loan }

def withdrawCollateral (tokens : UInt64) (b : Balances) : Except Failure Balances := do
  let collateral ← trySub .jet b.collateralAccount tokens
  let notes ← tryAdd .jet b.depositAccount tokens
  return { b with collateralAccount := collateral, depositAccount := notes }

end Jet.Ideal

/-- One note is one unit of USDC, a call moves exactly the named amount, and it fails exactly
when its source is short (or the destination cannot hold the sum). -/
def Jet.ideal : Jet where
  initObligation := .ok
  initDepositAccount := .ok
  initCollateralAccount := .ok
  initLoanAccount := .ok
  refreshReserve := .ok
  deposit := Jet.Ideal.deposit
  depositCollateral := Jet.Ideal.depositCollateral
  borrow := Jet.Ideal.borrow
  repay := Jet.Ideal.repay
  withdrawCollateral := Jet.Ideal.withdrawCollateral

/-- A Jet call made by a handler: it reaches the vault's balances and nothing else. -/
def Pool.invoke {Key : Type} (call : Balances → Except Failure Balances) (s : Pool Key) :
    Except Failure (Pool Key) := do
  let b ← call s.toBalances
  return { s with toBalances := b }

end JetVault
