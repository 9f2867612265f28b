import JetVault.Vault.State

/-! Access control: the check of the epoch schedule and the deposit window. -/
namespace JetVault

open Fallible FixedWidth

/-- Asserts the vault starts in the future and its times are in order. The cadence is compared
only when the order holds, so the subtraction is evaluated only then. -/
def validateEpochTimes (clock : Int64) (epochTimes : EpochTimes) : Except Failure Unit := do
  refuseIf (epochTimes.startEpoch ≤ clock) (.program .vaultFuture)
  if epochTimes.startEpoch < epochTimes.endDeposits
      ∧ epochTimes.endDeposits < epochTimes.startAuction
      ∧ epochTimes.startAuction < epochTimes.endAuction
      ∧ epochTimes.endAuction < epochTimes.startSettlement
      ∧ epochTimes.startSettlement < epochTimes.endEpoch then
    -- `checked_sub(..).unwrap() as u64`
    let epoch ← trySubInt64 Failure.abort epochTimes.endEpoch epochTimes.startEpoch
    if epochTimes.epochCadence ≥ epoch.toUInt64 then
      return ()
  throw (.program .seqTimes)

variable {Key : Type}

/-- Asserts the vault is still accepting deposits and withdrawals. -/
def depositWithdrawPhase (clock : Int64) (vault : Vault Key) : Except Failure Unit :=
  if clock ≤ vault.epochTimes.startEpoch then
    .error (.program .startEpochTime)
  else if clock > vault.epochTimes.endDeposits then
    .error (.program .endDepositsTime)
  else .ok ()

/-- The clock readings at which deposits and withdrawals are accepted. -/
def InWindow (clock : Int64) (vault : Vault Key) : Prop :=
  vault.epochTimes.startEpoch < clock ∧ clock ≤ vault.epochTimes.endDeposits

instance (clock : Int64) (vault : Vault Key) : Decidable (InWindow clock vault) :=
  inferInstanceAs (Decidable (_ ∧ _))

theorem depositWithdrawPhase_eq_ok (clock : Int64) (vault : Vault Key) (u : Unit) :
    depositWithdrawPhase clock vault = .ok u ↔ InWindow clock vault := by
  simp only [depositWithdrawPhase, InWindow, gt_iff_lt, ← Int64.not_le]
  split
  next early => simp [early]
  next started =>
    split
    next late => simp [late]
    next inside => simp [started, Decidable.not_not.mp inside]

end JetVault
