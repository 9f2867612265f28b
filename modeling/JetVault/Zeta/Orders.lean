import JetVault.Zeta.Positions

/-!
# Open orders

A position with all its orders: those that would open it further, a side each, and those that
would close it. The margin calculation reads the opening orders only.
-/
namespace JetVault.Zeta

/-- A position with the orders that would close it. -/
structure TradedPosition extends Position where
  closingOrders : UInt64
  deriving DecidableEq, Repr

structure TradingAccount where
  balance : UInt64
  positions : Vector TradedPosition 46
  deriving DecidableEq, Repr

/-- What the margin calculation reads. -/
def TradingAccount.toMarginAccount (account : TradingAccount) : MarginAccount where
  balance := account.balance
  positions := account.positions.map fun position => position.toPosition

def TradedPosition.hasActiveOrders (position : TradedPosition) : Bool :=
  position.openingOrders.get 0 ≠ 0 ∨ position.openingOrders.get 1 ≠ 0 ∨ position.closingOrders ≠ 0

def TradingAccount.hasActiveOrders (account : TradingAccount) : Bool :=
  match account.positions.toList.find? fun position => position.hasActiveOrders with
  | some _ => true
  | none => false

theorem TradedPosition.hasActiveOrders_eq_false {position : TradedPosition} :
    position.hasActiveOrders = false ↔
      position.openingOrders.get 0 = 0 ∧ position.openingOrders.get 1 = 0 ∧
        position.closingOrders = 0 := by
  simp [hasActiveOrders]

theorem TradingAccount.hasActiveOrders_eq_false {account : TradingAccount} :
    account.hasActiveOrders = false ↔
      ∀ position ∈ account.positions.toList, position.hasActiveOrders = false := by
  unfold hasActiveOrders
  split
  next position found =>
    have active := List.find?_some found
    have member := List.mem_of_find?_eq_some found
    exact iff_of_false nofun fun idle => by rw [idle position member] at active; cases active
  next none =>
    have idle := List.find?_eq_none.mp none
    exact iff_of_true rfl fun position member => by simpa using idle position member

end JetVault.Zeta
