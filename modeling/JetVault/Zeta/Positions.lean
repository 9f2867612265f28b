import JetVault.Library.Totals
import JetVault.Zeta.Margin

/-!
# Margin accounts

The margin and the unrealized profit of one position, their totals over an account, and the check
that the account's balance covers them. Everything is checked but the totals, which wrap.
-/
namespace JetVault.Zeta

open FixedWidth Totals

namespace Position

variable (position : Position)

/-- The margin of the opening orders on one side. -/
def orderMargin (orders : UInt64) (side : Side) (markPrice strike : UInt64) (product : Product)
    (spot : UInt64) (marginParameters : MarginParameters) : Except Failure Nat :=
  if 0 < orders then do
    let perLot ← unwrap
      (getInitialMarginPerLot spot strike markPrice product.kind side marginParameters)
    tryMul128 Failure.abort orders.toNat perLot.toNat
  else .ok 0

/-- Only opening orders need initial margin, and none where the strike is not set. -/
def getInitialMargin (markPrice : UInt64) (product : Product) (spot : UInt64)
    (marginParameters : MarginParameters) : Except Failure UInt64 :=
  match product.strike.getStrike with
  | .error _ => tryUInt64 .abort 0
  | .ok strike => do
    let longInitMargin ← orderMargin position.openingOrders[0] .bid markPrice strike product spot
      marginParameters
    let shortInitMargin ← orderMargin position.openingOrders[1] .ask markPrice strike product spot
      marginParameters
    let margin ← tryAdd128 Failure.abort longInitMargin shortInitMargin
    let initialMarginRequirement ← tryDiv128 Failure.abort margin positionPrecisionDenominator
    tryUInt64 Failure.abort initialMarginRequirement

/-- `self.position.abs() as u128`: the absolute value wraps, and the cast extends its sign. -/
def size : Nat :=
  (position.position.abs.toInt % 2 ^ 128).toNat

def getMaintenanceMargin (markPrice : UInt64) (product : Product) (spot : UInt64)
    (marginParameters : MarginParameters) : Except Failure UInt64 :=
  match product.strike.getStrike with
  | .error _ => tryUInt64 .abort 0
  | .ok strike =>
    if position.position ≠ 0 then do
      let perLot ← unwrap (getMaintenanceMarginPerLot spot strike markPrice product.kind
        (0 ≤ position.position) marginParameters)
      let margin ← tryMul128 Failure.abort position.size perLot.toNat
      let maintenanceMarginRequirement ← tryDiv128 Failure.abort margin
        positionPrecisionDenominator
      tryUInt64 Failure.abort maintenanceMarginRequirement
    else tryUInt64 .abort 0

/-- The value of the position at the mark price, rounded towards zero, less its cost. -/
def getUnrealizedPnl (markPrice : UInt64) : Except Failure Int64 :=
  if position.position = 0 then .ok 0
  else do
    let product ← tryInt128 Failure.abort (position.position.toInt * markPrice.toNat)
    let value ← tryInt128 Failure.abort (product.tdiv positionPrecisionDenominator)
    -- A long has paid the cost of its trades, a short has received it.
    if 0 < position.position then
      let pnl ← tryInt128 Failure.abort (value - position.costOfTrades.toNat)
      tryInt64 Failure.abort pnl
    else
      let pnl ← tryInt128 Failure.abort (value + position.costOfTrades.toNat)
      tryInt64 Failure.abort pnl

end Position

namespace MarginAccount

variable (account : MarginAccount) (greeks : Greeks) (zetaGroup : ZetaGroup)

def getInitialMargin (spot : UInt64) : Except Failure UInt64 :=
  total (fun i : Fin 46 => (account.positions.get i).getInitialMargin (greeks.markPrices.get i)
    (zetaGroup.products.get i) spot zetaGroup.marginParameters) (List.finRange 46)

def getMaintenanceMargin (spot : UInt64) : Except Failure UInt64 :=
  total (fun i : Fin 46 => (account.positions.get i).getMaintenanceMargin (greeks.markPrices.get i)
    (zetaGroup.products.get i) spot zetaGroup.marginParameters) (List.finRange 46)

def getMarginRequirement (spot : UInt64) : Except Failure UInt64 := do
  let initial ← account.getInitialMargin greeks zetaGroup spot
  let maintenance ← account.getMaintenanceMargin greeks zetaGroup spot
  tryAdd Failure.abort initial maintenance

def getUnrealizedPnl : Except Failure Int64 :=
  total (fun i : Fin 46 => (account.positions.get i).getUnrealizedPnl (greeks.markPrices.get i))
    (List.finRange 46)

def checkMarginRequirement (nativeSpot : UInt64) : Except Failure Bool := do
  let pnl ← account.getUnrealizedPnl greeks
  -- Both margins together have to be covered.
  let requirement ← account.getMarginRequirement greeks zetaGroup nativeSpot
  let marginRequirement ← tryInt64 Failure.abort requirement.toNat
  let balance ← tryInt64 Failure.abort account.balance.toNat
  let covered ← tryAddInt64 Failure.abort balance pnl
  let buffer ← trySubInt64 Failure.abort covered marginRequirement
  return 0 < buffer

end MarginAccount

end JetVault.Zeta
