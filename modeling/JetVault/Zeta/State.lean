import Mathlib.Data.UInt

/-!
# Zeta accounts

What the margin calculation reads of the accounts of the derivatives exchange: the positions of a
trader, the mark prices, the products and the margin percentages. Prices are in units of `10⁻⁶`,
positions in units of `10⁻³` lots.
-/
namespace JetVault.Zeta

inductive ErrorCode where
  | unsupportedKind
  | productStrikeUninitialized
  deriving DecidableEq, Repr

inductive Failure where
  /-- the program's own error, an `Err` -/
  | program (code : ErrorCode)
  /-- a panic: `unwrap` of `None` or of an `Err`, `unreachable!` -/
  | abort
  deriving DecidableEq, Repr

/-- `Result::unwrap` -/
def unwrap {α : Type} (result : Except Failure α) : Except Failure α :=
  result.mapError fun _ => .abort

inductive Kind where
  | uninitialized
  | call
  | put
  | future
  deriving DecidableEq, Repr

inductive Side where
  | uninitialized
  | bid
  | ask
  deriving DecidableEq, Repr

/-- Stands for an `Option<u64>`. -/
structure Strike where
  isSet : Bool
  value : UInt64
  deriving DecidableEq, Repr

def Strike.getStrike (strike : Strike) : Except Failure UInt64 :=
  if strike.isSet then .ok strike.value else .error (.program .productStrikeUninitialized)

structure Product where
  strike : Strike
  kind : Kind
  deriving DecidableEq, Repr

structure MarginParameters where
  futureMarginInitial : UInt64
  futureMarginMaintenance : UInt64
  optionMarkPercentageLongInitial : UInt64
  optionSpotPercentageLongInitial : UInt64
  optionSpotPercentageShortInitial : UInt64
  optionDynamicPercentageShortInitial : UInt64
  optionMarkPercentageLongMaintenance : UInt64
  optionSpotPercentageLongMaintenance : UInt64
  optionSpotPercentageShortMaintenance : UInt64
  optionDynamicPercentageShortMaintenance : UInt64
  optionShortPutCapPercentage : UInt64
  deriving DecidableEq, Repr

/-- `position` is negative for a short; `openingOrders` are the open bids and the open asks. -/
structure Position where
  position : Int64
  costOfTrades : UInt64
  openingOrders : Vector UInt64 2
  deriving DecidableEq, Repr

structure Greeks where
  markPrices : Vector UInt64 46
  deriving DecidableEq, Repr

/-- One expiry of the exchange. -/
structure ExpirySeries where
  expiryTs : UInt64
  deriving DecidableEq, Repr

/-- The greeks of the call and the put at one strike; `delta` has 12 decimals. -/
structure ProductGreeks where
  delta : UInt64
  deriving DecidableEq, Repr

structure ZetaGroup where
  marginParameters : MarginParameters
  products : Vector Product 46
  deriving DecidableEq, Repr

structure MarginAccount where
  balance : UInt64
  positions : Vector Position 46
  deriving DecidableEq, Repr

/-- 100 % -/
def nativePrecisionDenominator : Nat := 100000000

def positionPrecisionDenominator : Nat := 1000

end JetVault.Zeta
