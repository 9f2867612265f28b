import JetVault.Library.FixedWidth
import JetVault.Zeta.State

/-!
# Margin per lot

The margin of one lot of a product, in checked `u128`. Initial and maintenance margin are one
calculation with different percentages.
-/
namespace JetVault.Zeta

open FixedWidth

/-- How far out of the money an option is. -/
def getOtmAmount (spot strike : UInt64) (product : Kind) : Except Failure UInt64 :=
  match product with
  | .call => do
    let difference ← tryInt128 Failure.abort ((strike.toNat : ℤ) - spot.toNat)
    tryUInt64 .abort (max difference 0).toNat
  | .put => do
    let difference ← tryInt128 Failure.abort ((spot.toNat : ℤ) - strike.toNat)
    tryUInt64 .abort (max difference 0).toNat
  | _ => .error (.program .unsupportedKind)

/-- The margin percentages of one of the two calculations. -/
structure Percentages where
  future : UInt64
  markLong : UInt64
  spotLong : UInt64
  spotShort : UInt64
  dynamicShort : UInt64
  shortPutCap : UInt64
  deriving DecidableEq, Repr

def MarginParameters.initial (p : MarginParameters) : Percentages where
  future := p.futureMarginInitial
  markLong := p.optionMarkPercentageLongInitial
  spotLong := p.optionSpotPercentageLongInitial
  spotShort := p.optionSpotPercentageShortInitial
  dynamicShort := p.optionDynamicPercentageShortInitial
  shortPutCap := p.optionShortPutCapPercentage

def MarginParameters.maintenance (p : MarginParameters) : Percentages where
  future := p.futureMarginMaintenance
  markLong := p.optionMarkPercentageLongMaintenance
  spotLong := p.optionSpotPercentageLongMaintenance
  spotShort := p.optionSpotPercentageShortMaintenance
  dynamicShort := p.optionDynamicPercentageShortMaintenance
  shortPutCap := p.optionShortPutCapPercentage

/-- `checked_mul(..).unwrap().checked_div(NATIVE_PRECISION_DENOMINATOR).unwrap()` -/
def percentOf (amount percentage : Nat) : Except Failure Nat := do
  let product ← tryMul128 Failure.abort amount percentage
  tryDiv128 Failure.abort product nativePrecisionDenominator

/-- The margin of a short option falls with the distance out of the money, down to a floor. -/
def shortMargin (spot strike : UInt64) (product : Kind) (p : Percentages) :
    Except Failure Nat := do
  let otmAmount ← getOtmAmount spot strike product
  let scaled ← tryMul128 Failure.abort otmAmount.toNat nativePrecisionDenominator
  let otmPct ← tryDiv128 Failure.abort scaled spot.toNat
  -- `checked_sub(otm_pct).unwrap_or(0)`
  let dynamicMarginPct := p.dynamicShort.toNat - otmPct
  let marginPct := max dynamicMarginPct p.spotShort.toNat
  percentOf marginPct spot.toNat

/-- The margin before the cap. -/
def uncappedMargin (spot strike mark : UInt64) (product : Kind) (side : Side) (p : Percentages) :
    Except Failure Nat :=
  match product with
  | .future => percentOf spot.toNat p.future.toNat
  | .call | .put =>
    match side with
    | .bid => do
      let spotMargin ← percentOf spot.toNat p.spotLong.toNat
      let markMargin ← percentOf mark.toNat p.markLong.toNat
      return min spotMargin markMargin
    | .ask => shortMargin spot strike product p
    -- `unreachable!()`; a future does not look at the side at all
    | .uninitialized => .error .abort
  | .uninitialized => .error (.program .unsupportedKind)

def marginPerLot (spot strike mark : UInt64) (product : Kind) (side : Side) (p : Percentages) :
    Except Failure UInt64 := do
  let margin ← uncappedMargin spot strike mark product side p
  -- A short put is capped by a share of its strike.
  if product = .put ∧ side = .ask then
    let sellPutCapMargin ← percentOf strike.toNat p.shortPutCap.toNat
    tryUInt64 Failure.abort (min margin sellPutCapMargin)
  else
    tryUInt64 Failure.abort margin

/-- Initial margin for a single product. -/
def getInitialMarginPerLot (spot strike mark : UInt64) (product : Kind) (side : Side)
    (marginParameters : MarginParameters) : Except Failure UInt64 :=
  marginPerLot spot strike mark product side marginParameters.initial

/-- Maintenance margin for a single product. -/
def getMaintenanceMarginPerLot (spot strike mark : UInt64) (product : Kind) (long : Bool)
    (marginParameters : MarginParameters) : Except Failure UInt64 :=
  marginPerLot spot strike mark product (if long then .bid else .ask) marginParameters.maintenance

end JetVault.Zeta
