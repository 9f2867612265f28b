import JetVault.Zeta.State

/-!
# The platform's constants

The decimals of prices, the layout of the products, the margin percentages that the exchange
declares for itself, in parts of `nativePrecisionDenominator`, and the margin parameters filled
from them.
-/
namespace JetVault.Zeta

def platformPrecision : UInt32 := 6
def pricingPrecision : ℕ := 12

def numStrikes : ℕ := 11
/-- A call and a put for each strike, and the future. -/
def numProductsPerSeries : ℕ := numStrikes * 2 + 1

/-! ## Futures -/

def futureMarginInitial : ℕ := 15000000
def futureMarginMaintenance : ℕ := 7500000

/-! ## Options, initial -/

def optionMarkPctLongInitial : ℕ := 100000000
def optionSpotPctLongInitial : ℕ := 15000000
def optionSpotPctShortInitial : ℕ := 10000000
def optionBasePctShortInitial : ℕ := 25000000

/-! ## Options, maintenance -/

def optionMarkPctLongMaintenance : ℕ := 100000000
def optionSpotPctLongMaintenance : ℕ := 7500000
def optionSpotPctShortMaintenance : ℕ := 12500000
def optionBasePctShortMaintenance : ℕ := 5000000

/-- The base percentage is the dynamic one; there is no constant for the cap of short puts. -/
def platformParameters (optionShortPutCapPercentage : UInt64) : MarginParameters where
  futureMarginInitial := .ofNat futureMarginInitial
  futureMarginMaintenance := .ofNat futureMarginMaintenance
  optionMarkPercentageLongInitial := .ofNat optionMarkPctLongInitial
  optionSpotPercentageLongInitial := .ofNat optionSpotPctLongInitial
  optionSpotPercentageShortInitial := .ofNat optionSpotPctShortInitial
  optionDynamicPercentageShortInitial := .ofNat optionBasePctShortInitial
  optionMarkPercentageLongMaintenance := .ofNat optionMarkPctLongMaintenance
  optionSpotPercentageLongMaintenance := .ofNat optionSpotPctLongMaintenance
  optionSpotPercentageShortMaintenance := .ofNat optionSpotPctShortMaintenance
  optionDynamicPercentageShortMaintenance := .ofNat optionBasePctShortMaintenance
  optionShortPutCapPercentage := optionShortPutCapPercentage

end JetVault.Zeta
