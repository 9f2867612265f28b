import JetVault.Library.Scan
import JetVault.Vault.State
import JetVault.Zeta.Constants

/-!
# Instrument selection

The choice of the market on which a vault sells its puts: the expiry closest to one week and the
strike with the closest delta. `unsigned_abs_diff`, `UNIX_WEEK` and the check of the auction phase
are used here and defined nowhere; the difference is taken to be the absolute one, the week is a
parameter, and the check is left out.
-/
namespace JetVault

open Fallible FixedWidth Scan
open Zeta (ExpirySeries ProductGreeks numStrikes numProductsPerSeries pricingPrecision)

/-- `entries[i]` -/
def entryAt {α : Type} (entries : List α) (i : ℕ) : Except Failure α :=
  match entries[i]? with
  | some entry => .ok entry
  | none => .error .abort

def distance (a b : ℕ) : ℕ :=
  ((a : ℤ) - b).natAbs

def unsignedAbsDiff (a b : UInt64) : ℕ :=
  distance a.toNat b.toNat

/-- `Greeks::get_product_greeks_slice` -/
def getProductGreeksSlice (productGreeks : List ProductGreeks) (expiryIndex : ℕ) :
    Except Failure (List ProductGreeks) :=
  let head := expiryIndex * numStrikes
  if head + numStrikes ≤ productGreeks.length then
    .ok ((productGreeks.drop head).take numStrikes)
  else .error .abort

/-- The market index that is computed. -/
def validateMarket (unixWeek : UInt64) (expirySeries : List ExpirySeries)
    (productGreeks : List ProductGreeks) (delta : UInt8) : Except Failure ℕ := do
  refuseIf (¬ delta ≤ 100) Failure.abort
  -- Delta values are stored at high precision for pricing.
  let nativeDelta ← tryMul Failure.abort delta.toUInt64 (.ofNat (10 ^ pricingPrecision))
  -- Get the expiry closest to 1 week. The difference to beat is never updated.
  let firstExpiry ← entryAt expirySeries 0
  let closestExpiryDiff := unsignedAbsDiff unixWeek firstExpiry.expiryTs
  let closestExpiryIndex := lastBelow closestExpiryDiff
    (expirySeries.map fun t => unsignedAbsDiff unixWeek t.expiryTs)
  -- Get strike closest to specified delta.
  let greeks ← getProductGreeksSlice productGreeks closestExpiryIndex
  let firstGreeks ← entryAt greeks 0
  let closestDeltaDiff := unsignedAbsDiff nativeDelta firstGreeks.delta
  let closestDeltaIndex := lastBelow closestDeltaDiff
    (greeks.map fun g => unsignedAbsDiff nativeDelta g.delta)
  return closestExpiryIndex * numProductsPerSeries + numStrikes + closestDeltaIndex

end JetVault
