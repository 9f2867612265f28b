import JetVault.Library.BinarySearch
import JetVault.Library.Fallible
import JetVault.Library.FixedWidth
import JetVault.Zeta.Constants
import Mathlib.Order.Lattice

/-!
# Markets of a group

The products of the exchange, one array for all expiries: the calls and the puts of an expiry by
strike, then its future. This module finds a product by the key of its market, and the expiry and
the slices of the other arrays that belong to it. The margin calculation of the other modules reads
a part of these accounts only.
-/
namespace JetVault.Zeta

open BinarySearch Fallible FixedWidth

/-! ## Accounts -/

inductive MarketErrorCode where
  | productStrikeUninitialized
  | invalidProductMarketKey
  | marketNotLive
  deriving DecidableEq, Repr

inductive MarketFailure where
  | program (code : MarketErrorCode)
  /-- a panic: an assertion, or an index out of range -/
  | abort
  deriving DecidableEq, Repr

/-- A product with the market it trades on. -/
structure MarketProduct (Key : Type) extends Product where
  market : Key
  deriving DecidableEq, Repr

/-- An expiry with the time it becomes active; `dirty` until its markets are cleaned. -/
structure Series extends ExpirySeries where
  activeTs : UInt64
  dirty : Bool
  deriving DecidableEq, Repr

structure Group (Key : Type) where
  frontExpiryIndex : UInt8
  marginParameters : MarginParameters
  products : Vector (MarketProduct Key) 46
  expirySeries : Vector Series 2
  deriving DecidableEq, Repr

variable {Key : Type}

/-- What the margin calculation reads. -/
def Group.toZetaGroup (group : Group Key) : ZetaGroup where
  marginParameters := group.marginParameters
  products := group.products.map fun product => product.toProduct

/-- A decimal number of the pricing program. -/
structure AnchorDecimal where
  flags : UInt32
  hi : UInt32
  lo : UInt32
  mid : UInt32
  deriving DecidableEq, Repr

structure OptionGreeks extends ProductGreeks where
  vega : AnchorDecimal
  volatility : AnchorDecimal
  deriving DecidableEq, Repr

/-- The greeks account. -/
structure GroupGreeks extends Greeks where
  productGreeks : Vector OptionGreeks 22
  deriving DecidableEq, Repr

/-! ## Slices

`&array[head..head + width]`, with an index times a width for its head. Both operations wrap. -/

def blockOf {α : Type} {n : ℕ} (array : Vector α n) (width index : UInt64) :
    Except MarketFailure (List α) :=
  let head := index * width
  let stop := head + width
  if head ≤ stop ∧ stop.toNat ≤ n then
    .ok ((array.toList.take stop.toNat).drop head.toNat)
  else .error .abort

def Group.getProductsSlice (group : Group Key) (expiryIndex : UInt64) :
    Except MarketFailure (List (MarketProduct Key)) :=
  blockOf group.products (.ofNat numProductsPerSeries) expiryIndex

def Greeks.getMarkPricesSlice (greeks : Greeks) (expiryIndex : UInt64) :
    Except MarketFailure (List UInt64) :=
  blockOf greeks.markPrices (.ofNat numProductsPerSeries) expiryIndex

def GroupGreeks.getProductGreeksSlice (greeks : GroupGreeks) (expiryIndex : UInt64) :
    Except MarketFailure (List OptionGreeks) :=
  blockOf greeks.productGreeks (.ofNat numStrikes) expiryIndex

/-- `array[index]` -/
def entryOf {α : Type} {n : ℕ} (array : Vector α n) (index : UInt64) : Except MarketFailure α :=
  if inside : index.toNat < n then .ok (array.get ⟨index.toNat, inside⟩) else .error .abort

/-! ## Market indexes -/

/-- The market index given an expiry index and an index into its slice. -/
def getProductsSliceMarketIndex (expiryIndex productIndex : UInt64) :
    Except MarketFailure UInt64 := do
  let head ← tryMul .abort expiryIndex (.ofNat numProductsPerSeries)
  tryAdd .abort head productIndex

namespace Group

variable (group : Group Key)

def getExpiryIndexByProductIndex (index : UInt64) : Except MarketFailure UInt64 := do
  refuseIf (¬ index.toNat < 46) .abort
  let expiryIndex ← tryDiv MarketFailure.abort index (.ofNat numProductsPerSeries)
  refuseIf (¬ expiryIndex.toNat < 2) .abort
  return expiryIndex

def getExpirySeriesByProductIndex (index : UInt64) : Except MarketFailure Series := do
  let expiryIndex ← getExpiryIndexByProductIndex index
  entryOf group.expirySeries expiryIndex

variable [LinearOrder Key]

/-- `binary_search_by_key`, by the key of the market. -/
def searchByMarket (market : Key) : Except ℕ (Fin 46) :=
  search fun i => compare (group.products.get i).market market

def getProductIndexByKey (market : Key) : Except MarketFailure UInt64 :=
  match group.searchByMarket market with
  | .error _ => .error (.program .invalidProductMarketKey)
  | .ok i => .ok (.ofNat i)

def getProductAndExpiryIndexByKey (market : Key) : Except MarketFailure (UInt64 × UInt64) :=
  match group.searchByMarket market with
  | .error _ => .error (.program .invalidProductMarketKey)
  | .ok i => do
    let expiryIndex ← getExpiryIndexByProductIndex (.ofNat i)
    return (.ofNat i, expiryIndex)

def getExpirySeriesByKey (market : Key) : Except MarketFailure Series :=
  match group.searchByMarket market with
  | .error _ => .error (.program .invalidProductMarketKey)
  | .ok i => group.getExpirySeriesByProductIndex (.ofNat i)

end Group

/-! ## Expiries -/

inductive ExpirySeriesStatus where
  | uninitialized
  | initialized
  | live
  | expired
  | expiredDirty
  deriving DecidableEq, Repr

/-- The clock's time is cast to an unsigned word. -/
def Series.status (series : Series) (unixTimestamp : Int64) : ExpirySeriesStatus :=
  if series.activeTs = 0 ∨ series.expiryTs = 0 then .uninitialized
  else
    let currentTs := unixTimestamp.toUInt64
    if series.dirty then .expiredDirty
    else if currentTs < series.activeTs then .initialized
    else if series.activeTs ≤ currentTs ∧ currentTs < series.expiryTs then .live
    else .expired

namespace Group

variable (group : Group Key)

/-- The timestamp that callers pass is not looked at: the status reads the clock. -/
def validateSeriesTradeable (unixTimestamp : Int64) (expiryIndex _currentTimestamp : UInt64) :
    Except MarketFailure Unit := do
  let series ← entryOf group.expirySeries expiryIndex
  refuseIf (series.status unixTimestamp ≠ .live) (.program .marketNotLive)
  let products ← group.getProductsSlice expiryIndex
  -- Only one product needs to be looked at for the strikes of a series.
  match products with
  | [] => .error .abort
  | first :: _ => refuseIf (first.strike.isSet = false) (.program .productStrikeUninitialized)

end Group

end JetVault.Zeta
