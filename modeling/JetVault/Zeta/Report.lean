import JetVault.Zeta.Records

/-!
# Reading program data

The instruction that shows how the accounts of the exchange are read: the front expiry and its
products, the oracle's price, the greeks of the first product, and the margins of an account. Each
account is loaded where it is first used. What is logged is a report here, in the order of the
messages.
-/
namespace JetVault.Zeta

open Fallible FixedWidth Record

variable {Key : Type}

/-- The words that are read as truth values and as kinds stand for some; what is read from another
word is undefined in the source. No other kinds are read than those of the front expiry and of the
products that the account trades. -/
structure WellTyped (group : Record.ZetaGroup) (marginAccount : List UInt8) : Prop where
  strikes : ∀ i, (group.products.get i).strike.isSet ≤ 1
  kinds : ∀ i : Fin 46, (i.val / 23 = group.frontExpiryIndex.toNat ∨
    ∃ account, Stored marginAccountCodec account marginAccount ∧ account.Trades i) →
      (group.products.get i).kind ≤ 3
  dirty : ∀ i : Fin 2, i.val = group.frontExpiryIndex.toNat → (group.expirySeries.get i).dirty ≤ 1

/-- The data of the accounts that are read. -/
structure ReadProgramData where
  zetaGroup : List UInt8
  marginAccount : List UInt8
  greeks : List UInt8
  oracle : List UInt8
  wellTyped : ∀ group, Stored zetaGroupCodec group zetaGroup → WellTyped group marginAccount

structure ProductLine where
  marketIndex : UInt64
  strike : UInt64
  kind : Kind
  deriving DecidableEq, Repr

structure Report where
  activeTimestamp : UInt64
  expiryTimestamp : UInt64
  isMarketLive : Bool
  isMarketExpired : Bool
  products : List ProductLine
  oraclePrice : UInt64
  marketIndex : UInt64
  markPrice : UInt64
  productGreeks : OptionGreeks
  balance : UInt64
  position : Int64
  costOfTrades : UInt64
  initialMarginRequirement : UInt64
  maintenanceMarginRequirement : UInt64
  totalMarginRequirement : UInt64
  deriving DecidableEq, Repr

/-- An index out of range, or a product that does not fit in a word, is a panic. -/
def orAbort {α : Type} (result : Except MarketFailure α) : Except Failure α :=
  result.mapError fun _ => .abort

/-- `slice[0]` -/
def firstOf {α : Type} (slice : List α) : Except Failure α :=
  match slice with
  | [] => .error .abort
  | first :: _ => .ok first

/-- One line for each product, from the `i`-th on. -/
def productLines (expiryIndex : UInt64) :
    (i : ℕ) → List (MarketProduct Key) → Except Failure (List ProductLine)
  | _, [] => .ok []
  | i, product :: products => do
    let marketIndex ← orAbort (getProductsSliceMarketIndex expiryIndex (.ofNat i))
    let strike ← product.strike.getStrike
    let lines ← productLines expiryIndex (i + 1) products
    return ⟨marketIndex, strike, product.kind⟩ :: lines

def readProgramData (unixTimestamp : Int64) (accounts : ReadProgramData) :
    Except Failure Report := do
  let zetaGroup ← deserializeAccountInfoZerocopy zetaGroupCodec sizeOfZetaGroup
    accounts.zetaGroup
  let group := zetaGroup.toGroup
  -- Get the data for the front expiration.
  let expiryIndex := group.frontExpiryIndex.toUInt64
  let series ← orAbort (entryOf group.expirySeries expiryIndex)
  let status := series.status unixTimestamp
  let slice ← orAbort (group.getProductsSlice expiryIndex)
  let products ← productLines expiryIndex 0 slice
  let oraclePrice ← Pyth.getNativeOraclePrice accounts.oracle
  -- The first product in the expiry series is the lowest strike call.
  let marketIndex ← orAbort (getProductsSliceMarketIndex expiryIndex 0)
  let greeksRecord ← deserializeAccountInfoZerocopy greeksCodec sizeOfGreeks accounts.greeks
  let greeks := greeksRecord.toGroupGreeks
  let markPrices ← orAbort (greeks.getMarkPricesSlice expiryIndex)
  let markPrice ← firstOf markPrices
  let productGreeksSlice ← orAbort (greeks.getProductGreeksSlice expiryIndex)
  let productGreeks ← firstOf productGreeksSlice
  let marginAccount ← deserializeAccountInfoZerocopy marginAccountCodec sizeOfMarginAccount
    accounts.marginAccount
  let account := marginAccount.toMarginAccount
  let position ← orAbort (entryOf account.positions marketIndex)
  let initial ← account.getInitialMargin greeks.toGreeks group.toZetaGroup oraclePrice
  let maintenance ← account.getMaintenanceMargin greeks.toGreeks group.toZetaGroup oraclePrice
  let total ← tryAdd Failure.abort initial maintenance
  return {
    activeTimestamp := series.activeTs
    expiryTimestamp := series.expiryTs
    isMarketLive := status = .live
    isMarketExpired := status = .expired
    products := products
    oraclePrice := oraclePrice
    marketIndex := marketIndex
    markPrice := markPrice
    productGreeks := productGreeks
    balance := account.balance
    position := position.position
    costOfTrades := position.costOfTrades
    initialMarginRequirement := initial
    maintenanceMarginRequirement := maintenance
    totalMarginRequirement := total }

end JetVault.Zeta
