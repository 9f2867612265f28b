import JetVault.Wire.Records
import JetVault.Zeta.Group
import JetVault.Zeta.Orders
import JetVault.Zeta.Pyth

/-!
# Accounts of the exchange as bytes

The whole records of the exchange's accounts, with the fields that nothing reads and the room that
is kept for more expiries. They are packed: the fields lie one behind the other, and the record is
used where it lies, behind the eight bytes that name its type. The cast does not look at truth
values and kinds, so that those are the words they are stored as.
-/
namespace JetVault.Zeta.Record

open Accounts Codec Wire

/-! ## Records -/

structure Greeks where
  nonce : UInt8
  markPrices : Vector UInt64 46
  markPricesPadding : Vector UInt64 92
  productGreeks : Vector OptionGreeks 22
  productGreeksPadding : Vector OptionGreeks 44
  updateTimestamp : Vector UInt64 2
  updateTimestampPadding : Vector UInt64 4
  retreatExpirationTimestamp : Vector UInt64 2
  retreatExpirationTimestampPadding : Vector UInt64 4
  interestRate : Vector Int64 2
  interestRatePadding : Vector Int64 4
  nodes : Vector UInt64 5
  volatility : Vector UInt64 10
  volatilityPadding : Vector UInt64 20
  nodeKeys : Vector Pubkey 138
  padding : Vector UInt8 1647

structure HaltState where
  halted : UInt8
  spotPrice : UInt64
  timestamp : UInt64
  markPricesSet : Vector UInt8 2
  markPricesSetPadding : Vector UInt8 4
  marketNodesCleaned : Vector UInt8 2
  marketNodesCleanedPadding : Vector UInt8 4
  marketCleaned : Vector UInt8 46
  marketCleanedPadding : Vector UInt8 92

structure PricingParameters where
  optionTradeNormalizer : AnchorDecimal
  futureTradeNormalizer : AnchorDecimal
  maxVolatilityRetreat : AnchorDecimal
  maxInterestRetreat : AnchorDecimal
  maxDelta : UInt64
  minDelta : UInt64
  padding : Vector UInt8 32

structure MarginParameters extends Zeta.MarginParameters where
  padding : Vector UInt8 32

structure ExpirySeries where
  activeTs : UInt64
  expiryTs : UInt64
  dirty : UInt8
  padding : Vector UInt8 15

structure Strike where
  isSet : UInt8
  value : UInt64

/-- `dirty` tracks whether the market has been wiped after expiration. -/
structure Product where
  market : Pubkey
  strike : Strike
  dirty : UInt8
  kind : UInt8

structure ZetaGroup where
  nonce : UInt8
  vaultNonce : UInt8
  insuranceVaultNonce : UInt8
  frontExpiryIndex : UInt8
  haltState : HaltState
  underlyingMint : Pubkey
  oracle : Pubkey
  greeks : Pubkey
  pricingParameters : PricingParameters
  marginParameters : MarginParameters
  products : Vector Product 46
  productsPadding : Vector Product 92
  expirySeries : Vector ExpirySeries 2
  expirySeriesPadding : Vector ExpirySeries 4
  totalInsuranceVaultDeposits : UInt64
  padding : Vector UInt8 1063

structure MarginAccount where
  authority : Pubkey
  nonce : UInt8
  balance : UInt64
  forceCancelFlag : UInt8
  openOrdersNonce : Vector UInt8 138
  seriesExpiry : Vector UInt64 6
  positions : Vector TradedPosition 46
  positionsPadding : Vector TradedPosition 92
  rebalanceAmount : Int64
  padding : Vector UInt8 388

/-! What the other modules use of them. -/

/-- The kinds are numbered from 0 on. Other words than the four are excluded where this is used. -/
def kindOf (word : UInt8) : Kind :=
  if word = 0 then .uninitialized
  else if word = 1 then .call
  else if word = 2 then .put
  else .future

def Strike.toStrike (strike : Strike) : Zeta.Strike where
  isSet := strike.isSet = 1
  value := strike.value

def Product.toMarketProduct (product : Product) : MarketProduct Pubkey where
  strike := product.strike.toStrike
  kind := kindOf product.kind
  market := product.market

def ExpirySeries.toSeries (series : ExpirySeries) : Series where
  expiryTs := series.expiryTs
  activeTs := series.activeTs
  dirty := series.dirty = 1

def Greeks.toGroupGreeks (greeks : Greeks) : GroupGreeks where
  markPrices := greeks.markPrices
  productGreeks := greeks.productGreeks

def ZetaGroup.toGroup (group : ZetaGroup) : Group Pubkey where
  frontExpiryIndex := group.frontExpiryIndex
  marginParameters := group.marginParameters.toMarginParameters
  products := group.products.map Product.toMarketProduct
  expirySeries := group.expirySeries.map ExpirySeries.toSeries

def MarginAccount.toTradingAccount (account : MarginAccount) : TradingAccount where
  balance := account.balance
  positions := account.positions

/-- The account has a position or opening orders in the product. -/
def MarginAccount.Trades (account : MarginAccount) (i : Fin 46) : Prop :=
  (account.positions.get i).position ≠ 0 ∨
    ∃ side, (account.positions.get i).openingOrders.get side ≠ 0

def MarginAccount.toMarginAccount (account : MarginAccount) : Zeta.MarginAccount :=
  account.toTradingAccount.toMarginAccount

/-! ## Bytes -/

def anchorDecimalCodec : Codec AnchorDecimal :=
  (uint32.pair <| uint32.pair <| uint32.pair uint32).map
    { toFun := fun ⟨a, b, c, d⟩ => ⟨a, b, c, d⟩
      invFun := fun ⟨a, b, c, d⟩ => ⟨a, b, c, d⟩
      left_inv := fun _ => rfl
      right_inv := fun _ => rfl }

def productGreeksCodec : Codec OptionGreeks :=
  (uint64.pair <| anchorDecimalCodec.pair anchorDecimalCodec).map
    { toFun := fun ⟨a, b, c⟩ => ⟨⟨a⟩, b, c⟩
      invFun := fun ⟨⟨a⟩, b, c⟩ => ⟨a, b, c⟩
      left_inv := fun _ => rfl
      right_inv := fun _ => rfl }

def greeksCodec : Codec Greeks :=
  (byte.pair <| (uint64.vector 46).pair <| (uint64.vector 92).pair <|
    (productGreeksCodec.vector 22).pair <| (productGreeksCodec.vector 44).pair <|
    (uint64.vector 2).pair <| (uint64.vector 4).pair <| (uint64.vector 2).pair <|
    (uint64.vector 4).pair <| (int64.vector 2).pair <| (int64.vector 4).pair <|
    (uint64.vector 5).pair <| (uint64.vector 10).pair <| (uint64.vector 20).pair <|
    (pubkeyCodec.vector 138).pair <| byte.vector 1647).map
    { toFun := fun ⟨a, b, c, d, e, f, g, h, i, j, k, l, m, n, o, p⟩ =>
        ⟨a, b, c, d, e, f, g, h, i, j, k, l, m, n, o, p⟩
      invFun := fun ⟨a, b, c, d, e, f, g, h, i, j, k, l, m, n, o, p⟩ =>
        ⟨a, b, c, d, e, f, g, h, i, j, k, l, m, n, o, p⟩
      left_inv := fun _ => rfl
      right_inv := fun _ => rfl }

def haltStateCodec : Codec HaltState :=
  (byte.pair <| uint64.pair <| uint64.pair <| (byte.vector 2).pair <| (byte.vector 4).pair <|
    (byte.vector 2).pair <| (byte.vector 4).pair <| (byte.vector 46).pair <| byte.vector 92).map
    { toFun := fun ⟨a, b, c, d, e, f, g, h, i⟩ => ⟨a, b, c, d, e, f, g, h, i⟩
      invFun := fun ⟨a, b, c, d, e, f, g, h, i⟩ => ⟨a, b, c, d, e, f, g, h, i⟩
      left_inv := fun _ => rfl
      right_inv := fun _ => rfl }

def pricingParametersCodec : Codec PricingParameters :=
  (anchorDecimalCodec.pair <| anchorDecimalCodec.pair <| anchorDecimalCodec.pair <|
    anchorDecimalCodec.pair <| uint64.pair <| uint64.pair <| byte.vector 32).map
    { toFun := fun ⟨a, b, c, d, e, f, g⟩ => ⟨a, b, c, d, e, f, g⟩
      invFun := fun ⟨a, b, c, d, e, f, g⟩ => ⟨a, b, c, d, e, f, g⟩
      left_inv := fun _ => rfl
      right_inv := fun _ => rfl }

def marginParametersCodec : Codec MarginParameters :=
  (uint64.pair <| uint64.pair <| uint64.pair <| uint64.pair <| uint64.pair <| uint64.pair <|
    uint64.pair <| uint64.pair <| uint64.pair <| uint64.pair <| uint64.pair <| byte.vector 32).map
    { toFun := fun ⟨a, b, c, d, e, f, g, h, i, j, k, l⟩ => ⟨⟨a, b, c, d, e, f, g, h, i, j, k⟩, l⟩
      invFun := fun ⟨⟨a, b, c, d, e, f, g, h, i, j, k⟩, l⟩ => ⟨a, b, c, d, e, f, g, h, i, j, k, l⟩
      left_inv := fun _ => rfl
      right_inv := fun _ => rfl }

def expirySeriesCodec : Codec ExpirySeries :=
  (uint64.pair <| uint64.pair <| byte.pair <| byte.vector 15).map
    { toFun := fun ⟨a, b, c, d⟩ => ⟨a, b, c, d⟩
      invFun := fun ⟨a, b, c, d⟩ => ⟨a, b, c, d⟩
      left_inv := fun _ => rfl
      right_inv := fun _ => rfl }

def strikeCodec : Codec Strike :=
  (byte.pair uint64).map
    { toFun := fun ⟨a, b⟩ => ⟨a, b⟩
      invFun := fun ⟨a, b⟩ => ⟨a, b⟩
      left_inv := fun _ => rfl
      right_inv := fun _ => rfl }

def productCodec : Codec Product :=
  (pubkeyCodec.pair <| strikeCodec.pair <| byte.pair byte).map
    { toFun := fun ⟨a, b, c, d⟩ => ⟨a, b, c, d⟩
      invFun := fun ⟨a, b, c, d⟩ => ⟨a, b, c, d⟩
      left_inv := fun _ => rfl
      right_inv := fun _ => rfl }

def zetaGroupCodec : Codec ZetaGroup :=
  (byte.pair <| byte.pair <| byte.pair <| byte.pair <| haltStateCodec.pair <| pubkeyCodec.pair <|
    pubkeyCodec.pair <| pubkeyCodec.pair <| pricingParametersCodec.pair <|
    marginParametersCodec.pair <| (productCodec.vector 46).pair <| (productCodec.vector 92).pair <|
    (expirySeriesCodec.vector 2).pair <| (expirySeriesCodec.vector 4).pair <| uint64.pair <|
    byte.vector 1063).map
    { toFun := fun ⟨a, b, c, d, e, f, g, h, i, j, k, l, m, n, o, p⟩ =>
        ⟨a, b, c, d, e, f, g, h, i, j, k, l, m, n, o, p⟩
      invFun := fun ⟨a, b, c, d, e, f, g, h, i, j, k, l, m, n, o, p⟩ =>
        ⟨a, b, c, d, e, f, g, h, i, j, k, l, m, n, o, p⟩
      left_inv := fun _ => rfl
      right_inv := fun _ => rfl }

def positionCodec : Codec TradedPosition :=
  (int64.pair <| uint64.pair <| uint64.pair <| uint64.vector 2).map
    { toFun := fun ⟨position, cost, closing, opening⟩ => ⟨⟨position, cost, opening⟩, closing⟩
      invFun := fun ⟨⟨position, cost, opening⟩, closing⟩ => ⟨position, cost, closing, opening⟩
      left_inv := fun _ => rfl
      right_inv := fun _ => rfl }

def marginAccountCodec : Codec MarginAccount :=
  (pubkeyCodec.pair <| byte.pair <| uint64.pair <| byte.pair <| (byte.vector 138).pair <|
    (uint64.vector 6).pair <| (positionCodec.vector 46).pair <| (positionCodec.vector 92).pair <|
    int64.pair <| byte.vector 388).map
    { toFun := fun ⟨a, b, c, d, e, f, g, h, i, j⟩ => ⟨a, b, c, d, e, f, g, h, i, j⟩
      invFun := fun ⟨a, b, c, d, e, f, g, h, i, j⟩ => ⟨a, b, c, d, e, f, g, h, i, j⟩
      left_inv := fun _ => rfl
      right_inv := fun _ => rfl }

/-! ## Layout -/

/-- `size_of::<Greeks>()`, and those of the other records. -/
def sizeOfGreeks : ℕ := 10232

def sizeOfZetaGroup : ℕ := 7696

def sizeOfMarginAccount : ℕ := 6144

theorem pubkeyCodec_plain : pubkeyCodec.Plain 32 := byte_plain.vector 32

theorem anchorDecimalCodec_plain : anchorDecimalCodec.Plain 16 :=
  (uint32_plain.pair <| uint32_plain.pair <| uint32_plain.pair uint32_plain).map _

theorem productGreeksCodec_plain : productGreeksCodec.Plain 40 :=
  (uint64_plain.pair <| anchorDecimalCodec_plain.pair anchorDecimalCodec_plain).map _

theorem greeksCodec_plain : greeksCodec.Plain sizeOfGreeks :=
  (byte_plain.pair <| (uint64_plain.vector 46).pair <| (uint64_plain.vector 92).pair <|
    (productGreeksCodec_plain.vector 22).pair <| (productGreeksCodec_plain.vector 44).pair <|
    (uint64_plain.vector 2).pair <| (uint64_plain.vector 4).pair <| (uint64_plain.vector 2).pair <|
    (uint64_plain.vector 4).pair <| (int64_plain.vector 2).pair <| (int64_plain.vector 4).pair <|
    (uint64_plain.vector 5).pair <| (uint64_plain.vector 10).pair <|
    (uint64_plain.vector 20).pair <| (pubkeyCodec_plain.vector 138).pair <|
    byte_plain.vector 1647).map _

theorem haltStateCodec_plain : haltStateCodec.Plain 167 :=
  (byte_plain.pair <| uint64_plain.pair <| uint64_plain.pair <| (byte_plain.vector 2).pair <|
    (byte_plain.vector 4).pair <| (byte_plain.vector 2).pair <| (byte_plain.vector 4).pair <|
    (byte_plain.vector 46).pair <| byte_plain.vector 92).map _

/-- Sixteen bytes more than the comments beside the record count. -/
theorem pricingParametersCodec_plain : pricingParametersCodec.Plain 112 :=
  (anchorDecimalCodec_plain.pair <| anchorDecimalCodec_plain.pair <|
    anchorDecimalCodec_plain.pair <| anchorDecimalCodec_plain.pair <| uint64_plain.pair <|
    uint64_plain.pair <| byte_plain.vector 32).map _

theorem marginParametersCodec_plain : marginParametersCodec.Plain 120 :=
  (uint64_plain.pair <| uint64_plain.pair <| uint64_plain.pair <| uint64_plain.pair <|
    uint64_plain.pair <| uint64_plain.pair <| uint64_plain.pair <| uint64_plain.pair <|
    uint64_plain.pair <| uint64_plain.pair <| uint64_plain.pair <| byte_plain.vector 32).map _

theorem expirySeriesCodec_plain : expirySeriesCodec.Plain 32 :=
  (uint64_plain.pair <| uint64_plain.pair <| byte_plain.pair <| byte_plain.vector 15).map _

theorem strikeCodec_plain : strikeCodec.Plain 9 := (byte_plain.pair uint64_plain).map _

theorem productCodec_plain : productCodec.Plain 43 :=
  (pubkeyCodec_plain.pair <| strikeCodec_plain.pair <| byte_plain.pair byte_plain).map _

theorem zetaGroupCodec_plain : zetaGroupCodec.Plain sizeOfZetaGroup :=
  (byte_plain.pair <| byte_plain.pair <| byte_plain.pair <| byte_plain.pair <|
    haltStateCodec_plain.pair <| pubkeyCodec_plain.pair <| pubkeyCodec_plain.pair <|
    pubkeyCodec_plain.pair <| pricingParametersCodec_plain.pair <|
    marginParametersCodec_plain.pair <| (productCodec_plain.vector 46).pair <|
    (productCodec_plain.vector 92).pair <| (expirySeriesCodec_plain.vector 2).pair <|
    (expirySeriesCodec_plain.vector 4).pair <| uint64_plain.pair <| byte_plain.vector 1063).map _

theorem positionCodec_plain : positionCodec.Plain 40 :=
  (int64_plain.pair <| uint64_plain.pair <| uint64_plain.pair <| uint64_plain.vector 2).map _

theorem marginAccountCodec_plain : marginAccountCodec.Plain sizeOfMarginAccount :=
  (pubkeyCodec_plain.pair <| byte_plain.pair <| uint64_plain.pair <| byte_plain.pair <|
    (byte_plain.vector 138).pair <| (uint64_plain.vector 6).pair <|
    (positionCodec_plain.vector 46).pair <| (positionCodec_plain.vector 92).pair <|
    int64_plain.pair <| byte_plain.vector 388).map _

/-! ## Loading -/

variable {α : Type} {codec : Codec α} {width : ℕ} {data : List UInt8} {record : α}

/-- What is behind the first eight bytes, whatever these are, is used as the record. The cast
panics unless it is as long as the record. -/
def deserializeAccountInfoZerocopy (codec : Codec α) (size : ℕ) (data : List UInt8) :
    Except Failure α :=
  if data.length < 8 then .error .abort
  else if (data.drop 8).length ≠ size then .error .abort
  else
    match codec.decode (data.drop 8) with
    | none => .error .abort
    | some (record, _) => .ok record

/-- An account with a record: eight bytes, and the record up to the end. -/
def Stored (codec : Codec α) (record : α) (data : List UInt8) : Prop :=
  ∃ tag : List UInt8, tag.length = 8 ∧ data = tag ++ codec.encode record

theorem stored_iff : Stored codec record data ↔
    8 ≤ data.length ∧ data.drop 8 = codec.encode record := by
  constructor
  · rintro ⟨tag, eight, rfl⟩
    rw [List.length_append, List.drop_left' eight]
    exact ⟨by omega, rfl⟩
  · rintro ⟨long, behind⟩
    refine ⟨data.take 8, ?_, ?_⟩
    · rw [List.length_take]
      omega
    · rw [← behind, List.take_append_drop]

theorem Stored.unique {record' : α} (stored : Stored codec record data)
    (stored' : Stored codec record' data) : record = record' := by
  have same := (stored_iff.mp stored).2.symm.trans (stored_iff.mp stored').2
  rw [← List.append_nil (codec.encode record), ← List.append_nil (codec.encode record')] at same
  exact (codec.encode_append_inj same).1

/-- An account of the right length holds a record, whatever its bytes are. -/
theorem exists_stored_iff (plain : codec.Plain width) :
    (∃ record, Stored codec record data) ↔ data.length = 8 + width := by
  simp only [stored_iff, exists_and_left, plain.exists_encode, List.length_drop]
  omega

/-- The tag is not looked at. -/
theorem deserializeAccountInfoZerocopy_eq_ok (plain : codec.Plain width) :
    deserializeAccountInfoZerocopy codec width data = .ok record ↔ Stored codec record data := by
  rw [stored_iff, deserializeAccountInfoZerocopy]
  constructor
  · intro loaded
    split at loaded
    next => cases loaded
    next long =>
      split at loaded
      next => cases loaded
      next sized =>
        obtain ⟨stored, written⟩ := plain.full _ (not_not.mp sized)
        have decoded := codec.decode_encode stored []
        rw [List.append_nil, ← written] at decoded
        rw [decoded] at loaded
        cases loaded
        exact ⟨Nat.not_lt.mp long, written⟩
  · rintro ⟨long, behind⟩
    have decoded := codec.decode_encode record []
    rw [List.append_nil] at decoded
    rw [if_neg (Nat.not_lt.mpr long), behind, if_neg (not_not.mpr (plain.sized record)), decoded]

end JetVault.Zeta.Record
