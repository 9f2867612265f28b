import JetVault.Properties.OraclePrice
import JetVault.Zeta.Pyth

/-!
# Prices of accounts

Of the 3312 bytes of a price account, the readers use twelve: four for the exponent and eight for
the price. The magic number, the status, the confidence and the slots are not among them.
-/
namespace JetVault.Pyth

open Codec Fallible FixedWidth Zeta

variable {data data' : List UInt8} {price : UInt64}

/-- The price and the exponent at their places. -/
structure Quotes (data : List UInt8) (oracle : Zeta.Price) : Prop where
  expo : int32.At 20 oracle.expo data
  price : int64.At 208 oracle.price data

theorem Quotes.unique {oracle oracle' : Zeta.Price} (quotes : Quotes data oracle)
    (quotes' : Quotes data oracle') : oracle = oracle' := by
  obtain ⟨price, expo⟩ := oracle
  obtain ⟨price', expo'⟩ := oracle'
  cases quotes.expo.unique quotes'.expo
  cases quotes.price.unique quotes'.price
  rfl

/-- The bytes that the readers use. -/
structure SameQuote (data data' : List UInt8) : Prop where
  expo : (data.drop 20).take 4 = (data'.drop 20).take 4
  price : (data.drop 208).take 8 = (data'.drop 208).take 8

theorem SameQuote.quotes (same : SameQuote data data') {oracle : Zeta.Price}
    (quotes : Quotes data oracle) : Quotes data' oracle where
  expo := (int32_plain.sized.at_congr same.expo).mp quotes.expo
  price := (int64_plain.sized.at_congr same.price).mp quotes.price

/-- The fields of a record are behind the fields before them. -/
theorem quotes_of_at {account : Price} (found : priceCodec.At 0 account data) :
    Quotes data account.quote := by
  obtain ⟨magic, ver, atype, size, ptype, expo, num, unused, currSlot, validSlot, twap, avol, drv0,
    drv1, drv2, drv3, drv4, drv5, prod, next, aggPub, agg, comp⟩ := account
  -- five words before the exponent
  have exponent := ((((found.unmap.right uint32_plain.sized).right uint32_plain.sized).right
    uint32_plain.sized).right uint32_plain.sized).right uint32_plain.sized
  -- then three words, ten double words and three keys before the price
  have slots := ((exponent.right int32_plain.sized).right uint32_plain.sized).right
    uint32_plain.sized
  have derived := (((slots.right uint64_plain.sized).right uint64_plain.sized).right
    int64_plain.sized).right uint64_plain.sized
  have keys := (((((derived.right int64_plain.sized).right int64_plain.sized).right
    int64_plain.sized).right int64_plain.sized).right int64_plain.sized).right int64_plain.sized
  have aggregate := ((keys.right accKeyCodec_plain.sized).right accKeyCodec_plain.sized).right
    accKeyCodec_plain.sized
  exact ⟨exponent.left, aggregate.left.unmap.left⟩

theorem load_quotes (sized : data.length = sizeOfPrice) :
    ∃ account, load data = .ok account ∧ Quotes data account.quote := by
  obtain ⟨account, rfl⟩ := priceCodec_plain.full data sized
  exact ⟨account, load_eq_ok.mpr rfl, quotes_of_at (priceCodec.at_front account)⟩

/-- Both readers use the quote of an account of the right size, and refuse the others. -/
theorem read_quote (sized : data.length = sizeOfPrice) : ∃ oracle, Quotes data oracle ∧
    getNativeOraclePrice data = Zeta.getNativeOraclePrice oracle ∧
    ∀ precision, getOraclePrice data precision = Zeta.getOraclePrice oracle precision := by
  obtain ⟨account, loaded, quotes⟩ := load_quotes sized
  refine ⟨account.quote, quotes, ?_, fun precision => ?_⟩
  · rw [getNativeOraclePrice, loaded, ok_bind]
  · rw [getOraclePrice, loaded, ok_bind]

theorem read_missized (missized : data.length ≠ sizeOfPrice) :
    getNativeOraclePrice data = .error .abort ∧
      ∀ precision, getOraclePrice data precision = .error .abort := by
  refine ⟨?_, fun precision => ?_⟩
  · rw [getNativeOraclePrice, load_missized missized, error_bind]
  · rw [getOraclePrice, load_missized missized, error_bind]

/-- A price is read off exactly the accounts of 3312 bytes that quote it, and every reading is
decided by the length and twelve of the bytes. -/
theorem prices_by_twelve_bytes :
    (∀ data price, getNativeOraclePrice data = .ok price ↔
      data.length = sizeOfPrice ∧ ∃ oracle, Quotes data oracle ∧ Readable oracle ∧
        (price.toNat : ℤ) = exactPrice oracle) ∧
    (∀ data data', data.length = data'.length → SameQuote data data' →
      getNativeOraclePrice data = getNativeOraclePrice data' ∧
        ∀ precision, getOraclePrice data precision = getOraclePrice data' precision) := by
  constructor
  · intro data price
    -- Every account of the right size is some record, whatever else it was made for.
    by_cases sized : data.length = sizeOfPrice
    · obtain ⟨oracle, quotes, native, _⟩ := read_quote sized
      rw [native, getNativeOraclePrice_eq_ok, and_iff_right sized]
      constructor
      · rintro ⟨readable, exact⟩
        exact ⟨oracle, quotes, readable, exact⟩
      · rintro ⟨oracle', quotes', readable, exact⟩
        cases quotes.unique quotes'
        exact ⟨readable, exact⟩
    · rw [(read_missized sized).1]
      exact iff_of_false nofun fun both => sized both.1
  · intro data data' length same
    by_cases sized : data.length = sizeOfPrice
    · obtain ⟨oracle, quotes, native, scaled⟩ := read_quote sized
      obtain ⟨oracle', quotes', native', scaled'⟩ := read_quote (length ▸ sized)
      cases (same.quotes quotes).unique quotes'
      exact ⟨native.trans native'.symm, fun precision =>
        (scaled precision).trans (scaled' precision).symm⟩
    · obtain ⟨native, scaled⟩ := read_missized sized
      obtain ⟨native', scaled'⟩ := read_missized (length ▸ sized)
      exact ⟨native.trans native'.symm, fun precision =>
        (scaled precision).trans (scaled' precision).symm⟩

/-! A price of one dollar, last updated at slot 5 and in trading, and the same price in an account
of another kind that is halted. -/

def tradingAccount : List UInt8 :=
  [212, 195, 178, 161, 2, 0, 0, 0, 3, 0, 0, 0, 240, 12, 0, 0, 1, 0, 0, 0] ++
    [248, 255, 255, 255] ++ List.replicate 184 0 ++ [0, 225, 245, 5, 0, 0, 0, 0] ++
    [9, 0, 0, 0, 0, 0, 0, 0, 1, 0, 0, 0] ++ List.replicate 4 0 ++ [5] ++ List.replicate 3079 0

def haltedAccount : List UInt8 :=
  List.replicate 20 7 ++ [248, 255, 255, 255] ++ List.replicate 184 1 ++
    [0, 225, 245, 5, 0, 0, 0, 0] ++ List.replicate 8 255 ++ [2] ++ List.replicate 3087 0

theorem prices_by_twelve_bytes_halted :
    getNativeOraclePrice haltedAccount = .ok 1000000 ∧
      getNativeOraclePrice tradingAccount = getNativeOraclePrice haltedAccount :=
  ⟨(prices_by_twelve_bytes.1 haltedAccount 1000000).mpr
      ⟨by decide +kernel, ⟨100000000, -8⟩, ⟨int32_plain.sized.at_iff.mpr (by decide +kernel),
        int64_plain.sized.at_iff.mpr (by decide +kernel)⟩,
        ⟨by decide, by decide, by decide, by decide⟩, by decide⟩,
    (prices_by_twelve_bytes.2 tradingAccount haltedAccount (by decide +kernel)
      ⟨by decide +kernel, by decide +kernel⟩).1⟩

end JetVault.Pyth
