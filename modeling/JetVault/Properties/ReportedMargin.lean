import JetVault.Properties.MarginCheck
import JetVault.Properties.Markets
import JetVault.Zeta.Report

/-!
# What is reported

The report of the front expiry, entry by entry: the accounts hold records of the right lengths, each
product is the one at the market index beside it, the prices and the position belong to one product,
and the total is the requirement that the margin check sets against the balance and the profit.
-/
namespace JetVault.Zeta

open Fallible FixedWidth Record

variable {α Key : Type}

/-! ## The parts -/

theorem orAbort_eq_ok {x : Except MarketFailure α} {a : α} : orAbort x = .ok a ↔ x = .ok a := by
  cases x with
  | error failure => simp [orAbort, Except.mapError]
  | ok b => simp [orAbort, Except.mapError]

theorem firstOf_blockAt {n head width : ℕ} (array : Vector α n) (fits : head + width ≤ n)
    (positive : 0 < width) :
    firstOf (blockAt array head width) = .ok (array.get ⟨head, by omega⟩) := by
  have first : (blockAt array head width)[0]? = some (array.get ⟨head, by omega⟩) :=
    blockAt_get fits positive
  cases block : blockAt array head width with
  | nil =>
    rw [block] at first
    cases first
  | cons a rest =>
    rw [block] at first
    cases first
    rfl

theorem length_blockAt {n head width : ℕ} {array : Vector α n} (fits : head + width ≤ n) :
    (blockAt array head width).length = width := by
  rw [blockAt, List.length_drop, List.length_take, Vector.length_toList]
  omega

theorem forall_mem_blockAt {n head width : ℕ} {array : Vector α n} (fits : head + width ≤ n)
    {P : α → Prop} : (∀ a ∈ blockAt array head width, P a) ↔
      ∀ i : Fin width, P (array.get ⟨head + i, by omega⟩) := by
  constructor
  · intro all i
    exact all _ (List.mem_of_getElem? (blockAt_get fits i.isLt))
  · intro all a member
    obtain ⟨k, found⟩ := List.getElem?_of_mem member
    have inside : k < width := by
      rw [← length_blockAt (α := α) fits]
      exact (List.getElem?_eq_some_iff.mp found).1
    rw [blockAt_get fits inside] at found
    cases found
    exact all ⟨k, inside⟩

/-- The line of a product at a market index. -/
def productLine (head : ℕ) (entry : MarketProduct Key × ℕ) : ProductLine :=
  ⟨.ofNat (head + entry.2), entry.1.strike.value, entry.1.kind⟩

theorem toNat_ofNat_marketIndex {i : ℕ} (inside : i < 46) : (UInt64.ofNat i).toNat = i := by
  rw [UInt64.toNat_ofNat', Nat.mod_eq_of_lt (by omega)]

theorem getProductsSliceMarketIndex_ofNat {expiryIndex : UInt64} (expiry : expiryIndex.toNat < 2)
    {i : ℕ} (inside : i < 23) : getProductsSliceMarketIndex expiryIndex (.ofNat i) =
      .ok (.ofNat (expiryIndex.toNat * 23 + i)) := by
  have index : (UInt64.ofNat i).toNat = i := toNat_ofNat_marketIndex (by omega)
  have place : Place (.ofNat (expiryIndex.toNat * 23 + i)) expiryIndex (.ofNat i) := by
    refine ⟨expiry, by omega, ?_⟩
    rw [toNat_ofNat_marketIndex (by omega), index]
  exact place.indexes.1

theorem getStrike_eq_ok {strike : Strike} {value : UInt64} :
    strike.getStrike = .ok value ↔ strike.isSet = true ∧ strike.value = value := by
  unfold Strike.getStrike
  split
  next set_ => rw [Except.ok.injEq, and_iff_right set_]
  next unset => exact iff_of_false nofun fun both => unset both.1

/-- The lines are written if every strike is set, each with its own market index. -/
theorem productLines_eq_ok {expiryIndex : UInt64} (expiry : expiryIndex.toNat < 2)
    {products : List (MarketProduct Key)} {i : ℕ} (inside : i + products.length ≤ 23)
    {lines : List ProductLine} :
    productLines expiryIndex i products = .ok lines ↔
      (∀ product ∈ products, product.strike.isSet = true) ∧
        lines = (products.zipIdx i).map (productLine (expiryIndex.toNat * 23)) := by
  -- Induction on the products: the first has the index `i`, and the others go on from `i + 1`.
  induction products generalizing i lines with
  | nil =>
    rw [productLines, Except.ok.injEq]
    exact ⟨fun same => ⟨List.forall_mem_nil _, same.symm⟩, fun both => both.2.symm⟩
  | cons product products ih =>
    rw [List.length_cons] at inside
    have index := getProductsSliceMarketIndex_ofNat expiry (i := i) (by omega)
    simp only [productLines, bind_eq_ok, orAbort_eq_ok, index, getStrike_eq_ok,
      ih (i := i + 1) (by omega), pure_eq_ok, List.forall_mem_cons, List.zipIdx_cons,
      List.map_cons]
    constructor
    · rintro ⟨_, same, strike, ⟨set_, rfl⟩, _, ⟨all, rfl⟩, rfl⟩
      cases same
      exact ⟨⟨set_, all⟩, rfl⟩
    · rintro ⟨⟨set_, all⟩, rfl⟩
      exact ⟨_, rfl, _, ⟨set_, rfl⟩, _, ⟨all, rfl⟩, rfl⟩

/-! ## The report -/

variable {unixTimestamp : Int64} {group : Group Key} {greeks : GroupGreeks} {oracle : Price}
  {account : MarginAccount} {report : Report}

/-- The `i`-th product of expiry `e`. -/
def Group.productAt (group : Group Key) {e : ℕ} (front : e < 2) (i : Fin 23) : MarketProduct Key :=
  group.products.get ⟨e * 23 + i, by omega⟩

/-- What a report says about the accounts it was made from. -/
structure Report.Describes (report : Report) (unixTimestamp : Int64) (group : Group Key)
    (greeks : GroupGreeks) (oracle : Price) (account : MarginAccount) {e : ℕ} (front : e < 2) :
    Prop where
  activeTimestamp : report.activeTimestamp = (group.expirySeries.get ⟨e, front⟩).activeTs
  expiryTimestamp : report.expiryTimestamp = (group.expirySeries.get ⟨e, front⟩).expiryTs
  isMarketLive : report.isMarketLive =
    decide ((group.expirySeries.get ⟨e, front⟩).status unixTimestamp = .live)
  isMarketExpired : report.isMarketExpired =
    decide ((group.expirySeries.get ⟨e, front⟩).status unixTimestamp = .expired)
  strikes : ∀ i, (group.productAt front i).strike.isSet = true
  length : report.products.length = 23
  products : ∀ i : Fin 23, report.products[i.val]? =
    some (productLine (e * 23) (group.productAt front i, i))
  oraclePrice : getNativeOraclePrice oracle = .ok report.oraclePrice
  marketIndex : report.marketIndex.toNat = e * 23
  markPrice : report.markPrice = greeks.markPrices.get ⟨e * 23, by omega⟩
  productGreeks : report.productGreeks = greeks.productGreeks.get ⟨e * 11, by omega⟩
  balance : report.balance = account.balance
  position : report.position = (account.positions.get ⟨e * 23, by omega⟩).position
  costOfTrades : report.costOfTrades = (account.positions.get ⟨e * 23, by omega⟩).costOfTrades
  initial : account.getInitialMargin greeks.toGreeks group.toZetaGroup report.oraclePrice =
    .ok report.initialMarginRequirement
  maintenance : account.getMaintenanceMargin greeks.toGreeks group.toZetaGroup
    report.oraclePrice = .ok report.maintenanceMarginRequirement
  total : report.totalMarginRequirement.toNat =
    report.initialMarginRequirement.toNat + report.maintenanceMarginRequirement.toNat

/-- The lines of the products of an expiry, in order. -/
theorem lines_eq_iff {e : ℕ} (front : e < 2) {lines : List ProductLine} :
    lines = ((blockAt group.products (e * 23) 23).zipIdx 0).map (productLine (e * 23)) ↔
      lines.length = 23 ∧ ∀ i : Fin 23, lines[i.val]? =
        some (productLine (e * 23) (group.productAt front i, i)) := by
  have line (i : Fin 23) :
      (((blockAt group.products (e * 23) 23).zipIdx 0).map (productLine (e * 23)))[i.val]? =
        some (productLine (e * 23) (group.productAt front i, i)) := by
    rw [List.getElem?_map, List.getElem?_zipIdx, blockAt_get (by omega) i.isLt, Nat.zero_add]
    rfl
  have length : (((blockAt group.products (e * 23) 23).zipIdx 0).map
      (productLine (e * 23))).length = 23 := by
    rw [List.length_map, List.length_zipIdx, length_blockAt (by omega)]
  constructor
  · rintro rfl
    exact ⟨length, line⟩
  · rintro ⟨sameLength, same⟩
    apply List.ext_getElem?
    intro k
    by_cases inside : k < 23
    · rw [same ⟨k, inside⟩, line ⟨k, inside⟩]
    · rw [List.getElem?_eq_none (by omega), List.getElem?_eq_none (by omega)]

theorem firstMarket_lt {e : ℕ} (front : e < 2) : e * 23 < 46 := by
  omega

/-- What is read at an expiry. -/
structure ReadAt (group : Group Key) (greeks : GroupGreeks) (account : MarginAccount)
    (expiryIndex : UInt64) (front : expiryIndex.toNat < 2) : Prop where
  series : entryOf group.expirySeries expiryIndex =
    .ok (group.expirySeries.get ⟨expiryIndex.toNat, front⟩)
  products : group.getProductsSlice expiryIndex =
    .ok (blockAt group.products (expiryIndex.toNat * 23) 23)
  marketIndex : getProductsSliceMarketIndex expiryIndex 0 = .ok (.ofNat (expiryIndex.toNat * 23))
  markPrices : greeks.getMarkPricesSlice expiryIndex =
    .ok (blockAt greeks.markPrices (expiryIndex.toNat * 23) 23)
  productGreeks : greeks.getProductGreeksSlice expiryIndex =
    .ok (blockAt greeks.productGreeks (expiryIndex.toNat * 11) 11)
  position : entryOf account.positions (.ofNat (expiryIndex.toNat * 23)) =
    .ok (account.positions.get ⟨expiryIndex.toNat * 23, firstMarket_lt front⟩)

theorem readAt {expiryIndex : UInt64} (front : expiryIndex.toNat < 2) :
    ReadAt group greeks account expiryIndex front := by
  have products : (UInt64.ofNat numProductsPerSeries).toNat = 23 := rfl
  have strikes : (UInt64.ofNat numStrikes).toNat = 11 := rfl
  constructor
  · exact entryOf_eq_ok _ front
  · rw [Group.getProductsSlice, blockOf_eq_ok _ (by rw [products]; omega) (by omega), products]
  · exact getProductsSliceMarketIndex_ofNat front (i := 0) (by omega)
  · rw [Greeks.getMarkPricesSlice, blockOf_eq_ok _ (by rw [products]; omega) (by omega), products]
  · rw [GroupGreeks.getProductGreeksSlice, blockOf_eq_ok _ (by rw [strikes]; omega) (by omega),
      strikes]
  · have market := toNat_ofNat_marketIndex (i := expiryIndex.toNat * 23) (by omega)
    rw [entryOf_eq_ok _ (by omega)]
    simp only [market]

theorem length_front {e : ℕ} (front : e < 2) :
    0 + (blockAt group.products (e * 23) 23).length ≤ 23 := by
  rw [length_blockAt (by omega), Nat.zero_add]

/-- The records in the accounts. -/
structure ReadProgramData.Hold (accounts : ReadProgramData) (group : Record.ZetaGroup)
    (account : Record.MarginAccount) (greeks : Record.Greeks) (oracle : Pyth.Price) : Prop where
  zetaGroup : Stored zetaGroupCodec group accounts.zetaGroup
  marginAccount : Stored marginAccountCodec account accounts.marginAccount
  greeks : Stored greeksCodec greeks accounts.greeks
  oracle : accounts.oracle = Pyth.priceCodec.encode oracle

/-- What a report says about the records. -/
def Report.Tells (report : Report) (unixTimestamp : Int64) (group : Record.ZetaGroup)
    (account : Record.MarginAccount) (greeks : Record.Greeks) (oracle : Pyth.Price) : Prop :=
  ∃ front : group.toGroup.frontExpiryIndex.toNat < 2,
    report.Describes unixTimestamp group.toGroup greeks.toGroupGreeks oracle.quote
      account.toMarginAccount front

/-- The index of the front expiry is widened before it is used. -/
theorem Report.tells_iff {group : Record.ZetaGroup} {account : Record.MarginAccount}
    {greeks : Record.Greeks} {oracle : Pyth.Price} :
    report.Tells unixTimestamp group account greeks oracle ↔
      ∃ front : group.toGroup.frontExpiryIndex.toUInt64.toNat < 2,
        report.Describes unixTimestamp group.toGroup greeks.toGroupGreeks oracle.quote
          account.toMarginAccount front := by
  simp only [Report.Tells, UInt8.toNat_toUInt64]

variable {accounts : ReadProgramData}

/-- A report is made where each of its parts can be read, and it says what they are. -/
theorem readProgramData_eq_ok :
    readProgramData unixTimestamp accounts = .ok report ↔
      ∃ group account greeks oracle, accounts.Hold group account greeks oracle ∧
        report.Tells unixTimestamp group account greeks oracle := by
  simp only [readProgramData, Report.tells_iff, bind_eq_ok, pure_eq_ok, orAbort_eq_ok, tryAdd_eq_ok,
    deserializeAccountInfoZerocopy_eq_ok zetaGroupCodec_plain,
    deserializeAccountInfoZerocopy_eq_ok greeksCodec_plain,
    deserializeAccountInfoZerocopy_eq_ok marginAccountCodec_plain, Pyth.getNativeOraclePrice,
    Pyth.load_eq_ok]
  constructor
  · rintro ⟨group, groupStored, series, entry, _, products, lines, written, _,
      ⟨oracle, oracleStored, price⟩, _, index, greeks, greeksStored, _, marks, _, first, _, slice,
      _, firstGreeks, account, accountStored, _, position, _, initial, _, maintenance, _, total,
      rfl⟩
    -- The series was found, so that everything else is at its place, too.
    have front : group.toGroup.frontExpiryIndex.toUInt64.toNat < 2 := by
      by_contra beyond
      rw [entryOf, dif_neg beyond] at entry
      cases entry
    have read : ReadAt group.toGroup greeks.toGroupGreeks
      account.toMarginAccount _ front := readAt front
    have market := toNat_ofNat_marketIndex
      (i := group.toGroup.frontExpiryIndex.toUInt64.toNat * 23) (by omega)
    -- What was read is what is there.
    cases read.series.symm.trans entry
    cases read.products.symm.trans products
    cases read.marketIndex.symm.trans index
    cases read.markPrices.symm.trans marks
    cases read.productGreeks.symm.trans slice
    cases read.position.symm.trans position
    cases (firstOf_blockAt _ (by omega) (by omega)).symm.trans first
    cases (firstOf_blockAt _ (by omega) (by omega)).symm.trans firstGreeks
    obtain ⟨strikes, same⟩ := (productLines_eq_ok front (length_front front)).mp written
    obtain ⟨count, line⟩ := (lines_eq_iff front).mp same
    refine ⟨group, account, greeks, oracle,
      ⟨groupStored, accountStored, greeksStored, oracleStored⟩, front, ?_⟩
    exact {
      activeTimestamp := rfl
      expiryTimestamp := rfl
      isMarketLive := rfl
      isMarketExpired := rfl
      strikes := (forall_mem_blockAt (by omega)).mp strikes
      length := count
      products := line
      oraclePrice := price
      marketIndex := market
      markPrice := rfl
      productGreeks := rfl
      balance := rfl
      position := rfl
      costOfTrades := rfl
      initial := initial
      maintenance := maintenance
      total := total }
  · rintro ⟨group, account, greeks, oracle, hold, front, described⟩
    have read : ReadAt group.toGroup greeks.toGroupGreeks
      account.toMarginAccount _ front := readAt front
    have market := toNat_ofNat_marketIndex
      (i := group.toGroup.frontExpiryIndex.toUInt64.toNat * 23) (by omega)
    refine ⟨group, hold.zetaGroup, _, read.series, _, read.products, report.products, ?_, _,
      ⟨oracle, hold.oracle, described.oraclePrice⟩, _, read.marketIndex, greeks, hold.greeks, _,
      read.markPrices, _, firstOf_blockAt _ (by omega) (by omega), _, read.productGreeks, _,
      firstOf_blockAt _ (by omega) (by omega), account, hold.marginAccount, _, read.position, _,
      described.initial, _, described.maintenance, _, described.total, ?_⟩
    · exact (productLines_eq_ok front (length_front front)).mpr
        ⟨(forall_mem_blockAt (by omega)).mpr described.strikes,
          (lines_eq_iff front).mpr ⟨described.length, described.products⟩⟩
    · -- The report has no other fields than those that are described.
      have index : report.marketIndex =
          .ofNat (group.toGroup.frontExpiryIndex.toUInt64.toNat * 23) :=
        UInt64.toNat_inj.mp (described.marketIndex.trans market.symm)
      simp only [← described.activeTimestamp, ← described.expiryTimestamp,
        ← described.isMarketLive, ← described.isMarketExpired, ← described.markPrice,
        ← described.productGreeks, ← described.balance, ← described.position,
        ← described.costOfTrades, ← index]

/-- The margin check at the reported oracle price compares what is reported, and the profit. -/
theorem reported_check {front : group.frontExpiryIndex.toUInt64.toNat < 2}
    (described : report.Describes unixTimestamp group greeks oracle account front)
    {pnl : Int64} (profit : account.getUnrealizedPnl greeks.toGreeks = .ok pnl) {sufficient : Bool}
    (checked : account.checkMarginRequirement greeks.toGreeks group.toZetaGroup
      report.oraclePrice = .ok sufficient) :
    sufficient = true ↔
      (report.totalMarginRequirement.toNat : ℤ) < report.balance.toNat + pnl.toInt := by
  have reported : account.getMarginRequirement greeks.toGreeks group.toZetaGroup
      report.oraclePrice = .ok report.totalMarginRequirement := by
    rw [MarginAccount.getMarginRequirement, described.initial, described.maintenance]
    exact (tryAdd_eq_ok ..).mpr described.total
  simp only [MarginAccount.checkMarginRequirement, bind_eq_ok, pure_eq_ok, tryInt64_eq_ok,
    tryAddInt64_eq_ok, trySubInt64_eq_ok] at checked
  obtain ⟨_, same, _, required, requirement, narrowed, balance, balanced, covered, covers, buffer,
    buffered, rfl⟩ := checked
  -- None of the steps wraps, so that the comparison is one of integers.
  cases profit.symm.trans same
  cases reported.symm.trans required
  rw [decide_eq_true_iff, Int64.lt_iff_toInt_lt, Int64.toInt_zero, described.balance]
  omega

/-- The lengths decide which accounts hold records, and no account can take the place of one of
another kind. -/
theorem ReadProgramData.exists_hold_iff :
    (∃ group account greeks oracle, accounts.Hold group account greeks oracle) ↔
      accounts.zetaGroup.length = 7704 ∧ accounts.marginAccount.length = 6152 ∧
        accounts.greeks.length = 10240 ∧ accounts.oracle.length = 3312 := by
  have group : _ ↔ accounts.zetaGroup.length = 7704 := exists_stored_iff zetaGroupCodec_plain
  have account : _ ↔ accounts.marginAccount.length = 6152 :=
    exists_stored_iff marginAccountCodec_plain
  have greeks : _ ↔ accounts.greeks.length = 10240 := exists_stored_iff greeksCodec_plain
  have oracle : _ ↔ accounts.oracle.length = 3312 := Pyth.priceCodec_plain.exists_encode
  rw [← group, ← account, ← greeks, ← oracle]
  constructor
  · rintro ⟨group, account, greeks, oracle, hold⟩
    exact ⟨⟨group, hold.zetaGroup⟩, ⟨account, hold.marginAccount⟩, ⟨greeks, hold.greeks⟩,
      ⟨oracle, hold.oracle⟩⟩
  · rintro ⟨⟨group, first⟩, ⟨account, second⟩, ⟨greeks, third⟩, ⟨oracle, fourth⟩⟩
    exact ⟨group, account, greeks, oracle, ⟨first, second, third, fourth⟩⟩

/-- A report is made exactly where the accounts hold records, the front expiry has its place, all
its strikes are set and no part overflows; the four lengths alone decide whether they hold records.
The report then says what the records hold, and its total is what the margin check asks of the
balance and the profit. -/
theorem report_told :
    (readProgramData unixTimestamp accounts = .ok report ↔
      ∃ group account greeks oracle, accounts.Hold group account greeks oracle ∧
        report.Tells unixTimestamp group account greeks oracle) ∧
    ((∃ group account greeks oracle, accounts.Hold group account greeks oracle) ↔
      accounts.zetaGroup.length = 7704 ∧ accounts.marginAccount.length = 6152 ∧
        accounts.greeks.length = 10240 ∧ accounts.oracle.length = 3312) ∧
    ∀ group account greeks oracle, report.Tells unixTimestamp group account greeks oracle →
      ∀ pnl sufficient,
        account.toMarginAccount.getUnrealizedPnl greeks.toGroupGreeks.toGreeks = .ok pnl →
        account.toMarginAccount.checkMarginRequirement greeks.toGroupGreeks.toGreeks
          group.toGroup.toZetaGroup report.oraclePrice = .ok sufficient →
        (sufficient = true ↔
          (report.totalMarginRequirement.toNat : ℤ) < report.balance.toNat + pnl.toInt) := by
  refine ⟨readProgramData_eq_ok, ReadProgramData.exists_hold_iff, ?_⟩
  intro group account greeks oracle told pnl sufficient profit checked
  obtain ⟨_, described⟩ := Report.tells_iff.mp told
  exact reported_check described profit checked

/-! The second expiry of a group is in front, and an account with two bids reads it. -/

def restingGroup : Record.ZetaGroup where
  nonce := 255
  vaultNonce := 255
  insuranceVaultNonce := 255
  frontExpiryIndex := 1
  -- Nobody reads the state of the halt, whatever its first word is.
  haltState := ⟨2, 0, 0, .replicate 2 0, .replicate 4 0, .replicate 2 0, .replicate 4 0,
    .replicate 46 0, .replicate 92 0⟩
  underlyingMint := .replicate 32 0
  oracle := .replicate 32 0
  greeks := .replicate 32 0
  pricingParameters := ⟨⟨0, 0, 0, 0⟩, ⟨0, 0, 0, 0⟩, ⟨0, 0, 0, 0⟩, ⟨0, 0, 0, 0⟩, 0, 0,
    .replicate 32 0⟩
  marginParameters := ⟨platformParameters 50000000, .replicate 32 0⟩
  products := .replicate 46 ⟨.replicate 32 0, ⟨1, 900000⟩, 0, 3⟩
  productsPadding := .replicate 92 ⟨.replicate 32 0, ⟨0, 0⟩, 0, 0⟩
  expirySeries := .replicate 2 ⟨50, 150, 0, .replicate 15 0⟩
  expirySeriesPadding := .replicate 4 ⟨0, 0, 0, .replicate 15 0⟩
  totalInsuranceVaultDeposits := 0
  padding := .replicate 1063 0

def restingGreeks : Record.Greeks where
  nonce := 255
  markPrices := .replicate 46 0
  markPricesPadding := .replicate 92 0
  productGreeks := .replicate 22 ⟨⟨0⟩, ⟨0, 0, 0, 0⟩, ⟨0, 0, 0, 0⟩⟩
  productGreeksPadding := .replicate 44 ⟨⟨0⟩, ⟨0, 0, 0, 0⟩, ⟨0, 0, 0, 0⟩⟩
  updateTimestamp := .replicate 2 0
  updateTimestampPadding := .replicate 4 0
  retreatExpirationTimestamp := .replicate 2 0
  retreatExpirationTimestampPadding := .replicate 4 0
  interestRate := .replicate 2 0
  interestRatePadding := .replicate 4 0
  nodes := .replicate 5 0
  volatility := .replicate 10 0
  volatilityPadding := .replicate 20 0
  nodeKeys := .replicate 138 (.replicate 32 0)
  padding := .replicate 1647 0

def biddingAccount : Record.MarginAccount where
  authority := .replicate 32 0
  nonce := 255
  balance := 1
  forceCancelFlag := 0
  openOrdersNonce := .replicate 138 0
  seriesExpiry := .replicate 6 0
  positions := .ofFn fun i => ⟨⟨0, 0, .ofFn ![if i.val < 2 then 1000 else 0, 0]⟩, 0⟩
  positionsPadding := .replicate 92 ⟨⟨0, 0, .replicate 2 0⟩, 0⟩
  rebalanceAmount := 0
  padding := .replicate 388 0

/-- One dollar. -/
def dollarPrice : Pyth.Price where
  magic := 0
  ver := 2
  atype := 3
  size := 3312
  ptype := 1
  expo := -8
  num := 0
  unused := 0
  currSlot := 0
  validSlot := 0
  twap := 0
  avol := 0
  drv0 := 0
  drv1 := 0
  drv2 := 0
  drv3 := 0
  drv4 := 0
  drv5 := 0
  prod := ⟨.replicate 32 0⟩
  next := ⟨.replicate 32 0⟩
  aggPub := ⟨.replicate 32 0⟩
  agg := ⟨100000000, 0, 1, 0, 0⟩
  comp := .replicate 32 ⟨⟨.replicate 32 0⟩, ⟨0, 0, 0, 0, 0⟩, ⟨0, 0, 0, 0, 0⟩⟩

theorem restingGroup_wellTyped (marginAccount : List UInt8) :
    WellTyped restingGroup marginAccount where
  strikes := by decide +kernel
  kinds i _ := by
    have quoted : ∀ i, (restingGroup.products.get i).kind ≤ 3 := by decide +kernel
    exact quoted i
  dirty := by decide +kernel

def restingAccounts : ReadProgramData where
  zetaGroup := List.replicate 8 1 ++ zetaGroupCodec.encode restingGroup
  marginAccount := List.replicate 8 2 ++ marginAccountCodec.encode biddingAccount
  greeks := List.replicate 8 3 ++ greeksCodec.encode restingGreeks
  oracle := Pyth.priceCodec.encode dollarPrice
  wellTyped := by
    intro group stored
    rw [stored.unique ⟨_, List.length_replicate, rfl⟩]
    exact restingGroup_wellTyped _

def bidderReport : Report where
  activeTimestamp := 50
  expiryTimestamp := 150
  isMarketLive := true
  isMarketExpired := false
  products := (List.range 23).map fun i => ⟨.ofNat (23 + i), 900000, .future⟩
  oraclePrice := 1000000
  marketIndex := 23
  markPrice := 0
  productGreeks := ⟨⟨0⟩, ⟨0, 0, 0, 0⟩, ⟨0, 0, 0, 0⟩⟩
  balance := 1
  position := 0
  costOfTrades := 0
  initialMarginRequirement := 300000
  maintenanceMarginRequirement := 0
  totalMarginRequirement := 300000

theorem restingAccounts_hold :
    restingAccounts.Hold restingGroup biddingAccount restingGreeks dollarPrice where
  zetaGroup := ⟨_, List.length_replicate, rfl⟩
  marginAccount := ⟨_, List.length_replicate, rfl⟩
  greeks := ⟨_, List.length_replicate, rfl⟩
  oracle := rfl

theorem restingGroup_front : restingGroup.toGroup.frontExpiryIndex.toNat < 2 := by decide

theorem bidderReport_tells :
    bidderReport.Tells 120 restingGroup biddingAccount restingGreeks dollarPrice := by
  refine ⟨restingGroup_front, ?_⟩
  exact {
    activeTimestamp := by decide +kernel
    expiryTimestamp := by decide +kernel
    isMarketLive := by decide +kernel
    isMarketExpired := by decide +kernel
    strikes := by decide +kernel
    length := by decide
    products := by decide +kernel
    oraclePrice := eq_ok_of_toOption (by decide +kernel)
    marketIndex := by decide
    markPrice := by decide +kernel
    productGreeks := by decide +kernel
    balance := by decide
    position := by decide +kernel
    costOfTrades := by decide +kernel
    initial := eq_ok_of_toOption (by decide +kernel)
    maintenance := eq_ok_of_toOption (by decide +kernel)
    total := by decide }

theorem report_told_bidder :
    readProgramData 120 restingAccounts = .ok bidderReport ∧
      restingAccounts.zetaGroup.length = 7704 ∧
      (false = true ↔
        (bidderReport.totalMarginRequirement.toNat : ℤ) <
          bidderReport.balance.toNat + (0 : Int64).toInt) :=
  have returned : readProgramData 120 restingAccounts = .ok bidderReport :=
    report_told.1.mpr ⟨_, _, _, _, restingAccounts_hold, bidderReport_tells⟩
  ⟨returned, ((@report_told 120 bidderReport restingAccounts).2.1.mp
      ⟨_, _, _, _, restingAccounts_hold⟩).1,
    (@report_told 120 bidderReport restingAccounts).2.2 _ _ _ _ bidderReport_tells 0 false
      (eq_ok_of_toOption (by decide +kernel)) (eq_ok_of_toOption (by decide +kernel))⟩

end JetVault.Zeta
