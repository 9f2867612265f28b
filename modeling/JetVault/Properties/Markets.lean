import JetVault.Zeta.Group

/-!
# Finding markets

Every product has a place: an expiry, and an index into the slice of that expiry. Going from the
place to the market index and from the key of the market back by binary search gives the place
again, where the keys of the products are in order.
-/
namespace JetVault.Zeta

open BinarySearch Fallible FixedWidth

variable {α Key : Type}

/-! ## Places -/

/-- An array's part for one index. -/
def blockAt {n : ℕ} (array : Vector α n) (head width : ℕ) : List α :=
  (array.toList.take (head + width)).drop head

theorem blockAt_get {n head width k : ℕ} {array : Vector α n} (fits : head + width ≤ n)
    (inside : k < width) :
    (blockAt array head width)[k]? = some (array.get ⟨head + k, by omega⟩) := by
  rw [blockAt, List.getElem?_drop, List.getElem?_take, if_pos (by omega),
    List.getElem?_eq_getElem (by rw [Vector.length_toList]; omega)]
  rfl

/-- Inside the array nothing wraps. -/
theorem blockOf_eq_ok {n : ℕ} (array : Vector α n) {width index : UInt64}
    (fits : index.toNat * width.toNat + width.toNat ≤ n) (short : n < 2 ^ 64) :
    blockOf array width index = .ok (blockAt array (index.toNat * width.toNat) width.toNat) := by
  have head : (index * width).toNat = index.toNat * width.toNat :=
    toNat_mul_of_lt index width (by omega)
  have stop : (index * width + width).toNat = index.toNat * width.toNat + width.toNat := by
    rw [UInt64.toNat_add, head, Nat.mod_eq_of_lt (by omega)]
  simp only [blockOf, UInt64.le_iff_toNat_le, head, stop]
  rw [if_pos ⟨by omega, fits⟩, blockAt]

theorem entryOf_eq_ok {n : ℕ} (array : Vector α n) {index : UInt64} (inside : index.toNat < n) :
    entryOf array index = .ok (array.get ⟨index.toNat, inside⟩) :=
  dif_pos inside

/-- A market index with its place. -/
structure Place (marketIndex expiryIndex productIndex : UInt64) : Prop where
  expiry : expiryIndex.toNat < 2
  product : productIndex.toNat < 23
  market : marketIndex.toNat = expiryIndex.toNat * 23 + productIndex.toNat

namespace Place

variable {marketIndex expiryIndex productIndex : UInt64}

theorem lt (place : Place marketIndex expiryIndex productIndex) : marketIndex.toNat < 46 := by
  have expiry := place.expiry
  have product := place.product
  have market := place.market
  omega

/-- The functions that go from one to the other. -/
theorem indexes (place : Place marketIndex expiryIndex productIndex) :
    getProductsSliceMarketIndex expiryIndex productIndex = .ok marketIndex ∧
      Group.getExpiryIndexByProductIndex marketIndex = .ok expiryIndex := by
  have expiry := place.expiry
  have product := place.product
  have market := place.market
  have width : (UInt64.ofNat numProductsPerSeries).toNat = 23 := by decide
  constructor
  · obtain ⟨head, value⟩ := exists_toNat (n := expiryIndex.toNat * 23) (by omega)
    rw [getProductsSliceMarketIndex, bind_eq_ok]
    refine ⟨head, (tryMul_eq_ok ..).mpr ?_, (tryAdd_eq_ok ..).mpr ?_⟩
    · rw [value, width]
    · rw [value, market]
  · have quotient : marketIndex / UInt64.ofNat numProductsPerSeries = expiryIndex := by
      rw [← UInt64.toNat_inj, UInt64.toNat_div, width, market]
      omega
    simp only [Group.getExpiryIndexByProductIndex, bind_eq_ok, refuseIf_eq_ok, tryDiv_eq_ok,
      pure_eq_ok, not_not]
    exact ⟨(), place.lt, _, ⟨by rw [width]; omega, rfl⟩, (), by rw [quotient]; exact expiry,
      quotient⟩

/-- The product in the slice is the one at the market index. -/
theorem products (place : Place marketIndex expiryIndex productIndex) (group : Group Key) :
    ∃ products, group.getProductsSlice expiryIndex = .ok products ∧
      products[productIndex.toNat]? = some (group.products.get ⟨marketIndex.toNat, place.lt⟩) := by
  have expiry := place.expiry
  have width : (UInt64.ofNat numProductsPerSeries).toNat = 23 := by decide
  refine ⟨_, blockOf_eq_ok group.products (by rw [width]; omega) (by decide), ?_⟩
  simp only [width]
  rw [blockAt_get (by omega) place.product]
  simp only [place.market]

end Place

/-- Every market index has a place. -/
theorem exists_place {marketIndex : UInt64} (inside : marketIndex.toNat < 46) :
    ∃ expiryIndex productIndex, Place marketIndex expiryIndex productIndex := by
  obtain ⟨expiryIndex, expiry⟩ := exists_toNat (n := marketIndex.toNat / 23) (by omega)
  obtain ⟨productIndex, product⟩ := exists_toNat (n := marketIndex.toNat % 23) (by omega)
  exact ⟨expiryIndex, productIndex, by omega, by omega, by omega⟩

/-! ## Keys -/

variable [LinearOrder Key] {group : Group Key}

/-- The keys of the markets ascend over all products. -/
def Group.Sorted (group : Group Key) : Prop :=
  StrictMono fun i => (group.products.get i).market

/-- The three searches answer for the product of one place. -/
structure Located (group : Group Key) (market : Key)
    (marketIndex expiryIndex productIndex : UInt64) : Prop where
  place : Place marketIndex expiryIndex productIndex
  key : (group.products.get ⟨marketIndex.toNat, place.lt⟩).market = market
  product : group.getProductIndexByKey market = .ok marketIndex
  productAndExpiry : group.getProductAndExpiryIndexByKey market = .ok (marketIndex, expiryIndex)
  series : group.getExpirySeriesByKey market =
    .ok (group.expirySeries.get ⟨expiryIndex.toNat, place.expiry⟩)

theorem searchByMarket_iff (sorted : group.Sorted) (market : Key) (i : Fin 46) :
    group.searchByMarket market = .ok i ↔ (group.products.get i).market = market :=
  search_key_iff sorted i

theorem located_of_found {market : Key} {marketIndex expiryIndex productIndex : UInt64}
    (place : Place marketIndex expiryIndex productIndex)
    (found : group.searchByMarket market = .ok ⟨marketIndex.toNat, place.lt⟩) :
    Located group market marketIndex expiryIndex productIndex := by
  obtain ⟨_, expiry⟩ := place.indexes
  refine ⟨place, compare_eq_iff_eq.mp (search_ok found), ?_, ?_, ?_⟩
  · simp only [Group.getProductIndexByKey, found, UInt64.ofNat_toNat]
  · simp only [Group.getProductAndExpiryIndexByKey, found, UInt64.ofNat_toNat, expiry]
    rfl
  · simp only [Group.getExpirySeriesByKey, found, UInt64.ofNat_toNat,
      Group.getExpirySeriesByProductIndex, expiry]
    exact entryOf_eq_ok group.expirySeries place.expiry

/-- The searches find the products, each at its own place, and refuse every other key; the place
found is the one from which the market index and the slice lead to the product. -/
theorem markets_found (sorted : group.Sorted) :
    (∀ expiryIndex productIndex : UInt64, expiryIndex.toNat < 2 → productIndex.toNat < 23 →
        ∃ marketIndex products product,
          getProductsSliceMarketIndex expiryIndex productIndex = .ok marketIndex ∧
          group.getProductsSlice expiryIndex = .ok products ∧
          products[productIndex.toNat]? = some product ∧
          Located group product.market marketIndex expiryIndex productIndex) ∧
      ∀ market : Key,
        (∃ marketIndex expiryIndex productIndex,
            Located group market marketIndex expiryIndex productIndex) ∨
          (∀ i, (group.products.get i).market ≠ market) ∧
            group.getProductIndexByKey market = .error (.program .invalidProductMarketKey) ∧
            group.getProductAndExpiryIndexByKey market =
              .error (.program .invalidProductMarketKey) ∧
            group.getExpirySeriesByKey market = .error (.program .invalidProductMarketKey) := by
  constructor
  · intro expiryIndex productIndex expiry product
    obtain ⟨marketIndex, value⟩ := exists_toNat (n := expiryIndex.toNat * 23 + productIndex.toNat)
      (by omega)
    have place : Place marketIndex expiryIndex productIndex := ⟨expiry, product, value⟩
    obtain ⟨products, slice, entry⟩ := place.products group
    refine ⟨marketIndex, products, _, place.indexes.1, slice, entry, ?_⟩
    exact located_of_found place ((searchByMarket_iff sorted _ _).mpr rfl)
  · intro market
    -- All three start with the same search.
    cases found : group.searchByMarket market with
    | ok i =>
      left
      obtain ⟨marketIndex, value⟩ := exists_toNat (n := i.val) (by omega)
      obtain ⟨expiryIndex, productIndex, place⟩ := exists_place (value ▸ i.isLt)
      have index : i = ⟨marketIndex.toNat, place.lt⟩ := Fin.ext value.symm
      rw [index] at found
      exact ⟨marketIndex, expiryIndex, productIndex, located_of_found place found⟩
    | error k =>
      right
      refine ⟨?_, ?_, ?_, ?_⟩
      · intro i listed
        rw [(searchByMarket_iff sorted market i).mpr listed] at found
        cases found
      · rw [Group.getProductIndexByKey, found]
      · rw [Group.getProductAndExpiryIndexByKey, found]
      · rw [Group.getExpirySeriesByKey, found]

/-- Products at the keys 0 to 45. -/
def numberedGroup : Group ℕ where
  frontExpiryIndex := 1
  marginParameters := platformParameters 50000000
  products := Vector.ofFn fun i => ⟨⟨⟨true, 900000⟩, .future⟩, i.val⟩
  expirySeries := #v[⟨⟨200⟩, 100, false⟩, ⟨⟨150⟩, 50, false⟩]

theorem numberedGroup_sorted : numberedGroup.Sorted := by
  intro i j less
  have numbered : ∀ i, (numberedGroup.products.get i).market = i.val := by decide
  simp only [numbered]
  exact less

theorem markets_found_numbered :
    (∀ expiryIndex productIndex : UInt64, expiryIndex.toNat < 2 → productIndex.toNat < 23 →
        ∃ marketIndex products product,
          getProductsSliceMarketIndex expiryIndex productIndex = .ok marketIndex ∧
          numberedGroup.getProductsSlice expiryIndex = .ok products ∧
          products[productIndex.toNat]? = some product ∧
          Located numberedGroup product.market marketIndex expiryIndex productIndex) ∧
      ∀ market : ℕ,
        (∃ marketIndex expiryIndex productIndex,
            Located numberedGroup market marketIndex expiryIndex productIndex) ∨
          (∀ i, (numberedGroup.products.get i).market ≠ market) ∧
            numberedGroup.getProductIndexByKey market =
              .error (.program .invalidProductMarketKey) ∧
            numberedGroup.getProductAndExpiryIndexByKey market =
              .error (.program .invalidProductMarketKey) ∧
            numberedGroup.getExpirySeriesByKey market =
              .error (.program .invalidProductMarketKey) :=
  markets_found numberedGroup_sorted

/-! ## The life of an expiry -/

/-- The numbers that the source gives to the states. -/
def ExpirySeriesStatus.number : ExpirySeriesStatus → ℕ
  | .uninitialized => 0
  | .initialized => 1
  | .live => 2
  | .expired => 3
  | .expiredDirty => 4

/-- Set up, not waiting to be cleaned, and active but not expired at a time. -/
structure Series.Trading (series : Series) (unixTimestamp : Int64) : Prop where
  clean : series.dirty = false
  active : 0 < series.activeTs.toNat
  started : series.activeTs.toNat ≤ unixTimestamp.toInt
  ends : unixTimestamp.toInt < series.expiryTs.toNat

variable {series : Series} {unixTimestamp : Int64}

theorem Series.status_eq_live_iff (future : 0 ≤ unixTimestamp) :
    series.status unixTimestamp = .live ↔ series.Trading unixTimestamp := by
  have positive : 0 ≤ unixTimestamp.toInt := by
    rwa [Int64.le_iff_toInt_le, Int64.toInt_zero] at future
  have cast := toNat_toUInt64 positive
  simp only [Series.status, UInt64.lt_iff_toNat_lt, UInt64.le_iff_toNat_le, ← UInt64.toNat_inj,
    UInt64.toNat_zero]
  constructor
  · intro live
    split at live
    · cases live
    next set_ =>
      split at live
      · cases live
      next clean =>
        split at live
        · cases live
        · split at live
          next within => exact ⟨by simpa using clean, by omega, by omega, by omega⟩
          next => cases live
  · rintro ⟨clean, active, started, ends⟩
    rw [if_neg (by omega), clean, if_neg (by decide), if_neg (by omega), if_pos (by omega)]

/-- The states of an expiry are passed in the order of their numbers. -/
theorem Series.status_mono {earlier later : Int64} (future : 0 ≤ earlier)
    (passes : earlier ≤ later) :
    (series.status earlier).number ≤ (series.status later).number := by
  have positive : 0 ≤ earlier.toInt := by
    rwa [Int64.le_iff_toInt_le, Int64.toInt_zero] at future
  rw [Int64.le_iff_toInt_le] at passes
  have cast := toNat_toUInt64 positive
  have cast' := toNat_toUInt64 (positive.trans passes)
  -- What is behind the clock once stays behind it.
  simp only [Series.status, UInt64.lt_iff_toNat_lt, UInt64.le_iff_toNat_le]
  split_ifs
  all_goals simp only [ExpirySeriesStatus.number]
  all_goals omega

omit [LinearOrder Key] in
/-- The outcome of the check, for an expiry that exists. -/
theorem validateSeriesTradeable_eq {expiryIndex : UInt64} (expiry : expiryIndex.toNat < 2)
    (currentTimestamp : UInt64) :
    group.validateSeriesTradeable unixTimestamp expiryIndex currentTimestamp =
      if (group.expirySeries.get ⟨expiryIndex.toNat, expiry⟩).status unixTimestamp = .live then
        if (group.products.get ⟨expiryIndex.toNat * 23, by omega⟩).strike.isSet then .ok ()
        else .error (.program .productStrikeUninitialized)
      else .error (.program .marketNotLive) := by
  have head : (expiryIndex * 23).toNat = expiryIndex.toNat * 23 :=
    toNat_mul_of_lt expiryIndex 23 (by simp; omega)
  have place : Place (expiryIndex * 23) expiryIndex 0 := ⟨expiry, by decide, head⟩
  obtain ⟨products, slice, entry⟩ := place.products group
  cases products with
  | nil => cases entry
  | cons first rest =>
    cases Option.some.inj entry
    rw [Group.validateSeriesTradeable, entryOf_eq_ok group.expirySeries expiry]
    by_cases live : (group.expirySeries.get ⟨expiryIndex.toNat, expiry⟩).status unixTimestamp =
        .live
    · rw [if_pos live]
      simp only [bind, Except.bind, refuseIf, live, slice, head, ne_eq, not_true, if_false]
      cases (group.products.get ⟨expiryIndex.toNat * 23, by omega⟩).strike.isSet with
      | false => rfl
      | true => rfl
    · rw [if_neg live]
      simp [bind, Except.bind, refuseIf, live]

omit [LinearOrder Key] in
/-- Over time an expiry passes its states in order. Its products can be traded exactly while it is
trading, if the first strike is set, whatever timestamp the caller passes; once they no longer can
be, they never can be again. -/
theorem tradeable_window {expiryIndex : UInt64} (expiry : expiryIndex.toNat < 2) :
    (∀ earlier later : Int64, 0 ≤ earlier → earlier ≤ later →
        ((group.expirySeries.get ⟨expiryIndex.toNat, expiry⟩).status earlier).number ≤
          ((group.expirySeries.get ⟨expiryIndex.toNat, expiry⟩).status later).number) ∧
      (∀ (now : Int64) (currentTimestamp : UInt64), 0 ≤ now →
        (group.validateSeriesTradeable now expiryIndex currentTimestamp = .ok () ↔
          (group.expirySeries.get ⟨expiryIndex.toNat, expiry⟩).Trading now ∧
            (group.products.get ⟨expiryIndex.toNat * 23, by omega⟩).strike.isSet = true)) ∧
      ∀ (open_ closed later : Int64) (t t' t'' : UInt64), 0 ≤ open_ → open_ ≤ closed →
        closed ≤ later → group.validateSeriesTradeable open_ expiryIndex t = .ok () →
        group.validateSeriesTradeable closed expiryIndex t' ≠ .ok () →
        group.validateSeriesTradeable later expiryIndex t'' =
          .error (.program .marketNotLive) := by
  have tradeable : ∀ (now : Int64) (currentTimestamp : UInt64), 0 ≤ now →
      (group.validateSeriesTradeable now expiryIndex currentTimestamp = .ok () ↔
        (group.expirySeries.get ⟨expiryIndex.toNat, expiry⟩).Trading now ∧
          (group.products.get ⟨expiryIndex.toNat * 23, by omega⟩).strike.isSet = true) := by
    intro now currentTimestamp future
    rw [validateSeriesTradeable_eq expiry, ← Series.status_eq_live_iff future]
    split
    next live => split <;> simp_all
    next waiting => simp [waiting]
  refine ⟨fun _ _ => Series.status_mono, tradeable, ?_⟩
  intro open_ closed later t t' t'' future passes passes' traded refused
  have future' := Int64.le_trans future passes
  obtain ⟨trading, set_⟩ := (tradeable open_ t future).mp traded
  -- The strike was set when it traded, so that a refusal can only mean that the series has ended.
  have ended : ¬ (group.expirySeries.get ⟨expiryIndex.toNat, expiry⟩).Trading closed := by
    intro trading'
    exact refused ((tradeable closed t' future').mpr ⟨trading', set_⟩)
  rw [validateSeriesTradeable_eq expiry, if_neg]
  rw [Series.status_eq_live_iff (Int64.le_trans future' passes')]
  intro trading'
  rw [Int64.le_iff_toInt_le] at passes passes'
  exact ended ⟨trading.clean, trading.active, trading.started.trans passes,
    lt_of_le_of_lt passes' trading'.ends⟩

/-- The first expiry of the numbered group trades from 100 to 200. -/
theorem tradeable_window_numbered :
    (∀ earlier later : Int64, 0 ≤ earlier → earlier ≤ later →
        ((numberedGroup.expirySeries.get 0).status earlier).number ≤
          ((numberedGroup.expirySeries.get 0).status later).number) ∧
      (∀ (now : Int64) (currentTimestamp : UInt64), 0 ≤ now →
        (numberedGroup.validateSeriesTradeable now 0 currentTimestamp = .ok () ↔
          (numberedGroup.expirySeries.get 0).Trading now ∧
            (numberedGroup.products.get 0).strike.isSet = true)) ∧
      ∀ (open_ closed later : Int64) (t t' t'' : UInt64), 0 ≤ open_ → open_ ≤ closed →
        closed ≤ later → numberedGroup.validateSeriesTradeable open_ 0 t = .ok () →
        numberedGroup.validateSeriesTradeable closed 0 t' ≠ .ok () →
        numberedGroup.validateSeriesTradeable later 0 t'' = .error (.program .marketNotLive) :=
  tradeable_window (by decide : (0 : UInt64).toNat < 2)

end JetVault.Zeta
