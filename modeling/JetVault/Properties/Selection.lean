import JetVault.Vault.Market

/-!
# The closest market

Both loops of the instrument selection look for the entry closest to a target, and both keep
comparing with the first entry. They pick the last entry that is closer than the first. This
module gives the exact arrays on which that is a closest one.
-/
namespace JetVault

open Fallible FixedWidth Scan
open Zeta (ExpirySeries ProductGreeks numStrikes numProductsPerSeries pricingPrecision)

def expiryDistances (unixWeek : UInt64) (expirySeries : List ExpirySeries) : List ℕ :=
  expirySeries.map fun t => distance unixWeek.toNat t.expiryTs.toNat

/-- The distances of the strikes of expiry `e` from `delta` percent. -/
def deltaDistances (delta : UInt8) (productGreeks : List ProductGreeks) (e : ℕ) : List ℕ :=
  ((productGreeks.drop (e * numStrikes)).take numStrikes).map fun g =>
    distance (delta.toNat * 10 ^ pricingPrecision) g.delta.toNat

variable {expirySeries : List ExpirySeries} {productGreeks : List ProductGreeks} {delta : UInt8}

/-- The put of a closest strike of a closest expiry. -/
def ClosestMarket (unixWeek : UInt64) (expirySeries : List ExpirySeries)
    (productGreeks : List ProductGreeks) (delta : UInt8) (marketIndex : ℕ) : Prop :=
  ∃ e k, marketIndex = e * numProductsPerSeries + numStrikes + k ∧
    SmallestAt (expiryDistances unixWeek expirySeries) e ∧
    SmallestAt (deltaDistances delta productGreeks e) k

/-- The accounts have an expiry, and greeks for all strikes of every expiry. -/
structure Listed (expirySeries : List ExpirySeries) (productGreeks : List ProductGreeks) :
    Prop where
  series : 0 < expirySeries.length
  strikes : expirySeries.length * numStrikes ≤ productGreeks.length

theorem length_deltaDistances (delta : UInt8) (listed : Listed expirySeries productGreeks)
    {e : ℕ} (inside : e < expirySeries.length) :
    e * numStrikes + numStrikes ≤ productGreeks.length ∧
      (deltaDistances delta productGreeks e).length = numStrikes := by
  have strikes := listed.strikes
  simp only [deltaDistances, List.length_map, List.length_take, List.length_drop, numStrikes]
    at strikes ⊢
  omega

theorem nativeDelta_toNat (percent : delta ≤ 100) :
    ∃ nativeDelta, tryMul Failure.abort delta.toUInt64 (.ofNat (10 ^ pricingPrecision)) =
        .ok nativeDelta ∧ nativeDelta.toNat = delta.toNat * 10 ^ pricingPrecision := by
  have small : delta.toNat ≤ 100 := UInt8.le_iff_toNat_le.mp percent
  obtain ⟨nativeDelta, value⟩ := exists_toNat (n := delta.toNat * 10 ^ pricingPrecision)
    (by simp only [pricingPrecision]; omega)
  refine ⟨nativeDelta, (tryMul_eq_ok ..).mpr ?_, value⟩
  rw [value, UInt8.toNat_toUInt64, UInt64.toNat_ofNat', Nat.mod_eq_of_lt (by decide)]

/-- One loop, with the entry that it starts from. -/
theorem exists_lastImproving {α : Type} {entries : List α} (nonempty : 0 < entries.length)
    (cost : α → ℕ) : ∃ first, entryAt entries 0 = .ok first ∧
      LastImproving (entries.map cost) (lastBelow (cost first) (entries.map cost)) := by
  obtain ⟨first, rest, rfl⟩ := List.exists_cons_of_length_pos nonempty
  exact ⟨first, rfl, lastBelow_lastImproving rfl⟩

/-- Both loops run to the end, each to the last entry closer than the first. -/
theorem validateMarket_ok (unixWeek : UInt64) (listed : Listed expirySeries productGreeks)
    (percent : delta ≤ 100) :
    ∃ e k, validateMarket unixWeek expirySeries productGreeks delta =
        .ok (e * numProductsPerSeries + numStrikes + k) ∧
      LastImproving (expiryDistances unixWeek expirySeries) e ∧
      LastImproving (deltaDistances delta productGreeks e) k := by
  obtain ⟨nativeDelta, scaled, value⟩ := nativeDelta_toNat percent
  obtain ⟨firstExpiry, firstRead, expiry⟩ := exists_lastImproving listed.series
    fun t => unsignedAbsDiff unixWeek t.expiryTs
  have inside := expiry.lt_length (by simpa using List.length_pos_iff.mp listed.series)
  rw [List.length_map] at inside
  obtain ⟨fits, strikes⟩ := length_deltaDistances delta listed inside
  rw [deltaDistances, List.length_map] at strikes
  obtain ⟨firstGreeks, greeksRead, strike⟩ := exists_lastImproving
    (lt_of_lt_of_eq (by decide : 0 < numStrikes) strikes.symm)
    fun g => unsignedAbsDiff nativeDelta g.delta
  have accepted : refuseIf (¬ delta ≤ 100) Failure.abort = .ok () :=
    (refuseIf_eq_ok ..).mpr (not_not.mpr percent)
  refine ⟨_, _, ?_, expiry, by rw [deltaDistances, ← value]; exact strike⟩
  simp only [validateMarket, bind_eq_ok, getProductGreeksSlice, pure_eq_ok]
  exact ⟨(), accepted, nativeDelta, scaled, firstExpiry, firstRead, _, if_pos fits, firstGreeks,
    greeksRead, rfl⟩

/-- A market index has one expiry and one strike. -/
theorem marketIndex_inj {e k e' k' : ℕ} (strike : k < numStrikes) (strike' : k' < numStrikes)
    (same : e * numProductsPerSeries + numStrikes + k =
      e' * numProductsPerSeries + numStrikes + k') : e = e' ∧ k = k' := by
  simp only [numProductsPerSeries, numStrikes] at same strike strike'
  omega

/-- The selected market is a closest one exactly when, both among the expiries and among the
strikes of the last expiry closer than the first, each entry closer than the first is closest or
is followed by another. -/
theorem validateMarket_closest_iff (unixWeek : UInt64)
    (listed : Listed expirySeries productGreeks) (percent : delta ≤ 100) :
    ∃ marketIndex,
      validateMarket unixWeek expirySeries productGreeks delta = .ok marketIndex ∧
      (ClosestMarket unixWeek expirySeries productGreeks delta marketIndex ↔
        Settles (expiryDistances unixWeek expirySeries) ∧
          ∀ e, LastImproving (expiryDistances unixWeek expirySeries) e →
            Settles (deltaDistances delta productGreeks e)) := by
  obtain ⟨e, k, selected, expiry, strike⟩ := validateMarket_ok unixWeek listed percent
  have series : expiryDistances unixWeek expirySeries ≠ [] := by
    simpa [expiryDistances] using List.length_pos_iff.mp listed.series
  have length : ∀ {e}, e < (expiryDistances unixWeek expirySeries).length →
      (deltaDistances delta productGreeks e).length = numStrikes := by
    intro e inside
    rw [expiryDistances, List.length_map] at inside
    exact (length_deltaDistances delta listed inside).2
  have strikes := length (expiry.lt_length series)
  have nonempty : deltaDistances delta productGreeks e ≠ [] :=
    List.length_pos_iff.mp (lt_of_lt_of_eq (by decide : 0 < numStrikes) strikes.symm)
  refine ⟨_, selected, ?_⟩
  constructor
  · rintro ⟨e', k', same, smallest, smallest'⟩
    have bound := lt_of_lt_of_eq (strike.lt_length nonempty) strikes
    have bound' := lt_of_lt_of_eq smallest'.lt_length (length smallest.lt_length)
    obtain ⟨rfl, rfl⟩ := marketIndex_inj bound bound' same
    refine ⟨(expiry.smallestAt_iff series).mp smallest, ?_⟩
    intro e' expiry'
    rw [expiry'.unique expiry]
    exact (strike.smallestAt_iff nonempty).mp smallest'
  · rintro ⟨settles, settlesAt⟩
    exact ⟨e, k, rfl, (expiry.smallestAt_iff series).mpr settles,
      (strike.smallestAt_iff nonempty).mpr (settlesAt e expiry)⟩

/-! ## Two expiries

The strikes of each expiry are ordered, so that the deltas of the calls fall. -/

def twoExpiries : List ExpirySeries := [⟨604800⟩, ⟨1209600⟩]

def orderedGreeks : List ProductGreeks :=
  ([95, 90, 80, 70, 60, 50, 40, 30, 20, 10, 5, 95, 90, 80, 70, 60, 50, 40, 30, 20, 10, 5] :
    List ℕ).map fun percent => ⟨.ofNat (percent * 10 ^ pricingPrecision)⟩

theorem listed_orderedGreeks : Listed twoExpiries orderedGreeks :=
  ⟨by decide, by decide⟩

/-- The strike with the lowest delta is asked for. -/
theorem validateMarket_closest_iff_orderedGreeks :
    ∃ marketIndex, validateMarket 604800 twoExpiries orderedGreeks 5 = .ok marketIndex ∧
      (ClosestMarket 604800 twoExpiries orderedGreeks 5 marketIndex ↔
        Settles (expiryDistances 604800 twoExpiries) ∧
          ∀ e, LastImproving (expiryDistances 604800 twoExpiries) e →
            Settles (deltaDistances 5 orderedGreeks e)) :=
  validateMarket_closest_iff 604800 listed_orderedGreeks (by decide)

/-- For a delta of 50, which the sixth strike has, the tenth strike is selected, with a delta
of 10. -/
theorem validateMarket_misses :
    ¬ ∀ (unixWeek : UInt64) (expirySeries : List ExpirySeries)
      (productGreeks : List ProductGreeks) (delta : UInt8), Listed expirySeries productGreeks →
      delta ≤ 100 → ∃ marketIndex,
        validateMarket unixWeek expirySeries productGreeks delta = .ok marketIndex ∧
        ClosestMarket unixWeek expirySeries productGreeks delta marketIndex := by
  intro closest
  obtain ⟨marketIndex, selected, e, k, rfl, _, smallest⟩ :=
    closest 604800 twoExpiries orderedGreeks 50 listed_orderedGreeks (by decide)
  have tenth : validateMarket 604800 twoExpiries orderedGreeks 50 = .ok 20 :=
    eq_ok_of_toOption (by decide +kernel)
  rw [tenth, Except.ok.injEq] at selected
  simp only [numProductsPerSeries, numStrikes] at selected
  obtain ⟨rfl, rfl⟩ : e = 0 ∧ k = 9 := by omega
  obtain ⟨entry, found, least⟩ := smallest
  have away : (deltaDistances 50 orderedGreeks 0)[9]? = some 40000000000000 := by decide +kernel
  rw [away, Option.some.injEq] at found
  have reached := least 0 (by decide +kernel)
  omega

end JetVault
