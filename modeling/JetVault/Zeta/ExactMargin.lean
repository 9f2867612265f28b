import JetVault.Library.Fallible
import JetVault.Library.SlidingRate
import JetVault.Zeta.Margin

/-!
# Margin in exact arithmetic

The margin of one lot on natural numbers, and that the checked calculation computes it. The
intermediate products never overflow; only a short option at spot zero and a margin that does
not fit in 64 bits are refused.
-/
namespace JetVault.Zeta

open FixedWidth Fallible SlidingRate

/-- How far `product` at `strike` is out of the money. -/
def outOfTheMoney (product : Kind) (spot strike : ℕ) : ℕ :=
  if product = .put then spot - strike else strike - spot

def shortCharge (p : Percentages) (product : Kind) (spot strike : ℕ) : ℕ :=
  charge nativePrecisionDenominator p.dynamicShort.toNat p.spotShort.toNat
    (outOfTheMoney product spot strike) spot

def exactMargin (p : Percentages) (spot strike mark : ℕ) : Kind → Side → ℕ
  | .future, _ => share nativePrecisionDenominator spot p.future.toNat
  | .call, .ask => shortCharge p .call spot strike
  | .put, .ask =>
    min (shortCharge p .put spot strike)
      (share nativePrecisionDenominator strike p.shortPutCap.toNat)
  | .call, .bid | .put, .bid =>
    min (share nativePrecisionDenominator spot p.spotLong.toNat)
      (share nativePrecisionDenominator mark p.markLong.toNat)
  | _, _ => 0

/-- The cases that have a margin at all. -/
def HasMargin (spot : ℕ) : Kind → Side → Prop
  | .future, _ => True
  | .call, .ask | .put, .ask => 0 < spot
  | .call, .bid | .put, .bid => True
  | _, _ => False

/-! ## The checked calculation is exact -/

theorem percentOf_of_lt {amount percentage : ℕ} (left : amount < 2 ^ 64)
    (right : percentage < 2 ^ 64) :
    percentOf amount percentage = .ok (share nativePrecisionDenominator amount percentage) := by
  rw [percentOf, tryMul128_of_lt Failure.abort left right]
  rfl

theorem percentOf_toNat (amount percentage : UInt64) :
    percentOf amount.toNat percentage.toNat =
      .ok (share nativePrecisionDenominator amount.toNat percentage.toNat) :=
  percentOf_of_lt amount.toNat_lt percentage.toNat_lt

/-- A signed difference that is cut off at zero is the truncated one. -/
theorem cutOff_eq_ok (a b amount : UInt64) :
    (tryInt128 Failure.abort ((a.toNat : ℤ) - b.toNat) >>= fun difference =>
        tryUInt64 .abort (max difference 0).toNat) = .ok amount ↔
      amount.toNat = a.toNat - b.toNat := by
  have low := a.toNat_lt
  have high := b.toNat_lt
  have truncated : (max ((a.toNat : ℤ) - b.toNat) 0).toNat = a.toNat - b.toNat := by omega
  rw [tryInt128, if_pos (by omega), bind_eq_ok]
  simp only [Except.ok.injEq, exists_eq_left', truncated, tryUInt64_eq_ok]

theorem getOtmAmount_eq_ok {product : Kind} (option : product = .call ∨ product = .put)
    (spot strike amount : UInt64) : getOtmAmount spot strike product = .ok amount ↔
      amount.toNat = outOfTheMoney product spot.toNat strike.toNat := by
  rcases option with rfl | rfl
  · exact cutOff_eq_ok strike spot amount
  · exact cutOff_eq_ok spot strike amount

theorem outOfTheMoney_lt (product : Kind) (spot strike : UInt64) :
    outOfTheMoney product spot.toNat strike.toNat < 2 ^ 64 := by
  have low := spot.toNat_lt
  have high := strike.toNat_lt
  unfold outOfTheMoney
  split
  · omega
  · omega

theorem shortMargin_eq_ok {product : Kind} (option : product = .call ∨ product = .put)
    (spot strike : UInt64) (p : Percentages) (margin : ℕ) :
    shortMargin spot strike product p = .ok margin ↔
      0 < spot.toNat ∧ margin = shortCharge p product spot.toNat strike.toNat := by
  obtain ⟨amount, distance⟩ := exists_toNat (outOfTheMoney_lt product spot strike)
  have scaled : tryMul128 Failure.abort amount.toNat nativePrecisionDenominator =
      .ok (amount.toNat * nativePrecisionDenominator) :=
    tryMul128_of_lt Failure.abort amount.toNat_lt (by decide)
  have bound : rate nativePrecisionDenominator p.dynamicShort.toNat p.spotShort.toNat
      amount.toNat spot.toNat < 2 ^ 64 :=
    lt_of_le_of_lt (rate_le (le_max_left _ _) (le_max_right _ _) _ _)
      (max_lt p.dynamicShort.toNat_lt p.spotShort.toNat_lt)
  have charged := percentOf_of_lt bound spot.toNat_lt
  rw [shortMargin, (getOtmAmount_eq_ok option spot strike amount).mpr distance, bind_eq_ok]
  simp only [Except.ok.injEq, exists_eq_left', scaled, bind_eq_ok, tryDiv128_eq_ok]
  rw [shortCharge, charge, ← distance]
  constructor
  · rintro ⟨_, ⟨priced, rfl⟩, computed⟩
    exact ⟨priced, Except.ok.inj (computed.symm.trans charged)⟩
  · rintro ⟨priced, rfl⟩
    exact ⟨_, ⟨priced, rfl⟩, charged⟩

/-- The calculation gives the exact margin or nothing. -/
theorem marginPerLot_eq_ok (spot strike mark : UInt64) (product : Kind) (side : Side)
    (p : Percentages) (margin : UInt64) :
    marginPerLot spot strike mark product side p = .ok margin ↔
      HasMargin spot.toNat product side ∧
        margin.toNat = exactMargin p spot.toNat strike.toNat mark.toNat product side := by
  rw [marginPerLot, bind_eq_ok]
  match product, side with
  | .uninitialized, _ => simp [uncappedMargin, HasMargin]
  | .future, side =>
    simp [uncappedMargin, percentOf_toNat, tryUInt64_eq_ok, HasMargin, exactMargin]
  | .call, .uninitialized => simp [uncappedMargin, HasMargin]
  | .put, .uninitialized => simp [uncappedMargin, HasMargin]
  | .call, .bid =>
    simp [uncappedMargin, percentOf_toNat, bind_eq_ok, tryUInt64_eq_ok, HasMargin, exactMargin]
  | .put, .bid =>
    simp [uncappedMargin, percentOf_toNat, bind_eq_ok, tryUInt64_eq_ok, HasMargin, exactMargin]
  | .call, .ask =>
    simp [uncappedMargin, shortMargin_eq_ok (.inl rfl), tryUInt64_eq_ok, HasMargin, exactMargin]
  | .put, .ask =>
    simp [uncappedMargin, shortMargin_eq_ok (.inr rfl), percentOf_toNat, bind_eq_ok,
      tryUInt64_eq_ok, HasMargin, exactMargin]

/-- Margins compare as the exact ones do. -/
theorem margin_le_iff {spot strike mark spot' strike' mark' margin margin' : UInt64}
    {product product' : Kind} {side side' : Side} {p p' : Percentages}
    (computed : marginPerLot spot strike mark product side p = .ok margin)
    (computed' : marginPerLot spot' strike' mark' product' side' p' = .ok margin') :
    margin ≤ margin' ↔
      exactMargin p spot.toNat strike.toNat mark.toNat product side ≤
        exactMargin p' spot'.toNat strike'.toNat mark'.toNat product' side' := by
  rw [UInt64.le_iff_toNat_le, ((marginPerLot_eq_ok ..).mp computed).2,
    ((marginPerLot_eq_ok ..).mp computed').2]

/-! ## Comparing percentages -/

structure Percentages.AtMost (p q : Percentages) : Prop where
  future : p.future ≤ q.future
  markLong : p.markLong ≤ q.markLong
  spotLong : p.spotLong ≤ q.spotLong
  spotShort : p.spotShort ≤ q.spotShort
  dynamicShort : p.dynamicShort ≤ q.dynamicShort
  shortPutCap : p.shortPutCap ≤ q.shortPutCap

/-- 100 % in every case, and a cap for short puts. -/
def Percentages.whole (shortPutCap : UInt64) : Percentages where
  future := 100000000
  markLong := 100000000
  spotLong := 100000000
  spotShort := 100000000
  dynamicShort := 100000000
  shortPutCap := shortPutCap

/-- How low the cap is does not matter. -/
theorem Percentages.AtMost.uncapped {p : Percentages} {cap : UInt64}
    (fraction : p.AtMost (.whole cap)) : p.AtMost (.whole p.shortPutCap) :=
  { fraction with shortPutCap := UInt64.le_refl p.shortPutCap }

theorem shortCharge_mono {p q : Percentages} (atMost : p.AtMost q) (product : Kind)
    (spot strike : ℕ) : shortCharge p product spot strike ≤ shortCharge q product spot strike :=
  charge_mono (UInt64.le_iff_toNat_le.mp atMost.dynamicShort)
    (UInt64.le_iff_toNat_le.mp atMost.spotShort) _ spot

theorem exactMargin_mono {p q : Percentages} (atMost : p.AtMost q) (spot strike mark : ℕ)
    (product : Kind) (side : Side) :
    exactMargin p spot strike mark product side ≤ exactMargin q spot strike mark product side := by
  have future := UInt64.le_iff_toNat_le.mp atMost.future
  have markLong := UInt64.le_iff_toNat_le.mp atMost.markLong
  have spotLong := UInt64.le_iff_toNat_le.mp atMost.spotLong
  have shortPutCap := UInt64.le_iff_toNat_le.mp atMost.shortPutCap
  match product, side with
  | .uninitialized, _ => exact le_rfl
  | .future, _ => exact share_mono le_rfl future
  | .call, .uninitialized | .put, .uninitialized => exact le_rfl
  | .call, .bid | .put, .bid =>
    exact min_le_min (share_mono le_rfl spotLong) (share_mono le_rfl markLong)
  | .call, .ask => exact shortCharge_mono atMost .call spot strike
  | .put, .ask =>
    exact min_le_min (shortCharge_mono atMost .put spot strike) (share_mono le_rfl shortPutCap)

/-- A margin of at most 100 % is at most the spot price, whatever the cap. -/
theorem exactMargin_le_spot {p : Percentages} (fraction : p.AtMost (.whole p.shortPutCap))
    (spot strike mark : ℕ) (product : Kind) (side : Side) :
    exactMargin p spot strike mark product side ≤ spot := by
  apply (exactMargin_mono fraction spot strike mark product side).trans
  match product, side with
  | .uninitialized, _ => exact Nat.zero_le spot
  | .future, _ => exact share_le_left le_rfl
  | .call, .uninitialized | .put, .uninitialized => exact Nat.zero_le spot
  | .call, .bid | .put, .bid => exact (min_le_left _ _).trans (share_le_left le_rfl)
  | .call, .ask => exact charge_le_price le_rfl le_rfl _ spot
  | .put, .ask => exact (min_le_left _ _).trans (charge_le_price le_rfl le_rfl _ spot)

/-- Up to 100 %, a margin is refused only where there is none. -/
theorem exists_margin_iff {p : Percentages} (fraction : p.AtMost (.whole p.shortPutCap))
    (spot strike mark : UInt64) (product : Kind) (side : Side) :
    (∃ margin, marginPerLot spot strike mark product side p = .ok margin) ↔
      HasMargin spot.toNat product side := by
  constructor
  · rintro ⟨margin, computed⟩
    exact ((marginPerLot_eq_ok ..).mp computed).1
  · intro margined
    obtain ⟨margin, value⟩ := exists_toNat (lt_of_le_of_lt
      (exactMargin_le_spot fraction spot.toNat strike.toNat mark.toNat product side)
      spot.toNat_lt)
    exact ⟨margin, (marginPerLot_eq_ok ..).mpr ⟨margined, value⟩⟩

/-- Only a short option needs a spot price. -/
theorem hasMargin_iff (spot : ℕ) {product : Kind} (supported : product ≠ .uninitialized)
    (long : Bool) : HasMargin spot product (if long then .bid else .ask) ↔
      product = .future ∨ long = true ∨ 0 < spot := by
  cases long with
  | true => cases product <;> simp_all [HasMargin]
  | false => cases product <;> simp_all [HasMargin]

end JetVault.Zeta
