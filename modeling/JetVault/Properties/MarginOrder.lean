import JetVault.Zeta.Constants
import JetVault.Zeta.ExactMargin

/-!
# Maintenance against initial margin

A position that just met its initial margin should not be liquidated at once. Maintenance margin
never exceeds initial margin where every maintenance percentage is at most its initial
counterpart. The platform's own percentages for short options are not ordered like that, and
this module gives the exact range of strikes at which the margins still are.
-/
namespace JetVault.Zeta

open Fallible SlidingRate

/-! ## Ordered percentages -/

theorem maintenance_le_initial {spot strike mark initial : UInt64} {product : Kind} {long : Bool}
    {p : MarginParameters} (ordered : p.maintenance.AtMost p.initial)
    (required : getInitialMarginPerLot spot strike mark product (if long then .bid else .ask) p =
      .ok initial) :
    ∃ maintenance, getMaintenanceMarginPerLot spot strike mark product long p = .ok maintenance ∧
      maintenance ≤ initial := by
  obtain ⟨margined, exact⟩ := (marginPerLot_eq_ok ..).mp required
  have below := exactMargin_mono ordered spot.toNat strike.toNat mark.toNat product
    (if long then .bid else .ask)
  obtain ⟨maintenance, value⟩ :=
    FixedWidth.exists_toNat (lt_of_le_of_lt below (exact ▸ initial.toNat_lt))
  refine ⟨maintenance, (marginPerLot_eq_ok ..).mpr ⟨margined, value⟩, ?_⟩
  rw [UInt64.le_iff_toNat_le, value, exact]
  exact below

/-- The platform's parameters with the two maintenance percentages for short options
exchanged. -/
def exchangedParameters : MarginParameters :=
  { platformParameters 50000000 with
    optionSpotPercentageShortMaintenance := .ofNat optionBasePctShortMaintenance
    optionDynamicPercentageShortMaintenance := .ofNat optionSpotPctShortMaintenance }

/-- A short put 20 % out of the money. -/
theorem maintenance_le_initial_exchangedParameters :
    ∃ maintenance, getMaintenanceMarginPerLot 1000000 800000 0 .put false exchangedParameters =
      .ok maintenance ∧ maintenance ≤ 100000 :=
  maintenance_le_initial (by constructor <;> decide) (eq_ok_of_toOption (by decide +kernel))

/-! ## The platform's percentages -/

/-- The platform's initial margin for a short option covers `amount` at `distance` out of the
money: the floor of 10 % does, or some whole rate that is left of the 25 % at that distance. -/
def Granted (spot distance amount : ℕ) : Prop :=
  10 * amount ≤ spot ∨
    ∃ n, amount * 100000000 ≤ n * spot ∧ distance * 100000000 + n * spot < 25000001 * spot

variable {spot strike : ℕ}

theorem granted_iff (cap : UInt64) (product : Kind) (priced : 0 < spot) (amount : ℕ) :
    amount ≤ shortCharge (platformParameters cap).initial product spot strike ↔
      Granted spot (outOfTheMoney product spot strike) amount := by
  have floored : amount * nativePrecisionDenominator ≤ optionSpotPctShortInitial * spot ↔
      10 * amount ≤ spot := by
    simp only [nativePrecisionDenominator, optionSpotPctShortInitial]
    omega
  rw [shortCharge, le_charge_iff (by decide) priced]
  exact or_congr_left floored

/-- The maintenance percentage that falls starts below its floor, so that the floor always
decides. -/
theorem shortCharge_maintenance (cap : UInt64) (product : Kind) :
    shortCharge (platformParameters cap).maintenance product spot strike = spot / 8 := by
  have floored : rate nativePrecisionDenominator optionBasePctShortMaintenance
      optionSpotPctShortMaintenance (outOfTheMoney product spot strike) spot = 12500000 :=
    max_eq_right ((Nat.sub_le _ _).trans (by decide))
  change share nativePrecisionDenominator (rate nativePrecisionDenominator
    optionBasePctShortMaintenance optionSpotPctShortMaintenance _ spot) spot = spot / 8
  rw [floored, share, nativePrecisionDenominator]
  omega

/-- Near the money the initial rate is still above 12.5 %. -/
theorem granted_of_near {distance : ℕ} (priced : 0 < spot) (near : 8 * distance ≤ spot) :
    Granted spot distance (spot / 8) :=
  .inr ⟨12500000, by omega, by omega⟩

/-- Further out it is not. -/
theorem not_granted_of_far {distance : ℕ} (large : 32 ≤ spot)
    (far : 12500001 * spot + 100000000 ≤ distance * 100000000) :
    ¬ Granted spot distance (spot / 8) := by
  rintro (floored | ⟨n, covered, remains⟩)
  · omega
  · omega

theorem platform_fraction (cap : UInt64) :
    (platformParameters cap).initial.AtMost (.whole cap) ∧
      (platformParameters cap).maintenance.AtMost (.whole cap) := by
  constructor
  · constructor
    case shortPutCap => exact UInt64.le_refl cap
    all_goals exact (UInt64.ofNat_le_iff_le (by decide) (by decide)).mpr (by decide)
  · constructor
    case shortPutCap => exact UInt64.le_refl cap
    all_goals exact (UInt64.ofNat_le_iff_le (by decide) (by decide)).mpr (by decide)

/-- Futures and long options have half the percentage, or the same. -/
theorem platform_ordered (cap : UInt64) :
    (platformParameters cap).maintenance.future.toNat ≤
        (platformParameters cap).initial.future.toNat ∧
      (platformParameters cap).maintenance.spotLong.toNat ≤
        (platformParameters cap).initial.spotLong.toNat ∧
      (platformParameters cap).maintenance.markLong.toNat ≤
        (platformParameters cap).initial.markLong.toNat := by
  simp only [← UInt64.le_iff_toNat_le]
  refine ⟨?_, ?_, ?_⟩
  all_goals exact (UInt64.ofNat_le_iff_le (by decide) (by decide)).mpr (by decide)

/-- What decides is whether the initial margin of a short option covers 12.5 % of spot, or the
cap of a put. -/
theorem exactMargin_platform_iff (cap : UInt64) (priced : 0 < spot) (mark : ℕ) {product : Kind}
    (supported : product ≠ .uninitialized) (long : Bool) :
    exactMargin (platformParameters cap).maintenance spot strike mark product
        (if long then .bid else .ask) ≤
      exactMargin (platformParameters cap).initial spot strike mark product
        (if long then .bid else .ask) ↔
      product = .future ∨ long = true ∨
        Granted spot (outOfTheMoney product spot strike) (spot / 8) ∨
        product = .put ∧ Granted spot (outOfTheMoney product spot strike)
          (strike * cap.toNat / 100000000) := by
  obtain ⟨future, spotLong, markLong⟩ := platform_ordered cap
  cases long with
  | true =>
    simp only [true_or, or_true, iff_true, if_true]
    cases product with
    | uninitialized => contradiction
    | future => exact share_mono le_rfl future
    | call => exact min_le_min (share_mono le_rfl spotLong) (share_mono le_rfl markLong)
    | put => exact min_le_min (share_mono le_rfl spotLong) (share_mono le_rfl markLong)
  | false =>
    simp only [Bool.false_eq_true, if_false, false_or]
    cases product with
    | uninitialized => contradiction
    | future => exact iff_of_true (share_mono le_rfl future) (.inl rfl)
    | call =>
      simp only [exactMargin, shortCharge_maintenance, granted_iff cap .call priced, reduceCtorEq,
        false_or, false_and, or_false]
    | put =>
      -- Both margins have the same cap, so the order of the two can also come from it.
      have capped : ∀ a b c : ℕ, min a c ≤ min b c ↔ a ≤ b ∨ c ≤ b := by
        intro a b c
        omega
      refine (capped _ _ (share nativePrecisionDenominator strike cap.toNat)).trans ?_
      simp only [shortCharge_maintenance, granted_iff cap .put priced, reduceCtorEq, false_or,
        true_and, share, nativePrecisionDenominator]

/-! ## The platform's margins in order -/

/-- Both margins are always computed, and the maintenance margin is at most the initial one
exactly for futures, for long options and for short options that are not too far out of the
money. -/
theorem platform_maintenance_le_initial_iff (spot strike mark cap : UInt64) (product : Kind)
    (long : Bool) (priced : 0 < spot.toNat) (supported : product ≠ .uninitialized) :
    ∃ initial maintenance,
      getInitialMarginPerLot spot strike mark product (if long then .bid else .ask)
        (platformParameters cap) = .ok initial ∧
      getMaintenanceMarginPerLot spot strike mark product long (platformParameters cap) =
        .ok maintenance ∧
      (maintenance ≤ initial ↔
        product = .future ∨ long = true ∨
          Granted spot.toNat (outOfTheMoney product spot.toNat strike.toNat) (spot.toNat / 8) ∨
          product = .put ∧ Granted spot.toNat (outOfTheMoney product spot.toNat strike.toNat)
            (strike.toNat * cap.toNat / 100000000)) := by
  have margined := (hasMargin_iff spot.toNat supported long).mpr (.inr (.inr priced))
  obtain ⟨initial, required⟩ := (exists_margin_iff (platform_fraction cap).1 spot strike mark
    product (if long then .bid else .ask)).mpr margined
  obtain ⟨maintenance, maintained⟩ := (exists_margin_iff (platform_fraction cap).2 spot strike
    mark product (if long then .bid else .ask)).mpr margined
  refine ⟨initial, maintenance, required, maintained, ?_⟩
  exact (margin_le_iff maintained required).trans
    (exactMargin_platform_iff cap priced mark.toNat supported long)

/-- A short put 10 % out of the money has its margins in order. -/
theorem platform_maintenance_le_initial_iff_put :
    ∃ initial maintenance,
      getInitialMarginPerLot 1000000 900000 0 .put (if false then .bid else .ask)
        (platformParameters 50000000) = .ok initial ∧
      getMaintenanceMarginPerLot 1000000 900000 0 .put false (platformParameters 50000000) =
        .ok maintenance ∧
      (maintenance ≤ initial ↔
        Kind.put = .future ∨ false = true ∨
          Granted (1000000 : UInt64).toNat
            (outOfTheMoney .put (1000000 : UInt64).toNat (900000 : UInt64).toNat)
            ((1000000 : UInt64).toNat / 8) ∨
          Kind.put = .put ∧ Granted (1000000 : UInt64).toNat
            (outOfTheMoney .put (1000000 : UInt64).toNat (900000 : UInt64).toNat)
            ((900000 : UInt64).toNat * (50000000 : UInt64).toNat / 100000000)) :=
  platform_maintenance_le_initial_iff 1000000 900000 0 50000000 .put false (by decide) (by decide)

/-- At 30 % out of the money the initial margin of a short put is 10 % of spot, and its
maintenance margin 12.5 %. -/
theorem platform_maintenance_exceeds_initial :
    ¬ ∀ (spot strike mark cap : UInt64) (product : Kind) (long : Bool)
      (initial maintenance : UInt64), 0 < spot.toNat → product ≠ .uninitialized →
      getInitialMarginPerLot spot strike mark product (if long then .bid else .ask)
        (platformParameters cap) = .ok initial →
      getMaintenanceMarginPerLot spot strike mark product long (platformParameters cap) =
        .ok maintenance →
      maintenance ≤ initial := by
  intro ordered
  have order := ordered 1000000 700000 0 50000000 .put false 100000 125000 (by decide) (by decide)
    (eq_ok_of_toOption (by decide +kernel)) (eq_ok_of_toOption (by decide +kernel))
  exact absurd order (by decide)

end JetVault.Zeta
