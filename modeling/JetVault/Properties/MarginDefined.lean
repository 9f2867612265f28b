import JetVault.Properties.OraclePrice
import JetVault.Zeta.ExactMargin

/-!
# Margins at the oracle's price

The margin of a short option measures the distance out of the money against spot, and divides by
it. The oracle reader hands over a spot of zero for every price below one unit of `10⁻⁶`, and
there the division aborts. Futures and long options get their margin at every price.
-/
namespace JetVault.Zeta

open Fallible

/-- No percentage is above 100 %. -/
def MarginParameters.Fractions (p : MarginParameters) : Prop :=
  p.initial.AtMost (.whole 100000000) ∧ p.maintenance.AtMost (.whole 100000000)

theorem spot_pos_iff {oracle : Price} {spot : UInt64}
    (read : getNativeOraclePrice oracle = .ok spot) :
    0 < spot.toNat ↔ 10 ^ (-oracle.expo.toInt).toNat ≤ oracle.price.toInt * 10 ^ 6 := by
  obtain ⟨_, value⟩ := (getNativeOraclePrice_eq_ok oracle spot).mp read
  have divisor : (0 : ℤ) < 10 ^ (-oracle.expo.toInt).toNat := pow_pos (by decide) _
  calc 0 < spot.toNat ↔ 1 ≤ exactPrice oracle := by omega
    _ ↔ 1 * 10 ^ (-oracle.expo.toInt).toNat ≤ oracle.price.toInt * 10 ^ 6 :=
      Int.le_ediv_iff_mul_le divisor
    _ ↔ 10 ^ (-oracle.expo.toInt).toNat ≤ oracle.price.toInt * 10 ^ 6 := by rw [one_mul]

/-- Both margins are computed exactly for futures, for long options, and where the price comes to
at least one unit. -/
theorem margins_defined_iff {oracle : Price} {spot : UInt64} {product : Kind}
    {p : MarginParameters} (strike mark : UInt64) (long : Bool)
    (read : getNativeOraclePrice oracle = .ok spot) (supported : product ≠ .uninitialized)
    (fractions : p.Fractions) :
    ((∃ initial, getInitialMarginPerLot spot strike mark product (if long then .bid else .ask) p =
          .ok initial) ∧
        ∃ maintenance, getMaintenanceMarginPerLot spot strike mark product long p =
          .ok maintenance) ↔
      product = .future ∨ long = true ∨
        10 ^ (-oracle.expo.toInt).toNat ≤ oracle.price.toInt * 10 ^ 6 := by
  have initial := exists_margin_iff fractions.1.uncapped spot strike mark product
    (if long then .bid else .ask)
  have maintenance := exists_margin_iff fractions.2.uncapped spot strike mark product
    (if long then .bid else .ask)
  rw [← spot_pos_iff read, ← hasMargin_iff spot.toNat supported long]
  constructor
  · rintro ⟨required, _⟩
    exact initial.mp required
  · intro margined
    exact ⟨initial.mpr margined, maintenance.mpr margined⟩

theorem platform_fractions : (platformParameters 50000000).Fractions := by
  constructor
  · constructor <;> decide
  · constructor <;> decide

/-- A price of one, with eight decimals. -/
def unitPrice : Price := ⟨100000000, -8⟩

/-- A price that is positive and comes to less than `10⁻⁶`. -/
def dustPrice : Price := ⟨99, -8⟩

theorem margins_defined_iff_put :
    ((∃ initial, getInitialMarginPerLot 1000000 900000 0 .put (if false then .bid else .ask)
          (platformParameters 50000000) = .ok initial) ∧
        ∃ maintenance, getMaintenanceMarginPerLot 1000000 900000 0 .put false
          (platformParameters 50000000) = .ok maintenance) ↔
      Kind.put = .future ∨ false = true ∨
        10 ^ (-unitPrice.expo.toInt).toNat ≤ unitPrice.price.toInt * 10 ^ 6 :=
  margins_defined_iff 900000 0 false
    (eq_ok_of_toOption (by decide +kernel) : getNativeOraclePrice unitPrice = .ok 1000000)
    (by decide) platform_fractions

/-- Such a price is read as a spot of zero. -/
theorem margins_undefined :
    ¬ ∀ (oracle : Price) (spot strike mark : UInt64) (product : Kind) (long : Bool)
      (p : MarginParameters), getNativeOraclePrice oracle = .ok spot → product ≠ .uninitialized →
      p.Fractions →
      (∃ initial, getInitialMarginPerLot spot strike mark product (if long then .bid else .ask) p =
          .ok initial) ∧
        ∃ maintenance, getMaintenanceMarginPerLot spot strike mark product long p =
          .ok maintenance := by
  intro defined
  obtain ⟨⟨initial, required⟩, _⟩ := defined dustPrice 0 900000 0 .put false
    (platformParameters 50000000) (eq_ok_of_toOption (by decide +kernel)) (by decide)
    platform_fractions
  have priced := ((marginPerLot_eq_ok ..).mp required).1
  exact Nat.lt_irrefl 0 priced

end JetVault.Zeta
