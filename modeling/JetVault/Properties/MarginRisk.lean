import JetVault.Zeta.ExactMargin

/-!
# Short margin follows the risk

A short call gets riskier as spot rises and as its strike falls, a short put as its strike
rises. Spot is a factor of the margin, the divisor of the moneyness and part of the distance out
of the money. All three effects go the same way for a call, roundings included.
-/
namespace JetVault.Zeta

open SlidingRate

/-- What a margin of short options, by spot, strike and kind, does as the risk grows. -/
structure FollowsRisk (margin : UInt64 → UInt64 → Kind → Except Failure UInt64) : Prop where
  call_spot : ∀ {low high strike lower higher}, low ≤ high → margin low strike .call = .ok lower →
    margin high strike .call = .ok higher → lower ≤ higher
  call_strike : ∀ {spot low high lower higher}, low ≤ high →
    margin spot low .call = .ok higher → margin spot high .call = .ok lower → lower ≤ higher
  put_strike : ∀ {spot low high lower higher}, low ≤ high →
    margin spot low .put = .ok lower → margin spot high .put = .ok higher → lower ≤ higher

theorem shortCharge_call_spot (p : Percentages) {low high : ℕ} (strike : ℕ) (rises : low ≤ high)
    (priced : 0 < low) : shortCharge p .call low strike ≤ shortCharge p .call high strike := by
  have nearer : outOfTheMoney .call high strike ≤ outOfTheMoney .call low strike :=
    Nat.sub_le_sub_left rises strike
  exact charge_antitone nearer rises priced _ _

theorem shortCharge_call_strike (p : Percentages) {spot low high : ℕ} (rises : low ≤ high)
    (priced : 0 < spot) : shortCharge p .call spot high ≤ shortCharge p .call spot low := by
  have further : outOfTheMoney .call spot low ≤ outOfTheMoney .call spot high :=
    Nat.sub_le_sub_right rises spot
  exact charge_antitone further le_rfl priced _ _

theorem shortCharge_put_strike (p : Percentages) {spot low high : ℕ} (rises : low ≤ high)
    (priced : 0 < spot) : shortCharge p .put spot low ≤ shortCharge p .put spot high := by
  have nearer : outOfTheMoney .put spot high ≤ outOfTheMoney .put spot low :=
    Nat.sub_le_sub_left rises spot
  exact charge_antitone nearer le_rfl priced _ _

theorem marginPerLot_followsRisk (p : Percentages) (mark : UInt64) :
    FollowsRisk fun spot strike product => marginPerLot spot strike mark product .ask p where
  call_spot := by
    intro low high strike lower higher rises before after
    have priced := ((marginPerLot_eq_ok ..).mp before).1
    apply (margin_le_iff before after).mpr
    exact shortCharge_call_spot p strike.toNat (UInt64.le_iff_toNat_le.mp rises) priced
  call_strike := by
    intro spot low high lower higher rises before after
    have priced := ((marginPerLot_eq_ok ..).mp before).1
    apply (margin_le_iff after before).mpr
    exact shortCharge_call_strike p (UInt64.le_iff_toNat_le.mp rises) priced
  put_strike := by
    intro spot low high lower higher rises before after
    have priced := ((marginPerLot_eq_ok ..).mp before).1
    have strikes := UInt64.le_iff_toNat_le.mp rises
    apply (margin_le_iff before after).mpr
    -- The cap is a share of the strike, and rises with it.
    exact min_le_min (shortCharge_put_strike p strikes priced) (share_mono strikes le_rfl)

/-- For any parameters and any mark price, both margins of a short option follow the risk. -/
theorem short_margins_followRisk (p : MarginParameters) (mark : UInt64) :
    (FollowsRisk fun spot strike product =>
        getInitialMarginPerLot spot strike mark product .ask p) ∧
      FollowsRisk fun spot strike product =>
        getMaintenanceMarginPerLot spot strike mark product false p :=
  ⟨marginPerLot_followsRisk p.initial mark, marginPerLot_followsRisk p.maintenance mark⟩

end JetVault.Zeta
