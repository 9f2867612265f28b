import Mathlib.Algebra.Order.Ring.Nat
import Mathlib.Tactic.Linarith
import Mathlib.Tactic.Ring

/-!
# Rates that slide with a distance

A charge is a share of a price. Its rate falls from a base as something moves away from the
price, by the distance measured against the price, but never below a floor. A rate counts parts
of `unit`, and every quotient is rounded down.
-/
namespace SlidingRate

variable (unit : ℕ)

def share (amount rate : ℕ) : ℕ :=
  amount * rate / unit

/-- The rate of a thing at `distance` from `price`. -/
def rate (base floor distance price : ℕ) : ℕ :=
  max (base - distance * unit / price) floor

def charge (base floor distance price : ℕ) : ℕ :=
  share unit (rate unit base floor distance price) price

variable {unit}

theorem share_mono {amount amount' rate rate' : ℕ} (amounts : amount ≤ amount')
    (rates : rate ≤ rate') : share unit amount rate ≤ share unit amount' rate' :=
  Nat.div_le_div_right (Nat.mul_le_mul amounts rates)

/-- At most the whole is shared out, whichever of the two factors is the rate. -/
theorem share_le_left {amount rate : ℕ} (fraction : rate ≤ unit) :
    share unit amount rate ≤ amount := by
  apply Nat.div_le_of_le_mul
  rw [Nat.mul_comm unit]
  exact Nat.mul_le_mul_left amount fraction

theorem share_le_right {amount rate : ℕ} (fraction : amount ≤ unit) :
    share unit amount rate ≤ rate :=
  Nat.div_le_of_le_mul (Nat.mul_le_mul_right rate fraction)

theorem rate_mono {base base' floor floor' : ℕ} (bases : base ≤ base') (floors : floor ≤ floor')
    (distance price : ℕ) :
    rate unit base floor distance price ≤ rate unit base' floor' distance price :=
  max_le_max (Nat.sub_le_sub_right bases _) floors

/-- The further away, measured against the price, the lower the rate. -/
theorem rate_antitone {distance distance' price price' : ℕ} (further : distance ≤ distance')
    (lower : price' ≤ price) (priced : 0 < price') (base floor : ℕ) :
    rate unit base floor distance' price' ≤ rate unit base floor distance price := by
  have relative : distance * unit / price ≤ distance' * unit / price' :=
    Nat.div_le_div (Nat.mul_le_mul_right unit further) lower priced.ne'
  exact max_le_max (Nat.sub_le_sub_left relative base) le_rfl

theorem rate_le {base floor bound : ℕ} (bases : base ≤ bound) (floors : floor ≤ bound)
    (distance price : ℕ) : rate unit base floor distance price ≤ bound :=
  max_le ((Nat.sub_le _ _).trans bases) floors

theorem charge_mono {base base' floor floor' : ℕ} (bases : base ≤ base') (floors : floor ≤ floor')
    (distance price : ℕ) :
    charge unit base floor distance price ≤ charge unit base' floor' distance price :=
  share_mono (rate_mono bases floors distance price) le_rfl

/-- A charge falls with the distance and rises with the price. -/
theorem charge_antitone {distance distance' price price' : ℕ} (further : distance ≤ distance')
    (lower : price' ≤ price) (priced : 0 < price') (base floor : ℕ) :
    charge unit base floor distance' price' ≤ charge unit base floor distance price :=
  share_mono (rate_antitone further lower priced base floor) lower

theorem charge_le_price {base floor : ℕ} (bases : base ≤ unit) (floors : floor ≤ unit)
    (distance price : ℕ) : charge unit base floor distance price ≤ price :=
  share_le_right (rate_le bases floors distance price)

/-- What is left of a base rate covers an amount exactly when some rate does that is still
left at that distance. -/
theorem le_slid_share_iff {amount base distance price : ℕ} (whole : 0 < unit)
    (priced : 0 < price) :
    amount ≤ share unit (base - distance * unit / price) price ↔
      amount = 0 ∨
        ∃ n, amount * unit ≤ n * price ∧ distance * unit + n * price < (base + 1) * price := by
  rw [share, Nat.le_div_iff_mul_le whole]
  constructor
  · intro covered
    rcases Nat.lt_or_ge base (distance * unit / price) with spent | remaining
    · left
      rw [Nat.sub_eq_zero_of_le spent.le, zero_mul] at covered
      exact (Nat.mul_eq_zero.mp (Nat.le_zero.mp covered)).resolve_right whole.ne'
    · right
      refine ⟨base - distance * unit / price, covered, ?_⟩
      have below := Nat.lt_mul_div_succ (distance * unit) priced
      calc distance * unit + (base - distance * unit / price) * price
          < price * (distance * unit / price + 1) + (base - distance * unit / price) * price := by
            omega
        _ = (distance * unit / price + (base - distance * unit / price) + 1) * price := by ring
        _ = (base + 1) * price := by rw [Nat.add_sub_cancel' remaining]
  · rintro (rfl | ⟨n, covered, remains⟩)
    · omega
    · have bounded : n ≤ base := by
        apply Nat.lt_succ_iff.mp
        exact lt_of_mul_lt_mul_right (lt_of_le_of_lt (Nat.le_add_left _ _) remains)
          (Nat.zero_le price)
      have spent : distance * unit / price ≤ base - n := by
        apply Nat.lt_succ_iff.mp
        rw [Nat.div_lt_iff_lt_mul priced, Nat.succ_eq_add_one, ← Nat.sub_add_comm bounded,
          Nat.sub_mul]
        omega
      exact covered.trans (Nat.mul_le_mul_right price (by omega))

/-- A charge covers an amount exactly when the floor or what is left of the base does. -/
theorem le_charge_iff {amount base floor distance price : ℕ} (whole : 0 < unit)
    (priced : 0 < price) :
    amount ≤ charge unit base floor distance price ↔
      amount * unit ≤ floor * price ∨
        ∃ n, amount * unit ≤ n * price ∧ distance * unit + n * price < (base + 1) * price := by
  have larger : charge unit base floor distance price =
      max (share unit (base - distance * unit / price) price) (share unit floor price) := by
    rcases Nat.le_total (base - distance * unit / price) floor with floored | sliding
    · rw [charge, rate, max_eq_right floored, max_eq_right (share_mono floored le_rfl)]
    · rw [charge, rate, max_eq_left sliding, max_eq_left (share_mono sliding le_rfl)]
  rw [larger, le_max_iff, le_slid_share_iff whole priced, or_comm, share,
    Nat.le_div_iff_mul_le whole]
  constructor
  · rintro (floored | rfl | remaining)
    · exact .inl floored
    · exact .inl (by omega)
    · exact .inr remaining
  · exact fun either => either.imp_right .inr

end SlidingRate
