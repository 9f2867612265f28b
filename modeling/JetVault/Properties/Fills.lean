import JetVault.Properties.MarginOrder
import JetVault.Properties.Orders

/-!
# Orders that are filled

An opening order has reserved initial margin, and the position that it opens needs maintenance
margin. Where no maintenance percentage is above its initial counterpart, filling orders does not
raise the requirement of the account: only rounding may, by one unit for each product, however many
orders are filled.
-/
namespace JetVault.Zeta

open Fallible FixedWidth Totals

variable {markPrice strike spot : UInt64} {product : Product} {marginParameters : MarginParameters}
  {position : Position} {margin : UInt64}

/-! ## The margins of a position -/

theorem unwrap_eq_ok {α : Type} {x : Except Failure α} {a : α} : unwrap x = .ok a ↔ x = .ok a := by
  cases x with
  | error failure => simp [unwrap, Except.mapError]
  | ok b => simp [unwrap, Except.mapError]

theorem orderMargin_exact {orders : UInt64} {side : Side} {margin : ℕ}
    (computed : Position.orderMargin orders side markPrice strike product spot marginParameters =
      .ok margin) :
    margin = orders.toNat * exactMargin marginParameters.initial spot.toNat strike.toNat
        markPrice.toNat product.kind side ∧
      (0 < orders.toNat → ∃ perLot,
        getInitialMarginPerLot spot strike markPrice product.kind side marginParameters =
          .ok perLot) := by
  unfold Position.orderMargin at computed
  split at computed
  next some =>
    simp only [bind_eq_ok, tryMul128_eq_ok, unwrap_eq_ok] at computed
    obtain ⟨perLot, priced, _, rfl⟩ := computed
    exact ⟨by rw [((marginPerLot_eq_ok ..).mp priced).2], fun _ => ⟨perLot, priced⟩⟩
  next none =>
    cases computed
    rw [pos_iff] at none
    exact ⟨by rw [Nat.eq_zero_of_not_pos none, Nat.zero_mul], fun some => absurd some none⟩

/-- The initial margin of one lot. -/
def reserved (markPrice : UInt64) (product : Product) (spot : UInt64)
    (marginParameters : MarginParameters) (side : Side) : ℕ :=
  exactMargin marginParameters.initial spot.toNat product.strike.value.toNat markPrice.toNat
    product.kind side

/-- The maintenance margin of one lot. -/
def maintained (markPrice : UInt64) (product : Product) (spot : UInt64)
    (marginParameters : MarginParameters) (side : Side) : ℕ :=
  exactMargin marginParameters.maintenance spot.toNat product.strike.value.toNat markPrice.toNat
    product.kind side

theorem getInitialMargin_exact (set_ : product.strike.isSet = true)
    (computed : position.getInitialMargin markPrice product spot marginParameters = .ok margin) :
    margin.toNat = ((position.openingOrders.get 0).toNat *
        reserved markPrice product spot marginParameters .bid +
      (position.openingOrders.get 1).toNat *
        reserved markPrice product spot marginParameters .ask) / 1000 := by
  simp only [Position.getInitialMargin, Strike.getStrike, set_, if_true, bind_eq_ok,
    tryAdd128_eq_ok, tryDiv128_eq_ok, tryUInt64_eq_ok] at computed
  obtain ⟨longs, bids, shorts, asks, _, ⟨_, rfl⟩, _, ⟨_, rfl⟩, value⟩ := computed
  rw [value, (orderMargin_exact bids).1, (orderMargin_exact asks).1]
  rfl

theorem size_eq (fits : -2 ^ 63 < position.position.toInt) :
    position.size = position.position.toInt.natAbs := by
  have low := position.position.le_toInt
  have high := position.position.toInt_lt
  have least : position.position.toBitVec ≠ BitVec.intMin 64 := by
    intro same
    have value : position.position.toInt = (BitVec.intMin 64).toInt := congrArg BitVec.toInt same
    rw [value] at fits
    exact absurd fits (by decide)
  have value : position.position.abs.toInt = position.position.toInt.natAbs :=
    BitVec.toInt_abs_eq_natAbs_of_ne_intMin least
  rw [Position.size, value]
  omega

/-- The side that a position is on. -/
def Position.side (position : Position) : Side :=
  if 0 ≤ position.position then .bid else .ask

theorem getMaintenanceMargin_exact (set_ : product.strike.isSet = true)
    (fits : -2 ^ 63 < position.position.toInt) :
    position.getMaintenanceMargin markPrice product spot marginParameters = .ok margin ↔
      (position.position ≠ 0 → ∃ perLot, getMaintenanceMarginPerLot spot product.strike.value
        markPrice product.kind (0 ≤ position.position) marginParameters = .ok perLot) ∧
      margin.toNat = position.position.toInt.natAbs *
        maintained markPrice product spot marginParameters position.side / 1000 := by
  simp only [Position.getMaintenanceMargin, Strike.getStrike, set_, if_true]
  by_cases open_ : position.position = 0
  · have flat : position.position.toInt = 0 := by rw [open_]; rfl
    simp [open_, tryUInt64_eq_ok]
  · have exact_ {perLot : UInt64} (priced : getMaintenanceMarginPerLot spot product.strike.value
        markPrice product.kind (0 ≤ position.position) marginParameters = .ok perLot) :
        perLot.toNat = maintained markPrice product spot marginParameters position.side := by
      rw [((marginPerLot_eq_ok ..).mp priced).2, maintained, Position.side]
      simp only [decide_eq_true_eq]
    rw [if_pos open_]
    simp only [bind_eq_ok, unwrap_eq_ok, tryMul128_eq_ok, tryDiv128_eq_ok, tryUInt64_eq_ok,
      size_eq fits]
    constructor
    · rintro ⟨perLot, priced, _, ⟨_, rfl⟩, _, ⟨_, rfl⟩, value⟩
      rw [← exact_ priced]
      exact ⟨fun _ => ⟨perLot, priced⟩, value⟩
    · rintro ⟨priced, value⟩
      obtain ⟨perLot, priced⟩ := priced open_
      rw [← exact_ priced] at value
      have high := position.position.toInt_lt
      have low := perLot.toNat_lt
      have product : position.position.toInt.natAbs * perLot.toNat < 2 ^ 64 * 2 ^ 64 :=
        Nat.mul_lt_mul'' (by omega) low
      exact ⟨perLot, priced, _, ⟨product, rfl⟩, _, ⟨by decide, rfl⟩, value⟩

/-! ## Executed orders -/

/-- Opening orders of one side filled, and orders of either side taken away. -/
inductive Position.Executes (before after : Position) : Prop
  | bids (lots : ℕ) (long : 0 ≤ before.position.toInt)
      (position : after.position.toInt = before.position.toInt + lots)
      (filled : (after.openingOrders.get 0).toNat + lots ≤ (before.openingOrders.get 0).toNat)
      (others : (after.openingOrders.get 1).toNat ≤ (before.openingOrders.get 1).toNat)
  | asks (lots : ℕ) (short : before.position.toInt ≤ 0)
      (position : after.position.toInt = before.position.toInt - lots)
      (fits : -2 ^ 63 < after.position.toInt)
      (filled : (after.openingOrders.get 1).toNat + lots ≤ (before.openingOrders.get 1).toNat)
      (others : (after.openingOrders.get 0).toNat ≤ (before.openingOrders.get 0).toNat)

/-- One after the other. -/
theorem Position.Executes.trans {before between after : Position}
    (first : before.Executes between) (second : between.Executes after) :
    before.Executes after := by
  cases first with
  | bids lots long position filled others =>
    cases second with
    | bids lots' _ position' filled' others' =>
      exact .bids (lots + lots') long (by omega) (by omega) (by omega)
    | asks lots' short' position' fits' filled' others' =>
      -- A position on both sides is none, and nothing has been bought.
      exact .asks lots' (by omega) (by omega) fits' (by omega) (by omega)
  | asks lots short position fits filled others =>
    cases second with
    | bids lots' long' position' filled' others' =>
      exact .bids lots' (by omega) (by omega) (by omega) (by omega)
    | asks lots' _ position' fits' filled' others' =>
      exact .asks (lots + lots') short (by omega) fits' (by omega) (by omega)

/-- A unit of rounding, if anything was filled. -/
theorem round_filled {before after rest rest' size lots initial maintenance : ℕ}
    (ordered : maintenance ≤ initial) (filled : after + lots ≤ before) (others : rest' ≤ rest) :
    (after * initial + rest') / 1000 + (size + lots) * maintenance / 1000 ≤
      (before * initial + rest) / 1000 + size * maintenance / 1000 + 1 := by
  have paid : (after + lots) * initial ≤ before * initial := Nat.mul_le_mul_right initial filled
  have needed : lots * maintenance ≤ lots * initial := Nat.mul_le_mul_left lots ordered
  -- Two quotients are rounded down on either side, which is a unit apart at most.
  rw [Nat.add_mul] at paid ⊢
  omega

variable {before after : Position}

theorem Position.Executes.fits (executes : before.Executes after) :
    -2 ^ 63 < before.position.toInt ∧ -2 ^ 63 < after.position.toInt := by
  cases executes with
  | bids lots long position filled others => omega
  | asks lots short position fits filled others => omega

/-- Initial margin is needed for what is left of the orders. -/
theorem Position.Executes.getInitialMargin (executes : before.Executes after)
    (computed : before.getInitialMargin markPrice product spot marginParameters = .ok margin) :
    ∃ margin', after.getInitialMargin markPrice product spot marginParameters = .ok margin' ∧
      margin'.toNat ≤ margin.toNat := by
  have less : Position.Fewer
      { after with position := before.position, costOfTrades := before.costOfTrades } before := by
    refine ⟨rfl, rfl, ?_, ?_⟩
    all_goals
      rw [UInt64.le_iff_toNat_le]
      cases executes <;> dsimp only <;> omega
  exact getInitialMargin_mono less computed

theorem Position.held_bid (position : Position) (long : 0 ≤ position.position.toInt) :
    decide (0 ≤ position.position) = true ∧ position.side = .bid := by
  have sign : 0 ≤ position.position := by rwa [Int64.le_iff_toInt_le, Int64.toInt_zero]
  exact ⟨decide_eq_true sign, if_pos sign⟩

theorem Position.held_ask (position : Position) (short : position.position.toInt < 0) :
    decide (0 ≤ position.position) = false ∧ position.side = .ask := by
  have sign : ¬ 0 ≤ position.position := by
    rw [Int64.le_iff_toInt_le, Int64.toInt_zero]
    omega
  exact ⟨decide_eq_false sign, if_neg sign⟩

/-- No position is as good as a short one. -/
theorem Position.held_short (position : Position) (short : position.position.toInt ≤ 0)
    (perLot : Side → ℕ) : position.position.toInt.natAbs * perLot position.side =
      position.position.toInt.natAbs * perLot .ask := by
  by_cases flat : position.position.toInt = 0
  · rw [flat, Int.natAbs_zero, Nat.zero_mul, Nat.zero_mul]
  · rw [(position.held_ask (by omega)).2]

/-- Where lots were ordered, the maintenance margin of one is computed. -/
theorem perLot_of_ordered (ordered : marginParameters.maintenance.AtMost marginParameters.initial)
    {orders : UInt64} (long : Bool) {margin : ℕ}
    (computed : Position.orderMargin orders (if long then .bid else .ask) markPrice strike product
      spot marginParameters = .ok margin) (some : 0 < orders.toNat) :
    ∃ perLot, getMaintenanceMarginPerLot spot strike markPrice product.kind long
      marginParameters = .ok perLot := by
  obtain ⟨initial, required⟩ := (orderMargin_exact computed).2 some
  obtain ⟨perLot, priced, _⟩ := maintenance_le_initial ordered required
  exact ⟨perLot, priced⟩

theorem position_ne_zero_iff : position.position ≠ 0 ↔ position.position.toInt ≠ 0 := by
  rw [← Int64.toInt_zero, ne_eq, ne_eq, Int64.toInt_inj]

/-- Where a position is held after orders were executed, the margin of a lot is computed: it was
before, or the initial margin of the order was, which is not less. -/
theorem Position.Executes.perLot (ordered : marginParameters.maintenance.AtMost
      marginParameters.initial) (executes : before.Executes after)
    (set_ : product.strike.isSet = true)
    (computed : before.getInitialMargin markPrice product spot marginParameters = .ok margin)
    (held : before.position ≠ 0 → ∃ perLot, getMaintenanceMarginPerLot spot product.strike.value
      markPrice product.kind (0 ≤ before.position) marginParameters = .ok perLot)
    (holds : after.position ≠ 0) :
    ∃ perLot, getMaintenanceMarginPerLot spot product.strike.value markPrice product.kind
      (0 ≤ after.position) marginParameters = .ok perLot := by
  simp only [Position.getInitialMargin, Strike.getStrike, set_, if_true, bind_eq_ok] at computed
  obtain ⟨_, bids, _, asks, _⟩ := computed
  rw [position_ne_zero_iff] at holds held
  cases executes with
  | bids lots long position filled others =>
    rw [(after.held_bid (by omega)).1]
    -- Without a position before, the lots that it has now were ordered.
    by_cases flat : before.position.toInt = 0
    · have some : 0 < (before.openingOrders.get 0).toNat := by omega
      exact perLot_of_ordered ordered true bids some
    · rw [← (before.held_bid long).1]
      exact held flat
  | asks lots short position fits filled others =>
    rw [(after.held_ask (by omega)).1]
    by_cases flat : before.position.toInt = 0
    · have some : 0 < (before.openingOrders.get 1).toNat := by omega
      exact perLot_of_ordered ordered false asks some
    · rw [← (before.held_ask (by omega)).1]
      exact held flat

/-- Filled orders need what they had reserved, and a unit of rounding. -/
theorem Position.Executes.rounded (ordered : marginParameters.maintenance.AtMost
      marginParameters.initial) (executes : before.Executes after)
    (set_ : product.strike.isSet = true) {initial initial' maintenance : UInt64}
    (computed : before.getInitialMargin markPrice product spot marginParameters = .ok initial)
    (computed' : after.getInitialMargin markPrice product spot marginParameters = .ok initial')
    (held : before.getMaintenanceMargin markPrice product spot marginParameters =
      .ok maintenance) :
    initial'.toNat + after.position.toInt.natAbs *
        maintained markPrice product spot marginParameters after.side / 1000 ≤
      initial.toNat + maintenance.toNat + 1 := by
  rw [getInitialMargin_exact set_ computed, getInitialMargin_exact set_ computed',
    ((getMaintenanceMargin_exact set_ executes.fits.1).mp held).2]
  have order (side : Side) : maintained markPrice product spot marginParameters side ≤
      reserved markPrice product spot marginParameters side :=
    exactMargin_mono ordered _ _ _ _ side
  cases executes with
  | bids lots long position filled others =>
    have size : after.position.toInt.natAbs = before.position.toInt.natAbs + lots := by omega
    rw [(before.held_bid long).2, (after.held_bid (by omega)).2, size]
    exact round_filled (order .bid) filled (Nat.mul_le_mul_right _ others)
  | asks lots short position fits filled others =>
    have size : after.position.toInt.natAbs = before.position.toInt.natAbs + lots := by omega
    rw [before.held_short short, after.held_short (by omega), size,
      Nat.add_comm (_ * reserved _ _ _ _ .bid), Nat.add_comm (_ * reserved _ _ _ _ .bid)]
    exact round_filled (order .ask) filled (Nat.mul_le_mul_right _ others)

/-- Both margins are computed after orders were executed, and together they grow by a unit at most,
and only where the position has changed. -/
theorem Position.Executes.covered (ordered : marginParameters.maintenance.AtMost
      marginParameters.initial) (executes : before.Executes after) {initial maintenance : UInt64}
    (computed : before.getInitialMargin markPrice product spot marginParameters = .ok initial)
    (held : before.getMaintenanceMargin markPrice product spot marginParameters =
      .ok maintenance) (small : initial.toNat + maintenance.toNat + 1 < 2 ^ 64) :
    ∃ initial' maintenance',
      after.getInitialMargin markPrice product spot marginParameters = .ok initial' ∧
      after.getMaintenanceMargin markPrice product spot marginParameters = .ok maintenance' ∧
      initial'.toNat ≤ initial.toNat ∧
      initial'.toNat + maintenance'.toNat ≤ initial.toNat + maintenance.toNat +
        if after.position = before.position then 0 else 1 := by
  obtain ⟨initial', computed', less⟩ := executes.getInitialMargin computed
  by_cases same : after.position = before.position
  · -- Maintenance margin is for the position, whatever was taken away of the orders.
    have unchanged : after.getMaintenanceMargin markPrice product spot marginParameters =
        before.getMaintenanceMargin markPrice product spot marginParameters := by
      simp only [Position.getMaintenanceMargin, Position.size, same]
    rw [if_pos same]
    exact ⟨initial', maintenance, computed', unchanged.trans held, less, by omega⟩
  · rw [if_neg same]
    by_cases set_ : product.strike.isSet = true
    · have rounded := executes.rounded ordered set_ computed computed' held
      obtain ⟨maintenance', value⟩ := exists_toNat (n := after.position.toInt.natAbs *
        maintained markPrice product spot marginParameters after.side / 1000) (by omega)
      have perLot := ((getMaintenanceMargin_exact set_ executes.fits.1).mp held).1
      refine ⟨initial', maintenance', computed',
        (getMaintenanceMargin_exact set_ executes.fits.2).mpr ⟨?_, value⟩, less, by omega⟩
      exact executes.perLot ordered set_ computed perLot
    · -- No strike, and so no margin of either kind.
      have unset : product.strike.getStrike = .error (.program .productStrikeUninitialized) :=
        if_neg set_
      rw [Position.getMaintenanceMargin, unset] at held
      refine ⟨initial', maintenance, computed', ?_, less, by omega⟩
      rw [Position.getMaintenanceMargin, unset]
      exact held

/-! ## Whole accounts -/

/-- Orders executed in any of the products. -/
def MarginAccount.Executes (before after : MarginAccount) : Prop :=
  ∀ i, after.positions.get i = before.positions.get i ∨
    (before.positions.get i).Executes (after.positions.get i)

/-- Many executions are one. -/
theorem MarginAccount.executes_of_run {before after : MarginAccount}
    (run : Relation.ReflTransGen MarginAccount.Executes before after) : before.Executes after := by
  induction run with
  | refl => exact fun i => .inl rfl
  | tail _ last ih =>
    intro i
    rcases ih i with same | first
    · rw [← same]
      exact last i
    · rcases last i with same | second
      · rw [same]
        exact .inr first
      · exact .inr (first.trans second)

variable {greeks : Greeks} {zetaGroup : ZetaGroup} {before after : MarginAccount}

/-- The products whose positions differ. -/
def changed (before after : MarginAccount) : Finset (Fin 46) :=
  Finset.univ.filter fun i => (after.positions.get i).position ≠ (before.positions.get i).position

theorem getMarginRequirement_eq_ok {account : MarginAccount} {initial maintenance : Fin 46 → UInt64}
    (computed : ∀ i : Fin 46, (account.positions.get i).getInitialMargin (greeks.markPrices.get i)
      (zetaGroup.products.get i) spot zetaGroup.marginParameters = .ok (initial i))
    (held : ∀ i : Fin 46, (account.positions.get i).getMaintenanceMargin (greeks.markPrices.get i)
      (zetaGroup.products.get i) spot zetaGroup.marginParameters = .ok (maintenance i))
    (small : ∑ i, ((initial i).toNat + (maintenance i).toNat) < 2 ^ 64) :
    ∃ requirement, account.getMarginRequirement greeks zetaGroup spot = .ok requirement ∧
      requirement.toNat = ∑ i, ((initial i).toNat + (maintenance i).toNat) := by
  rw [Finset.sum_add_distrib] at small ⊢
  obtain ⟨first, firsts, firstValue⟩ := exists_total computed (by omega)
  obtain ⟨second, seconds, secondValue⟩ := exists_total held (by omega)
  obtain ⟨requirement, value⟩ := exists_toNat (n := first.toNat + second.toNat) (by omega)
  refine ⟨requirement, ?_, by omega⟩
  simp only [MarginAccount.getMarginRequirement, MarginAccount.getInitialMargin,
    MarginAccount.getMaintenanceMargin, bind_eq_ok]
  exact ⟨first, firsts, second, seconds, (tryAdd_eq_ok ..).mpr value⟩

/-- However many orders are filled or taken away, one after the other, the account needs at most as
much margin as before and one unit for each product whose position has changed. -/
theorem fills_covered
    (ordered : zetaGroup.marginParameters.maintenance.AtMost zetaGroup.marginParameters.initial)
    (run : Relation.ReflTransGen MarginAccount.Executes before after)
    {initial maintenance : Fin 46 → UInt64}
    (computed : ∀ i : Fin 46, (before.positions.get i).getInitialMargin (greeks.markPrices.get i)
      (zetaGroup.products.get i) spot zetaGroup.marginParameters = .ok (initial i))
    (held : ∀ i : Fin 46, (before.positions.get i).getMaintenanceMargin (greeks.markPrices.get i)
      (zetaGroup.products.get i) spot zetaGroup.marginParameters = .ok (maintenance i))
    (small : ∑ i, ((initial i).toNat + (maintenance i).toNat) + 46 < 2 ^ 64) :
    ∃ requirement requirement',
      before.getMarginRequirement greeks zetaGroup spot = .ok requirement ∧
      after.getMarginRequirement greeks zetaGroup spot = .ok requirement' ∧
      requirement'.toNat ≤ requirement.toNat + (changed before after).card := by
  -- One execution for each product, so that a unit is lost once, and not once for each fill.
  have executes := MarginAccount.executes_of_run run
  have each : ∀ i : Fin 46, ∃ initial' maintenance',
      (after.positions.get i).getInitialMargin (greeks.markPrices.get i)
        (zetaGroup.products.get i) spot zetaGroup.marginParameters = .ok initial' ∧
      (after.positions.get i).getMaintenanceMargin (greeks.markPrices.get i)
        (zetaGroup.products.get i) spot zetaGroup.marginParameters = .ok maintenance' ∧
      initial'.toNat + maintenance'.toNat ≤ (initial i).toNat + (maintenance i).toNat +
        if (after.positions.get i).position = (before.positions.get i).position then 0 else 1 := by
    intro i
    rcases executes i with same | executed
    · rw [same, if_pos rfl]
      exact ⟨initial i, maintenance i, computed i, held i, le_rfl⟩
    · have one : (initial i).toNat + (maintenance i).toNat ≤
          ∑ i, ((initial i).toNat + (maintenance i).toNat) :=
        Finset.single_le_sum (f := fun i => (initial i).toNat + (maintenance i).toNat)
          (fun i _ => Nat.zero_le _) (Finset.mem_univ i)
      obtain ⟨initial', maintenance', computed', held', _, bound⟩ :=
        executed.covered ordered (computed i) (held i) (by omega)
      exact ⟨initial', maintenance', computed', held', bound⟩
  choose initial' maintenance' computed' held' bound using each
  have sums : ∑ i, ((initial' i).toNat + (maintenance' i).toNat) ≤
      ∑ i, ((initial i).toNat + (maintenance i).toNat) + (changed before after).card := by
    rw [changed, Finset.card_filter, ← Finset.sum_add_distrib]
    refine Finset.sum_le_sum fun i _ => ?_
    simpa only [ne_eq, ite_not] using bound i
  have most : (changed before after).card ≤ 46 := (Finset.card_le_univ _).trans (by simp)
  obtain ⟨requirement, required, value⟩ := getMarginRequirement_eq_ok computed held (by omega)
  obtain ⟨requirement', required', value'⟩ :=
    getMarginRequirement_eq_ok computed' held' (by omega)
  exact ⟨requirement, requirement', required, required', by omega⟩

/-! Half a lot is held and half a lot is ordered, at a spot price of one and margins of 100 %: each
half rounds to nothing, and the whole does not. -/

def evenFutures : ZetaGroup where
  marginParameters := ⟨100000000, 100000000, 0, 0, 0, 0, 0, 0, 0, 0, 0⟩
  products := Vector.replicate 46 ⟨⟨true, 0⟩, .future⟩

def halfFilled : MarginAccount where
  balance := 1
  positions := Vector.ofFn fun i =>
    if i.val = 0 then ⟨500, 0, .ofFn ![500, 0]⟩ else ⟨0, 0, .replicate 2 0⟩

def allFilled : MarginAccount where
  balance := 1
  positions := Vector.ofFn fun i => ⟨if i.val = 0 then 1000 else 0, 0, .replicate 2 0⟩

theorem halfFilled_executes : halfFilled.Executes allFilled := by
  have others : ∀ i : Fin 46, i ≠ 0 →
      allFilled.positions.get i = halfFilled.positions.get i := by decide +kernel
  intro i
  by_cases first : i = 0
  · rw [first]
    exact .inr (.bids 500 (by decide +kernel) (by decide +kernel) (by decide +kernel)
      (by decide +kernel))
  · exact .inl (others i first)

theorem fills_covered_halfFilled :
    ∃ requirement requirement',
      halfFilled.getMarginRequirement unmarked evenFutures 1 = .ok requirement ∧
      allFilled.getMarginRequirement unmarked evenFutures 1 = .ok requirement' ∧
      requirement'.toNat ≤ requirement.toNat + (changed halfFilled allFilled).card := by
  have ordered : evenFutures.marginParameters.maintenance.AtMost
      evenFutures.marginParameters.initial := by
    constructor <;> decide
  have computed : ∀ i : Fin 46, (halfFilled.positions.get i).getInitialMargin
      (unmarked.markPrices.get i) (evenFutures.products.get i) 1 evenFutures.marginParameters =
        .ok 0 := by
    intro i
    apply eq_ok_of_toOption
    revert i
    decide +kernel
  have held : ∀ i : Fin 46, (halfFilled.positions.get i).getMaintenanceMargin
      (unmarked.markPrices.get i) (evenFutures.products.get i) 1 evenFutures.marginParameters =
        .ok 0 := by
    intro i
    apply eq_ok_of_toOption
    revert i
    decide +kernel
  exact fills_covered ordered (.single halfFilled_executes) computed held (by decide)

end JetVault.Zeta
