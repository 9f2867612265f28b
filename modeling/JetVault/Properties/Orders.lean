import JetVault.Properties.MarginCheck
import JetVault.Zeta.Orders
import Mathlib.Algebra.Order.BigOperators.Group.Finset

/-!
# Orders and the margin check

An account without active orders needs maintenance margin only, and one without positions either
is judged by its balance alone. Taking orders away never makes an account fail the check, as long
as the total of its initial margins does not wrap.
-/
namespace JetVault.Zeta

open Fallible FixedWidth Totals

variable {markPrice strike spot : UInt64} {product : Product} {marginParameters : MarginParameters}
  {greeks : Greeks} {zetaGroup : ZetaGroup}

/-! ## Fewer orders -/

/-- The same position with at most the same opening orders. -/
structure Position.Fewer (fewer more : Position) : Prop where
  position : fewer.position = more.position
  costOfTrades : fewer.costOfTrades = more.costOfTrades
  bids : fewer.openingOrders.get 0 ≤ more.openingOrders.get 0
  asks : fewer.openingOrders.get 1 ≤ more.openingOrders.get 1

theorem orderMargin_mono {fewer more : UInt64} (le : fewer ≤ more) {side : Side} {margin : ℕ}
    (computed : Position.orderMargin more side markPrice strike product spot marginParameters =
      .ok margin) :
    ∃ margin', Position.orderMargin fewer side markPrice strike product spot marginParameters =
      .ok margin' ∧ margin' ≤ margin := by
  unfold Position.orderMargin at *
  rw [UInt64.le_iff_toNat_le] at le
  by_cases none : 0 < fewer
  · have some : 0 < more := by
      rw [pos_iff] at none ⊢
      omega
    rw [if_pos some] at computed
    rw [if_pos none]
    simp only [bind_eq_ok, tryMul128_eq_ok] at computed ⊢
    obtain ⟨perLot, priced, fits, rfl⟩ := computed
    have product := Nat.mul_le_mul_right perLot.toNat le
    exact ⟨_, ⟨perLot, priced, lt_of_le_of_lt product fits, rfl⟩, product⟩
  · rw [if_neg none]
    exact ⟨0, rfl, Nat.zero_le margin⟩

/-- Fewer orders need no more initial margin. -/
theorem getInitialMargin_mono {fewer more : Position} (less : fewer.Fewer more) {margin : UInt64}
    (computed : more.getInitialMargin markPrice product spot marginParameters = .ok margin) :
    ∃ margin', fewer.getInitialMargin markPrice product spot marginParameters = .ok margin' ∧
      margin'.toNat ≤ margin.toNat := by
  unfold Position.getInitialMargin at *
  split at computed
  next => exact ⟨margin, computed, le_rfl⟩
  next strike set_ =>
    simp only [bind_eq_ok, tryAdd128_eq_ok, tryDiv128_eq_ok, tryUInt64_eq_ok] at computed ⊢
    obtain ⟨longs, bids, shorts, asks, _, ⟨fits, rfl⟩, _, ⟨positive, rfl⟩, value⟩ := computed
    obtain ⟨longs', bids', fewerLongs⟩ := orderMargin_mono less.bids bids
    obtain ⟨shorts', asks', fewerShorts⟩ := orderMargin_mono less.asks asks
    have sum := Nat.add_le_add fewerLongs fewerShorts
    have quotient : (longs' + shorts') / positionPrecisionDenominator ≤
        (longs + shorts) / positionPrecisionDenominator := Nat.div_le_div_right sum
    have bound := margin.toNat_lt
    obtain ⟨margin', value'⟩ := exists_toNat
      (n := (longs' + shorts') / positionPrecisionDenominator) (by omega)
    exact ⟨margin', ⟨longs', bids', shorts', asks', _, ⟨lt_of_le_of_lt sum fits, rfl⟩, _,
      ⟨positive, rfl⟩, value'⟩, by omega⟩

/-! ## Whole accounts -/

/-- The same balance and positions, each with at most the same opening orders. -/
structure MarginAccount.Fewer (fewer more : MarginAccount) : Prop where
  balance : fewer.balance = more.balance
  positions : ∀ i, (fewer.positions.get i).Fewer (more.positions.get i)

variable {fewer more : MarginAccount}

theorem getMaintenanceMargin_fewer (less : fewer.Fewer more) :
    fewer.getMaintenanceMargin greeks zetaGroup spot =
      more.getMaintenanceMargin greeks zetaGroup spot := by
  unfold MarginAccount.getMaintenanceMargin
  congr 1
  funext i
  simp only [Position.getMaintenanceMargin, Position.size, (less.positions i).position]

theorem getUnrealizedPnl_fewer (less : fewer.Fewer more) :
    fewer.getUnrealizedPnl greeks = more.getUnrealizedPnl greeks := by
  unfold MarginAccount.getUnrealizedPnl
  congr 1
  funext i
  simp only [Position.getUnrealizedPnl, (less.positions i).position,
    (less.positions i).costOfTrades]

/-- The totals of the initial margins compare, if the greater one does not wrap. -/
theorem getInitialMargin_fewer (less : fewer.Fewer more) {initial : Fin 46 → UInt64}
    (computed : ∀ i : Fin 46, (more.positions.get i).getInitialMargin (greeks.markPrices.get i)
      (zetaGroup.products.get i) spot zetaGroup.marginParameters = .ok (initial i))
    (fits : ∑ i, (initial i).toNat < 2 ^ 64) {total : UInt64}
    (totalled : more.getInitialMargin greeks zetaGroup spot = .ok total) :
    ∃ total', fewer.getInitialMargin greeks zetaGroup spot = .ok total' ∧
      total'.toNat ≤ total.toNat := by
  have each : ∀ i, ∃ margin, (fewer.positions.get i).getInitialMargin (greeks.markPrices.get i)
      (zetaGroup.products.get i) spot zetaGroup.marginParameters = .ok margin ∧
        margin.toNat ≤ (initial i).toNat :=
    fun i => getInitialMargin_mono (less.positions i) (computed i)
  choose initial' computed' le using each
  have sums : ∑ i, (initial' i).toNat ≤ ∑ i, (initial i).toNat := Finset.sum_le_sum fun i _ => le i
  obtain ⟨total', totalled', value'⟩ := exists_total computed' (lt_of_le_of_lt sums fits)
  obtain ⟨exact, same, value⟩ := exists_total computed fits
  rw [MarginAccount.getInitialMargin, same] at totalled
  cases totalled
  exact ⟨total', totalled', by omega⟩

/-- An account that passes the check still passes it after orders are taken away, if the total of
its initial margins did not wrap. -/
theorem fewer_orders_pass (less : fewer.Fewer more) {pnl : Fin 46 → Int64}
    {initial maintenance : Fin 46 → UInt64}
    (computed : Computed more greeks zetaGroup spot pnl initial maintenance)
    (fits : ∑ i, (initial i).toNat < 2 ^ 64)
    (passes : more.checkMarginRequirement greeks zetaGroup spot = .ok true) :
    fewer.checkMarginRequirement greeks zetaGroup spot = .ok true := by
  simp only [MarginAccount.checkMarginRequirement, MarginAccount.getMarginRequirement,
    getMaintenanceMargin_fewer less, getUnrealizedPnl_fewer less, less.balance,
    bind_eq_ok, pure_eq_ok, tryAdd_eq_ok, tryInt64_eq_ok, tryAddInt64_eq_ok, trySubInt64_eq_ok]
    at passes ⊢
  obtain ⟨profit, profits, requirement, ⟨first, initials, second, maintenances, required⟩,
    marginRequirement, narrowed, balance, balanced, covered, covers, buffer, buffered, passed⟩ :=
    passes
  obtain ⟨first', initials', le⟩ := getInitialMargin_fewer less computed.initial fits initials
  have enough : 0 < buffer.toInt := by
    have positive := of_decide_eq_true passed
    rwa [Int64.lt_iff_toInt_lt, Int64.toInt_zero] at positive
  -- The requirement only falls, and so the buffer only grows, up to what is covered.
  have bound := requirement.toNat_lt
  have high := marginRequirement.toInt_lt
  have top := covered.toInt_lt
  obtain ⟨requirement', required'⟩ := exists_toNat (n := first'.toNat + second.toNat) (by omega)
  obtain ⟨marginRequirement', narrowed'⟩ := exists_toInt (x := requirement'.toNat) (by omega)
    (by omega)
  obtain ⟨buffer', buffered'⟩ := exists_toInt (x := covered.toInt - marginRequirement'.toInt)
    (by omega) (by omega)
  refine ⟨profit, profits, requirement', ⟨first', initials', second, maintenances, required'⟩,
    marginRequirement', narrowed', balance, balanced, covered, covers, buffer', buffered',
    decide_eq_true ?_⟩
  rw [Int64.lt_iff_toInt_lt, Int64.toInt_zero]
  omega

/-- The bidder's account with a balance of one million, and the same without its bids. -/
def funded : MarginAccount :=
  { bidder with balance := 1000000 }

def cancelled : MarginAccount where
  balance := 1000000
  positions := Vector.replicate 46 ⟨0, 0, .replicate 2 0⟩

/-- Two bids for one lot at a margin of 15 % of a spot of one million. -/
theorem fewer_orders_pass_funded :
    cancelled.checkMarginRequirement unmarked (futures 15000000) 1000000 = .ok true := by
  have less : cancelled.Fewer funded := by
    refine ⟨rfl, ?_⟩
    intro i
    constructor
    all_goals
      revert i
      decide
  have computed : Computed funded unmarked (futures 15000000) 1000000 (fun _ => 0)
      (fun i => if i.val < 2 then 150000 else 0) (fun _ => 0) := by
    constructor
    all_goals
      intro i
      apply eq_ok_of_toOption
      revert i
      decide +kernel
  exact fewer_orders_pass less computed (by decide +kernel)
    (eq_ok_of_toOption (by decide +kernel))

/-! ## Idle accounts -/

theorem getInitialMargin_idle {position : Position} (bids : position.openingOrders.get 0 = 0)
    (asks : position.openingOrders.get 1 = 0) :
    position.getInitialMargin markPrice product spot marginParameters = .ok 0 := by
  have bids : position.openingOrders[0] = 0 := bids
  have asks : position.openingOrders[1] = 0 := asks
  unfold Position.getInitialMargin
  split
  next => rfl
  next strike set_ =>
    rw [bids, asks]
    rfl

variable {account : TradingAccount}

theorem TradingAccount.get_toMarginAccount (account : TradingAccount) (i : Fin 46) :
    account.toMarginAccount.positions.get i = (account.positions.get i).toPosition := by
  simp [toMarginAccount, Vector.get]
  rfl

theorem TradingAccount.getInitialMargin_idle (idle : account.hasActiveOrders = false)
    (greeks : Greeks) (zetaGroup : ZetaGroup) (spot : UInt64) :
    account.toMarginAccount.getInitialMargin greeks zetaGroup spot = .ok 0 := by
  apply total_eq_zero (UInt64.add_zero 0)
  intro i _
  have member : account.positions.get i ∈ account.positions.toList :=
    Vector.mem_toList_iff.mpr (Vector.getElem_mem i.isLt)
  obtain ⟨bids, asks, _⟩ := TradedPosition.hasActiveOrders_eq_false.mp
    (hasActiveOrders_eq_false.mp idle _ member)
  rw [get_toMarginAccount]
  exact Zeta.getInitialMargin_idle bids asks

theorem getMaintenanceMargin_flat {account : MarginAccount}
    (flat : ∀ i, (account.positions.get i).position = 0) :
    account.getMaintenanceMargin greeks zetaGroup spot = .ok 0 := by
  apply total_eq_zero (UInt64.add_zero 0)
  intro i _
  unfold Position.getMaintenanceMargin
  split
  next => rfl
  next => rw [if_neg (not_not.mpr (flat i))]; rfl

theorem getUnrealizedPnl_flat {account : MarginAccount}
    (flat : ∀ i, (account.positions.get i).position = 0) :
    account.getUnrealizedPnl greeks = .ok 0 := by
  apply total_eq_zero (Int64.add_zero 0)
  intro i _
  rw [Position.getUnrealizedPnl, if_pos (flat i)]

/-- Without active orders no initial margin is needed, and without positions nothing is: the check
then asks for a balance above zero, whatever the market. -/
theorem idle_account (account : TradingAccount) (idle : account.hasActiveOrders = false)
    (greeks : Greeks) (zetaGroup : ZetaGroup) (spot : UInt64) :
    account.toMarginAccount.getMarginRequirement greeks zetaGroup spot =
        account.toMarginAccount.getMaintenanceMargin greeks zetaGroup spot ∧
      ((∀ i, (account.positions.get i).position = 0) →
        account.toMarginAccount.checkMarginRequirement greeks zetaGroup spot =
          if account.balance.toNat < 2 ^ 63 then .ok (0 < account.balance) else .error .abort) := by
  have requirement : account.toMarginAccount.getMarginRequirement greeks zetaGroup spot =
      account.toMarginAccount.getMaintenanceMargin greeks zetaGroup spot := by
    rw [MarginAccount.getMarginRequirement,
      TradingAccount.getInitialMargin_idle idle greeks zetaGroup spot]
    cases account.toMarginAccount.getMaintenanceMargin greeks zetaGroup spot with
    | error failure => rfl
    | ok maintenance =>
      simp only [bind, Except.bind, tryAdd_eq_ok]
      rw [UInt64.toNat_zero, Nat.zero_add]
  refine ⟨requirement, ?_⟩
  intro flat
  have flat' : ∀ i, (account.toMarginAccount.positions.get i).position = 0 := by
    intro i
    rw [TradingAccount.get_toMarginAccount]
    exact flat i
  rw [MarginAccount.checkMarginRequirement, getUnrealizedPnl_flat flat', requirement,
    getMaintenanceMargin_flat flat']
  split
  next fits =>
    -- Nothing is required and nothing gained, so that the buffer is the balance.
    obtain ⟨balance, balanced⟩ := exists_toInt (x := account.balance.toNat) (by omega) (by omega)
    simp only [bind_eq_ok, pure_eq_ok, tryInt64_eq_ok, tryAddInt64_eq_ok, trySubInt64_eq_ok]
    refine ⟨0, rfl, 0, rfl, 0, rfl, balance, balanced, balance, ?_, balance, ?_, ?_⟩
    · simp
    · simp
    · rw [decide_eq_decide, Int64.lt_iff_toInt_lt, Int64.toInt_zero, pos_iff]
      omega
  next overflow =>
    have refused : tryInt64 Failure.abort account.toMarginAccount.balance.toNat =
        .error .abort := by
      have same : account.toMarginAccount.balance = account.balance := rfl
      rw [same, tryInt64, if_neg]
      rintro ⟨_, within⟩
      omega
    have zero : tryInt64 Failure.abort ((0 : UInt64).toNat : ℤ) = .ok 0 :=
      (tryInt64_eq_ok ..).mpr (by decide)
    simp only [bind_eq_error]
    exact .inr ⟨0, rfl, .inr ⟨0, rfl, .inr ⟨0, zero, .inl refused⟩⟩⟩

/-- Two lots of the first future, and no orders. -/
def holdingAccount : TradingAccount where
  balance := 5000000
  positions := .ofFn fun i =>
    ⟨⟨if i.val = 0 then 2000 else 0, if i.val = 0 then 1500000 else 0, .replicate 2 0⟩, 0⟩

/-- The balance after the position was closed. -/
def closedAccount : TradingAccount :=
  { holdingAccount with positions := .replicate 46 ⟨⟨0, 0, .replicate 2 0⟩, 0⟩ }

/-- A future takes eight percent of the spot price to maintain. -/
def eightPercent : ZetaGroup :=
  { futures 15000000 with marginParameters := ⟨15000000, 8000000, 0, 0, 0, 0, 0, 0, 0, 0, 0⟩ }

theorem idle_account_holding :
    holdingAccount.toMarginAccount.getMarginRequirement unmarked eightPercent 1000000 =
        .ok 160000 ∧
      closedAccount.toMarginAccount.checkMarginRequirement unmarked eightPercent 1000000 =
        .ok true := by
  have maintenance : holdingAccount.toMarginAccount.getMaintenanceMargin unmarked eightPercent
      1000000 = .ok 160000 := eq_ok_of_toOption (by decide +kernel)
  have flat : ∀ i, (closedAccount.positions.get i).position = 0 := by decide +kernel
  exact ⟨(idle_account holdingAccount (by decide) unmarked eightPercent 1000000).1.trans maintenance,
    (idle_account closedAccount (by decide) unmarked eightPercent 1000000).2 flat⟩

end JetVault.Zeta
