import JetVault.Properties.Dilution
import JetVault.Properties.Exit

/-!
# Amounts

What a deposit debits, mints and moves at Jet, and what a withdrawal pays, against the exact
amounts: the quotients of integers, rounded down once. Each call is exact under a condition on
the state before it.
-/
namespace JetVault

open Transition ProRata

variable {Key : Type} [DecidableEq Key] {user : Key} {clock : Int64}
  {usdcAmount redeemableAmount : UInt64} {s s' : Pool Key}

/-! ## What a deposit takes and mints -/

/-- A deposit takes the named amount and mints its quotient exactly when nothing is issued yet or
the named amount is its own quotient. -/
theorem deposit_mints_quotient_iff
    (returned : depositVault Jet.ideal clock user usdcAmount s = .ok s') :
    (s'.userUsdc user).toNat + usdcAmount.toNat = (s.userUsdc user).toNat ∧
        (s'.shares user).toNat = (s.shares user).toNat +
          (if s.redeemableSupply = 0 then usdcAmount.toNat
            else usdcAmount.toNat * s.redeemableSupply.toNat / s.vaultUsdc.toNat) ↔
      s.redeemableSupply = 0 ∨
        usdcAmount.toNat * s.vaultUsdc.toNat ≤ usdcAmount.toNat * s.redeemableSupply.toNat ∧
          usdcAmount.toNat * s.redeemableSupply.toNat <
            (usdcAmount.toNat + 1) * s.vaultUsdc.toNat := by
  have effect := depositVault_ok user returned
  have debited := effect.userUsdc
  have minted := effect.shares
  have bound := usdcAmount.toNat_lt
  by_cases empty : s.redeemableSupply = 0
  · have zero : ¬ 0 < s.redeemableSupply.toNat := by simp [empty]
    rw [Pool.debit, if_neg zero] at debited
    simp only [empty, if_true, true_or, iff_true]
    exact ⟨debited, minted⟩
  · have issued : 0 < s.redeemableSupply.toNat :=
      Nat.pos_of_ne_zero fun zero => empty (UInt64.toNat_inj.mp zero)
    have priced := effect.priced issued
    rw [Pool.debit, if_pos issued] at debited
    have own : usdcAmount.toNat * s.redeemableSupply.toNat / s.vaultUsdc.toNat = usdcAmount.toNat ↔
        usdcAmount.toNat * s.vaultUsdc.toNat ≤ usdcAmount.toNat * s.redeemableSupply.toNat ∧
          usdcAmount.toNat * s.redeemableSupply.toNat <
            (usdcAmount.toNat + 1) * s.vaultUsdc.toNat := by
      rw [Nat.div_eq_iff priced, add_one_mul]
      omega
    -- The two movements are swapped, so both are right only where they move the same amount.
    rw [if_neg empty, or_iff_right empty, ← own]
    omega

theorem deposit_mints_quotient_iff_crowdedWorld :
    (crowdedWorld'.userUsdc .late).toNat + (100 : UInt64).toNat =
          (crowdedWorld.userUsdc .late).toNat ∧
        (crowdedWorld'.shares .late).toNat = (crowdedWorld.shares .late).toNat +
          (if crowdedWorld.redeemableSupply = 0 then (100 : UInt64).toNat
            else (100 : UInt64).toNat * crowdedWorld.redeemableSupply.toNat /
              crowdedWorld.vaultUsdc.toNat) ↔
      crowdedWorld.redeemableSupply = 0 ∨
        (100 : UInt64).toNat * crowdedWorld.vaultUsdc.toNat ≤
            (100 : UInt64).toNat * crowdedWorld.redeemableSupply.toNat ∧
          (100 : UInt64).toNat * crowdedWorld.redeemableSupply.toNat <
            ((100 : UInt64).toNat + 1) * crowdedWorld.vaultUsdc.toNat :=
  deposit_mints_quotient_iff crowdedWorld_deposit

/-- The depositor who names 100 is debited 79 and receives 100 tokens. -/
theorem deposit_mints_named_amount :
    ¬ ∀ (s t t' : Pool Trader) (clock : Int64) (user : Trader) (usdcAmount : UInt64),
      Fresh s → Reaches (exec Jet.ideal) Instruction s t →
      depositVault Jet.ideal clock user usdcAmount t = .ok t' →
      (t'.userUsdc user).toNat + usdcAmount.toNat = (t.userUsdc user).toNat ∧
        (t'.shares user).toNat = (t.shares user).toNat +
          (if t.redeemableSupply = 0 then usdcAmount.toNat
            else usdcAmount.toNat * t.redeemableSupply.toNat / t.vaultUsdc.toNat) := by
  intro minted
  obtain ⟨debited, _⟩ := minted smallWorld crowdedWorld crowdedWorld' 15 .late 100
    smallWorld_fresh (attemptAll_reaches (by decide)) crowdedWorld_deposit
  exact absurd debited (by decide)

/-! ## The conversion of the quotient -/

/-- The debit of a deposit into a vault with a supply is the exact quotient exactly when the
product stays below `2 ^ 64` times `vault_usdc`. -/
theorem debit_eq_quotient_iff (issued : 0 < s.redeemableSupply)
    (returned : depositVault Jet.ideal clock user usdcAmount s = .ok s') :
    (s'.userUsdc user).toNat +
          usdcAmount.toNat * s.redeemableSupply.toNat / s.vaultUsdc.toNat =
        (s.userUsdc user).toNat ↔
      usdcAmount.toNat * s.redeemableSupply.toNat < 2 ^ 64 * s.vaultUsdc.toNat := by
  have effect := depositVault_ok user returned
  have issued := (FixedWidth.pos_iff _).mp issued
  have debited := effect.userUsdc
  rw [Pool.debit, if_pos issued] at debited
  rw [← Nat.div_lt_iff_lt_mul (effect.priced issued)]
  generalize usdcAmount.toNat * s.redeemableSupply.toNat / s.vaultUsdc.toNat = quotient at *
  omega

/-- The small world with amounts near the end of the `u64` range. -/
def vastWorld : Pool Trader :=
  { smallWorld with jetVault := 4000000000000000000, userUsdc := fun _ => 4000000000000000000 }

theorem vastWorld_fresh : Fresh vastWorld :=
  ⟨rfl, rfl, rfl, rfl, rfl, fun _ => rfl, by decide⟩

/-- A vault with 1 unit of USDC and a supply of 701. -/
def scarceWorld : Pool Trader :=
  attemptAll (exec Jet.ideal) ([.initializeUserRedeemableTokenAccount .early,
    .depositVault .early 1001, .withdrawVault .early 300,
    .initializeUserRedeemableTokenAccount .late].map inWindow) vastWorld

def scarceWorld' : Pool Trader :=
  attempt (exec Jet.ideal) (inWindow (.depositVault .late 26400000000000000)) scarceWorld

theorem scarceWorld_deposit :
    depositVault Jet.ideal 15 .late 26400000000000000 scarceWorld = .ok scarceWorld' :=
  show exec Jet.ideal (inWindow (.depositVault .late 26400000000000000)) scarceWorld = _ from
    attempt_eq_ok (by decide)

theorem debit_eq_quotient_iff_scarceWorld :
    (scarceWorld'.userUsdc .late).toNat +
          (26400000000000000 : UInt64).toNat * scarceWorld.redeemableSupply.toNat /
            scarceWorld.vaultUsdc.toNat =
        (scarceWorld.userUsdc .late).toNat ↔
      (26400000000000000 : UInt64).toNat * scarceWorld.redeemableSupply.toNat <
        2 ^ 64 * scarceWorld.vaultUsdc.toNat :=
  debit_eq_quotient_iff (by decide) scarceWorld_deposit

/-- The quotient of the second deposit is above `2 ^ 64`, and its remainder is debited. -/
theorem debit_truncated :
    ¬ ∀ (s t t' : Pool Trader) (clock : Int64) (user : Trader) (usdcAmount : UInt64),
      Fresh s → Reaches (exec Jet.ideal) Instruction s t → 0 < t.redeemableSupply →
      0 < t.vaultUsdc → depositVault Jet.ideal clock user usdcAmount t = .ok t' →
      (t'.userUsdc user).toNat +
          usdcAmount.toNat * t.redeemableSupply.toNat / t.vaultUsdc.toNat =
        (t.userUsdc user).toNat := by
  intro exact
  have debited := exact vastWorld scarceWorld scarceWorld' 15 .late 26400000000000000
    vastWorld_fresh (attemptAll_reaches (by decide)) (by decide) (by decide) scarceWorld_deposit
  exact absurd debited (by decide)

/-! ## The Jet legs -/

/-- What a deposit sends to Jet and posts as collateral is 90 % of the named amount, and covers
the half it borrows, exactly when 90 times the amount fits in a `u64`. -/
theorem jet_legs_exact_iff
    (returned : depositVault Jet.ideal clock user usdcAmount s = .ok s') :
    s'.jetVault.toNat + usdcAmount.toNat / 2 =
          s.jetVault.toNat + 90 * usdcAmount.toNat / 100 ∧
        s'.collateralAccount.toNat = s.collateralAccount.toNat + 90 * usdcAmount.toNat / 100 ∧
        s'.loanAccount.toNat = s.loanAccount.toNat + usdcAmount.toNat / 2 ∧
        s'.loanAccount.toNat + s.collateralAccount.toNat ≤
          s'.collateralAccount.toNat + s.loanAccount.toNat ↔
      usdcAmount.toNat * 90 < 2 ^ 64 := by
  have effect := depositVault_ok user returned
  have reserve := effect.jetVault
  have posted := effect.collateral
  have owed := effect.loan
  rw [depositTokens_toNat] at reserve posted
  rw [borrowTokens_toNat] at reserve owed
  constructor
  -- Above the bound the product loses at least `2 ^ 64`, more than the division by 100 hides.
  · rintro ⟨_, exact, _⟩
    by_contra wraps
    have reduced := Nat.mod_le (usdcAmount.toNat * 90 - 2 ^ 64) (2 ^ 64)
    rw [← Nat.mod_eq_sub_mod (Nat.le_of_not_lt wraps)] at reduced
    omega
  · intro fits
    rw [Nat.mod_eq_of_lt fits] at reserve posted
    exact ⟨by omega, by omega, by omega, by omega⟩

def openVastWorld : Pool Trader :=
  attempt (exec Jet.ideal) (inWindow (.initializeUserRedeemableTokenAccount .early)) vastWorld

def wrappedWorld : Pool Trader :=
  attempt (exec Jet.ideal) (inWindow (.depositVault .early 210000000000000000)) openVastWorld

theorem openVastWorld_deposit :
    depositVault Jet.ideal 15 .early 210000000000000000 openVastWorld = .ok wrappedWorld :=
  show exec Jet.ideal (inWindow (.depositVault .early 210000000000000000)) openVastWorld = _ from
    attempt_eq_ok (by decide)

theorem jet_legs_exact_iff_wrappedWorld :
    wrappedWorld.jetVault.toNat + (210000000000000000 : UInt64).toNat / 2 =
          openVastWorld.jetVault.toNat + 90 * (210000000000000000 : UInt64).toNat / 100 ∧
        wrappedWorld.collateralAccount.toNat =
          openVastWorld.collateralAccount.toNat +
            90 * (210000000000000000 : UInt64).toNat / 100 ∧
        wrappedWorld.loanAccount.toNat =
          openVastWorld.loanAccount.toNat + (210000000000000000 : UInt64).toNat / 2 ∧
        wrappedWorld.loanAccount.toNat + openVastWorld.collateralAccount.toNat ≤
          wrappedWorld.collateralAccount.toNat + openVastWorld.loanAccount.toNat ↔
      (210000000000000000 : UInt64).toNat * 90 < 2 ^ 64 :=
  jet_legs_exact_iff openVastWorld_deposit

/-- The loan of the first deposit is twenty times what is posted for it. -/
theorem loan_outgrows_collateral :
    ¬ ∀ (s s' : Pool Trader) (clock : Int64) (user : Trader) (usdcAmount : UInt64),
      depositVault Jet.ideal clock user usdcAmount s = .ok s' →
      s'.jetVault.toNat + usdcAmount.toNat / 2 =
          s.jetVault.toNat + 90 * usdcAmount.toNat / 100 ∧
        s'.collateralAccount.toNat = s.collateralAccount.toNat + 90 * usdcAmount.toNat / 100 ∧
        s'.loanAccount.toNat = s.loanAccount.toNat + usdcAmount.toNat / 2 ∧
        s'.loanAccount.toNat + s.collateralAccount.toNat ≤
          s'.collateralAccount.toNat + s.loanAccount.toNat := by
  intro exact
  obtain ⟨_, _, _, covered⟩ := exact openVastWorld wrappedWorld 15 .early 210000000000000000
    openVastWorld_deposit
  exact absurd covered (by decide)

/-! ## What a withdrawal pays -/

/-- A withdrawal pays the exact pro-rata amount rounded down exactly when it redeems nothing, or
the equity is not negative and what the whole rate leaves of it, scaled by the redeemed tokens,
is less than the supply. -/
theorem payout_eq_quotient_iff [Fintype Key] {s t t' : Pool Key} (fresh : Fresh s)
    (run : Reaches (exec Jet.ideal) AnyCall s t)
    (returned : withdrawVault Jet.ideal clock user redeemableAmount t = .ok t') :
    ((t'.userUsdc user).toNat : ℤ) = (t.userUsdc user).toNat +
          redeemableAmount.toNat * t.exactEquity / t.redeemableSupply.toNat ∧
        |((t'.userUsdc user).toNat - (t.userUsdc user).toNat : ℤ) * t.redeemableSupply.toNat -
          redeemableAmount.toNat * t.exactEquity| < t.redeemableSupply.toNat ↔
      redeemableAmount = 0 ∨ 0 ≤ t.exactEquity ∧
        redeemableAmount.toNat * (t.exactEquity % t.redeemableSupply.toNat) <
          t.redeemableSupply.toNat := by
  obtain ⟨issued, held, paid⟩ := withdrawVault_pays user returned
  have accounted := Accounted.of_reaches fresh run
  have positive : (0 : ℤ) < t.redeemableSupply.toNat := Int.natCast_pos.mpr issued
  have zero : redeemableAmount = 0 ↔ redeemableAmount.toNat = 0 := by
    rw [← UInt64.toNat_inj, UInt64.toNat_zero]
  have equity := equity_toInt t
  have bound := accounted.netEquity_lt
  have le := exactEquity_le_netEquity t
  have close := abs_floor_mul_sub_lt (redeemableAmount.toNat * t.exactEquity) positive
  rw [payout_toNat held] at paid
  -- The exact floor is within one unit, so the first equation is the whole statement.
  rw [and_iff_left_of_imp fun floor => by rwa [floor, add_sub_cancel_left], paid, zero]
  push_cast
  rw [add_right_inj]
  rcases lt_or_ge t.exactEquity 0 with negative | exact
  -- A negative equity is read as a large one, and pays where the exact amount is below zero.
  · rw [iff_comm, or_iff_left (fun ⟨exact, _⟩ => absurd exact (not_le.mpr negative))]
    constructor
    · intro nothing
      simp [nothing]
    · intro same
      by_contra some
      have owed : (redeemableAmount.toNat : ℤ) * t.exactEquity < 0 :=
        mul_neg_of_pos_of_neg (by omega) negative
      have below := Int.ediv_neg_of_neg_of_pos owed positive
      rw [← same] at below
      exact absurd below (not_lt.mpr (by positivity))
  · have read : t.exactEquity = (t.equity.toNat : ℤ) := by omega
    rw [read, and_iff_right (Int.natCast_nonneg _)]
    norm_cast
    rw [payout_eq_floor_iff _ _ issued]
    constructor
    · exact Or.inr
    · rintro (nothing | small)
      · rwa [nothing, zero_mul]
      · exact small

theorem partedWorld_reached : Reaches (exec Jet.ideal) Instruction smallWorld partedWorld :=
  loneWorld_reached.trans (attempt_reaches (by decide))

/-- The parted world after ten more of the ninety were redeemed, for nothing. -/
def partedWorld' : Pool Trader :=
  attempt (exec Jet.ideal) (inWindow (.withdrawVault .early 10)) partedWorld

theorem partedWorld_withdrawal :
    withdrawVault Jet.ideal 15 .early 10 partedWorld = .ok partedWorld' :=
  show exec Jet.ideal (inWindow (.withdrawVault .early 10)) partedWorld = _ from
    attempt_eq_ok (by decide)

theorem payout_eq_quotient_iff_partedWorld :
    ((partedWorld'.userUsdc .early).toNat : ℤ) = (partedWorld.userUsdc .early).toNat +
          (10 : UInt64).toNat * partedWorld.exactEquity / partedWorld.redeemableSupply.toNat ∧
        |((partedWorld'.userUsdc .early).toNat - (partedWorld.userUsdc .early).toNat : ℤ) *
            partedWorld.redeemableSupply.toNat -
          (10 : UInt64).toNat * partedWorld.exactEquity| < partedWorld.redeemableSupply.toNat ↔
      (10 : UInt64) = 0 ∨ 0 ≤ partedWorld.exactEquity ∧
        (10 : UInt64).toNat * (partedWorld.exactEquity % partedWorld.redeemableSupply.toNat) <
          partedWorld.redeemableSupply.toNat :=
  payout_eq_quotient_iff smallWorld_fresh
    (partedWorld_reached.mono fun _ _ _ => trivial) partedWorld_withdrawal

/-- Ten of ninety tokens with an equity of 80 are worth 8 and are paid nothing. -/
theorem payout_loses_units :
    ¬ ∀ (s t t' : Pool Trader) (clock : Int64) (user : Trader) (redeemableAmount : UInt64),
      Fresh s → Reaches (exec Jet.ideal) Instruction s t → 0 < t.redeemableSupply →
      withdrawVault Jet.ideal clock user redeemableAmount t = .ok t' →
      ((t'.userUsdc user).toNat : ℤ) = (t.userUsdc user).toNat +
          redeemableAmount.toNat * t.exactEquity / t.redeemableSupply.toNat ∧
        |((t'.userUsdc user).toNat - (t.userUsdc user).toNat : ℤ) * t.redeemableSupply.toNat -
          redeemableAmount.toNat * t.exactEquity| < t.redeemableSupply.toNat := by
  intro exact
  obtain ⟨_, close⟩ := exact smallWorld partedWorld partedWorld' 15 .early 10 smallWorld_fresh
    partedWorld_reached (by decide) partedWorld_withdrawal
  exact absurd close (by decide)

end JetVault
