import JetVault.Vault.Handlers

/-!
# What each handler moves

One lemma per token or Jet operation, then one per handler: the integer equations between the
balances before and after a successful call. Later modules use these and never unfold a
handler.
-/
namespace JetVault

open Fallible FixedWidth

variable {Key : Type}

/-! ## Quotes

The amounts a handler would use, as functions of the state before the call. -/

/-- The integer that `usdc_equity` of `withdraw_vault` stands for. -/
def Pool.exactEquity (s : Pool Key) : ℤ :=
  s.vaultUsdc.toNat + s.collateralAccount.toNat - s.loanAccount.toNat

/-- `usdc_equity`, with its wrapping arithmetic. -/
def Pool.equity (s : Pool Key) : UInt64 :=
  usdcEquity s.vaultUsdc s.collateralAccount s.loanAccount

/-- `usdc_fx_rate`, where the supply is positive. -/
def Pool.rate (s : Pool Key) : UInt64 :=
  s.equity / s.redeemableSupply

def Pool.payout (s : Pool Key) (redeemableAmount : UInt64) : UInt64 :=
  usdcToSendUser redeemableAmount s.rate

def Pool.repayment (s : Pool Key) (redeemableAmount : UInt64) : UInt64 :=
  usdcToRepayJet s.loanAccount (s.payout redeemableAmount) s.vaultUsdc

/-- The USDC that `deposit_vault` debits: the quotient after its conversion to `u64`. -/
def Pool.debit (s : Pool Key) (usdcAmount : UInt64) : ℕ :=
  if 0 < s.redeemableSupply.toNat then
    usdcAmount.toNat * s.redeemableSupply.toNat / s.vaultUsdc.toNat % 2 ^ 64
  else usdcAmount.toNat

theorem equity_toInt (s : Pool Key) :
    (s.equity.toNat : ℤ) = s.exactEquity % 2 ^ 64 :=
  toNat_add_sub s.vaultUsdc s.collateralAccount s.loanAccount

theorem rate_toNat (s : Pool Key) :
    s.rate.toNat = s.equity.toNat / s.redeemableSupply.toNat :=
  UInt64.toNat_div s.equity s.redeemableSupply

theorem payout_toNat {s : Pool Key} {redeemableAmount : UInt64}
    (held : redeemableAmount.toNat ≤ s.redeemableSupply.toNat) :
    (s.payout redeemableAmount).toNat =
      redeemableAmount.toNat * (s.equity.toNat / s.redeemableSupply.toNat) :=
  usdcToSendUser_toNat s.equity held

theorem repayment_toNat (s : Pool Key) (redeemableAmount : UInt64) :
    (s.repayment redeemableAmount).toNat =
      min (min s.loanAccount.toNat (s.payout redeemableAmount).toNat) s.vaultUsdc.toNat := by
  simp only [Pool.repayment, usdcToRepayJet, toNat_min]

theorem redeemableAmount_eq_ok (s : Pool Key) (usdcAmount : UInt64) (quotient : ℕ)
    (returned : redeemableAmount usdcAmount s.redeemableSupply s.vaultUsdc = .ok quotient) :
    (0 < s.redeemableSupply.toNat → 0 < s.vaultUsdc.toNat) ∧
      (UInt64.ofNat quotient).toNat = s.debit usdcAmount := by
  rw [UInt64.toNat_ofNat', Pool.debit]
  unfold redeemableAmount at returned
  split at returned
  next issued =>
    rw [tryMul128_toNat] at returned
    obtain ⟨priced, rfl⟩ := (tryDiv128_eq_ok _ _ _ _).mp returned
    exact ⟨fun _ => priced, by rw [if_pos ((pos_iff _).mp issued)]⟩
  next empty =>
    rw [pos_iff] at empty
    cases returned
    exact ⟨fun issued => absurd issued empty, by
      rw [if_neg empty, Nat.mod_eq_of_lt usdcAmount.toNat_lt]⟩

/-! ## Token and Jet operations -/

theorem invoke_eq_ok (call : Balances → Except Failure Balances) (s s' : Pool Key) :
    s.invoke call = .ok s' ↔ ∃ b, call s.toBalances = .ok b ∧ { s with toBalances := b } = s' := by
  simp only [Pool.invoke, bind_eq_ok, pure_eq_ok]

section Token

variable [DecidableEq Key] (user : Key) (amount : UInt64) (s s' : Pool Key)

theorem transferToVault_eq_ok :
    s.transferToVault user amount = .ok s' ↔ ∃ source destination : UInt64,
      source.toNat + amount.toNat = (s.userUsdc user).toNat ∧
      destination.toNat = s.vaultUsdc.toNat + amount.toNat ∧
      { s with
        vaultUsdc := destination, userUsdc := Function.update s.userUsdc user source } = s' := by
  simp only [Pool.transferToVault, bind_eq_ok, pure_eq_ok, trySub_eq_ok, tryAdd_eq_ok,
    ← exists_and_left]

theorem transferToUser_eq_ok :
    s.transferToUser user amount = .ok s' ↔ ∃ source destination : UInt64,
      source.toNat + amount.toNat = s.vaultUsdc.toNat ∧
      destination.toNat = (s.userUsdc user).toNat + amount.toNat ∧
      { s with
        vaultUsdc := source, userUsdc := Function.update s.userUsdc user destination } = s' := by
  simp only [Pool.transferToUser, bind_eq_ok, pure_eq_ok, trySub_eq_ok, tryAdd_eq_ok,
    ← exists_and_left]

theorem mintTo_eq_ok :
    s.mintTo user amount = .ok s' ↔ ∃ destination supply : UInt64,
      destination.toNat = (s.shares user).toNat + amount.toNat ∧
      supply.toNat = s.redeemableSupply.toNat + amount.toNat ∧
      { s with
        redeemableSupply := supply
        userRedeemable := Function.update s.userRedeemable user (some destination) } = s' := by
  simp only [Pool.mintTo, bind_eq_ok, pure_eq_ok, tryAdd_eq_ok, ← exists_and_left]

theorem burn_eq_ok :
    s.burn user amount = .ok s' ↔ ∃ source supply : UInt64,
      source.toNat + amount.toNat = (s.shares user).toNat ∧
      supply.toNat + amount.toNat = s.redeemableSupply.toNat ∧
      { s with
        redeemableSupply := supply
        userRedeemable := Function.update s.userRedeemable user (some source) } = s' := by
  simp only [Pool.burn, bind_eq_ok, pure_eq_ok, trySub_eq_ok, ← exists_and_left]

end Token

namespace Jet.Ideal

variable (tokens : UInt64) (b b' : Balances)

theorem deposit_eq_ok :
    deposit tokens b = .ok b' ↔ ∃ source reserve notes : UInt64,
      source.toNat + tokens.toNat = b.vaultUsdc.toNat ∧
      reserve.toNat = b.jetVault.toNat + tokens.toNat ∧
      notes.toNat = b.depositAccount.toNat + tokens.toNat ∧
      notes.toNat + b.collateralAccount.toNat < 2 ^ 64 ∧
      { b with vaultUsdc := source, jetVault := reserve, depositAccount := notes } = b' := by
  simp only [deposit, bind_eq_ok, pure_eq_ok, trySub_eq_ok, tryAdd_eq_ok, ← exists_and_left,
    ← exists_tryAdd Failure.jet, exists_and_right]

theorem depositCollateral_eq_ok :
    depositCollateral tokens b = .ok b' ↔ ∃ notes collateral : UInt64,
      notes.toNat + tokens.toNat = b.depositAccount.toNat ∧
      collateral.toNat = b.collateralAccount.toNat + tokens.toNat ∧
      { b with depositAccount := notes, collateralAccount := collateral } = b' := by
  simp only [depositCollateral, bind_eq_ok, pure_eq_ok, trySub_eq_ok, tryAdd_eq_ok,
    ← exists_and_left]

theorem borrow_eq_ok :
    borrow tokens b = .ok b' ↔ ∃ reserve receiver loan : UInt64,
      reserve.toNat + tokens.toNat = b.jetVault.toNat ∧
      receiver.toNat = b.vaultUsdc.toNat + tokens.toNat ∧
      loan.toNat = b.loanAccount.toNat + tokens.toNat ∧
      { b with jetVault := reserve, vaultUsdc := receiver, loanAccount := loan } = b' := by
  simp only [borrow, bind_eq_ok, pure_eq_ok, trySub_eq_ok, tryAdd_eq_ok, ← exists_and_left]

theorem repay_eq_ok :
    repay tokens b = .ok b' ↔ ∃ payer reserve loan : UInt64,
      payer.toNat + tokens.toNat = b.vaultUsdc.toNat ∧
      reserve.toNat = b.jetVault.toNat + tokens.toNat ∧
      loan.toNat + tokens.toNat = b.loanAccount.toNat ∧
      { b with vaultUsdc := payer, jetVault := reserve, loanAccount := loan } = b' := by
  simp only [repay, bind_eq_ok, pure_eq_ok, trySub_eq_ok, tryAdd_eq_ok, ← exists_and_left]

theorem withdrawCollateral_eq_ok :
    withdrawCollateral tokens b = .ok b' ↔ ∃ collateral notes : UInt64,
      collateral.toNat + tokens.toNat = b.collateralAccount.toNat ∧
      notes.toNat = b.depositAccount.toNat + tokens.toNat ∧
      { b with collateralAccount := collateral, depositAccount := notes } = b' := by
  simp only [withdrawCollateral, bind_eq_ok, pure_eq_ok, trySub_eq_ok, tryAdd_eq_ok,
    ← exists_and_left]

end Jet.Ideal

/-! ## Handlers under the ideal Jet -/

section Handlers

variable [DecidableEq Key] (user : Key)

omit [DecidableEq Key] in
theorem shares_congr {s s' : Pool Key} {v : Key}
    (same : s'.userRedeemable v = s.userRedeemable v) : s'.shares v = s.shares v := by
  rw [Pool.shares, Pool.shares, same]

/-- Closing the account changes no balance: an absent account holds nothing either. -/
theorem closeIfEmpty_eq (s : Pool Key) :
    ∃ accounts, s.closeIfEmpty user = { s with userRedeemable := accounts } ∧
      ∀ v, (s.closeIfEmpty user).shares v = s.shares v := by
  unfold Pool.closeIfEmpty
  split
  next empty =>
    refine ⟨_, rfl, ?_⟩
    intro v
    by_cases same : v = user
    · subst same
      simpa [Pool.shares] using empty.symm
    · exact shares_congr (Function.update_of_ne same _ _)
  next => exact ⟨s.userRedeemable, rfl, fun _ => rfl⟩

/-- What opening a redeemable account did: nothing that is counted. -/
structure Opened (s s' : Pool Key) : Prop where
  accounts : ∃ accounts, s' = { s with userRedeemable := accounts }
  shares : ∀ v, s'.shares v = s.shares v

theorem initializeUserRedeemableTokenAccount_ok {clock : Int64} {s s' : Pool Key}
    (returned : initializeUserRedeemableTokenAccount clock user s = .ok s') : Opened s s' := by
  simp only [initializeUserRedeemableTokenAccount, bind_eq_ok, refuseIf_eq_ok, pure_eq_ok]
    at returned
  obtain ⟨_, absent, _, _, rfl⟩ := returned
  refine ⟨⟨_, rfl⟩, ?_⟩
  intro v
  by_cases same : v = user
  · subst same
    simp only [Option.not_isSome_iff_eq_none] at absent
    simp [Pool.shares, absent]
  · exact shares_congr (Function.update_of_ne same _ _)

/-- What a plain transfer into `vault_usdc` did. -/
structure Transferred (amount : UInt64) (s s' : Pool Key) : Prop where
  userUsdc : (s'.userUsdc user).toNat + amount.toNat = (s.userUsdc user).toNat
  userUsdc_other : ∀ v, v ≠ user → s'.userUsdc v = s.userUsdc v
  vaultUsdc : s'.vaultUsdc.toNat = s.vaultUsdc.toNat + amount.toNat
  kept : ∃ balance balances, s' = { s with vaultUsdc := balance, userUsdc := balances }

theorem transferToVault_ok {amount : UInt64} {s s' : Pool Key}
    (returned : s.transferToVault user amount = .ok s') : Transferred user amount s s' := by
  obtain ⟨source, destination, debited, credited, rfl⟩ := (transferToVault_eq_ok ..).mp returned
  exact ⟨by simpa using debited, fun v other => Function.update_of_ne other _ _, credited,
    _, _, rfl⟩

/-- What a successful `deposit_vault` did. -/
structure Deposited (usdcAmount : UInt64) (s s' : Pool Key) : Prop where
  vault : s'.vault = s.vault
  priced : 0 < s.redeemableSupply.toNat → 0 < s.vaultUsdc.toNat
  funded : usdcAmount.toNat ≤ (s.userUsdc user).toNat
  userUsdc : (s'.userUsdc user).toNat + s.debit usdcAmount = (s.userUsdc user).toNat
  userUsdc_other : ∀ v, v ≠ user → s'.userUsdc v = s.userUsdc v
  shares : (s'.shares user).toNat = (s.shares user).toNat + usdcAmount.toNat
  shares_other : ∀ v, v ≠ user → s'.shares v = s.shares v
  supply : s'.redeemableSupply.toNat = s.redeemableSupply.toNat + usdcAmount.toNat
  vaultUsdc : s'.vaultUsdc.toNat + (depositTokens usdcAmount).toNat =
    s.vaultUsdc.toNat + s.debit usdcAmount + (borrowTokens usdcAmount).toNat
  depositAccount : s'.depositAccount = s.depositAccount
  collateral : s'.collateralAccount.toNat =
    s.collateralAccount.toNat + (depositTokens usdcAmount).toNat
  loan : s'.loanAccount.toNat = s.loanAccount.toNat + (borrowTokens usdcAmount).toNat
  jetVault : s'.jetVault.toNat + (borrowTokens usdcAmount).toNat =
    s.jetVault.toNat + (depositTokens usdcAmount).toNat
  notes : s'.depositAccount.toNat + s'.collateralAccount.toNat < 2 ^ 64

/-- The body of `deposit_vault`, for any Jet. -/
theorem depositVault_eq_ok (jet : Jet) (clock : Int64) (usdcAmount : UInt64) (s s' : Pool Key) :
    depositVault jet clock user usdcAmount s = .ok s' ↔
      (s.userRedeemable user).isSome ∧ InWindow clock s.vault ∧
      usdcAmount.toNat ≤ (s.userUsdc user).toNat ∧
      ∃ quotient, redeemableAmount usdcAmount s.redeemableSupply s.vaultUsdc = .ok quotient ∧
        ∃ paid minted, s.transferToVault user (UInt64.ofNat quotient) = .ok paid ∧
          paid.mintTo user usdcAmount = .ok minted ∧
          ∃ refreshed lent posted borrowed,
            jet.refreshReserve minted.toBalances = .ok refreshed ∧
            jet.deposit (depositTokens usdcAmount) refreshed = .ok lent ∧
            jet.depositCollateral (depositTokens usdcAmount) lent = .ok posted ∧
            jet.borrow (borrowTokens usdcAmount) posted = .ok borrowed ∧
            { minted with toBalances := borrowed } = s' := by
  simp only [depositVault, bind_eq_ok, refuseIf_eq_ok, depositWithdrawPhase_eq_ok, invoke_eq_ok]
  constructor
  · rintro ⟨_, account, _, window, _, funded, quotient, quoted, paid, pay, minted, mint,
      _, ⟨refreshed, refresh, rfl⟩, _, ⟨lent, lend, rfl⟩, _, ⟨posted, post, rfl⟩,
      borrowed, borrow, rfl⟩
    exact ⟨Option.isSome_iff_ne_none.mpr (by simpa using account), window,
      UInt64.le_iff_toNat_le.mp (UInt64.not_lt.mp funded), quotient, quoted, paid, minted, pay,
      mint, refreshed, lent, posted, borrowed, refresh, lend, post, borrow, rfl⟩
  · rintro ⟨account, window, funded, quotient, quoted, paid, minted, pay, mint, refreshed, lent,
      posted, borrowed, refresh, lend, post, borrow, rfl⟩
    exact ⟨(), by simpa using Option.isSome_iff_ne_none.mp account, (), window, (),
      UInt64.not_lt.mpr (UInt64.le_iff_toNat_le.mpr funded), quotient, quoted, paid, pay, minted,
      mint, _, ⟨refreshed, refresh, rfl⟩, _, ⟨lent, lend, rfl⟩, _, ⟨posted, post, rfl⟩,
      borrowed, borrow, rfl⟩

theorem depositVault_ok {clock : Int64} {usdcAmount : UInt64} {s s' : Pool Key}
    (returned : depositVault Jet.ideal clock user usdcAmount s = .ok s') :
    Deposited user usdcAmount s s' := by
  obtain ⟨_, _, funded, quotient, quoted, paid, minted, pay, mint, refreshed, lent, posted,
    borrowed, refresh, lend, post, borrow, rfl⟩ := (depositVault_eq_ok ..).mp returned
  obtain ⟨priced, debit⟩ := redeemableAmount_eq_ok s usdcAmount quotient quoted
  obtain ⟨source, received, debited, credited, rfl⟩ := (transferToVault_eq_ok ..).mp pay
  obtain ⟨shares, supply, issued, supplied, rfl⟩ := (mintTo_eq_ok ..).mp mint
  cases refresh
  obtain ⟨payer, reserve, notes, payed, reserved, noted, room, rfl⟩ :=
    (Jet.Ideal.deposit_eq_ok ..).mp lend
  obtain ⟨left, collateral, unposted, owned, rfl⟩ :=
    (Jet.Ideal.depositCollateral_eq_ok ..).mp post
  obtain ⟨reserve', receiver, loan, drawn, receive, owed, rfl⟩ :=
    (Jet.Ideal.borrow_eq_ok ..).mp borrow
  rw [debit] at debited credited
  dsimp only at *
  -- The notes of the deposit are all posted, so the deposit account is as it was.
  have left_eq : left = s.depositAccount := by
    rw [← UInt64.toNat_inj]
    omega
  refine ⟨rfl, priced, funded, ?_, ?_, ?_, ?_, supplied, ?_, left_eq, owned, owed, ?_, ?_⟩
  · simpa using debited
  · exact fun v other => Function.update_of_ne other _ _
  · simpa [Pool.shares] using issued
  · exact fun v other => shares_congr (Function.update_of_ne other _ _)
  · dsimp only
    omega
  · dsimp only
    omega
  · dsimp only
    omega

/-- What a successful `withdraw_vault` did. -/
structure Withdrawn (clock : Int64) (redeemableAmount : UInt64) (s s' : Pool Key) : Prop where
  vault : s'.vault = s.vault
  window : InWindow clock s.vault
  issued : 0 < s.redeemableSupply.toNat
  userUsdc : (s'.userUsdc user).toNat =
    (s.userUsdc user).toNat + (s.payout redeemableAmount).toNat
  userUsdc_other : ∀ v, v ≠ user → s'.userUsdc v = s.userUsdc v
  shares : (s'.shares user).toNat + redeemableAmount.toNat = (s.shares user).toNat
  shares_other : ∀ v, v ≠ user → s'.shares v = s.shares v
  supply : s'.redeemableSupply.toNat + redeemableAmount.toNat = s.redeemableSupply.toNat
  vaultUsdc : s'.vaultUsdc.toNat + (s.repayment redeemableAmount).toNat +
    (s.payout redeemableAmount).toNat = s.vaultUsdc.toNat
  depositAccount : s'.depositAccount.toNat =
    s.depositAccount.toNat + (s.repayment redeemableAmount).toNat
  collateral : s'.collateralAccount.toNat + (s.repayment redeemableAmount).toNat =
    s.collateralAccount.toNat
  loan : s'.loanAccount.toNat + (s.repayment redeemableAmount).toNat = s.loanAccount.toNat
  jetVault : s'.jetVault.toNat = s.jetVault.toNat + (s.repayment redeemableAmount).toNat

/-- The body of `withdraw_vault`, for any Jet, with the quotes taken from the state before. -/
theorem withdrawVault_eq_ok (jet : Jet) (clock : Int64) (redeemableAmount : UInt64)
    (s s' : Pool Key) :
    withdrawVault jet clock user redeemableAmount s = .ok s' ↔
      (s.userRedeemable user).isSome ∧ InWindow clock s.vault ∧
      redeemableAmount.toNat ≤ (s.shares user).toNat ∧ 0 < s.redeemableSupply.toNat ∧
      ∃ refreshed repaid released, jet.refreshReserve s.toBalances = .ok refreshed ∧
        jet.repay (s.repayment redeemableAmount) refreshed = .ok repaid ∧
        jet.withdrawCollateral (s.repayment redeemableAmount) repaid = .ok released ∧
        ∃ burned paid, ({ s with toBalances := released } : Pool Key).burn user redeemableAmount =
            .ok burned ∧
          burned.transferToUser user (s.payout redeemableAmount) = .ok paid ∧
          paid.closeIfEmpty user = s' := by
  simp only [withdrawVault, bind_eq_ok, refuseIf_eq_ok, depositWithdrawPhase_eq_ok, usdcFxRate,
    tryDiv_eq_ok, pure_eq_ok, invoke_eq_ok]
  constructor
  · rintro ⟨_, account, _, window, _, held, _, ⟨issued, rfl⟩, _, ⟨refreshed, refresh, rfl⟩,
      _, ⟨repaid, repay, rfl⟩, _, ⟨released, release, rfl⟩, burned, burn, paid, pay, closed⟩
    exact ⟨Option.isSome_iff_ne_none.mpr (by simpa using account), window,
      UInt64.le_iff_toNat_le.mp (UInt64.not_lt.mp held), issued, refreshed, repaid, released,
      refresh, repay, release, burned, paid, burn, pay, closed⟩
  · rintro ⟨account, window, held, issued, refreshed, repaid, released, refresh, repay, release,
      burned, paid, burn, pay, closed⟩
    exact ⟨(), by simpa using Option.isSome_iff_ne_none.mp account, (), window, (),
      UInt64.not_lt.mpr (UInt64.le_iff_toNat_le.mpr held), _, ⟨issued, rfl⟩,
      _, ⟨refreshed, refresh, rfl⟩, _, ⟨repaid, repay, rfl⟩, _, ⟨released, release, rfl⟩,
      burned, burn, paid, pay, closed⟩

/-- Whatever Jet does, the payout is the one quoted before the call. -/
theorem withdrawVault_pays {jet : Jet} {clock : Int64} {redeemableAmount : UInt64}
    {s s' : Pool Key} (returned : withdrawVault jet clock user redeemableAmount s = .ok s') :
    0 < s.redeemableSupply.toNat ∧ redeemableAmount.toNat ≤ s.redeemableSupply.toNat ∧
      (s'.userUsdc user).toNat =
        (s.userUsdc user).toNat + (s.payout redeemableAmount).toNat := by
  simp only [withdrawVault_eq_ok, burn_eq_ok, transferToUser_eq_ok] at returned
  obtain ⟨_, _, _, issued, _, _, _, _, _, _, _, paid, ⟨_, _, _, redeemed, rfl⟩,
    ⟨_, received, _, credited, sent⟩, closed⟩ := returned
  obtain ⟨_, kept, _⟩ := closeIfEmpty_eq user paid
  rw [closed] at kept
  subst sent
  subst kept
  exact ⟨issued, (Nat.le_add_left _ _).trans redeemed.le, by simpa using credited⟩

theorem withdrawVault_ok {clock : Int64} {redeemableAmount : UInt64} {s s' : Pool Key}
    (returned : withdrawVault Jet.ideal clock user redeemableAmount s = .ok s') :
    Withdrawn user clock redeemableAmount s s' := by
  simp only [withdrawVault_eq_ok, Jet.ideal, Except.ok.injEq, Jet.Ideal.repay_eq_ok,
    Jet.Ideal.withdrawCollateral_eq_ok, burn_eq_ok, transferToUser_eq_ok] at returned
  obtain ⟨_, window, _, issued, _, _, _, rfl, ⟨payer, reserve, loan, payed, reserved, owed, rfl⟩,
    ⟨collateral, notes, freed, noted, rfl⟩, _, paid,
    ⟨held, supply, debited, redeemed, rfl⟩, ⟨left, received, drawn, credited, sent⟩, closed⟩ :=
    returned
  obtain ⟨_, kept, shares⟩ := closeIfEmpty_eq user paid
  rw [closed] at kept shares
  -- Closing the account hides the record of the payment: put it back before projecting.
  subst sent
  subst kept
  dsimp only [Pool.shares] at freed noted redeemed drawn credited debited
  refine ⟨rfl, window, issued, ?_, ?_, ?_, ?_, redeemed, ?_, noted, freed, owed, reserved⟩
  · simpa using credited
  · exact fun v other => Function.update_of_ne other _ _
  · rw [shares user]
    simpa [Pool.shares] using debited
  · intro v other
    rw [shares v]
    exact shares_congr (Function.update_of_ne other _ _)
  · dsimp only
    omega

/-- When `withdraw_vault` succeeds: the payer needs the repayment and the payout together, the
collateral account the released notes, and no receiving balance may overflow. -/
theorem withdrawVault_succeeds_iff (clock : Int64) (redeemableAmount : UInt64) (s : Pool Key) :
    (∃ s', withdrawVault Jet.ideal clock user redeemableAmount s = .ok s') ↔
      (s.userRedeemable user).isSome ∧ InWindow clock s.vault ∧
      redeemableAmount.toNat ≤ (s.shares user).toNat ∧ 0 < s.redeemableSupply.toNat ∧
      redeemableAmount.toNat ≤ s.redeemableSupply.toNat ∧
      (s.repayment redeemableAmount).toNat + (s.payout redeemableAmount).toNat ≤
        s.vaultUsdc.toNat ∧
      (s.repayment redeemableAmount).toNat ≤ s.collateralAccount.toNat ∧
      s.depositAccount.toNat + (s.repayment redeemableAmount).toNat < 2 ^ 64 ∧
      s.jetVault.toNat + (s.repayment redeemableAmount).toNat < 2 ^ 64 ∧
      (s.userUsdc user).toNat + (s.payout redeemableAmount).toNat < 2 ^ 64 := by
  constructor
  · rintro ⟨s', returned⟩
    obtain ⟨account, window, held, issued, _⟩ := (withdrawVault_eq_ok ..).mp returned
    have moved := withdrawVault_ok user returned
    have notes := s'.depositAccount.toNat_lt
    have reserve := s'.jetVault.toNat_lt
    have received := (s'.userUsdc user).toNat_lt
    have redeemed := moved.supply
    have drawn := moved.vaultUsdc
    have freed := moved.collateral
    rw [moved.depositAccount] at notes
    rw [moved.jetVault] at reserve
    rw [moved.userUsdc] at received
    exact ⟨account, window, held, issued, by omega, by omega, by omega, notes, reserve, received⟩
  · rintro ⟨account, window, held, issued, supplied, covered, posted, notes, reserve, received⟩
    -- One witness per balance that the call writes, in the order of the operations.
    have owed := repayment_toNat s redeemableAmount
    have vaultUsdc := s.vaultUsdc.toNat_lt
    have collateralAccount := s.collateralAccount.toNat_lt
    have loanAccount := s.loanAccount.toNat_lt
    have shares := (s.shares user).toNat_lt
    have supply := s.redeemableSupply.toNat_lt
    obtain ⟨payer, payed⟩ := exists_toNat
      (n := s.vaultUsdc.toNat - (s.repayment redeemableAmount).toNat) (by omega)
    obtain ⟨reserve, reserved⟩ := exists_toNat reserve
    obtain ⟨loan, repaid⟩ := exists_toNat
      (n := s.loanAccount.toNat - (s.repayment redeemableAmount).toNat) (by omega)
    obtain ⟨collateral, freed⟩ := exists_toNat
      (n := s.collateralAccount.toNat - (s.repayment redeemableAmount).toNat) (by omega)
    obtain ⟨notes, noted⟩ := exists_toNat notes
    obtain ⟨left, debited⟩ := exists_toNat
      (n := (s.shares user).toNat - redeemableAmount.toNat) (by omega)
    obtain ⟨supply, redeemed⟩ := exists_toNat
      (n := s.redeemableSupply.toNat - redeemableAmount.toNat) (by omega)
    obtain ⟨kept, drawn⟩ := exists_toNat
      (n := payer.toNat - (s.payout redeemableAmount).toNat) (by omega)
    obtain ⟨received, credited⟩ := exists_toNat received
    refine ⟨_, (withdrawVault_eq_ok ..).mpr ⟨account, window, held, issued, _, _, _, rfl,
      (Jet.Ideal.repay_eq_ok ..).mpr ⟨payer, reserve, loan, by omega, reserved, by omega, rfl⟩,
      (Jet.Ideal.withdrawCollateral_eq_ok ..).mpr ⟨collateral, notes, ?_, noted, rfl⟩, _, _,
      (burn_eq_ok ..).mpr ⟨left, supply, ?_, ?_, rfl⟩,
      (transferToUser_eq_ok ..).mpr ⟨kept, received, ?_, credited, rfl⟩, rfl⟩⟩
    · dsimp only
      omega
    · simp only [Pool.shares] at *
      omega
    · dsimp only
      omega
    · dsimp only
      omega

end Handlers

end JetVault
