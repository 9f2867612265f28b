import JetVault.Vault.Name
import JetVault.Vault.Token
import JetVault.Vault.Jet
import JetVault.Vault.Phase
import JetVault.Vault.Pricing

/-!
# Instruction handlers

One definition per instruction, in the order of the source. A handler reads every amount from
the accounts as they were loaded, before any transfer.
-/
namespace JetVault

open Fallible

variable {Key : Type}

/-- `initialize_vault`, with the accounts it creates empty and the balances of the world it
starts in: the users' USDC and the USDC in the Jet reserve. -/
def initializeVault (jet : Jet) (clock : Int64) (vaultAdmin usdcMint redeemableMint vaultUsdc : Key)
    (vaultName : List UInt8) (bumps : VaultBumps) (epochTimes : EpochTimes)
    (userUsdc : Key → UInt64) (jetVault : UInt64) : Except Failure (Pool Key) := do
  validateEpochTimes clock epochTimes
  -- The lamports for the vault authority are not tracked.
  let nameData ← padName vaultName
  let created : Pool Key :=
    { vault :=
        { vaultName := nameData, bumps := bumps, vaultAdmin := vaultAdmin, usdcMint := usdcMint
          redeemableMint := redeemableMint, vaultUsdc := vaultUsdc, epochTimes := epochTimes }
      vaultUsdc := 0, depositAccount := 0, collateralAccount := 0, loanAccount := 0
      jetVault := jetVault, redeemableSupply := 0, userUsdc := userUsdc
      userRedeemable := fun _ => none }
  let s ← created.invoke jet.initObligation
  let s ← s.invoke jet.initDepositAccount
  let s ← s.invoke jet.initCollateralAccount
  s.invoke jet.initLoanAccount

variable [DecidableEq Key]

/-- The account constraint `init` refuses an account that exists. -/
def initializeUserRedeemableTokenAccount (clock : Int64) (user : Key) (s : Pool Key) :
    Except Failure (Pool Key) := do
  refuseIf (s.userRedeemable user).isSome .account
  depositWithdrawPhase clock s.vault
  return { s with userRedeemable := Function.update s.userRedeemable user (some 0) }

def depositVault (jet : Jet) (clock : Int64) (user : Key) (usdcAmount : UInt64) (s : Pool Key) :
    Except Failure (Pool Key) := do
  refuseIf (s.userRedeemable user).isNone .account
  depositWithdrawPhase clock s.vault
  -- While token::transfer will check this, a verbose error is preferred.
  refuseIf (s.userUsdc user < usdcAmount) (.program .insufficientUsdcBalance)
  let redeemableAmount ← redeemableAmount usdcAmount s.redeemableSupply s.vaultUsdc
  -- The quotient goes to the transfer, truncated, and the named amount to the mint.
  let s ← s.transferToVault user (UInt64.ofNat redeemableAmount)
  let s ← s.mintTo user usdcAmount
  -- 90 % goes to Jet and is posted as collateral, and half is borrowed against it.
  let s ← s.invoke jet.refreshReserve
  let s ← s.invoke (jet.deposit (depositTokens usdcAmount))
  let s ← s.invoke (jet.depositCollateral (depositTokens usdcAmount))
  s.invoke (jet.borrow (borrowTokens usdcAmount))

def withdrawVault (jet : Jet) (clock : Int64) (user : Key) (redeemableAmount : UInt64)
    (s : Pool Key) : Except Failure (Pool Key) := do
  refuseIf (s.userRedeemable user).isNone .account
  depositWithdrawPhase clock s.vault
  -- While token::burn will check this, a verbose error is preferred.
  refuseIf (s.shares user < redeemableAmount) (.program .insufficientRedeemableBalance)
  let usdcLiabilities := s.loanAccount
  let usdcEquity := usdcEquity s.vaultUsdc s.collateralAccount usdcLiabilities
  let usdcFxRate ← usdcFxRate usdcEquity s.redeemableSupply
  let usdcToSendUser := usdcToSendUser redeemableAmount usdcFxRate
  let usdcToRepayJet := usdcToRepayJet usdcLiabilities usdcToSendUser s.vaultUsdc
  let s ← s.invoke jet.refreshReserve
  let s ← s.invoke (jet.repay usdcToRepayJet)
  -- The released notes stay in the deposit account: no Jet `withdraw` follows.
  let s ← s.invoke (jet.withdrawCollateral usdcToRepayJet)
  let s ← s.burn user redeemableAmount
  let s ← s.transferToUser user usdcToSendUser
  -- Send rent back to the user if the account is empty.
  return s.closeIfEmpty user

end JetVault
