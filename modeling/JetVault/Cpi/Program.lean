import JetVault.Cpi.ZetaClient

/-!
# The program that calls Zeta

Six of the handlers have the program that is to be called in front of their account list. They call
it through the helper of their own name, with the accounts behind it.
-/
namespace JetVault.Cpi

open Accounts Dispatch

namespace ZetaFunction

/-- The arguments of the handler that calls the function. -/
def handlerArgs : ZetaFunction → List ArgType
  | initializeMarginAccount => []
  | deposit => [.u64]
  | withdraw => [.u64]
  | initializeOpenOrders => []
  | placeOrder => [.u64, .u64, .side, .optionU64]
  | cancelOrder => [.side, .u128]

/-- The accounts that the handler's list has behind the program. -/
def cpiAccounts : ZetaFunction → List Declared
  | initializeMarginAccount => ZetaContext.initializeMarginAccount
  | deposit => ZetaContext.deposit
  | withdraw => ZetaContext.withdraw
  | initializeOpenOrders => ZetaContext.initializeOpenOrders
  | placeOrder => ZetaContext.placeOrder
  | cancelOrder => ZetaContext.cancelOrder

end ZetaFunction

variable {Key : Type} (tag : String → Vector UInt8 8) (env : Env Key)

/-- The bodies of the handlers, with their accounts and the arguments that they get. -/
def caller (zetaProgram : AccountMeta Key) : (function : ZetaFunction) →
    Listed Key function.cpiAccounts → Args ArgType.Value function.handlerArgs →
      Except Failure (Invocation Key)
  | .initializeMarginAccount, accounts, () =>
      ZetaClient.initializeMarginAccount tag env zetaProgram accounts
  | .deposit, accounts, (amount, ()) => ZetaClient.deposit tag zetaProgram accounts amount
  | .withdraw, accounts, (amount, ()) => ZetaClient.withdraw tag zetaProgram accounts amount
  | .initializeOpenOrders, accounts, () =>
      ZetaClient.initializeOpenOrders tag env zetaProgram accounts
  | .placeOrder, accounts, (price, size, side, clientOrderId, ()) =>
      ZetaClient.placeOrder tag zetaProgram accounts price size side clientOrderId
  | .cancelOrder, accounts, (side, orderId, ()) =>
      ZetaClient.cancelOrder tag zetaProgram accounts side orderId

/-- A handler with the accounts of a transaction, which are too few or not as they are declared, or
become its list. -/
def handle [DecidableEq Key] (function : ZetaFunction) (given : List (AccountMeta Key))
    (values : Args ArgType.Value function.handlerArgs) : Except Failure (Invocation Key) :=
  match given with
  | [] => .error .account
  | zetaProgram :: accounts => do
    let listed ← tryAccounts env function.cpiAccounts accounts
    caller tag env zetaProgram function listed values

end JetVault.Cpi
