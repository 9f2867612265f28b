import JetVault.Accounts.Seeds
import JetVault.Cpi.Interface
import JetVault.Zeta.State

/-!
# The client of the Zeta program

The interface of the Zeta program with the account lists of its instructions, and a helper for each
instruction that calls it. Two of the helpers derive the nonces that the instruction gets; the
others hand on what they are given.
-/
namespace JetVault.Cpi

open Accounts Dispatch Fallible

/-! ## The interface -/

def zetaInterface : ItemTrait where
  items := [
    .method ⟨"initialize_margin_account",
      [.typed ⟨"ctx", "Context<T>"⟩, .typed ⟨"nonce", "u8"⟩]⟩,
    .method ⟨"deposit", [.typed ⟨"ctx", "Context<T>"⟩, .typed ⟨"amount", "u64"⟩]⟩,
    .method ⟨"withdraw", [.typed ⟨"ctx", "Context<T>"⟩, .typed ⟨"amount", "u64"⟩]⟩,
    .method ⟨"initialize_open_orders",
      [.typed ⟨"ctx", "Context<T>"⟩, .typed ⟨"nonce", "u8"⟩, .typed ⟨"_map_nonce", "u8"⟩]⟩,
    .method ⟨"place_order",
      [.typed ⟨"ctx", "Context<T>"⟩, .typed ⟨"price", "u64"⟩, .typed ⟨"size", "u64"⟩,
        .typed ⟨"side", "Side"⟩, .typed ⟨"client_order_id", "Option<u64>"⟩]⟩,
    .method ⟨"cancel_order",
      [.typed ⟨"ctx", "Context<T>"⟩, .typed ⟨"side", "Side"⟩, .typed ⟨"order_id", "u128"⟩]⟩]

/-- The types of the arguments. -/
inductive ArgType where
  | u8
  | u64
  | u128
  | side
  | optionU64
  deriving DecidableEq, Repr

def ArgType.Value : ArgType → Type
  | .u8 => UInt8
  | .u64 => UInt64
  | .u128 => BitVec 128
  | .side => Zeta.Side
  | .optionU64 => Option UInt64

def sideTag : Zeta.Side → UInt8
  | .uninitialized => 0
  | .bid => 1
  | .ask => 2

theorem sideTag_injective : Function.Injective sideTag := by
  intro side side' same
  cases side <;> cases side' <;> first | rfl | cases same

/-- An enumeration is written as the number of its variant. -/
def sideCodec : Codec Zeta.Side :=
  Codec.byte.select [.uninitialized, .bid, .ask] (fun side => by cases side <;> decide) sideTag
    sideTag_injective

def ArgType.codec : (type : ArgType) → Codec type.Value
  | .u8 => .byte
  | .u64 => .uint64
  | .u128 => .uint128
  | .side => sideCodec
  | .optionU64 => Codec.uint64.option

/-- The types that the names stand for. -/
def ArgType.resolve (ty : String) : Option ArgType :=
  match String.ofList (retained ty) with
  | "u8" => some .u8
  | "u64" => some .u64
  | "u128" => some .u128
  | "Side" => some .side
  | "Option<u64>" => some .optionU64
  | _ => none

/-- The functions of the module made from the interface. -/
inductive ZetaFunction where
  | initializeMarginAccount
  | deposit
  | withdraw
  | initializeOpenOrders
  | placeOrder
  | cancelOrder
  deriving DecidableEq, Repr

def ZetaFunction.all : List ZetaFunction :=
  [initializeMarginAccount, deposit, withdraw, initializeOpenOrders, placeOrder, cancelOrder]

def ZetaFunction.method : ZetaFunction → Method ArgType
  | initializeMarginAccount => ⟨"initialize_margin_account", [.u8]⟩
  | deposit => ⟨"deposit", [.u64]⟩
  | withdraw => ⟨"withdraw", [.u64]⟩
  | initializeOpenOrders => ⟨"initialize_open_orders", [.u8, .u8]⟩
  | placeOrder => ⟨"place_order", [.u64, .u64, .side, .optionU64]⟩
  | cancelOrder => ⟨"cancel_order", [.side, .u128]⟩

/-- They are what the macro makes of the interface. -/
theorem globalInterface_zetaInterface :
    (globalInterface zetaInterface >>= fun functions =>
      functions.mapM (Function.method ArgType.resolve)) =
        some (ZetaFunction.all.map ZetaFunction.method) := by
  decide

/-! ## Account lists -/

/-- The type that an account is declared with. -/
inductive AccountType where
  | accountInfo
  | signer
  | systemProgram
  | tokenProgram
  | rent
  deriving DecidableEq, Repr

structure Declared where
  name : String
  type : AccountType
  /-- `#[account(mut)]` -/
  isMut : Bool
  deriving DecidableEq, Repr

/-- Derived addresses, and the ids of programs and sysvars. -/
structure Env (Key : Type) where
  /-- `create_program_address` for the program with the id -/
  createProgramAddress : Key → List (List UInt8) → Option Key
  toBytes : Key → List UInt8
  systemProgram : Key
  tokenProgram : Key
  rent : Key

variable {Key : Type}

/-- No address for any bump is a panic. -/
def Env.findProgramAddress (env : Env Key) (program : Key) (seeds : List (List UInt8)) :
    Except Failure (Key × UInt8) :=
  let found := bumpSeeds.findSome? fun bump =>
    (env.createProgramAddress program (seeds ++ [[bump]])).map fun key => (key, bump)
  match found with
  | none => .error .abort
  | some address => .ok address

/-- What the type of an account checks when it is loaded. -/
def AccountType.load [DecidableEq Key] (env : Env Key) (account : AccountMeta Key) :
    AccountType → Except Failure Unit
  | .accountInfo => .ok ()
  | .signer => refuseIf (account.isSigner = false) .account
  | .systemProgram => refuseIf (account.key ≠ env.systemProgram) .account
  | .tokenProgram => refuseIf (account.key ≠ env.tokenProgram) .account
  | .rent => refuseIf (account.key ≠ env.rent) .account

def Declared.check [DecidableEq Key] (declared : Declared) (env : Env Key)
    (account : AccountMeta Key) : Except Failure Unit := do
  declared.type.load env account
  refuseIf (declared.isMut = true ∧ account.isWritable = false) .account

/-- The accounts of a list, one for each that is declared. -/
structure Listed (Key : Type) (declared : List Declared) where
  accounts : List (AccountMeta Key)
  length_eq : accounts.length = declared.length
  deriving DecidableEq, Repr

def Listed.named {declared : List Declared} (listed : Listed Key declared) (name : String)
    (inside : (declared.map Declared.name).idxOf name < declared.length) : AccountMeta Key :=
  listed.accounts.get ⟨(declared.map Declared.name).idxOf name, listed.length_eq ▸ inside⟩

/-- The accounts are taken in order; those that are left over are not looked at. -/
def tryAccounts [DecidableEq Key] (env : Env Key) : (declared : List Declared) →
    List (AccountMeta Key) → Except Failure (Listed Key declared)
  | [], _ => .ok ⟨[], rfl⟩
  | _ :: _, [] => .error .account
  | first :: declared, account :: accounts => do
    first.check env account
    let listed ← tryAccounts env declared accounts
    return ⟨account :: listed.accounts, congrArg (· + 1) listed.length_eq⟩

namespace ZetaContext

def initializeMarginAccount : List Declared :=
  [⟨"margin_account", .accountInfo, true⟩, ⟨"authority", .signer, true⟩,
    ⟨"zeta_program", .accountInfo, false⟩, ⟨"system_program", .systemProgram, false⟩,
    ⟨"zeta_group", .accountInfo, false⟩]

def deposit : List Declared :=
  [⟨"zeta_group", .accountInfo, false⟩, ⟨"margin_account", .accountInfo, true⟩,
    ⟨"vault", .accountInfo, true⟩, ⟨"user_token_account", .accountInfo, true⟩,
    ⟨"socialized_loss_account", .accountInfo, true⟩, ⟨"authority", .signer, false⟩,
    ⟨"token_program", .tokenProgram, false⟩, ⟨"state", .accountInfo, false⟩,
    ⟨"greeks", .accountInfo, false⟩]

def withdraw : List Declared :=
  [⟨"state", .accountInfo, false⟩, ⟨"zeta_group", .accountInfo, false⟩,
    ⟨"vault", .accountInfo, true⟩, ⟨"margin_account", .accountInfo, true⟩,
    ⟨"user_token_account", .accountInfo, true⟩, ⟨"token_program", .tokenProgram, false⟩,
    ⟨"authority", .signer, false⟩, ⟨"greeks", .accountInfo, true⟩,
    ⟨"oracle", .accountInfo, false⟩, ⟨"socialized_loss_account", .accountInfo, true⟩]

def initializeOpenOrders : List Declared :=
  [⟨"state", .accountInfo, false⟩, ⟨"zeta_group", .accountInfo, false⟩,
    ⟨"dex_program", .accountInfo, false⟩, ⟨"system_program", .systemProgram, false⟩,
    ⟨"open_orders", .accountInfo, true⟩, ⟨"margin_account", .accountInfo, true⟩,
    -- Marked mutable since it pays.
    ⟨"authority", .signer, true⟩, ⟨"market", .accountInfo, false⟩,
    ⟨"serum_authority", .accountInfo, false⟩, ⟨"open_orders_map", .accountInfo, true⟩,
    ⟨"rent", .rent, false⟩]

/-- The accounts of a market, within those of an order. -/
def marketAccounts : List Declared :=
  [⟨"market", .accountInfo, true⟩, ⟨"request_queue", .accountInfo, true⟩,
    ⟨"event_queue", .accountInfo, true⟩, ⟨"bids", .accountInfo, true⟩,
    ⟨"asks", .accountInfo, true⟩, ⟨"order_payer_token_account", .accountInfo, true⟩,
    ⟨"coin_vault", .accountInfo, true⟩, ⟨"pc_vault", .accountInfo, true⟩,
    ⟨"coin_wallet", .accountInfo, true⟩, ⟨"pc_wallet", .accountInfo, true⟩]

def placeOrder : List Declared :=
  [⟨"state", .accountInfo, false⟩, ⟨"zeta_group", .accountInfo, false⟩,
    ⟨"margin_account", .accountInfo, true⟩, ⟨"authority", .signer, false⟩,
    ⟨"dex_program", .accountInfo, false⟩, ⟨"token_program", .tokenProgram, false⟩,
    ⟨"serum_authority", .accountInfo, false⟩, ⟨"greeks", .accountInfo, true⟩,
    ⟨"open_orders", .accountInfo, true⟩, ⟨"rent", .rent, false⟩] ++ marketAccounts ++
  [⟨"oracle", .accountInfo, false⟩, ⟨"market_node", .accountInfo, true⟩,
    ⟨"market_mint", .accountInfo, true⟩, ⟨"mint_authority", .accountInfo, false⟩]

def cancelAccounts : List Declared :=
  [⟨"zeta_group", .accountInfo, false⟩, ⟨"state", .accountInfo, false⟩,
    ⟨"margin_account", .accountInfo, true⟩, ⟨"dex_program", .accountInfo, false⟩,
    ⟨"serum_authority", .accountInfo, false⟩, ⟨"open_orders", .accountInfo, true⟩,
    ⟨"market", .accountInfo, true⟩, ⟨"bids", .accountInfo, true⟩,
    ⟨"asks", .accountInfo, true⟩, ⟨"event_queue", .accountInfo, true⟩]

def cancelOrder : List Declared :=
  ⟨"authority", .signer, false⟩ :: cancelAccounts

end ZetaContext

/-! ## Helpers -/

def marginSeed : List UInt8 := "margin".toUTF8.data.toList
def openOrdersSeed : List UInt8 := "open-orders".toUTF8.data.toList

/-- What a helper hands to the module made from the interface. -/
def zetaInterfaceCall (tag : String → Vector UInt8 8) {declared : List Declared}
    (zetaProgram : AccountMeta Key) (cpiAccounts : Listed Key declared)
    (call : Dispatch.Call ArgType.Value ZetaFunction.method) : Invocation Key :=
  CpiContext.invoke tag ArgType.codec (.new zetaProgram cpiAccounts.accounts) call

namespace ZetaClient

variable (tag : String → Vector UInt8 8) (env : Env Key) (zetaProgram : AccountMeta Key)

def initializeMarginAccount (cpiAccounts : Listed Key ZetaContext.initializeMarginAccount) :
    Except Failure (Invocation Key) := do
  let (_, nonce) ← env.findProgramAddress zetaProgram.key
    [marginSeed,
      env.toBytes (cpiAccounts.named "zeta_group" (by decide)).key,
      env.toBytes (cpiAccounts.named "authority" (by decide)).key]
  return zetaInterfaceCall tag zetaProgram cpiAccounts ⟨.initializeMarginAccount, (nonce, ())⟩

def deposit (cpiAccounts : Listed Key ZetaContext.deposit) (amount : UInt64) :
    Except Failure (Invocation Key) :=
  return zetaInterfaceCall tag zetaProgram cpiAccounts ⟨.deposit, (amount, ())⟩

def withdraw (cpiAccounts : Listed Key ZetaContext.withdraw) (amount : UInt64) :
    Except Failure (Invocation Key) :=
  return zetaInterfaceCall tag zetaProgram cpiAccounts ⟨.withdraw, (amount, ())⟩

def initializeOpenOrders (cpiAccounts : Listed Key ZetaContext.initializeOpenOrders) :
    Except Failure (Invocation Key) := do
  let (_, nonce) ← env.findProgramAddress zetaProgram.key
    [openOrdersSeed,
      env.toBytes (cpiAccounts.named "dex_program" (by decide)).key,
      env.toBytes (cpiAccounts.named "market" (by decide)).key,
      env.toBytes (cpiAccounts.named "authority" (by decide)).key]
  let (_, mapNonce) ← env.findProgramAddress zetaProgram.key
    [env.toBytes (cpiAccounts.named "open_orders" (by decide)).key]
  return zetaInterfaceCall tag zetaProgram cpiAccounts
    ⟨.initializeOpenOrders, (nonce, mapNonce, ())⟩

def placeOrder (cpiAccounts : Listed Key ZetaContext.placeOrder) (price size : UInt64)
    (side : Zeta.Side) (clientOrderId : Option UInt64) : Except Failure (Invocation Key) :=
  return zetaInterfaceCall tag zetaProgram cpiAccounts
    ⟨.placeOrder, (price, size, side, clientOrderId, ())⟩

def cancelOrder (cpiAccounts : Listed Key ZetaContext.cancelOrder) (side : Zeta.Side)
    (orderId : BitVec 128) : Except Failure (Invocation Key) :=
  return zetaInterfaceCall tag zetaProgram cpiAccounts ⟨.cancelOrder, (side, orderId, ())⟩

end ZetaClient

end JetVault.Cpi
