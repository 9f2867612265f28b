import JetVault.Library.Dispatch
import JetVault.Wire.Records

/-!
# The instructions of the vault program

The data of an instruction carries its name and its arguments. The program reads the arguments
twice: the constraints of the account list read those that the list declares, and the handler reads
all of them.
-/
namespace JetVault.Wire

open Dispatch

/-- The types of the arguments. -/
inductive ArgType where
  | string
  | u64
  | vaultBumps
  | epochTimes
  | depositVaultBumps
  | withdrawVaultBumps
  deriving DecidableEq, Repr

def ArgType.Value : ArgType → Type
  | .string => { s : String // s.utf8ByteSize < 2 ^ 32 }
  | .u64 => UInt64
  | .vaultBumps => VaultBumps
  | .epochTimes => EpochTimes
  | .depositVaultBumps => Accounts.DepositVaultBumps
  | .withdrawVaultBumps => Accounts.WithdrawVaultBumps

def ArgType.codec : (type : ArgType) → Codec type.Value
  | .string => .string
  | .u64 => .uint64
  | .vaultBumps => vaultBumpsCodec
  | .epochTimes => epochTimesCodec
  | .depositVaultBumps => depositVaultBumpsCodec
  | .withdrawVaultBumps => withdrawVaultBumpsCodec

inductive Handler where
  | initializeVault
  | initializeUserRedeemableTokenAccount
  | depositVault
  | withdrawVault
  deriving DecidableEq, Repr

def Handler.all : List Handler :=
  [initializeVault, initializeUserRedeemableTokenAccount, depositVault, withdrawVault]

/-- The handlers' own signatures. -/
def Handler.method : Handler → Method ArgType
  | initializeVault => ⟨"initialize_vault", [.string, .u64, .vaultBumps, .epochTimes]⟩
  | initializeUserRedeemableTokenAccount => ⟨"initialize_user_redeemable_token_account", []⟩
  | depositVault => ⟨"deposit_vault", [.depositVaultBumps, .u64]⟩
  | withdrawVault => ⟨"withdraw_vault", [.withdrawVaultBumps, .u64]⟩

/-- `#[instruction(..)]` on the handlers' account lists. -/
def Handler.declared : Handler → List ArgType
  | initializeVault => [.string, .u64, .vaultBumps]
  | initializeUserRedeemableTokenAccount => []
  | depositVault => [.depositVaultBumps]
  | withdrawVault => [.withdrawVaultBumps]

/-- Those of a handler's arguments that have the names of the declared ones. -/
def Handler.named : (handler : Handler) → Args ArgType.Value handler.method.args →
    Args ArgType.Value handler.declared
  | initializeVault, (vaultName, vaultLamports, bumps, _, ()) =>
      (vaultName, vaultLamports, bumps, ())
  | initializeUserRedeemableTokenAccount, () => ()
  | depositVault, (bumps, _, ()) => (bumps, ())
  | withdrawVault, (bumps, _, ()) => (bumps, ())

/-- What an account list reads of the bytes behind the tag. -/
def Handler.readDeclared (handler : Handler) (data : List UInt8) :
    Except Failure (Args ArgType.Value handler.declared) :=
  match (argsCodec ArgType.codec handler.declared).decode (data.drop 8) with
  | none => .error .account
  | some (values, _) => .ok values

theorem Handler.mem_all (handler : Handler) : handler ∈ all := by
  cases handler <;> decide

theorem Handler.readDeclared_eq_ok {handler : Handler} {data rest : List UInt8}
    {values : Args ArgType.Value handler.declared}
    (read : (argsCodec ArgType.codec handler.declared).decode (data.drop 8) = some (values, rest)) :
    handler.readDeclared data = .ok values := by
  rw [Handler.readDeclared, read]

/-- The declared arguments are the first of the handler's arguments. -/
theorem readDeclared_data (tag : String → Vector UInt8 8)
    (call : Dispatch.Call ArgType.Value Handler.method) (rest : List UInt8) :
    call.index.readDeclared (call.data ArgType.codec tag ++ rest) =
      .ok (call.index.named call.values) := by
  obtain ⟨handler, values⟩ := call
  have eight : (tag handler.method.name).toList.length = 8 := Vector.length_toList
  have behind : (Dispatch.Call.data ArgType.codec tag ⟨handler, values⟩ ++ rest).drop 8 =
      (argsCodec ArgType.codec handler.method.args).encode values ++ rest := by
    rw [Dispatch.Call.data, List.append_assoc, List.drop_left' eight]
  have read := (argsCodec ArgType.codec handler.method.args).decode_encode values rest
  rw [← behind] at read
  cases handler with
  | initializeVault =>
    exact Handler.readDeclared_eq_ok
      (decode_front ArgType.codec [.string, .u64, .vaultBumps] [.epochTimes] read)
  | initializeUserRedeemableTokenAccount => exact Handler.readDeclared_eq_ok read
  | depositVault =>
    exact Handler.readDeclared_eq_ok
      (decode_front ArgType.codec [.depositVaultBumps] [.u64] read)
  | withdrawVault =>
    exact Handler.readDeclared_eq_ok
      (decode_front ArgType.codec [.withdrawVaultBumps] [.u64] read)

end JetVault.Wire
