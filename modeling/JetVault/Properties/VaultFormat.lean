import JetVault.Vault.Run
import JetVault.Wire.VaultProgram

/-!
# The vault program's formats

The record of a vault is written once, by `initialize_vault`, and every later instruction loads it
from the bytes of its account: it finds the record that was written, for the whole life of the
vault. The data of an instruction is read as the call it was made from, and the constraints of the
account list read the same arguments as the handler.
-/
namespace JetVault.Wire

open Accounts Dispatch Fallible Transition

variable {discriminator : Vector UInt8 8} {jet : Jet} {clock : Int64}
  {vaultAdmin usdcMint redeemableMint vaultUsdc : Pubkey} {vaultName : List UInt8}
  {bumps : VaultBumps} {epochTimes : EpochTimes} {userUsdc : Pubkey → UInt64} {jetVault : UInt64}
  {s s' : Pool Pubkey}

/-! ## The record -/

theorem initializeVault_vault
    (created : JetVault.initializeVault jet clock vaultAdmin usdcMint redeemableMint vaultUsdc
      vaultName bumps epochTimes userUsdc jetVault = .ok s) :
    ∃ nameData, padName vaultName = .ok nameData ∧
      s.vault = ⟨nameData, bumps, vaultAdmin, usdcMint, redeemableMint, vaultUsdc, epochTimes⟩ := by
  simp only [JetVault.initializeVault, bind_eq_ok, invoke_eq_ok] at created
  obtain ⟨_, _, nameData, padded, _, ⟨_, _, rfl⟩, _, ⟨_, _, rfl⟩, _, ⟨_, _, rfl⟩, _, _, rfl⟩ :=
    created
  exact ⟨nameData, padded, rfl⟩

/-- The record fits exactly in the space of the default record, and in every state of the vault's
life its bytes load as the record in use and no other: the one given to `initialize_vault`. The
name read back from it is the given one exactly when that is trimmed. -/
theorem stored_record_kept (discriminator : Vector UInt8 8)
    (created : JetVault.initializeVault jet clock vaultAdmin usdcMint redeemableMint vaultUsdc
      vaultName bumps epochTimes userUsdc jetVault = .ok s)
    (run : Reaches (exec jet) AnyCall s s') :
    ∃ data, trySerialize discriminator s.vault allocated = .ok data ∧ data.length = space ∧
      (∀ record, tryDeserialize discriminator data = .ok record ↔ record = s'.vault) ∧
      (s'.vault.bumps = bumps ∧ s'.vault.epochTimes = epochTimes) ∧
      (strip s'.vault.vaultName.toList = .ok vaultName ↔ Trimmed vaultName) := by
  have kept : s'.vault = s.vault := by
    apply run.constant (fun s => s.vault)
    intro s tx s' _ returned
    exact exec_vault returned
  obtain ⟨nameData, padded, record⟩ := initializeVault_vault created
  have sized : allocated.length = space := List.length_replicate
  refine ⟨_, trySerialize_eq s.vault sized, ?_, ?_, ?_, ?_⟩
  · rw [List.length_append, Vector.length_toList, vaultCodec_sized, space_eq]
  · intro loaded
    rw [kept, tryDeserialize_stored]
  · rw [kept, record]
    exact ⟨rfl, rfl⟩
  · rw [kept, record]
    exact strip_padName_iff padded

def ethKey (byte : UInt8) : Pubkey := .replicate 32 byte

def ethTimes : EpochTimes := ⟨10, 20, 30, 40, 50, 60, 50⟩

def ethBumps : VaultBumps := ⟨255, 254, 255, 253, 0, 255, 255, 255, 255⟩

/-- A vault named "eth". -/
def ethCreated : Except Failure (Pool Pubkey) :=
  JetVault.initializeVault Jet.ideal 5 (ethKey 1) (ethKey 2) (ethKey 3) (ethKey 4)
    [0x65, 0x74, 0x68] ethBumps ethTimes (fun _ => 1000) 1000000

def ethVault : Pool Pubkey where
  vaultUsdc := 0
  depositAccount := 0
  collateralAccount := 0
  loanAccount := 0
  jetVault := 1000000
  vault :=
    { vaultName := ⟨(0x65 :: 0x74 :: 0x68 :: List.replicate 17 0x20).toArray, rfl⟩
      bumps := ethBumps
      vaultAdmin := ethKey 1, usdcMint := ethKey 2, redeemableMint := ethKey 3
      vaultUsdc := ethKey 4, epochTimes := ethTimes }
  redeemableSupply := 0
  userUsdc := fun _ => 1000
  userRedeemable := fun _ => none

/-- A user opens an account in the window. -/
def ethOpened : Pool Pubkey :=
  attempt (exec Jet.ideal) ⟨15, .initializeUserRedeemableTokenAccount (ethKey 9)⟩ ethVault

theorem stored_record_kept_eth :
    ∃ data, trySerialize #v[211, 8, 232, 43, 2, 152, 117, 119] ethVault.vault allocated =
        .ok data ∧ data.length = space ∧
      (∀ record, tryDeserialize #v[211, 8, 232, 43, 2, 152, 117, 119] data = .ok record ↔
        record = ethOpened.vault) ∧
      (ethOpened.vault.bumps = ethBumps ∧ ethOpened.vault.epochTimes = ethTimes) ∧
      (strip ethOpened.vault.vaultName.toList = .ok [0x65, 0x74, 0x68] ↔
        Trimmed [0x65, 0x74, 0x68]) :=
  stored_record_kept #v[211, 8, 232, 43, 2, 152, 117, 119]
    (rfl : ethCreated = .ok ethVault) (attempt_reaches trivial)

/-! ## The instructions -/

/-- Where the tags of the four instructions differ, data is read as a call exactly when it is that
call's data with anything behind it, and then the constraints of the account list see the
arguments that the handler gets. -/
theorem instructions_read_back {tag : String → Vector UInt8 8}
    (distinct : Distinct tag Handler.method) (data : List UInt8)
    (call : Dispatch.Call ArgType.Value Handler.method) (rest : List UInt8) :
    (dispatch ArgType.codec tag Handler.method Handler.all data = some (call, rest) ↔
        data = call.data ArgType.codec tag ++ rest) ∧
      (dispatch ArgType.codec tag Handler.method Handler.all data = some (call, rest) →
        call.index.readDeclared data = .ok (call.index.named call.values)) := by
  have reads := dispatch_eq_some ArgType.codec Handler.mem_all distinct data call rest
  refine ⟨reads, ?_⟩
  intro read
  rw [reads.mp read]
  exact readDeclared_data tag call rest

/-- The first eight bytes of the hashes of the instructions' names. -/
def vaultTag : String → Vector UInt8 8
  | "initialize_vault" => #v[48, 191, 163, 44, 71, 129, 63, 164]
  | "initialize_user_redeemable_token_account" => #v[1, 230, 167, 111, 189, 140, 106, 140]
  | "deposit_vault" => #v[126, 224, 21, 255, 228, 53, 117, 33]
  | "withdraw_vault" => #v[135, 7, 237, 120, 149, 94, 95, 7]
  | _ => .replicate 8 0

theorem vaultTag_distinct : Distinct vaultTag Handler.method := by
  intro handler handler' same
  cases handler <;> cases handler' <;> revert same <;> decide

/-- A deposit of a hundred. -/
def depositCall : Dispatch.Call ArgType.Value Handler.method where
  index := .depositVault
  values := (⟨1, 2, 3, 4, 5⟩, (100 : UInt64), ())

/-- With a byte behind it that belongs to nothing. -/
def depositData : List UInt8 :=
  [126, 224, 21, 255, 228, 53, 117, 33, 1, 2, 3, 4, 5, 100, 0, 0, 0, 0, 0, 0, 0, 9]

theorem instructions_read_back_deposit :
    dispatch ArgType.codec vaultTag Handler.method Handler.all depositData =
        some (depositCall, [9]) ∧
      Handler.depositVault.readDeclared depositData = .ok (⟨1, 2, 3, 4, 5⟩, ()) := by
  obtain ⟨reads, declared⟩ := instructions_read_back vaultTag_distinct depositData depositCall [9]
  have read := reads.mpr (by decide +kernel)
  exact ⟨read, declared read⟩

end JetVault.Wire
