import JetVault.Accounts.Deposit
import JetVault.Accounts.Seeds
import JetVault.Library.Codec

/-!
# Records as bytes

How the vault's record and what instructions carry is written: the fields one behind the other, in
the order of their declarations. The record lives in an account behind the eight bytes that name
its type, in the space that its default value takes.
-/
namespace JetVault.Wire

open Accounts Codec

/-! ## Records -/

def pubkeyCodec : Codec Pubkey := byte.vector 32

def epochTimesCodec : Codec EpochTimes :=
  (int64.pair <| int64.pair <| int64.pair <| int64.pair <| int64.pair <| int64.pair uint64).map
    { toFun := fun ⟨a, b, c, d, e, f, g⟩ => ⟨a, b, c, d, e, f, g⟩
      invFun := fun ⟨a, b, c, d, e, f, g⟩ => ⟨a, b, c, d, e, f, g⟩
      left_inv := fun _ => rfl
      right_inv := fun _ => rfl }

def vaultBumpsCodec : Codec VaultBumps :=
  (byte.pair <| byte.pair <| byte.pair <| byte.pair <| byte.pair <| byte.pair <| byte.pair <|
    byte.pair byte).map
    { toFun := fun ⟨a, b, c, d, e, f, g, h, i⟩ => ⟨a, b, c, d, e, f, g, h, i⟩
      invFun := fun ⟨a, b, c, d, e, f, g, h, i⟩ => ⟨a, b, c, d, e, f, g, h, i⟩
      left_inv := fun _ => rfl
      right_inv := fun _ => rfl }

def depositVaultBumpsCodec : Codec DepositVaultBumps :=
  (byte.pair <| byte.pair <| byte.pair <| byte.pair byte).map
    { toFun := fun ⟨a, b, c, d, e⟩ => ⟨a, b, c, d, e⟩
      invFun := fun ⟨a, b, c, d, e⟩ => ⟨a, b, c, d, e⟩
      left_inv := fun _ => rfl
      right_inv := fun _ => rfl }

/-- The same five bumps as for a deposit. -/
def withdrawVaultBumpsCodec : Codec WithdrawVaultBumps :=
  depositVaultBumpsCodec.map
    { toFun := fun ⟨a, b, c, d, e⟩ => ⟨a, b, c, d, e⟩
      invFun := fun ⟨a, b, c, d, e⟩ => ⟨a, b, c, d, e⟩
      left_inv := fun _ => rfl
      right_inv := fun _ => rfl }

def vaultCodec : Codec (Vault Pubkey) :=
  ((byte.vector 20).pair <| vaultBumpsCodec.pair <| pubkeyCodec.pair <| pubkeyCodec.pair <|
    pubkeyCodec.pair <| pubkeyCodec.pair epochTimesCodec).map
    { toFun := fun ⟨a, b, c, d, e, f, g⟩ => ⟨a, b, c, d, e, f, g⟩
      invFun := fun ⟨a, b, c, d, e, f, g⟩ => ⟨a, b, c, d, e, f, g⟩
      left_inv := fun _ => rfl
      right_inv := fun _ => rfl }

theorem epochTimesCodec_sized : epochTimesCodec.Sized 56 :=
  (int64_sized.pair <| int64_sized.pair <| int64_sized.pair <| int64_sized.pair <|
    int64_sized.pair <| int64_sized.pair uint64_sized).map _

theorem vaultBumpsCodec_sized : vaultBumpsCodec.Sized 9 :=
  (byte_sized.pair <| byte_sized.pair <| byte_sized.pair <| byte_sized.pair <| byte_sized.pair <|
    byte_sized.pair <| byte_sized.pair <| byte_sized.pair byte_sized).map _

theorem pubkeyCodec_sized : pubkeyCodec.Sized 32 := byte_sized.vector 32

/-- The name is stored in an array, and so all records have one length. -/
theorem vaultCodec_sized : vaultCodec.Sized 213 :=
  ((byte_sized.vector 20).pair <| vaultBumpsCodec_sized.pair <| pubkeyCodec_sized.pair <|
    pubkeyCodec_sized.pair <| pubkeyCodec_sized.pair <|
    pubkeyCodec_sized.pair epochTimesCodec_sized).map _

/-! ## The account of the record -/

/-- `Vault::default()` -/
def defaultVault : Vault Pubkey where
  vaultName := .replicate 20 0
  bumps := ⟨0, 0, 0, 0, 0, 0, 0, 0, 0⟩
  vaultAdmin := .replicate 32 0
  usdcMint := .replicate 32 0
  redeemableMint := .replicate 32 0
  vaultUsdc := .replicate 32 0
  epochTimes := ⟨0, 0, 0, 0, 0, 0, 0⟩

/-- `init` names no space: it takes the length of the default record, and eight bytes for the
discriminator. -/
def space : ℕ := 8 + (vaultCodec.encode defaultVault).length

/-- The data of an account that was just created. -/
def allocated : List UInt8 := List.replicate space 0

variable (discriminator : Vector UInt8 8)

/-- `try_serialize`: written over the front of the data, if it fits there. -/
def trySerialize (record : Vault Pubkey) (data : List UInt8) : Except Failure (List UInt8) :=
  let written := discriminator.toList ++ vaultCodec.encode record
  if written.length ≤ data.length then .ok (written ++ data.drop written.length)
  else .error .account

/-- `try_deserialize_unchecked`, which does not look at the discriminator. What is behind the
record is left alone. -/
def tryDeserializeUnchecked (data : List UInt8) : Except Failure (Vault Pubkey) :=
  if data.length < 8 then .error .abort
  else
    match vaultCodec.decode (data.drop 8) with
    | none => .error .account
    | some (record, _) => .ok record

/-- `try_deserialize` -/
def tryDeserialize (data : List UInt8) : Except Failure (Vault Pubkey) :=
  if data.length < 8 then .error .account
  else if data.take 8 ≠ discriminator.toList then .error .account
  else tryDeserializeUnchecked data

variable {discriminator} {record : Vault Pubkey} {data : List UInt8}

theorem space_eq : space = 221 := by
  rw [space, vaultCodec_sized]

/-- An account is made for one record, and each record takes up all of it. -/
theorem trySerialize_eq (record : Vault Pubkey) (sized : data.length = space) :
    trySerialize discriminator record data =
      .ok (discriminator.toList ++ vaultCodec.encode record) := by
  have written : (discriminator.toList ++ vaultCodec.encode record).length = data.length := by
    rw [List.length_append, Vector.length_toList, vaultCodec_sized, sized, space_eq]
  rw [trySerialize, if_pos written.le, written, List.drop_length, List.append_nil]

theorem tryDeserializeUnchecked_eq_ok :
    tryDeserializeUnchecked data = .ok record ↔
      8 ≤ data.length ∧ ∃ rest, data.drop 8 = vaultCodec.encode record ++ rest := by
  rw [tryDeserializeUnchecked]
  split
  next short => exact iff_of_false nofun fun both => absurd both.1 (Nat.not_le.mpr short)
  next long =>
    simp only [Nat.not_lt.mp long, true_and, ← vaultCodec.decode_eq_some]
    cases vaultCodec.decode (data.drop 8) with
    | none => simp
    | some read => simp [Prod.ext_iff, eq_comm]

/-- Only a record behind the right discriminator is loaded. -/
theorem tryDeserialize_eq_ok :
    tryDeserialize discriminator data = .ok record ↔
      ∃ rest, data = discriminator.toList ++ vaultCodec.encode record ++ rest := by
  have eight : discriminator.toList.length = 8 := Vector.length_toList
  rw [tryDeserialize]
  constructor
  · intro loaded
    split at loaded
    · cases loaded
    · split at loaded
      · cases loaded
      next same =>
        obtain ⟨_, rest, behind⟩ := tryDeserializeUnchecked_eq_ok.mp loaded
        refine ⟨rest, ?_⟩
        rw [← not_not.mp same, List.append_assoc, ← behind, List.take_append_drop]
  · rintro ⟨rest, rfl⟩
    rw [List.append_assoc]
    have long : ¬ (discriminator.toList ++ (vaultCodec.encode record ++ rest)).length < 8 := by
      rw [List.length_append]
      omega
    rw [if_neg long, List.take_left' eight, if_neg (not_not.mpr rfl),
      tryDeserializeUnchecked_eq_ok, List.drop_left' eight]
    exact ⟨Nat.not_lt.mp long, rest, rfl⟩

/-- What was stored is what is loaded. -/
theorem tryDeserialize_stored (record record' : Vault Pubkey) :
    tryDeserialize discriminator (discriminator.toList ++ vaultCodec.encode record) = .ok record' ↔
      record' = record := by
  rw [tryDeserialize_eq_ok]
  constructor
  · rintro ⟨rest, same⟩
    rw [List.append_assoc] at same
    have encoded := List.append_cancel_left same
    rw [← List.append_nil (vaultCodec.encode record)] at encoded
    exact (vaultCodec.encode_append_inj encoded).1.symm
  · rintro rfl
    exact ⟨[], (List.append_nil _).symm⟩

end JetVault.Wire
