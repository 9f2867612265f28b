import JetVault.Accounts.Context

/-!
# Derived addresses

The seeds of every address this program derives from a vault's name. An address depends on the
seeds only through their concatenation with the bump.
-/
namespace JetVault.Accounts

open Fallible

/-- The accounts that a vault has once. -/
inductive Role where
  | vault
  | vaultAuthority
  | redeemableMint
  | vaultUsdc
  deriving DecidableEq, Repr

/-- The vault's own address has no seed in front of the name. -/
def Role.seeds (name : List UInt8) : Role → List (List UInt8)
  | .vault => [name]
  | .vaultAuthority => [vaultAuthoritySeed, name]
  | .redeemableMint => [redeemableMintSeed, name]
  | .vaultUsdc => [vaultUsdcSeed, name]

/-- The bump that a vault's record stores for the account. -/
def Role.bump (bumps : VaultBumps) : Role → UInt8
  | .vault => bumps.vault
  | .vaultAuthority => bumps.vaultAuthority
  | .redeemableMint => bumps.redeemableMint
  | .vaultUsdc => bumps.vaultUsdc

abbrev Pubkey : Type := Vector UInt8 32

/-- The accounts derived from a vault's name: one of each role, and one for each user. -/
inductive Derived where
  | own (role : Role)
  | userRedeemable (user : Pubkey)
  deriving DecidableEq, Repr

def Derived.seeds (name : List UInt8) : Derived → List (List UInt8)
  | .own role => role.seeds name
  | .userRedeemable user => [userRedeemableSeed, name, user.toList]

variable {Key : Type}

/-! ## From seeds to addresses -/

theorem Runtime.derives_eq_ok [DecidableEq Key] (runtime : Runtime Key) (account : AccountMeta Key)
    (seeds : List (List UInt8)) (bump : UInt8) (u : Unit) :
    runtime.derives account seeds bump = .ok u ↔
      runtime.createProgramAddress (seeds ++ [[bump]]) = some account.key := by
  rw [derives, refuseIf_eq_ok]
  exact Decidable.not_not

/-- An address is a hash of the concatenated seeds; different concatenations have different
addresses. -/
def Runtime.CollisionFree (runtime : Runtime Key) : Prop :=
  ∀ seeds seeds' key, runtime.createProgramAddress seeds = some key →
    runtime.createProgramAddress seeds' = some key → seeds.flatten = seeds'.flatten

/-- With the bump behind them, the seeds of one address have one concatenation and one bump. -/
theorem Runtime.CollisionFree.eq_of_address {runtime : Runtime Key}
    (collisionFree : runtime.CollisionFree) {seeds seeds' : List (List UInt8)}
    {bump bump' : UInt8} {key : Key}
    (address : runtime.createProgramAddress (seeds ++ [[bump]]) = some key)
    (address' : runtime.createProgramAddress (seeds' ++ [[bump']]) = some key) :
    seeds.flatten = seeds'.flatten ∧ bump = bump' := by
  have same := collisionFree _ _ _ address address'
  rw [List.flatten_append, List.flatten_append] at same
  obtain ⟨front, back⟩ := List.append_inj' same rfl
  simpa [front] using back

/-- The bumps that `find_program_address` tries, greatest first. -/
def bumpSeeds : List UInt8 :=
  (List.range 255).map fun i => UInt8.ofNat (255 - i)

/-- `find_program_address`: the first bump with which the seeds have an address. -/
def Runtime.findProgramAddress (runtime : Runtime Key) (seeds : List (List UInt8)) :
    Option (Key × UInt8) :=
  bumpSeeds.findSome? fun bump =>
    (runtime.createProgramAddress (seeds ++ [[bump]])).map fun key => (key, bump)

theorem Runtime.createProgramAddress_of_find {runtime : Runtime Key}
    {seeds : List (List UInt8)} {key : Key} {bump : UInt8}
    (found : runtime.findProgramAddress seeds = some (key, bump)) :
    runtime.createProgramAddress (seeds ++ [[bump]]) = some key := by
  obtain ⟨tried, _, result⟩ := List.exists_of_findSome?_eq_some found
  obtain ⟨key', address, same⟩ := Option.map_eq_some_iff.mp result
  cases same
  exact address

end JetVault.Accounts
