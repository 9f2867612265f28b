import JetVault.Accounts.Seeds
import JetVault.Library.PrefixCode

/-!
# Seed collisions

Which derived accounts of two vaults share their concatenated seeds. Four of the five seed shapes
start with a constant of their own; the vault's own address starts with its name, which may read
like one of the constants.
-/
namespace JetVault.Accounts

open PrefixCode

/-! ## Constants in front -/

/-- The constant in front of the name; the vault's own address has none. -/
def Derived.constant : Derived → List UInt8
  | .own .vault => []
  | .own .vaultAuthority => vaultAuthoritySeed
  | .own .redeemableMint => redeemableMintSeed
  | .own .vaultUsdc => vaultUsdcSeed
  | .userRedeemable _ => userRedeemableSeed

/-- What follows the name. -/
def Derived.tail : Derived → List UInt8
  | .own _ => []
  | .userRedeemable user => user.toList

theorem Derived.flatten_seeds (account : Derived) (name : List UInt8) :
    (account.seeds name).flatten = account.constant ++ (name ++ account.tail) := by
  cases account with
  | own role => cases role <;> simp [seeds, Role.seeds, constant, tail]
  | userRedeemable user => simp [seeds, constant, tail]

/-- The constants that a name may read like. -/
def shortConstants : List (List UInt8) :=
  [vaultAuthoritySeed, redeemableMintSeed, vaultUsdcSeed]

theorem constants_prefixFree : PrefixFree (userRedeemableSeed :: shortConstants) := by
  decide +kernel

theorem Derived.constant_mem {account : Derived} (other : account ≠ .own .vault) :
    account.constant ∈ userRedeemableSeed :: shortConstants := by
  cases account with
  | own role => cases role <;> simp_all [constant, shortConstants]
  | userRedeemable user => simp [constant]

/-! ## Two accounts with constants -/

theorem Derived.constant_own_ne (role : Role) :
    (Derived.own role).constant ≠ userRedeemableSeed := by
  cases role <;> decide +kernel

/-- A constant belongs to one role, or to the accounts of all users. -/
theorem Derived.eq_of_constant_eq {account account' : Derived}
    (same : account.constant = account'.constant) :
    account.tail.length = account'.tail.length ∧
      (account.tail = account'.tail → account = account') := by
  cases account with
  | own role =>
    cases account' with
    | own role' =>
      refine ⟨rfl, fun _ => ?_⟩
      revert same
      cases role <;> cases role' <;> decide +kernel
    | userRedeemable user' => exact absurd same (constant_own_ne role)
  | userRedeemable user =>
    cases account' with
    | own role' => exact absurd same.symm (constant_own_ne role')
    | userRedeemable user' =>
      constructor
      · simp [tail]
      · intro users
        rw [Vector.toList_inj.mp users]

/-- Constants in front keep everything apart. -/
theorem eq_of_constants {account account' : Derived} {name name' : List UInt8}
    (other : account ≠ .own .vault) (other' : account' ≠ .own .vault)
    (same : (account.seeds name).flatten = (account'.seeds name').flatten) :
    account = account' ∧ name = name' := by
  rw [Derived.flatten_seeds, Derived.flatten_seeds] at same
  have member := Derived.constant_mem other
  have member' := Derived.constant_mem other'
  have rest := constants_prefixFree.rest_eq member member' same
  obtain ⟨length, unique⟩ :=
    Derived.eq_of_constant_eq (constants_prefixFree.tag_eq member member' same)
  obtain ⟨names, tails⟩ := List.append_inj' rest length
  exact ⟨unique tails, names⟩

/-! ## A vault's own address and another account -/

theorem flatten_own (name : List UInt8) : ((Derived.own .vault).seeds name).flatten = name := by
  simp [Derived.seeds, Role.seeds]

/-- Each of the three constants stands alone in front of the name for some role. -/
theorem exists_role {seed : List UInt8} (member : seed ∈ shortConstants) :
    ∃ role : Role, role ≠ .vault ∧
      ∀ name, ((Derived.own role).seeds name).flatten = seed ++ name := by
  simp only [shortConstants, List.mem_cons, List.not_mem_nil, or_false] at member
  rcases member with rfl | rfl | rfl
  · exact ⟨.vaultAuthority, by decide, by simp [Derived.seeds, Role.seeds]⟩
  · exact ⟨.redeemableMint, by decide, by simp [Derived.seeds, Role.seeds]⟩
  · exact ⟨.vaultUsdc, by decide, by simp [Derived.seeds, Role.seeds]⟩

/-- Another account's seeds read like a name only where the name starts with one of the three
short constants: a user's key is too long to be part of a name. -/
theorem vault_seeds_ne {account : Derived} {name name' : List UInt8} (short : name.length ≤ 20)
    (apart : ∀ seed ∈ shortConstants, name ≠ seed ++ name') (other : account ≠ .own .vault) :
    name ≠ (account.seeds name').flatten := by
  rw [Derived.flatten_seeds]
  cases account with
  | own role =>
    rw [Derived.tail, List.append_nil]
    apply apart
    cases role with
    | vault => exact absurd rfl other
    | _ => simp [Derived.constant, shortConstants]
  | userRedeemable user =>
    intro same
    have length := congrArg List.length same
    simp only [Derived.tail, List.length_append, Vector.length_toList] at length
    omega

/-- The accounts of two vaults have seeds of their own exactly when neither name is one of the
three short constants followed by the other name. -/
theorem seeds_injective_iff {name name' : List UInt8} (short : name.length ≤ 20)
    (short' : name'.length ≤ 20) :
    (∀ account account' : Derived,
        (account.seeds name).flatten = (account'.seeds name').flatten →
          account = account' ∧ name = name') ↔
      ∀ seed ∈ [vaultAuthoritySeed, redeemableMintSeed, vaultUsdcSeed],
        name ≠ seed ++ name' ∧ name' ≠ seed ++ name := by
  constructor
  · intro injective seed member
    obtain ⟨role, other, concatenation⟩ := exists_role member
    constructor
    · intro reads
      have same := injective (.own .vault) (.own role) (by rw [flatten_own, concatenation, reads])
      exact other (Derived.own.inj same.1).symm
    · intro reads
      have same := injective (.own role) (.own .vault) (by rw [flatten_own, concatenation, reads])
      exact other (Derived.own.inj same.1)
  · intro apart account account' same
    -- Only a name without a constant in front can read like another account's seeds.
    by_cases vault : account = .own .vault
    · by_cases vault' : account' = .own .vault
      · subst vault vault'
        rw [flatten_own, flatten_own] at same
        exact ⟨rfl, same⟩
      · subst vault
        rw [flatten_own] at same
        exact absurd same
          (vault_seeds_ne short (fun seed member => (apart seed member).1) vault')
    · by_cases vault' : account' = .own .vault
      · subst vault'
        rw [flatten_own] at same
        exact absurd same.symm
          (vault_seeds_ne short' (fun seed member => (apart seed member).2) vault)
      · exact eq_of_constants vault vault' same

theorem seeds_injective_iff_jet_sol :
    (∀ account account' : Derived,
        (account.seeds "jet".toUTF8.data.toList).flatten =
            (account'.seeds "sol".toUTF8.data.toList).flatten →
          account = account' ∧ "jet".toUTF8.data.toList = "sol".toUTF8.data.toList) ↔
      ∀ seed ∈ [vaultAuthoritySeed, redeemableMintSeed, vaultUsdcSeed],
        "jet".toUTF8.data.toList ≠ seed ++ "sol".toUTF8.data.toList ∧
          "sol".toUTF8.data.toList ≠ seed ++ "jet".toUTF8.data.toList :=
  seeds_injective_iff (by decide +kernel) (by decide +kernel)

/-- A vault named `vault-usdcjet` lives where the vault named `jet` keeps its usdc. -/
theorem seeds_collide :
    ¬ ∀ name name' : List UInt8, Trimmed name → name.length ≤ 20 → Trimmed name' →
        name'.length ≤ 20 → ∀ account account' : Derived,
          (account.seeds name).flatten = (account'.seeds name').flatten →
            account = account' ∧ name = name' := by
  intro injective
  have same := injective "vault-usdcjet".toUTF8.data.toList "jet".toUTF8.data.toList
    (by decide +kernel) (by decide +kernel) (by decide +kernel) (by decide +kernel)
    (.own .vault) (.own .vaultUsdc) (by decide +kernel)
  exact absurd same.1 (by decide)

end JetVault.Accounts
