import JetVault.Properties.Interfaces

/-!
# Calls that are handed on

What reaches the Zeta program when it is called through this one: the program that is named first
is called, with the accounts behind it as they were given, and reads the arguments that were sent.
Nothing is signed for, and no account gets a privilege that it did not come with.
-/
namespace JetVault.Cpi

open Accounts Dispatch Fallible

variable {Key : Type}

/-! ## Derived nonces -/

theorem mem_bumpSeeds {bump : UInt8} : bump ∈ bumpSeeds ↔ 0 < bump := by
  rw [bumpSeeds, List.mem_map, UInt8.lt_iff_toNat_lt]
  constructor
  · rintro ⟨i, inside, rfl⟩
    have less := List.mem_range.mp inside
    rw [UInt8.toNat_ofNat', Nat.mod_eq_of_lt (by omega)]
    exact Nat.sub_pos_of_lt less
  · intro positive
    have small := bump.toNat_lt
    refine ⟨255 - bump.toNat, List.mem_range.mpr (by simp at positive; omega), ?_⟩
    apply UInt8.toNat_inj.mp
    rw [UInt8.toNat_ofNat', Nat.mod_eq_of_lt (by omega)]
    omega

theorem bumpSeeds_sorted : bumpSeeds.Pairwise (· > ·) := by
  rw [bumpSeeds, List.pairwise_map]
  refine List.pairwise_lt_range.imp_of_mem ?_
  intro i j first second less
  rw [List.mem_range] at first second
  rw [gt_iff_lt, UInt8.lt_iff_toNat_lt, UInt8.toNat_ofNat', UInt8.toNat_ofNat',
    Nat.mod_eq_of_lt (by omega), Nat.mod_eq_of_lt (by omega)]
  omega

/-- The greatest bump, other than zero, for which the seeds have an address. -/
structure Canonical (env : Env Key) (program : Key) (seeds : List (List UInt8)) (bump : UInt8) :
    Prop where
  positive : 0 < bump
  address : (env.createProgramAddress program (seeds ++ [[bump]])).isSome
  greatest : ∀ greater, bump < greater →
    env.createProgramAddress program (seeds ++ [[greater]]) = none

theorem findProgramAddress_eq_ok {env : Env Key} {program : Key} {seeds : List (List UInt8)}
    {bump : UInt8} : (∃ key, env.findProgramAddress program seeds = .ok (key, bump)) ↔
      Canonical env program seeds bump := by
  have tried (key : Key) : env.findProgramAddress program seeds = .ok (key, bump) ↔
      bumpSeeds.findSome? (fun bump => (env.createProgramAddress program
        (seeds ++ [[bump]])).map fun key => (key, bump)) = some (key, bump) := by
    dsimp only [Env.findProgramAddress]
    split
    next none_ => rw [none_]; exact iff_of_false nofun nofun
    next address found => rw [found, Except.ok.injEq, Option.some.injEq]
  simp only [tried, List.findSome?_eq_some_iff, Option.map_eq_some_iff, Option.map_eq_none_iff,
    Prod.mk.injEq]
  constructor
  · rintro ⟨key, front, found, behind, split, ⟨_, address, rfl, rfl⟩, none_⟩
    have sorted := bumpSeeds_sorted
    rw [split, List.pairwise_append] at sorted
    refine ⟨mem_bumpSeeds.mp (by simp [split]), by simp [address], ?_⟩
    intro greater less
    -- A greater bump has been tried before.
    have member := mem_bumpSeeds.mpr (UInt8.lt_of_le_of_lt (UInt8.zero_le) less)
    rw [split, List.mem_append, List.mem_cons] at member
    rcases member with before | rfl | after
    · exact none_ greater before
    · exact absurd less (UInt8.lt_irrefl _)
    · exact absurd less (UInt8.lt_asymm ((List.pairwise_cons.mp sorted.2.1).1 greater after))
  · rintro ⟨positive, address, greatest⟩
    obtain ⟨key, found⟩ := Option.isSome_iff_exists.mp address
    obtain ⟨front, behind, split⟩ := List.append_of_mem (mem_bumpSeeds.mpr positive)
    refine ⟨key, front, bump, behind, split, ⟨key, found, rfl, rfl⟩, ?_⟩
    intro greater before
    have sorted := bumpSeeds_sorted
    rw [split, List.pairwise_append] at sorted
    exact greatest greater (sorted.2.2 greater before bump (List.mem_cons_self ..))

/-! ## Helpers -/

/-- The arguments that are sent on for those of a handler: the nonces of the margin account and the
open orders are derived for the program that is called, all others stay. -/
def Received (env : Env Key) (program : Key) : (function : ZetaFunction) →
    Listed Key function.cpiAccounts → Args ArgType.Value function.handlerArgs →
      Args ArgType.Value function.method.args → Prop
  | .initializeMarginAccount, accounts, (), (nonce, ()) =>
      Canonical env program
        [marginSeed, env.toBytes (accounts.named "zeta_group" (by decide)).key,
          env.toBytes (accounts.named "authority" (by decide)).key] nonce
  | .initializeOpenOrders, accounts, (), (nonce, mapNonce, ()) =>
      Canonical env program
          [openOrdersSeed, env.toBytes (accounts.named "dex_program" (by decide)).key,
            env.toBytes (accounts.named "market" (by decide)).key,
            env.toBytes (accounts.named "authority" (by decide)).key] nonce ∧
        Canonical env program [env.toBytes (accounts.named "open_orders" (by decide)).key] mapNonce
  | .deposit, _, values, received => received = values
  | .withdraw, _, values, received => received = values
  | .placeOrder, _, values, received => received = values
  | .cancelOrder, _, values, received => received = values

variable {tag : String → Vector UInt8 8} {env : Env Key} {zetaProgram : AccountMeta Key}
  {invocation : Invocation Key}

theorem caller_eq_ok {function : ZetaFunction} {accounts : Listed Key function.cpiAccounts}
    {values : Args ArgType.Value function.handlerArgs} :
    caller tag env zetaProgram function accounts values = .ok invocation ↔
      ∃ received, Received env zetaProgram.key function accounts values received ∧
        zetaInterfaceCall tag zetaProgram accounts ⟨function, received⟩ = invocation := by
  cases function with
  | initializeMarginAccount =>
    change ZetaClient.initializeMarginAccount tag env zetaProgram accounts = _ ↔ _
    simp only [ZetaClient.initializeMarginAccount, bind_eq_ok, pure_eq_ok, Prod.exists]
    constructor
    · rintro ⟨key, nonce, found, same⟩
      exact ⟨(nonce, ()), findProgramAddress_eq_ok.mp ⟨key, found⟩, same⟩
    · rintro ⟨⟨nonce, _⟩, canonical, same⟩
      obtain ⟨key, found⟩ := findProgramAddress_eq_ok.mpr canonical
      exact ⟨key, nonce, found, same⟩
  | initializeOpenOrders =>
    change ZetaClient.initializeOpenOrders tag env zetaProgram accounts = _ ↔ _
    simp only [ZetaClient.initializeOpenOrders, bind_eq_ok, pure_eq_ok, Prod.exists]
    constructor
    · rintro ⟨key, nonce, found, key', mapNonce, found', same⟩
      exact ⟨(nonce, mapNonce, ()), ⟨findProgramAddress_eq_ok.mp ⟨key, found⟩,
        findProgramAddress_eq_ok.mp ⟨key', found'⟩⟩, same⟩
    · rintro ⟨⟨nonce, mapNonce, _⟩, ⟨canonical, canonical'⟩, same⟩
      obtain ⟨key, found⟩ := findProgramAddress_eq_ok.mpr canonical
      obtain ⟨key', found'⟩ := findProgramAddress_eq_ok.mpr canonical'
      exact ⟨key, nonce, found, key', mapNonce, found', same⟩
  -- The others send the arguments that they get.
  | deposit | withdraw | placeOrder | cancelOrder =>
    refine Iff.trans ?_ exists_eq_left.symm
    exact pure_eq_ok ..

/-! ## Account lists -/

/-- What the type of an account asks for. -/
def AccountType.Accepts (env : Env Key) (account : AccountMeta Key) : AccountType → Prop
  | .accountInfo => True
  | .signer => account.isSigner = true
  | .systemProgram => account.key = env.systemProgram
  | .tokenProgram => account.key = env.tokenProgram
  | .rent => account.key = env.rent

/-- What is asked of an account. -/
structure Declared.Accepts (declared : Declared) (env : Env Key) (account : AccountMeta Key) :
    Prop where
  loads : declared.type.Accepts env account
  writes : declared.isMut = true → account.isWritable = true

variable [DecidableEq Key]

theorem load_eq_ok {type : AccountType} {account : AccountMeta Key} {u : Unit} :
    type.load env account = .ok u ↔ type.Accepts env account := by
  cases type with
  | accountInfo => exact iff_of_true rfl trivial
  | signer => simp [AccountType.load, AccountType.Accepts, refuseIf_eq_ok]
  | systemProgram => simp [AccountType.load, AccountType.Accepts, refuseIf_eq_ok]
  | tokenProgram => simp [AccountType.load, AccountType.Accepts, refuseIf_eq_ok]
  | rent => simp [AccountType.load, AccountType.Accepts, refuseIf_eq_ok]

theorem check_eq_ok {declared : Declared} {account : AccountMeta Key} {u : Unit} :
    declared.check env account = .ok u ↔ declared.Accepts env account := by
  simp only [Declared.check, bind_eq_ok, load_eq_ok, refuseIf_eq_ok, not_and, Bool.not_eq_false]
  constructor
  · rintro ⟨_, loads, writes⟩
    exact ⟨loads, writes⟩
  · rintro ⟨loads, writes⟩
    exact ⟨(), loads, writes⟩

/-- The accounts of a list are the first that were given, each as it is declared. -/
theorem tryAccounts_eq_ok {declared : List Declared} {given : List (AccountMeta Key)}
    {listed : Listed Key declared} : tryAccounts env declared given = .ok listed ↔
      listed.accounts <+: given ∧
        List.Forall₂ (fun first account => first.Accepts env account) declared listed.accounts := by
  obtain ⟨accounts, length⟩ := listed
  -- Induction on the declared accounts, which take the given ones from the front.
  induction declared generalizing given accounts with
  | nil =>
    cases List.eq_nil_of_length_eq_zero length
    simp [tryAccounts]
  | cons first declared ih =>
    obtain ⟨account, accounts, rfl⟩ := List.exists_cons_of_length_eq_add_one length
    cases given with
    | nil => simp [tryAccounts]
    | cons given others =>
      have tail := @ih others accounts (Nat.succ_inj.mp length)
      simp only [tryAccounts, bind_eq_ok, check_eq_ok, pure_eq_ok, Listed.mk.injEq,
        List.cons.injEq, List.cons_prefix_cons, List.forall₂_cons]
      constructor
      · rintro ⟨_, accepts, ⟨_, _⟩, loaded, rfl, rfl⟩
        obtain ⟨front, all⟩ := tail.mp loaded
        exact ⟨⟨rfl, front⟩, accepts, all⟩
      · rintro ⟨⟨rfl, front⟩, accepts, all⟩
        exact ⟨(), accepts, _, tail.mpr ⟨front, all⟩, rfl, rfl⟩

/-! ## The handlers -/

/-- What is passed on: the accounts behind the program that is named first, as they are, and the
call of the function with the handler's name. -/
structure Forwarded (tag : String → Vector UInt8 8) (env : Env Key) (given : List (AccountMeta Key))
    (invocation : Invocation Key) (function : ZetaFunction) (zetaProgram : AccountMeta Key)
    (listed : Listed Key function.cpiAccounts) (values : Args ArgType.Value function.handlerArgs)
    (received : Args ArgType.Value function.method.args) : Prop where
  front : zetaProgram :: listed.accounts <+: given
  declared : List.Forall₂ (fun first account => first.Accepts env account) function.cpiAccounts
    listed.accounts
  receives : Received env zetaProgram.key function listed values received
  programId : invocation.instruction.programId = zetaProgram.key
  accounts : invocation.instruction.accounts = listed.accounts
  accountInfos : invocation.accountInfos = listed.accounts ++ [zetaProgram] ++ [zetaProgram]
  signerSeeds : invocation.signerSeeds = []
  data : invocation.instruction.data = Dispatch.Call.data ArgType.codec tag
    (⟨function, received⟩ : Dispatch.Call ArgType.Value ZetaFunction.method)

theorem ZetaFunction.mem_all (function : ZetaFunction) : function ∈ all := by
  cases function <;> decide

theorem handle_eq_ok {function : ZetaFunction} {given : List (AccountMeta Key)}
    {values : Args ArgType.Value function.handlerArgs} :
    handle tag env function given values = .ok invocation ↔
      ∃ zetaProgram listed received,
        Forwarded tag env given invocation function zetaProgram listed values received := by
  constructor
  · intro handled
    unfold handle at handled
    split at handled
    next => cases handled
    next zetaProgram others =>
      simp only [bind_eq_ok, tryAccounts_eq_ok, caller_eq_ok] at handled
      obtain ⟨listed, ⟨front, declared⟩, received, receives, rfl⟩ := handled
      exact ⟨zetaProgram, listed, received, List.cons_prefix_cons.mpr ⟨rfl, front⟩, declared,
        receives, rfl, rfl, rfl, rfl, rfl⟩
  · -- The front of the given accounts is the list.
    rintro ⟨zetaProgram, listed, received, forwarded⟩
    obtain ⟨others, rfl⟩ := forwarded.front
    simp only [handle, List.cons_append, bind_eq_ok, tryAccounts_eq_ok, caller_eq_ok]
    obtain ⟨⟨programId, accounts, data⟩, accountInfos, signerSeeds⟩ := invocation
    cases forwarded.programId
    cases forwarded.accounts
    cases forwarded.accountInfos
    cases forwarded.signerSeeds
    cases forwarded.data
    exact ⟨listed, ⟨List.prefix_append .., forwarded.declared⟩, received, forwarded.receives, rfl⟩

/-- What the runtime asks of a call that nothing is signed for: its program and its accounts are at
hand, and none of them gets a privilege in the call that it did not come with. -/
structure Invocation.Permitted (invocation : Invocation Key) (given : List (AccountMeta Key)) :
    Prop where
  signerSeeds : invocation.signerSeeds = []
  program : ∃ account ∈ invocation.accountInfos, account.key = invocation.instruction.programId
  accounts : ∀ account ∈ invocation.instruction.accounts, account ∈ invocation.accountInfos
  given : ∀ account ∈ invocation.accountInfos, account ∈ given

/-- A handler calls another program exactly where the accounts are as its list declares them, and
then it passes them on as they are: the runtime permits the call without a signature of the
program's own, and the called program reads from it the function of the same name with the arguments
that were sent, or the nonces of its own addresses. -/
theorem calls_handed_on (distinct : Distinct tag ZetaFunction.method) (env : Env Key)
    (function : ZetaFunction) (given : List (AccountMeta Key))
    (values : Args ArgType.Value function.handlerArgs) (invocation : Invocation Key) :
    (handle tag env function given values = .ok invocation ↔
      ∃ zetaProgram listed received,
        Forwarded tag env given invocation function zetaProgram listed values received) ∧
    ∀ zetaProgram listed received,
      Forwarded tag env given invocation function zetaProgram listed values received →
        invocation.Permitted given ∧
        ∀ call rest, dispatch ArgType.codec tag ZetaFunction.method ZetaFunction.all
            invocation.instruction.data = some (call, rest) ↔
          call = ⟨function, received⟩ ∧ rest = [] := by
  refine ⟨handle_eq_ok, ?_⟩
  intro zetaProgram listed received forwarded
  have inFront : ∀ account, account = zetaProgram ∨ account ∈ listed.accounts → account ∈ given :=
    fun account named => forwarded.front.subset (List.mem_cons.mpr named)
  -- What is passed on came in front, the program itself included.
  constructor
  · constructor
    · exact forwarded.signerSeeds
    · exact ⟨zetaProgram, by simp [forwarded.accountInfos], forwarded.programId.symm⟩
    · intro account member
      rw [forwarded.accounts] at member
      simp [forwarded.accountInfos, member]
    · intro account member
      apply inFront
      simp only [forwarded.accountInfos, List.mem_append, List.mem_singleton] at member
      tauto
  · intro call rest
    rw [dispatch_eq_some ArgType.codec ZetaFunction.mem_all distinct, forwarded.data]
    constructor
    · intro same
      -- A call's data is no beginning of another call's.
      obtain ⟨rfl, rfl⟩ := data_append_inj ArgType.codec ZetaFunction.mem_all distinct
        ((List.append_nil _).trans same)
      exact ⟨rfl, rfl⟩
    · rintro ⟨rfl, rfl⟩
      rw [List.append_nil]

theorem zetaTag_distinct : Distinct zetaTag ZetaFunction.method := by
  intro function function' same
  cases function <;> cases function' <;> revert same <;> decide

/-- No address for the bump 255. -/
def openingEnv : Env ℕ where
  createProgramAddress _ seeds := if [255] ∈ seeds then none else some 99
  toBytes key := [.ofNat key]
  systemProgram := 0
  tokenProgram := 10
  rent := 11

/-- The margin account, who opens it, the programs and the group, and an account too many. -/
def openingAccounts : List (AccountMeta ℕ) :=
  [⟨1, false, false⟩, ⟨2, false, true⟩, ⟨3, true, true⟩, ⟨1, false, false⟩, ⟨0, false, false⟩,
    ⟨4, false, false⟩, ⟨5, true, true⟩]

def openingInvocation : Invocation ℕ where
  instruction :=
    { programId := 1
      accounts := (openingAccounts.take 6).drop 1
      data := [67, 235, 66, 102, 167, 171, 120, 197, 254] }
  accountInfos := (openingAccounts.take 6).drop 1 ++ [⟨1, false, false⟩, ⟨1, false, false⟩]
  signerSeeds := []

theorem calls_handed_on_opening :
    handle zetaTag openingEnv .initializeMarginAccount openingAccounts () =
        .ok openingInvocation ∧
      openingInvocation.Permitted openingAccounts ∧
      ∃ call, dispatch ArgType.codec zetaTag ZetaFunction.method ZetaFunction.all
        openingInvocation.instruction.data = some (call, []) := by
  obtain ⟨passes, forwards⟩ := calls_handed_on zetaTag_distinct openingEnv
    .initializeMarginAccount openingAccounts () openingInvocation
  have handled : handle zetaTag openingEnv .initializeMarginAccount openingAccounts () =
      .ok openingInvocation := eq_ok_of_toOption (by decide +kernel)
  obtain ⟨zetaProgram, listed, received, forwarded⟩ := passes.mp handled
  obtain ⟨permitted, reads⟩ := forwards zetaProgram listed received forwarded
  exact ⟨handled, permitted, ⟨.initializeMarginAccount, received⟩, (reads _ _).mpr ⟨rfl, rfl⟩⟩

end JetVault.Cpi
