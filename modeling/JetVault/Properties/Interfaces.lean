import JetVault.Cpi.Program

/-!
# Functions made from an interface

What the macro makes of a trait against the handlers with the same signatures: the arguments agree
exactly when every signature has its context in front and no other, and then a program with these
handlers reads every call back that the functions make.
-/
namespace JetVault.Cpi

open Accounts Dispatch

/-! ## Signatures -/

theorem typedArgs_eq_some {inputs : List FnArg} {args : List PatType} :
    typedArgs inputs = some args ↔ inputs = args.map .typed := by
  induction inputs generalizing args with
  | nil => cases args <;> simp [typedArgs]
  | cons input inputs ih =>
    cases input with
    | receiver => cases args <;> simp [typedArgs]
    | typed arg =>
      simp only [typedArgs, Option.bind_eq_bind, Option.bind_eq_some_iff, Option.pure_def,
        Option.some.injEq, ih]
      cases args with
      | nil => simp
      | cons first args => simp [and_comm]

theorem typedArgs_eq_none {inputs : List FnArg} :
    typedArgs inputs = none ↔ .receiver ∈ inputs := by
  induction inputs with
  | nil => simp [typedArgs]
  | cons input inputs ih =>
    cases input with
    | receiver => simp [typedArgs]
    | typed arg =>
      rw [List.mem_cons, or_iff_right nofun, ← ih, typedArgs]
      cases typedArgs inputs <;> simp

/-- What is left after leaving out the contexts, behind something that is not left out, is never
the whole. -/
theorem filter_ne_behind {α : Type} (keep : α → Bool) (first : α) (behind : List α)
    (kept : keep first = true) : (first :: behind).filter keep ≠ behind := by
  intro same
  have all : ∀ a ∈ behind, keep a = true := by
    intro a member
    rw [← same] at member
    exact (List.mem_filter.mp member).2
  rw [List.filter_cons_of_pos kept, List.filter_eq_self.mpr all] at same
  exact List.cons_ne_self first behind same

/-- A function gets the arguments of the handler exactly when the first input is a context and no
other is. -/
theorem function_eq_handler_iff {sig : Signature} {handler : Function}
    (handled : sig.handler = some handler) : sig.function = some handler ↔ sig.Conforms := by
  obtain ⟨ident, inputs⟩ := sig
  cases inputs with
  | nil => cases handled
  | cons input inputs =>
    cases input with
    | receiver => cases handled
    | typed context =>
      simp only [Signature.handler, Option.bind_eq_bind, Option.bind_eq_some_iff] at handled
      obtain ⟨args, typed, same⟩ := handled
      cases same
      have inputs_eq := typedArgs_eq_some.mp typed
      subst inputs_eq
      have function : Signature.function ⟨ident, .typed context :: args.map .typed⟩ =
          some ⟨ident, (context :: args).filter fun arg => !isContext arg.ty⟩ := by
        have all : typedArgs (.typed context :: args.map .typed) = some (context :: args) :=
          typedArgs_eq_some.mpr rfl
        simp only [Signature.function, all]
        rfl
      rw [function, Option.some.injEq, Function.mk.injEq, and_iff_right rfl]
      -- The handler drops the first input, and the macro all contexts, wherever they stand.
      constructor
      · intro same
        by_cases first : isContext context.ty = true
        · rw [List.filter_cons_of_neg (by simp [first]), List.filter_eq_self] at same
          exact ⟨context, args, rfl, first, fun arg member => by simpa using same arg member⟩
        · exact absurd same (filter_ne_behind _ context args (by simpa using first))
      · rintro ⟨context', args', inputs_eq, first, others⟩
        have same : (context :: args).map FnArg.typed = (context' :: args').map .typed := inputs_eq
        cases List.map_injective_iff.mpr (fun _ _ => FnArg.typed.inj) same
        rw [List.filter_cons_of_neg (by simp [first]), List.filter_eq_self]
        exact fun arg member => by simp [others arg member]

/-! ## Interfaces -/

/-- The macro panics at a method with `self`, and only there. -/
theorem globalInterface_eq_none {itemTrait : ItemTrait} : globalInterface itemTrait = none ↔
    ∃ sig ∈ itemTrait.methods, FnArg.receiver ∈ sig.inputs := by
  unfold globalInterface
  induction itemTrait.methods with
  | nil => simp
  | cons sig sigs ih =>
    have function : sig.function = none ↔ .receiver ∈ sig.inputs := by
      rw [← typedArgs_eq_none, Signature.function]
      cases typedArgs sig.inputs <;> simp
    cases made : sig.function with
    | none => simp [made, function.mp made]
    | some first =>
      have typed : FnArg.receiver ∉ sig.inputs := fun self => by
        rw [function.mpr self] at made
        cases made
      rw [List.exists_mem_cons_iff, or_iff_right typed, ← ih, List.mapM_cons, made]
      cases sigs.mapM Signature.function <;> simp

theorem mapM_function_iff {sigs : List Signature} {handlers : List Function}
    (handled : sigs.mapM Signature.handler = some handlers) :
    sigs.mapM Signature.function = some handlers ↔ ∀ sig ∈ sigs, sig.Conforms := by
  induction sigs generalizing handlers with
  | nil =>
    cases handled
    simp
  | cons sig sigs ih =>
    simp only [List.mapM_cons, Option.bind_eq_bind, Option.bind_eq_some_iff, Option.pure_def,
      Option.some.injEq] at handled ⊢
    obtain ⟨handler, first, handlers, rest, rfl⟩ := handled
    rw [List.forall_mem_cons, ← function_eq_handler_iff first, ← ih rest]
    constructor
    · rintro ⟨function, made, functions, others, same⟩
      cases same
      exact ⟨made, others⟩
    · rintro ⟨made, others⟩
      exact ⟨handler, made, handlers, others, rfl⟩

/-! ## Calls -/

variable {Key Ty : Type} {Value : Ty → Type} {tag : String → Vector UInt8 8}
  (codec : ∀ type, Codec (Value type)) {resolve : String → Option Ty} {itemTrait : ItemTrait}
  {handlers : List Function} {methods : List (Method Ty)}

/-- For a program with the handlers of a trait, the macro makes functions with the handlers' names
and arguments exactly when every signature conforms. The program then reads a call from data exactly
when the data is what the function of that name sends for it, with anything behind. -/
theorem interface_read_back (handled : itemTrait.methods.mapM Signature.handler = some handlers)
    (typed : handlers.mapM (Function.method resolve) = some methods)
    (distinct : Distinct tag methods.get) :
    (globalInterface itemTrait = some handlers ↔ ∀ sig ∈ itemTrait.methods, sig.Conforms) ∧
      ∀ (functions : List Function), globalInterface itemTrait = some functions →
        (∀ sig ∈ itemTrait.methods, sig.Conforms) →
          functions.mapM (Function.method resolve) = some methods ∧
            ∀ (context : CpiContext Key) (call : Dispatch.Call Value methods.get)
              (data rest : List UInt8),
              dispatch codec tag methods.get (List.finRange methods.length) data =
                  some (call, rest) ↔
                data = (context.invoke tag codec call).instruction.data ++ rest := by
  refine ⟨mapM_function_iff handled, ?_⟩
  intro functions made conform
  cases made.symm.trans ((mapM_function_iff handled).mpr conform)
  refine ⟨typed, ?_⟩
  intro context call data rest
  exact dispatch_eq_some codec List.mem_finRange distinct data call rest

/-- The first eight bytes of the hashes of the names. -/
def zetaTag : String → Vector UInt8 8
  | "initialize_margin_account" => #v[67, 235, 66, 102, 167, 171, 120, 197]
  | "deposit" => #v[242, 35, 198, 137, 82, 225, 242, 182]
  | "withdraw" => #v[183, 18, 70, 156, 148, 109, 161, 34]
  | "initialize_open_orders" => #v[55, 234, 16, 82, 100, 42, 126, 192]
  | "place_order" => #v[51, 194, 155, 175, 109, 130, 96, 106]
  | "cancel_order" => #v[95, 129, 237, 240, 8, 49, 223, 132]
  | _ => .replicate 8 0

def zetaHandlers : List Function :=
  [⟨"initialize_margin_account", [⟨"nonce", "u8"⟩]⟩, ⟨"deposit", [⟨"amount", "u64"⟩]⟩,
    ⟨"withdraw", [⟨"amount", "u64"⟩]⟩,
    ⟨"initialize_open_orders", [⟨"nonce", "u8"⟩, ⟨"_map_nonce", "u8"⟩]⟩,
    ⟨"place_order", [⟨"price", "u64"⟩, ⟨"size", "u64"⟩, ⟨"side", "Side"⟩,
      ⟨"client_order_id", "Option<u64>"⟩]⟩,
    ⟨"cancel_order", [⟨"side", "Side"⟩, ⟨"order_id", "u128"⟩]⟩]

def zetaMethods : List (Method ArgType) :=
  ZetaFunction.all.map ZetaFunction.method

theorem zetaMethods_distinct : Distinct zetaTag zetaMethods.get := by
  intro i i' same
  revert i i' same
  decide

/-- A deposit of a hundred, sent with no accounts. -/
def depositCall : Dispatch.Call ArgType.Value zetaMethods.get where
  index := ⟨1, by decide⟩
  values := ((100 : UInt64), ())

def depositContext : CpiContext Pubkey where
  program := ⟨.replicate 32 7, false, false⟩
  accounts := []
  signerSeeds := []

/-- The program gets a byte behind it. -/
theorem interface_read_back_zeta :
    (∀ sig ∈ zetaInterface.methods, sig.Conforms) ∧
      dispatch ArgType.codec zetaTag zetaMethods.get (List.finRange zetaMethods.length)
        [242, 35, 198, 137, 82, 225, 242, 182, 100, 0, 0, 0, 0, 0, 0, 0, 9] =
          some (depositCall, [9]) := by
  have made : globalInterface zetaInterface = some zetaHandlers := by decide
  obtain ⟨same, reads⟩ := interface_read_back ArgType.codec
    (by decide : zetaInterface.methods.mapM Signature.handler = some zetaHandlers)
    (by decide : zetaHandlers.mapM (Function.method ArgType.resolve) = some zetaMethods)
    zetaMethods_distinct
  have conform := same.mp made
  obtain ⟨_, calls⟩ := reads zetaHandlers made conform
  exact ⟨conform, (calls depositContext depositCall _ [9]).mpr (by decide +kernel)⟩

end JetVault.Cpi
