import JetVault.Accounts.Context
import JetVault.Library.Dispatch

/-!
# Interfaces of called programs

`#[global_interface]` on a trait makes a module of functions, one for each method, that call a
program with the method's name and arguments. The macro sees the trait as text: it takes the
arguments from the signature, leaves out those whose type is written as a context, and refuses
`self`. The program that is called has the same signatures, less the first argument.
-/
namespace JetVault.Cpi

open Accounts Dispatch

/-! ## The trait -/

/-- An argument as it is written. -/
structure PatType where
  pat : String
  ty : String
  deriving DecidableEq, Repr

inductive FnArg where
  /-- `self` -/
  | receiver
  | typed (arg : PatType)
  deriving DecidableEq, Repr

structure Signature where
  ident : String
  inputs : List FnArg
  deriving DecidableEq, Repr

inductive TraitItem where
  | method (sig : Signature)
  /-- a constant, a type or a macro -/
  | other
  deriving DecidableEq, Repr

structure ItemTrait where
  items : List TraitItem
  deriving DecidableEq, Repr

def TraitItem.method? : TraitItem → Option Signature
  | method sig => some sig
  | other => none

def ItemTrait.methods (itemTrait : ItemTrait) : List Signature :=
  itemTrait.items.filterMap TraitItem.method?

/-! ## The macro -/

/-- `ty.retain(|s| !s.is_whitespace())` -/
def retained (ty : String) : List Char :=
  ty.toList.filter fun c => !c.isWhitespace

def isContext (ty : String) : Bool :=
  "Context<".toList.isPrefixOf (retained ty)

/-- A function of the module that is made, with its arguments behind the context. -/
structure Function where
  name : String
  args : List PatType
  deriving DecidableEq, Repr

/-- A panic at `self`. -/
def typedArgs : List FnArg → Option (List PatType)
  | [] => some []
  | .receiver :: _ => none
  | .typed arg :: inputs => do
    let args ← typedArgs inputs
    return arg :: args

def Signature.function (sig : Signature) : Option Function := do
  let args ← typedArgs sig.inputs
  return ⟨sig.ident, args.filter fun arg => !isContext arg.ty⟩

def globalInterface (itemTrait : ItemTrait) : Option (List Function) :=
  itemTrait.methods.mapM Signature.function

/-! ## The functions that are made -/

/-- `CpiContext`, with the seeds that are signed for. -/
structure CpiContext (Key : Type) where
  program : AccountMeta Key
  accounts : List (AccountMeta Key)
  signerSeeds : List (List (List UInt8))
  deriving DecidableEq, Repr

/-- What another program is called with. -/
structure Instruction (Key : Type) where
  programId : Key
  accounts : List (AccountMeta Key)
  data : List UInt8
  deriving DecidableEq, Repr

/-- What `invoke_signed` gets. -/
structure Invocation (Key : Type) where
  instruction : Instruction Key
  accountInfos : List (AccountMeta Key)
  signerSeeds : List (List (List UInt8))
  deriving DecidableEq, Repr

/-- `CpiContext::new` -/
def CpiContext.new {Key : Type} (program : AccountMeta Key) (accounts : List (AccountMeta Key)) :
    CpiContext Key where
  program := program
  accounts := accounts
  signerSeeds := []

/-- The program is the last of them. -/
def CpiContext.toAccountInfos {Key : Type} (context : CpiContext Key) : List (AccountMeta Key) :=
  context.accounts ++ [context.program]

variable {Key Ty : Type} {Value : Ty → Type} (tag : String → Vector UInt8 8)
  (codec : ∀ type, Codec (Value type)) (resolve : String → Option Ty)

/-- A function with the types that the texts stand for. -/
def Function.method (function : Function) : Option (Method Ty) := do
  let types ← function.args.mapM fun arg => resolve arg.ty
  return ⟨function.name, types⟩

variable {ι : Type} {method : ι → Method Ty}

/-- The body of a function that is made. It adds the program to the accounts once more. -/
def CpiContext.invoke (context : CpiContext Key) (call : Dispatch.Call Value method) :
    Invocation Key where
  instruction :=
    { programId := context.program.key
      accounts := context.accounts
      data := call.data codec tag }
  accountInfos := context.toAccountInfos ++ [context.program]
  signerSeeds := context.signerSeeds

/-! ## The program that is called -/

/-- A handler's arguments are those behind its first. -/
def Signature.handler (sig : Signature) : Option Function :=
  match sig.inputs with
  | .typed _ :: inputs => do
    let args ← typedArgs inputs
    return ⟨sig.ident, args⟩
  | _ => none

/-- A context in front, and no other. -/
def Signature.Conforms (sig : Signature) : Prop :=
  ∃ (context : PatType) (args : List PatType), sig.inputs = .typed context :: args.map .typed ∧
    isContext context.ty = true ∧ ∀ arg ∈ args, isContext arg.ty = false

end JetVault.Cpi
