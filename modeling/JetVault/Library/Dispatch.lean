import JetVault.Library.Codec

/-!
# Calls as bytes

A program is called with bytes: a tag of eight bytes for the method, then the encoded arguments.
The program compares the tag with those of its methods in turn, and reads the arguments of the
first that has it. What follows the arguments is left alone.
-/
namespace Dispatch

variable {Ty : Type} {Value : Ty → Type}

/-- A method with the types of its arguments. -/
structure Method (Ty : Type) where
  name : String
  args : List Ty
  deriving DecidableEq, Repr

def Args (Value : Ty → Type) : List Ty → Type
  | [] => Unit
  | type :: types => Value type × Args Value types

/-- The arguments one behind the other. -/
def argsCodec (codec : ∀ type, Codec (Value type)) : (types : List Ty) → Codec (Args Value types)
  | [] => .unit
  | type :: types => (codec type).pair (argsCodec codec types)

/-- The arguments in front. -/
def Args.front (types types' : List Ty) (values : Args Value (types ++ types')) :
    Args Value types :=
  match types, values with
  | [], _ => ()
  | _ :: types, (value, values) => (value, front types types' values)

/-- The arguments behind those in front. -/
def Args.back (types types' : List Ty) (values : Args Value (types ++ types')) :
    Args Value types' :=
  match types, values with
  | [], values => values
  | _ :: types, (_, values) => back types types' values

variable (codec : ∀ type, Codec (Value type))

theorem argsCodec_append (types types' : List Ty) (values : Args Value (types ++ types')) :
    (argsCodec codec (types ++ types')).encode values =
      (argsCodec codec types).encode (values.front types types') ++
        (argsCodec codec types').encode (values.back types types') := by
  induction types with
  | nil => rfl
  | cons type types ih =>
    obtain ⟨value, values⟩ := values
    change (codec type).encode value ++ (argsCodec codec (types ++ types')).encode values =
      ((codec type).encode value ++ (argsCodec codec types).encode (values.front types types')) ++
        (argsCodec codec types').encode (values.back types types')
    rw [ih, List.append_assoc]

/-- Reading only the first arguments gives the first arguments. -/
theorem decode_front (types types' : List Ty) {input rest : List UInt8}
    {values : Args Value (types ++ types')}
    (read : (argsCodec codec (types ++ types')).decode input = some (values, rest)) :
    (argsCodec codec types).decode input =
      some (values.front types types',
        (argsCodec codec types').encode (values.back types types') ++ rest) := by
  rw [Codec.decode_eq_some] at read ⊢
  rw [read, argsCodec_append, List.append_assoc]

variable {ι : Type} (tag : String → Vector UInt8 8) (method : ι → Method Ty)

/-- A call of one of the methods. -/
structure Call (Value : Ty → Type) (method : ι → Method Ty) where
  index : ι
  values : Args Value (method index).args

variable {method} in
/-- The bytes of a call. -/
def Call.data (call : Call Value method) : List UInt8 :=
  (tag (method call.index).name).toList ++ (argsCodec codec _).encode call.values

/-- The method called, its arguments and the bytes behind them. -/
def dispatch (members : List ι) (data : List UInt8) :
    Option (Call Value method × List UInt8) := do
  let (found, rest) ← (Codec.byte.vector 8).decode data
  let index ← members.find? fun index => tag (method index).name = found
  let (values, rest) ← (argsCodec codec (method index).args).decode rest
  some (⟨index, values⟩, rest)

/-- No two methods share a tag. -/
def Distinct : Prop :=
  Function.Injective fun index => tag (method index).name

variable {tag method} {members : List ι} (complete : ∀ index, index ∈ members)

/-- The format of the calls, when tags are distinct. -/
def calls (distinct : Distinct tag method) : Codec (Call Value method) :=
  (((Codec.byte.vector 8).select members complete (fun index => tag (method index).name)
    distinct).sigma fun index => argsCodec codec (method index).args).map
      ⟨fun v => ⟨v.1, v.2⟩, fun call => ⟨call.index, call.values⟩, fun _ => rfl, fun _ => rfl⟩

theorem calls_encode (distinct : Distinct tag method) (call : Call Value method) :
    (calls codec complete distinct).encode call = call.data codec tag := by
  change (Codec.byte.vector 8).encode _ ++ _ = _
  rw [Codec.byte_vector_encode]
  rfl

theorem calls_decode (distinct : Distinct tag method) (data : List UInt8) :
    (calls codec complete distinct).decode data = dispatch codec tag method members data := by
  simp [calls, dispatch, Codec.map, Codec.refine, Codec.sigma, Codec.select, Option.bind_assoc]

include complete in
/-- With distinct tags, a program reads the calls that were written, and no others. -/
theorem dispatch_eq_some (distinct : Distinct tag method) (data : List UInt8)
    (call : Call Value method) (rest : List UInt8) :
    dispatch codec tag method members data = some (call, rest) ↔
      data = call.data codec tag ++ rest := by
  rw [← calls_decode codec complete distinct, ← calls_encode codec complete distinct]
  exact (calls codec complete distinct).decode_eq_some data call rest

include complete in
/-- With distinct tags, two calls are written alike only if they are equal, whatever follows. -/
theorem data_append_inj (distinct : Distinct tag method) {call call' : Call Value method}
    {rest rest' : List UInt8} (same : call.data codec tag ++ rest = call'.data codec tag ++ rest') :
    call = call' ∧ rest = rest' := by
  rw [← calls_encode codec complete distinct, ← calls_encode codec complete distinct] at same
  exact (calls codec complete distinct).encode_append_inj same

end Dispatch
