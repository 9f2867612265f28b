import Mathlib.Data.UInt
import Mathlib.Data.Vector.Basic
import Mathlib.Logic.Equiv.Fin.Basic

/-!
# Codecs

A codec writes a value as bytes and reads it back in front of whatever follows. It reads nothing
but what it writes, so that every value has one encoding, and the encoding shows where it ends.
-/

/-- A writer and a reader; the reader accepts what is written, and only that. -/
structure Codec (α : Type) where
  encode : α → List UInt8
  decode : List UInt8 → Option (α × List UInt8)
  decode_eq_some : ∀ input value rest,
    decode input = some (value, rest) ↔ input = encode value ++ rest

namespace Codec

variable {α β : Type}

theorem decode_encode (codec : Codec α) (value : α) (rest : List UInt8) :
    codec.decode (codec.encode value ++ rest) = some (value, rest) :=
  (codec.decode_eq_some _ value rest).mpr rfl

/-- Whatever follows, two encodings are equal only if their values are. -/
theorem encode_append_inj (codec : Codec α) {value value' : α} {rest rest' : List UInt8}
    (same : codec.encode value ++ rest = codec.encode value' ++ rest') :
    value = value' ∧ rest = rest' := by
  have read := codec.decode_encode value rest
  rw [same, codec.decode_encode] at read
  cases read
  exact ⟨rfl, rfl⟩

/-- All encodings have one length. -/
def Sized (codec : Codec α) (width : ℕ) : Prop :=
  ∀ value, (codec.encode value).length = width

/-! ## Building codecs -/

def unit : Codec Unit where
  encode _ := []
  decode input := some ((), input)
  decode_eq_some input value rest := by simp

def byte : Codec UInt8 where
  encode value := [value]
  decode
    | [] => none
    | value :: rest => some (value, rest)
  decode_eq_some input value rest := by
    cases input with
    | nil => simp
    | cons first later => simp

/-- The codec of what comes next may depend on what was read. -/
def sigma {β : α → Type} (first : Codec α) (second : ∀ a, Codec (β a)) : Codec (Σ a, β a) where
  encode value := first.encode value.1 ++ (second value.1).encode value.2
  decode input := do
    let (a, rest) ← first.decode input
    let (b, rest) ← (second a).decode rest
    some (⟨a, b⟩, rest)
  decode_eq_some input value rest := by
    obtain ⟨a, b⟩ := value
    simp only [Option.bind_eq_bind, Option.bind_eq_some_iff, Prod.exists, Option.some.injEq,
      Prod.mk.injEq]
    constructor
    · rintro ⟨a, later, read, b, rest, read', same, rfl⟩
      cases same
      rw [(first.decode_eq_some ..).mp read, ((second a).decode_eq_some ..).mp read',
        List.append_assoc]
    · intro written
      rw [List.append_assoc] at written
      exact ⟨a, _, (first.decode_eq_some ..).mpr written, b, rest, decode_encode .., rfl, rfl⟩

/-- Another type for the values, where the reader may still refuse some. -/
def refine (codec : Codec α) (accept : α → Option β) (inv : β → α)
    (lawful : ∀ a b, accept a = some b ↔ a = inv b) : Codec β where
  encode value := codec.encode (inv value)
  decode input := do
    let (a, rest) ← codec.decode input
    let b ← accept a
    some (b, rest)
  decode_eq_some input value rest := by
    simp only [Option.bind_eq_bind, Option.bind_eq_some_iff, Prod.exists, Option.some.injEq,
      Prod.mk.injEq]
    constructor
    · rintro ⟨a, later, read, b, accepted, rfl, rfl⟩
      rw [← (lawful a b).mp accepted]
      exact (codec.decode_eq_some ..).mp read
    · intro written
      exact ⟨inv value, rest, (codec.decode_eq_some ..).mpr written, value,
        (lawful ..).mpr rfl, rfl, rfl⟩

def map (codec : Codec α) (e : α ≃ β) : Codec β :=
  codec.refine (fun a => some (e a)) e.symm fun a b => by
    rw [Option.some.injEq, Equiv.eq_symm_apply]

def pair (first : Codec α) (second : Codec β) : Codec (α × β) :=
  (first.sigma fun _ => second).map (Equiv.sigmaEquivProd α β)

@[simp] theorem pair_encode (first : Codec α) (second : Codec β) (a : α) (b : β) :
    (first.pair second).encode (a, b) = first.encode a ++ second.encode b := rfl

@[simp] theorem map_encode (codec : Codec α) (e : α ≃ β) (b : β) :
    (codec.map e).encode b = codec.encode (e.symm b) := rfl

theorem Sized.pair {first : Codec α} {second : Codec β} {m n : ℕ} (left : first.Sized m)
    (right : second.Sized n) : (first.pair second).Sized (m + n) := by
  rintro ⟨a, b⟩
  rw [pair_encode, List.length_append, left a, right b]

theorem Sized.map {codec : Codec α} {n : ℕ} (sized : codec.Sized n) (e : α ≃ β) :
    (codec.map e).Sized n :=
  fun b => sized (e.symm b)

theorem byte_sized : byte.Sized 1 := fun _ => rfl

/-- A byte for the presence of a value, and the value. -/
def option (codec : Codec α) : Codec (Option α) where
  encode
    | none => [0]
    | some a => 1 :: codec.encode a
  decode
    | [] => none
    | tag :: rest =>
      if tag = 0 then some (none, rest)
      else if tag = 1 then (codec.decode rest).map fun read => (some read.1, read.2)
      else none
  decode_eq_some input value rest := by
    cases input with
    | nil => cases value <;> simp
    | cons tag later =>
      by_cases absent : tag = 0
      · subst absent
        cases value with
        | none => simp [eq_comm]
        | some a => simp
      · by_cases present : tag = 1
        · subst present
          cases value with
          | none => simp
          | some a => simp [Prod.ext_iff, ← codec.decode_eq_some]
        · cases value <;> simp [absent, present]

/-- One of finitely many things, each written as its tag. -/
def select {ι : Type} [DecidableEq α] (codec : Codec α) (members : List ι)
    (complete : ∀ i, i ∈ members) (tag : ι → α) (distinct : Function.Injective tag) : Codec ι :=
  codec.refine (fun a => members.find? fun i => tag i = a) tag fun a i => by
    constructor
    · intro found
      have hit := List.find?_some found
      exact (of_decide_eq_true hit).symm
    · rintro rfl
      have some : (members.find? fun j => tag j = tag i).isSome :=
        List.find?_isSome.mpr ⟨i, complete i, decide_eq_true rfl⟩
      obtain ⟨j, found⟩ := Option.isSome_iff_exists.mp some
      have hit := List.find?_some found
      rw [found, distinct (of_decide_eq_true hit)]

/-! ## Sequences -/

/-- A fixed number of values, one behind the other. -/
def replicate (codec : Codec α) : (n : ℕ) → Codec (List.Vector α n)
  | 0 => unit.map ⟨fun _ => .nil, fun _ => (), fun _ => rfl, fun v => v.eq_nil.symm⟩
  | n + 1 => (codec.pair (replicate codec n)).map
      ⟨fun v => v.1 ::ᵥ v.2, fun v => (v.head, v.tail), fun _ => rfl, fun v => by simp⟩

theorem Sized.replicate {codec : Codec α} {width : ℕ} (sized : codec.Sized width) (n : ℕ) :
    (codec.replicate n).Sized (width * n) := by
  induction n with
  | zero => exact fun _ => rfl
  | succ n ih =>
    have both := sized.pair ih
    rw [Nat.add_comm, ← Nat.mul_succ] at both
    exact both.map _

def vector (codec : Codec α) (n : ℕ) : Codec (Vector α n) :=
  (codec.replicate n).map
    { toFun v := ⟨v.toList.toArray, by simp⟩
      invFun v := ⟨v.toList, by simp⟩
      left_inv v := rfl
      right_inv v := rfl }

theorem Sized.vector {codec : Codec α} {width : ℕ} (sized : codec.Sized width) (n : ℕ) :
    (codec.vector n).Sized (width * n) :=
  (sized.replicate n).map _

theorem byte_replicate_encode {n : ℕ} (v : List.Vector UInt8 n) :
    (byte.replicate n).encode v = v.toList := by
  induction n with
  | zero => rw [v.eq_nil]; rfl
  | succ n ih =>
    change [v.head] ++ (byte.replicate n).encode v.tail = v.toList
    rw [ih, List.singleton_append, ← List.Vector.toList_cons, List.Vector.cons_head_tail]

/-- An array of bytes is written as it is. -/
theorem byte_vector_encode {n : ℕ} (v : Vector UInt8 n) : (byte.vector n).encode v = v.toList :=
  byte_replicate_encode _

/-! ## Integers -/

/-- Base 256, the lowest digit first. -/
def word : (width : ℕ) → Codec (Fin (256 ^ width))
  | 0 => unit.map (Equiv.equivPUnit (Fin 1)).symm
  | width + 1 => (byte.pair (word width)).map <|
      calc UInt8 × Fin (256 ^ width)
        _ ≃ Fin 256 × Fin (256 ^ width) :=
          Equiv.prodCongr ⟨UInt8.toFin, UInt8.ofFin, fun _ => rfl, fun _ => rfl⟩ (Equiv.refl _)
        _ ≃ Fin (256 ^ width) × Fin 256 := Equiv.prodComm _ _
        _ ≃ Fin (256 ^ width * 256) := finProdFinEquiv

theorem word_sized (width : ℕ) : (word width).Sized width := by
  induction width with
  | zero => exact fun _ => rfl
  | succ width ih =>
    have both := byte_sized.pair ih
    rw [Nat.add_comm] at both
    exact both.map _

def uint32 : Codec UInt32 :=
  (word 4).map ⟨UInt32.ofFin, UInt32.toFin, fun _ => rfl, fun _ => rfl⟩

def uint64 : Codec UInt64 :=
  (word 8).map ⟨UInt64.ofFin, UInt64.toFin, fun _ => rfl, fun _ => rfl⟩

def int64 : Codec Int64 :=
  uint64.map ⟨UInt64.toInt64, Int64.toUInt64, fun _ => rfl, fun _ => rfl⟩

def uint128 : Codec (BitVec 128) :=
  (word 16).map <| (finCongr (by decide : 256 ^ 16 = 2 ^ 128)).trans
    ⟨BitVec.ofFin, BitVec.toFin, fun _ => rfl, fun _ => rfl⟩

/-! ## Texts -/

/-- The length, and as many bytes. -/
def bytes : Codec { l : List UInt8 // l.length < 2 ^ 32 } :=
  (uint32.sigma fun length => byte.replicate length.toNat).map
    { toFun v := ⟨v.2.toList, by rw [v.2.toList_length]; exact v.1.toNat_lt⟩
      invFun l := ⟨UInt32.ofNat l.1.length, l.1, by
        rw [UInt32.toNat_ofNat', Nat.mod_eq_of_lt l.2]⟩
      left_inv := by
        rintro ⟨length, l, sized⟩
        have same : UInt32.ofNat l.length = length := by rw [sized, UInt32.ofNat_toNat]
        subst same
        rfl
      right_inv _ := rfl }

/-- Bytes that are not valid UTF-8 are refused. -/
def string : Codec { s : String // s.utf8ByteSize < 2 ^ 32 } :=
  bytes.refine
    (fun l =>
      if valid : (ByteArray.mk l.1.toArray).IsValidUTF8 then
        some ⟨.ofByteArray ⟨l.1.toArray⟩ valid, l.2⟩
      else none)
    (fun s => ⟨s.1.toByteArray.data.toList, s.2⟩)
    (by
      rintro ⟨l, short⟩ ⟨s, short'⟩
      constructor
      · intro accepted
        split at accepted
        next valid => cases accepted; rfl
        next => cases accepted
      · rintro same
        cases same
        simp [s.isValidUTF8])

theorem uint64_sized : uint64.Sized 8 := (word_sized 8).map _

theorem int64_sized : int64.Sized 8 := uint64_sized.map _

end Codec
