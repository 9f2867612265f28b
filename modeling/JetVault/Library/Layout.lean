import JetVault.Library.Codec

/-!
# Layouts

Records that are read in place. A plain type has a value for every string of its width, so that a
cast of the right length cannot fail, and a field of a record is found behind the widths of the
fields before it.
-/
namespace Codec

variable {α β : Type} {first : Codec α} {second : Codec β} {codec : Codec α} {m n width : ℕ}

/-! ## Plain types -/

/-- Every string of the width is the encoding of a value, and no other string is. -/
structure Plain (codec : Codec α) (width : ℕ) : Prop where
  sized : codec.Sized width
  full : ∀ data : List UInt8, data.length = width → ∃ value, data = codec.encode value

theorem Plain.exists_encode (plain : codec.Plain width) {data : List UInt8} :
    (∃ value, data = codec.encode value) ↔ data.length = width := by
  constructor
  · rintro ⟨value, rfl⟩
    exact plain.sized value
  · exact plain.full data

theorem Plain.pair (left : first.Plain m) (right : second.Plain n) :
    (first.pair second).Plain (m + n) where
  sized := left.sized.pair right.sized
  full data length := by
    have short : (data.take m).length = m := by
      rw [List.length_take]
      omega
    have behind : (data.drop m).length = n := by
      rw [List.length_drop]
      omega
    -- The string is cut where the first part ends.
    obtain ⟨a, front⟩ := left.full _ short
    obtain ⟨b, back⟩ := right.full _ behind
    exact ⟨(a, b), by rw [pair_encode, ← front, ← back, List.take_append_drop]⟩

theorem Plain.map (plain : codec.Plain n) (e : α ≃ β) : (codec.map e).Plain n where
  sized := plain.sized.map e
  full data length := by
    obtain ⟨a, encoded⟩ := plain.full data length
    exact ⟨e a, by rw [map_encode, Equiv.symm_apply_apply, encoded]⟩

theorem unit_plain : unit.Plain 0 where
  sized _ := rfl
  full _ length := ⟨(), List.eq_nil_of_length_eq_zero length⟩

theorem byte_plain : byte.Plain 1 where
  sized := byte_sized
  full data length := by
    obtain ⟨value, rfl⟩ := List.length_eq_one_iff.mp length
    exact ⟨value, rfl⟩

theorem Plain.replicate (plain : codec.Plain width) (n : ℕ) :
    (codec.replicate n).Plain (width * n) := by
  induction n with
  | zero => exact unit_plain.map _
  | succ n ih =>
    have both := plain.pair ih
    rw [Nat.add_comm, ← Nat.mul_succ] at both
    exact both.map _

theorem Plain.vector (plain : codec.Plain width) (n : ℕ) : (codec.vector n).Plain (width * n) :=
  (plain.replicate n).map _

theorem word_plain (width : ℕ) : (word width).Plain width := by
  induction width with
  | zero => exact unit_plain.map _
  | succ width ih =>
    have both := byte_plain.pair ih
    rw [Nat.add_comm] at both
    exact both.map _

def int32 : Codec Int32 :=
  uint32.map ⟨UInt32.toInt32, Int32.toUInt32, fun _ => rfl, fun _ => rfl⟩

theorem uint32_plain : uint32.Plain 4 := (word_plain 4).map _

theorem int32_plain : int32.Plain 4 := uint32_plain.map _

theorem uint64_plain : uint64.Plain 8 := (word_plain 8).map _

theorem int64_plain : int64.Plain 8 := uint64_plain.map _

/-! ## Fields -/

/-- The value is written from the offset on. -/
def At (codec : Codec α) (offset : ℕ) (value : α) (data : List UInt8) : Prop :=
  ∃ rest, data.drop offset = codec.encode value ++ rest

variable {offset : ℕ} {data data' : List UInt8}

theorem at_front (codec : Codec α) (value : α) : codec.At 0 value (codec.encode value) :=
  ⟨[], by rw [List.drop_zero, List.append_nil]⟩

theorem At.unique {value value' : α} (found : codec.At offset value data)
    (found' : codec.At offset value' data) : value = value' := by
  obtain ⟨rest, written⟩ := found
  obtain ⟨rest', written'⟩ := found'
  exact (codec.encode_append_inj (written.symm.trans written')).1

theorem At.left {a : α} {b : β} (found : (first.pair second).At offset (a, b) data) :
    first.At offset a data := by
  obtain ⟨rest, written⟩ := found
  rw [pair_encode, List.append_assoc] at written
  exact ⟨_, written⟩

theorem At.right {a : α} {b : β} (found : (first.pair second).At offset (a, b) data)
    (sized : first.Sized m) : second.At (offset + m) b data := by
  obtain ⟨rest, written⟩ := found
  rw [pair_encode, List.append_assoc] at written
  refine ⟨rest, ?_⟩
  -- Behind the offset stands the first part, and it is skipped whole.
  rw [← List.drop_drop, written, List.drop_left' (sized a)]

theorem At.unmap {e : α ≃ β} {b : β} (found : (codec.map e).At offset b data) :
    codec.At offset (e.symm b) data :=
  found

/-- Only the bytes of a field decide its value. -/
theorem Sized.at_iff (sized : codec.Sized width) {value : α} :
    codec.At offset value data ↔ (data.drop offset).take width = codec.encode value := by
  constructor
  · rintro ⟨rest, written⟩
    rw [written, List.take_left' (sized value)]
  · intro taken
    exact ⟨(data.drop offset).drop width, by rw [← taken, List.take_append_drop]⟩

theorem Sized.at_congr (sized : codec.Sized width) {value : α}
    (same : (data.drop offset).take width = (data'.drop offset).take width) :
    codec.At offset value data ↔ codec.At offset value data' := by
  rw [sized.at_iff, sized.at_iff, same]

end Codec
