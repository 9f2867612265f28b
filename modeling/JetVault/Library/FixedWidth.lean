import Mathlib.Data.UInt
import Mathlib.Algebra.Order.Ring.Int

/-!
# Fixed-width unsigned integers

`+`, `-` and `*` on `UInt64` wrap, as unchecked machine arithmetic does. The `try` operations
refuse instead; 128-bit intermediate values are naturals with an explicit bound.
-/
namespace FixedWidth

variable {ε : Type}

def tryAdd (e : ε) (a b : UInt64) : Except ε UInt64 :=
  if a.toNat + b.toNat < 2 ^ 64 then .ok (a + b) else .error e

def trySub (e : ε) (a b : UInt64) : Except ε UInt64 :=
  if b ≤ a then .ok (a - b) else .error e

def tryMul (e : ε) (a b : UInt64) : Except ε UInt64 :=
  if a.toNat * b.toNat < 2 ^ 64 then .ok (a * b) else .error e

def tryDiv (e : ε) (a b : UInt64) : Except ε UInt64 :=
  if b = 0 then .error e else .ok (a / b)

def trySubInt64 (e : ε) (a b : Int64) : Except ε Int64 :=
  if -2 ^ 63 ≤ a.toInt - b.toInt ∧ a.toInt - b.toInt < 2 ^ 63 then .ok (a - b) else .error e

def tryAddInt64 (e : ε) (a b : Int64) : Except ε Int64 :=
  if -2 ^ 63 ≤ a.toInt + b.toInt ∧ a.toInt + b.toInt < 2 ^ 63 then .ok (a + b) else .error e

def tryAdd128 (e : ε) (a b : Nat) : Except ε Nat :=
  if a + b < 2 ^ 128 then .ok (a + b) else .error e

def tryMul128 (e : ε) (a b : Nat) : Except ε Nat :=
  if a * b < 2 ^ 128 then .ok (a * b) else .error e

def tryDiv128 (e : ε) (a b : Nat) : Except ε Nat :=
  if b = 0 then .error e else .ok (a / b)

/-- The result of a signed 128-bit operation. -/
def tryInt128 (e : ε) (x : ℤ) : Except ε ℤ :=
  if -2 ^ 127 ≤ x ∧ x < 2 ^ 127 then .ok x else .error e

/-- `u64::try_from` -/
def tryUInt64 (e : ε) (n : Nat) : Except ε UInt64 :=
  if n < 2 ^ 64 then .ok (UInt64.ofNat n) else .error e

/-- `i64::try_from` -/
def tryInt64 (e : ε) (x : ℤ) : Except ε Int64 :=
  if -2 ^ 63 ≤ x ∧ x < 2 ^ 63 then .ok (Int64.ofInt x) else .error e

/-- A sum is accepted exactly when it is the integer sum. -/
theorem tryAdd_eq_ok (e : ε) (a b c : UInt64) :
    tryAdd e a b = .ok c ↔ c.toNat = a.toNat + b.toNat := by
  have bound := c.toNat_lt
  unfold tryAdd
  split
  next fits =>
    rw [Except.ok.injEq, ← UInt64.toNat_inj, UInt64.toNat_add, Nat.mod_eq_of_lt fits, eq_comm]
  next overflow =>
    simp only [reduceCtorEq, false_iff]
    omega

/-- A difference is accepted exactly when it is the integer difference. -/
theorem trySub_eq_ok (e : ε) (a b c : UInt64) :
    trySub e a b = .ok c ↔ c.toNat + b.toNat = a.toNat := by
  unfold trySub
  split
  next fits =>
    have le := UInt64.le_iff_toNat_le.mp fits
    rw [Except.ok.injEq, ← UInt64.toNat_inj, UInt64.toNat_sub_of_le a b fits]
    omega
  next short =>
    have lt : ¬ b.toNat ≤ a.toNat := fun h => short (UInt64.le_iff_toNat_le.mpr h)
    simp only [reduceCtorEq, false_iff]
    omega

theorem tryMul_eq_ok (e : ε) (a b c : UInt64) :
    tryMul e a b = .ok c ↔ c.toNat = a.toNat * b.toNat := by
  have bound := c.toNat_lt
  unfold tryMul
  split
  next fits =>
    rw [Except.ok.injEq, ← UInt64.toNat_inj, UInt64.toNat_mul, Nat.mod_eq_of_lt fits, eq_comm]
  next overflow =>
    simp only [reduceCtorEq, false_iff]
    omega

theorem exists_toNat {n : ℕ} (fits : n < 2 ^ 64) : ∃ c : UInt64, c.toNat = n :=
  ⟨UInt64.ofNat n, by rw [UInt64.toNat_ofNat', Nat.mod_eq_of_lt fits]⟩

theorem exists_toInt {x : ℤ} (low : -2 ^ 63 ≤ x) (high : x < 2 ^ 63) :
    ∃ c : Int64, c.toInt = x :=
  ⟨Int64.ofInt x, Int64.toInt_ofInt_of_le low high⟩

theorem exists_tryAdd (e : ε) (a b : UInt64) :
    (∃ c, tryAdd e a b = .ok c) ↔ a.toNat + b.toNat < 2 ^ 64 := by
  unfold tryAdd
  split <;> simp_all

theorem tryAdd_eq_error (e e' : ε) (a b : UInt64) :
    tryAdd e a b = .error e' ↔ 2 ^ 64 ≤ a.toNat + b.toNat ∧ e = e' := by
  unfold tryAdd
  split <;> simp_all

theorem trySub_eq_error (e e' : ε) (a b : UInt64) :
    trySub e a b = .error e' ↔ ¬ b ≤ a ∧ e = e' := by
  unfold trySub
  split <;> simp_all

theorem tryInt128_eq_ok (e : ε) (x c : ℤ) :
    tryInt128 e x = .ok c ↔ -2 ^ 127 ≤ x ∧ x < 2 ^ 127 ∧ c = x := by
  unfold tryInt128
  split
  next fits => rw [Except.ok.injEq, and_iff_right fits.1, and_iff_right fits.2, eq_comm]
  next overflow => exact iff_of_false nofun fun all => overflow ⟨all.1, all.2.1⟩

theorem tryUInt64_eq_ok (e : ε) (n : ℕ) (c : UInt64) : tryUInt64 e n = .ok c ↔ c.toNat = n := by
  have bound := c.toNat_lt
  unfold tryUInt64
  split
  next fits =>
    rw [Except.ok.injEq, ← UInt64.toNat_inj, UInt64.toNat_ofNat', Nat.mod_eq_of_lt fits, eq_comm]
  next overflow =>
    simp only [reduceCtorEq, false_iff]
    omega

theorem tryUInt64_eq_error (e e' : ε) (n : ℕ) :
    tryUInt64 e n = .error e' ↔ 2 ^ 64 ≤ n ∧ e = e' := by
  unfold tryUInt64
  split
  next fits => exact iff_of_false nofun fun both => absurd fits (Nat.not_lt.mpr both.1)
  next overflow => rw [Except.error.injEq, and_iff_right (Nat.not_lt.mp overflow)]

theorem tryInt64_eq_ok (e : ε) (x : ℤ) (c : Int64) : tryInt64 e x = .ok c ↔ c.toInt = x := by
  have low := c.le_toInt
  have high := c.toInt_lt
  unfold tryInt64
  split
  next fits =>
    rw [Except.ok.injEq, ← Int64.toInt_inj, Int64.toInt_ofInt_of_le fits.1 fits.2, eq_comm]
  next overflow =>
    simp only [reduceCtorEq, false_iff]
    omega

theorem tryAddInt64_eq_ok (e : ε) (a b c : Int64) :
    tryAddInt64 e a b = .ok c ↔ c.toInt = a.toInt + b.toInt := by
  have narrowed : tryAddInt64 e a b = tryInt64 e (a.toInt + b.toInt) := by
    rw [tryAddInt64, tryInt64, Int64.ofInt_add, Int64.ofInt_toInt, Int64.ofInt_toInt]
  rw [narrowed, tryInt64_eq_ok]

theorem trySubInt64_eq_ok (e : ε) (a b c : Int64) :
    trySubInt64 e a b = .ok c ↔ c.toInt = a.toInt - b.toInt := by
  have narrowed : trySubInt64 e a b = tryInt64 e (a.toInt - b.toInt) := by
    rw [trySubInt64, tryInt64, Int64.ofInt_sub, Int64.ofInt_toInt, Int64.ofInt_toInt]
  rw [narrowed, tryInt64_eq_ok]

theorem trySubInt64_eq_error (e e' : ε) (a b : Int64) :
    trySubInt64 e a b = .error e' ↔
      ¬ (-2 ^ 63 ≤ a.toInt - b.toInt ∧ a.toInt - b.toInt < 2 ^ 63) ∧ e = e' := by
  unfold trySubInt64
  split <;> simp_all

/-- The cast of a value that is not negative keeps it. -/
theorem toNat_toUInt64 {a : Int64} (positive : 0 ≤ a.toInt) :
    (a.toUInt64.toNat : ℤ) = a.toInt := by
  rw [Int64.toNat_toUInt64_of_le (Int64.le_iff_toInt_le.mpr (by simpa using positive)),
    Int64.toNatClampNeg, Int.toNat_of_nonneg positive]

theorem tryDiv_eq_ok (e : ε) (a b c : UInt64) :
    tryDiv e a b = .ok c ↔ 0 < b.toNat ∧ c = a / b := by
  have zero : b = 0 ↔ b.toNat = 0 := by rw [← UInt64.toNat_inj, UInt64.toNat_zero]
  unfold tryDiv
  split
  next h => simp [zero.mp h]
  next h => simp [Nat.pos_of_ne_zero (fun n => h (zero.mpr n)), eq_comm]

theorem tryDiv128_eq_ok (e : ε) (a b c : Nat) :
    tryDiv128 e a b = .ok c ↔ 0 < b ∧ c = a / b := by
  unfold tryDiv128
  split
  next h => simp [h]
  next h => simp [Nat.pos_of_ne_zero h, eq_comm]

theorem tryDiv128_eq_error (e e' : ε) (a b : Nat) :
    tryDiv128 e a b = .error e' ↔ b = 0 ∧ e = e' := by
  unfold tryDiv128
  split <;> simp_all

theorem tryAdd128_eq_ok (e : ε) (a b c : Nat) :
    tryAdd128 e a b = .ok c ↔ a + b < 2 ^ 128 ∧ c = a + b := by
  unfold tryAdd128
  split
  next fits => rw [Except.ok.injEq, and_iff_right fits, eq_comm]
  next overflow => exact iff_of_false nofun fun both => overflow both.1

theorem tryMul128_eq_ok (e : ε) (a b c : Nat) :
    tryMul128 e a b = .ok c ↔ a * b < 2 ^ 128 ∧ c = a * b := by
  unfold tryMul128
  split
  next fits => rw [Except.ok.injEq, and_iff_right fits, eq_comm]
  next overflow => exact iff_of_false nofun fun both => overflow both.1

theorem tryMul128_eq_error (e e' : ε) (a b : Nat) :
    tryMul128 e a b = .error e' ↔ 2 ^ 128 ≤ a * b ∧ e = e' := by
  unfold tryMul128
  split
  next fits => exact iff_of_false nofun fun both => absurd fits (Nat.not_lt.mpr both.1)
  next overflow => rw [Except.error.injEq, and_iff_right (Nat.not_lt.mp overflow)]

/-- The product of two 64-bit values always fits in 128 bits. -/
theorem tryMul128_of_lt (e : ε) {a b : Nat} (left : a < 2 ^ 64) (right : b < 2 ^ 64) :
    tryMul128 e a b = .ok (a * b) := by
  have fits : a * b < 2 ^ 64 * 2 ^ 64 := Nat.mul_lt_mul'' left right
  rw [tryMul128, if_pos (by omega)]

theorem tryMul128_toNat (e : ε) (a b : UInt64) :
    tryMul128 e a.toNat b.toNat = .ok (a.toNat * b.toNat) :=
  tryMul128_of_lt e a.toNat_lt b.toNat_lt

/-- The wrapping value of `a + b - c` is the integer value modulo the word. -/
theorem toNat_add_sub (a b c : UInt64) :
    ((a + b - c).toNat : ℤ) = ((a.toNat : ℤ) + b.toNat - c.toNat) % 2 ^ 64 := by
  have bound := c.toNat_lt
  rw [UInt64.toNat_sub, UInt64.toNat_add]
  omega

theorem pos_iff (a : UInt64) : 0 < a ↔ 0 < a.toNat := by
  rw [UInt64.lt_iff_toNat_lt, UInt64.toNat_zero]

theorem toNat_min (a b : UInt64) : (min a b).toNat = min a.toNat b.toNat := by
  have le : (a ≤ b) = (a.toNat ≤ b.toNat) := propext UInt64.le_iff_toNat_le
  simp only [min, le]
  split <;> rfl

theorem toNat_mul_of_lt (a b : UInt64) (fits : a.toNat * b.toNat < 2 ^ 64) :
    (a * b).toNat = a.toNat * b.toNat := by
  rw [UInt64.toNat_mul, Nat.mod_eq_of_lt fits]

/-- A divisor that wraps divides like the exact one when what is left of it exceeds the
dividend. -/
theorem div_wrapped {x divisor word : ℕ} (left : divisor % word = divisor ∨ x < divisor % word) :
    x / (divisor % word) = x / divisor := by
  rcases left with kept | exceeds
  · rw [kept]
  · rw [Nat.div_eq_of_lt exceeds,
      Nat.div_eq_of_lt (lt_of_lt_of_le exceeds (Nat.mod_le divisor word))]

end FixedWidth
