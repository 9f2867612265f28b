import JetVault.Library.Fallible
import JetVault.Zeta.Oracle

/-!
# Exact oracle prices

The oracle readers give the price rounded down to six decimals, or nothing. A negative price turns
into a huge one, which the checked product refuses. The divisor wraps from the exponent -39 on,
but it never becomes small enough for a wrong quotient before it becomes zero.
-/
namespace JetVault.Zeta

open Fallible FixedWidth

/-- The price in units of `10⁻⁶`, rounded down. -/
def exactPrice (oracle : Price) : ℤ :=
  oracle.price.toInt * 10 ^ 6 / 10 ^ (-oracle.expo.toInt).toNat

/-- The prices that are read. -/
structure Readable (oracle : Price) : Prop where
  price : 0 ≤ oracle.price.toInt
  expo : oracle.expo.toInt ≤ 0
  divisor : -128 < oracle.expo.toInt
  narrow : exactPrice oracle < 2 ^ 64

/-! ## Powers of ten that wrap -/

/-- Below `10 ^ 128`, a wrapped power of ten exceeds every scaled price. -/
theorem pow128_ten_large : ∀ n < 128, 10 ^ n % 2 ^ 128 = 10 ^ n ∨
    2 ^ 63 * 10 ^ 6 ≤ 10 ^ n % 2 ^ 128 := by
  decide +kernel

theorem pow128_ten_eq_zero {n : ℕ} (large : 128 ≤ n) : pow128 10 n = 0 := by
  have divides : 2 ^ 128 ∣ 10 ^ n :=
    (pow_dvd_pow_of_dvd (by decide : 2 ∣ 10) 128).trans (pow_dvd_pow 10 large)
  exact Nat.mod_eq_zero_of_dvd divides

theorem pow128_ten_eq_zero_iff (n : ℕ) : pow128 10 n = 0 ↔ 128 ≤ n := by
  refine ⟨fun zero => ?_, pow128_ten_eq_zero⟩
  by_contra small
  rw [not_le] at small
  rw [pow128] at zero
  have positive : 0 < 10 ^ n := Nat.pow_pos (by decide)
  rcases pow128_ten_large n small with kept | exceeds
  · omega
  · omega

/-! ## Each step of the readers -/

theorem asU128_of_nonneg {value : Int64} (positive : 0 ≤ value.toInt) :
    asU128 value = value.toInt.toNat := by
  have high := value.toInt_lt
  rw [asU128, Int.emod_eq_of_lt positive (by omega)]

/-- Scaling refuses exactly the negative prices. -/
theorem scale_eq_ok (value : Int64) (scaled : ℕ) :
    tryMul128 Failure.abort (asU128 value) (pow128 10 platformPrecision.toNat) = .ok scaled ↔
      0 ≤ value.toInt ∧ scaled = value.toInt.toNat * 10 ^ 6 := by
  have low := value.le_toInt
  have high := value.toInt_lt
  have power : pow128 10 platformPrecision.toNat = 10 ^ 6 := by decide
  rw [tryMul128_eq_ok, power]
  rcases Int.lt_or_le value.toInt 0 with negative | positive
  · have huge : 2 ^ 128 - 2 ^ 63 ≤ asU128 value := by
      rw [asU128]
      omega
    exact iff_of_false (by omega) (by omega)
  · rw [asU128_of_nonneg positive]
    omega

theorem negatedExponent_eq_ok (expo : Int32) (decimals : ℕ) :
    negatedExponent expo = .ok decimals ↔
      expo.toInt ≤ 0 ∧ -2 ^ 31 < expo.toInt ∧ decimals = (-expo.toInt).toNat := by
  have low := expo.le_toInt
  have high := expo.toInt_lt
  rw [negatedExponent, Int32.toInt_neg]
  rcases eq_or_ne expo.toInt (-2 ^ 31) with least | other
  · -- The least exponent is its own negation.
    rw [least, if_neg (by decide)]
    exact iff_of_false nofun (by omega)
  · rw [Int.bmod_eq_of_le (by omega) (by omega)]
    split
    next positive =>
      rw [Except.ok.injEq]
      omega
    next negative => exact iff_of_false nofun (by omega)

theorem negatedExponent_error {expo : Int32} {e : Failure}
    (refused : negatedExponent expo = .error e) : e = .abort := by
  unfold negatedExponent at refused
  split at refused
  · cases refused
  · cases refused
    rfl

/-- The scaled price is exact where it is given at all. -/
theorem scaledPrice_eq_ok (oracle : Price) (price : ℕ) :
    scaledPrice oracle platformPrecision = .ok price ↔
      0 ≤ oracle.price.toInt ∧ oracle.expo.toInt ≤ 0 ∧ -128 < oracle.expo.toInt ∧
        (price : ℤ) = exactPrice oracle := by
  have high := oracle.price.toInt_lt
  have low := oracle.expo.le_toInt
  simp only [scaledPrice, bind_eq_ok, scale_eq_ok, negatedExponent_eq_ok, tryDiv128_eq_ok,
    Nat.pos_iff_ne_zero, ne_eq, pow128_ten_eq_zero_iff, not_le]
  -- For a divisor that is not zero, the quotient is the exact one.
  have quotient : 0 ≤ oracle.price.toInt → (-oracle.expo.toInt).toNat < 128 →
      ((oracle.price.toInt.toNat * 10 ^ 6 / pow128 10 (-oracle.expo.toInt).toNat : ℕ) : ℤ) =
        exactPrice oracle := by
    intro positive small
    have large := pow128_ten_large _ small
    rw [pow128, div_wrapped (by omega), exactPrice]
    push_cast
    rw [Int.toNat_of_nonneg positive]
  constructor
  · rintro ⟨_, ⟨positive, rfl⟩, _, ⟨negative, _, rfl⟩, small, rfl⟩
    exact ⟨positive, negative, by omega, quotient positive small⟩
  · rintro ⟨positive, negative, above, exact⟩
    have small : (-oracle.expo.toInt).toNat < 128 := by omega
    refine ⟨_, ⟨positive, rfl⟩, _, ⟨negative, by omega, rfl⟩, small, ?_⟩
    exact_mod_cast exact.trans (quotient positive small).symm

theorem getNativeOraclePrice_eq_ok (oracle : Price) (price : UInt64) :
    getNativeOraclePrice oracle = .ok price ↔
      Readable oracle ∧ (price.toNat : ℤ) = exactPrice oracle := by
  have bound := price.toNat_lt
  simp only [getNativeOraclePrice, bind_eq_ok, scaledPrice_eq_ok, tryUInt64_eq_ok]
  constructor
  · rintro ⟨_, ⟨positive, negative, above, exact⟩, rfl⟩
    exact ⟨⟨positive, negative, above, by omega⟩, exact⟩
  · rintro ⟨readable, exact⟩
    exact ⟨_, ⟨readable.price, readable.expo, readable.divisor, exact⟩, rfl⟩

theorem exists_native_price_iff (oracle : Price) :
    (∃ price, getNativeOraclePrice oracle = .ok price) ↔ Readable oracle := by
  constructor
  · rintro ⟨price, read⟩
    exact ((getNativeOraclePrice_eq_ok oracle price).mp read).1
  · intro readable
    have positive : 0 ≤ exactPrice oracle :=
      Int.ediv_nonneg (Int.mul_nonneg readable.price (by decide)) (pow_nonneg (by decide) _)
    have narrow := readable.narrow
    obtain ⟨price, value⟩ := exists_toNat (n := (exactPrice oracle).toNat) (by omega)
    exact ⟨price, (getNativeOraclePrice_eq_ok oracle price).mpr ⟨readable, by omega⟩⟩

/-- Nothing in the reader is an error of the program. -/
theorem getNativeOraclePrice_error {oracle : Price} {e : Failure}
    (refused : getNativeOraclePrice oracle = .error e) : e = .abort := by
  simp only [getNativeOraclePrice, scaledPrice, bind_eq_error, tryMul128_eq_error,
    tryDiv128_eq_error, tryUInt64_eq_error] at refused
  obtain (⟨_, rfl⟩ | ⟨_, _, exponent | ⟨_, _, _, rfl⟩⟩) | ⟨_, _, _, rfl⟩ := refused
  · rfl
  · exact negatedExponent_error exponent
  · rfl
  · rfl

/-- A price that is returned is exact and the same from both readers, and every other price
aborts. -/
theorem oracle_price_exact_or_refused (oracle : Price) :
    (∀ price, getNativeOraclePrice oracle = .ok price →
      0 ≤ oracle.price.toInt ∧ oracle.expo.toInt ≤ 0 ∧ (price.toNat : ℤ) = exactPrice oracle ∧
        getOraclePrice oracle platformPrecision = .ok price.toNat) ∧
      ((∃ price, getNativeOraclePrice oracle = .ok price) ↔ Readable oracle) ∧
      (¬ Readable oracle → getNativeOraclePrice oracle = .error .abort) := by
  refine ⟨?_, exists_native_price_iff oracle, ?_⟩
  · intro price read
    have bound := price.toNat_lt
    obtain ⟨readable, exact⟩ := (getNativeOraclePrice_eq_ok oracle price).mp read
    have scaled := (scaledPrice_eq_ok oracle price.toNat).mpr
      ⟨readable.price, readable.expo, readable.divisor, exact⟩
    refine ⟨readable.price, readable.expo, exact, ?_⟩
    rw [getOraclePrice, bind_eq_ok]
    exact ⟨price.toNat, scaled, by rw [tryInt128, if_pos (by omega)]⟩
  · intro unreadable
    cases result : getNativeOraclePrice oracle with
    | error e => rw [getNativeOraclePrice_error result]
    | ok price => exact absurd ((getNativeOraclePrice_eq_ok oracle price).mp result).1 unreadable

end JetVault.Zeta
