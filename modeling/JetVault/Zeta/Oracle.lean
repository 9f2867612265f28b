import JetVault.Library.FixedWidth
import JetVault.Zeta.Constants

/-!
# Oracle prices

A price account of the oracle holds a signed integer and a decimal exponent. The readers scale the
integer to a given number of decimals. Only the checked operations refuse: powers, casts and the
negation of the exponent wrap silently.
-/
namespace JetVault.Zeta

open FixedWidth

/-- What is read of a loaded price account: `agg.price` and `expo`. -/
structure Price where
  price : Int64
  expo : Int32
  deriving DecidableEq, Repr

/-- `as u128`, which extends the sign of a negative value. -/
def asU128 (value : Int64) : ℕ :=
  (value.toInt % 2 ^ 128).toNat

/-- `u128::pow` without overflow checks. -/
def pow128 (base exponent : ℕ) : ℕ :=
  base ^ exponent % 2 ^ 128

/-- `(-expo).try_into().unwrap()` to a `u32` -/
def negatedExponent (expo : Int32) : Except Failure ℕ :=
  if 0 ≤ (-expo).toInt then .ok (-expo).toInt.toNat else .error .abort

/-- The price with `precision` decimals, before it is narrowed. -/
def scaledPrice (oracle : Price) (precision : UInt32) : Except Failure ℕ := do
  let scaled ← tryMul128 Failure.abort (asU128 oracle.price) (pow128 10 precision.toNat)
  let decimals ← negatedExponent oracle.expo
  tryDiv128 Failure.abort scaled (pow128 10 decimals)

/-- Returns the native oracle price, with 6 decimals. -/
def getNativeOraclePrice (oracle : Price) : Except Failure UInt64 := do
  let price ← scaledPrice oracle platformPrecision
  tryUInt64 Failure.abort price

def getOraclePrice (oracle : Price) (precision : UInt32) : Except Failure ℤ := do
  let price ← scaledPrice oracle precision
  tryInt128 Failure.abort price

end JetVault.Zeta
