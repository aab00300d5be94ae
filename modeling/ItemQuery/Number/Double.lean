import ItemQuery.Number.Integer

/-! Double-precision numbers as exact values: a signed dyadic rational, an infinity or a NaN. The
64-bit pattern of a finite number holds its significand and exponent in the canonical form, in
which the significand has 53 bits unless the exponent is the least one. -/
namespace ItemQuery

inductive Double where
  /-- What the pattern holds below its exponent is the payload. -/
  | nan (negative : Bool) (payload : Nat)
  | infinite (negative : Bool)
  /-- `± significand * 2 ^ exponent` -/
  | finite (negative : Bool) (significand : Nat) (exponent : Int)
  deriving DecidableEq, Repr

namespace Double

def leastExponent : Int := -1074

def greatestExponent : Int := 971

def ofBits (bits : Nat) : Double :=
  let negative := bits / twoTo 63 % 2 = 1
  let exponent : Nat := bits / twoTo 52 % twoTo 11
  let fraction := bits % twoTo 52
  if exponent = 0 then .finite negative fraction leastExponent
  else if exponent < 2047 then .finite negative (twoTo 52 + fraction) ((exponent : Int) - 1075)
  else if fraction = 0 then .infinite negative
  else .nan negative fraction

def toBits : Double → Nat
  | .nan negative payload => negative.toNat * twoTo 63 + 2047 * twoTo 52 + payload
  | .infinite negative => negative.toNat * twoTo 63 + 2047 * twoTo 52
  | .finite negative significand exponent =>
    negative.toNat * twoTo 63 + (if significand < twoTo 52 then significand
      else (exponent + 1075).toNat * twoTo 52 + (significand - twoTo 52))

def zero (negative : Bool) : Double := .finite negative 0 leastExponent

/-- The NaN that reading one produces. -/
def quietNan : Double := .nan false (twoTo 51)

/-- Rounds `num / den` to an integer, a half to the even neighbour. -/
def roundHalfEven (num den : Nat) : Nat :=
  let whole := num / den
  let twice := 2 * (num % den)
  if twice < den ∨ (twice = den ∧ whole % 2 = 0) then whole else whole + 1

/-- The numerator and denominator of `num / den / 2 ^ q`. -/
def scaleDown (num den : Nat) (q : Int) : Nat × Nat :=
  if 0 ≤ q then (num, den * twoTo q.toNat) else (num * twoTo (-q).toNat, den)

/-- The exponent at which `num / den` has 53 bits before the point, or the least exponent. -/
def exponentOf (num den : Nat) : Int :=
  let guess : Int := (num.log2 : Int) - den.log2 - 52
  let (n, d) := scaleDown num den guess
  max leastExponent (if n / d < twoTo 52 then guess - 1 else guess)

/-- The double nearest to `num / den`, of two equally near ones the one with an even significand;
infinite from half a unit above the greatest finite double on. -/
def ofRatio (negative : Bool) (num den : Nat) : Double :=
  if num = 0 ∨ den = 0 then zero negative
  else
    let q := exponentOf num den
    let (n, d) := scaleDown num den q
    let rounded := roundHalfEven n d
    let (significand, exponent) := if rounded = twoTo 53 then (twoTo 52, q + 1) else (rounded, q)
    if greatestExponent < exponent then .infinite negative
    else .finite negative significand exponent

/-- The double nearest to `digits * 10 ^ scale`. Scales far outside the range are settled by the
bound `2 ^ 3 ≤ 10` before any power is formed. -/
def ofDecimal (negative : Bool) (digits : Nat) (scale : Int) : Double :=
  if digits = 0 then zero negative
  else if 1100 < (digits.log2 : Int) + 3 * scale ∧ 0 ≤ scale then .infinite negative
  else if (digits.log2 : Int) + 3 * scale < -1100 ∧ scale < 0 then zero negative
  else if 0 ≤ scale then ofRatio negative (digits * tenTo scale.toNat) 1
  else ofRatio negative digits (tenTo (-scale).toNat)

/-- The whole part, without the fraction. None for an infinity and a NaN. -/
def truncate? : Double → Option Int
  | .finite negative significand exponent =>
    some (applySign negative (if 0 ≤ exponent then significand * twoTo exponent.toNat
      else significand / twoTo (-exponent).toNat))
  | _ => none

def isWhole : Double → Bool
  | .finite _ significand exponent => 0 ≤ exponent || significand % twoTo (-exponent).toNat == 0
  | _ => false

def isZero : Double → Bool
  | .finite _ significand _ => significand == 0
  | _ => false

end Double

end ItemQuery
