import ItemQuery.Number.Double

/-! Integers of any size and doubles, compared by their exact values. -/
namespace ItemQuery

inductive Number where
  | int (n : Int)
  | double (d : Double)
  deriving DecidableEq, Repr

/-- An exact value: a dyadic rational or an infinity. -/
inductive Extended where
  | below
  /-- `mantissa * 2 ^ exponent` -/
  | dyadic (mantissa : Int) (exponent : Int)
  | above
  deriving DecidableEq, Repr

/-- Two dyadics are compared over the lower of their exponents, where both are integers. -/
def Extended.order : Extended → Extended → Ordering
  | .below, .below => .eq
  | .below, _ => .lt
  | _, .below => .gt
  | .above, .above => .eq
  | .above, _ => .gt
  | _, .above => .lt
  | .dyadic m p, .dyadic n q =>
    let least := min p q
    compare (m * twoTo (p - least).toNat) (n * twoTo (q - least).toNat)

namespace Number

/-- The exact value of a number, none for a NaN. -/
def value? : Number → Option Extended
  | .int n => some (.dyadic n 0)
  | .double (.finite negative significand exponent) =>
    some (.dyadic (applySign negative significand) exponent)
  | .double (.infinite negative) => some (if negative then .below else .above)
  | .double (.nan ..) => none

/-- How two numbers are ordered. A NaN is ordered with nothing, itself included. -/
def order? (a b : Number) : Option Ordering := do
  let x ← a.value?
  let y ← b.value?
  return x.order y

end Number

end ItemQuery
