import ItemQuery.Number.Basic

/-! The shortest decimal text of a double: the fewest digits that read back as the same double, of
those the nearest to it, written positionally from `1e-4` up to below `1e16`. -/
namespace ItemQuery

namespace Double

/-- A positive dyadic with the reals that round to it, all times four and in units of
`2 ^ (exponent - 2)`. The ends belong to it when the significand is even. -/
structure Rounding where
  low : Nat
  exact : Nat
  high : Nat
  closed : Bool
  exponent : Int

def roundingOf (significand : Nat) (exponent : Int) : Rounding where
  low := 4 * significand - (if significand = twoTo 52 ∧ leastExponent < exponent then 1 else 2)
  exact := 4 * significand
  high := 4 * significand + 2
  closed := significand % 2 == 0
  exponent := exponent

/-- The factors that bring `j * 10 ^ p` and `x * 2 ^ (q - 2)` to a common integer scale. -/
def commonScale (p q : Int) : Nat × Nat :=
  (tenTo p.toNat * twoTo (2 - q).toNat, tenTo (-p).toNat * twoTo (q - 2).toNat)

/-- The least `k`, among the next few from a low guess on, with `x < 10 ^ k`. -/
def magnitudeFrom (r : Rounding) : Nat → Int → Int
  | 0, k => k
  | fuel + 1, k =>
    let (a, b) := commonScale k r.exponent
    if r.exact * b < a then k else magnitudeFrom r fuel (k + 1)

def magnitude (r : Rounding) : Int :=
  magnitudeFrom r 6 (((r.exact.log2 : Int) + r.exponent - 2) * 30103 / 100000 - 2)

/-- The nearer of the two neighbours of a double on the grid of `n` digits that read back. -/
def onGrid? (r : Rounding) (k : Int) (n : Nat) : Option Nat :=
  let (a, b) := commonScale (k - n) r.exponent
  let inside (j : Nat) : Bool :=
    if r.closed then r.low * b ≤ j * a && j * a ≤ r.high * b
    else r.low * b < j * a && j * a < r.high * b
  let below := r.exact * b / a
  let above := below + 1
  let distBelow := r.exact * b - below * a
  let distAbove := above * a - r.exact * b
  if inside below && inside above then
    some (if distBelow < distAbove || (distBelow == distAbove && below % 2 == 0) then below
      else above)
  else if inside below then some below
  else if inside above then some above
  else none

/-- Digits and decimal exponent `(j, p)` of the shortest `j * 10 ^ p`; seventeen digits suffice. -/
def shortestFrom (r : Rounding) (k : Int) : Nat → Nat → Nat × Int
  | 0, n => (r.exact, k - n)
  | fuel + 1, n =>
    match onGrid? r k n with
    | some j => (j, k - n)
    | none => shortestFrom r k fuel (n + 1)

def shortest (significand : Nat) (exponent : Int) : Nat × Int :=
  let r := roundingOf significand exponent
  shortestFrom r (magnitude r) 17 1

/-- Two digits at least, with a sign. -/
def exponentText (e : Int) : Text :=
  let digits := natText e.natAbs
  (if e < 0 then '-' else '+') :: (if digits.length < 2 then '0' :: digits else digits)

/-- `digits` as `0.digits * 10 ^ point`. -/
def layOut (digits : Text) (point : Int) : Text :=
  if -4 < point ∧ point ≤ 16 then
    if point ≤ 0 then '0' :: '.' :: List.replicate (-point).toNat '0' ++ digits
    else if point.toNat < digits.length then
      digits.take point.toNat ++ '.' :: digits.drop point.toNat
    else digits ++ List.replicate (point.toNat - digits.length) '0' ++ ['.', '0']
  else
    digits.take 1 ++ (if digits.length = 1 then [] else '.' :: digits.drop 1) ++
      'e' :: exponentText (point - 1)

def positiveText (significand : Nat) (exponent : Int) : Text :=
  let (j, p) := shortest significand exponent
  let digits := natText j
  layOut ((digits.reverse.dropWhile (· == '0')).reverse) (p + digits.length)

def text : Double → Text
  | .nan .. => "nan".toList
  | .infinite negative => (if negative then "-inf" else "inf").toList
  | .finite negative significand exponent =>
    (if negative then ['-'] else []) ++
      (if significand = 0 then "0.0".toList else positiveText significand exponent)

end Double

def Number.text : Number → Text
  | .int n => intText n
  | .double d => d.text

end ItemQuery
