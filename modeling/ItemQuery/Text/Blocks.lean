import ItemQuery.Text.Basic

/-! Tables of code points. A class of characters is an ascending list of blocks; a case mapping is
an ascending list of runs, each of which sends evenly spaced code points to a shifted copy. Both
are searched from the low end and left as soon as the code point has been passed. -/
namespace ItemQuery.Text

/-- The block, first and last code point included, that holds `n`. -/
def blockOf? (n : Nat) : List (Nat × Nat) → Option (Nat × Nat)
  | [] => none
  | (first, last) :: rest =>
    if n < first then none
    else if n ≤ last then some (first, last)
    else blockOf? n rest

def inBlocks (n : Nat) (blocks : List (Nat × Nat)) : Bool := (blockOf? n blocks).isSome

/-- The code points `first, first + step, … , last`, sent to the same steps from `target` on. -/
structure CaseRun where
  first : Nat
  last : Nat
  step : Nat
  target : Nat
  deriving DecidableEq, Repr

/-- Only the members of a run move: with a step of two, the code points between stay. -/
def CaseRun.apply? (r : CaseRun) (n : Nat) : Option Nat :=
  if (n - r.first) % r.step = 0 then some (r.target + (n - r.first)) else none

def targetOf? (n : Nat) : List CaseRun → Option Nat
  | [] => none
  | r :: rest =>
    if n < r.first then none
    else if n ≤ r.last then r.apply? n
    else targetOf? n rest

def applyRuns (runs : List CaseRun) (c : Char) : Char :=
  match targetOf? c.toNat runs with
  | some n => Char.ofNat n
  | none => c

end ItemQuery.Text
