import ItemQuery.Number.Integer

/-! Integers in plain form: a minus or no sign, then ASCII digits, of which the first is a zero only
where it stands alone. -/
namespace ItemQuery

/-- A run of ASCII digits and what follows it. -/
def takeDigits (t : Text) : List Nat × Text :=
  ((t.takeWhile isAsciiDigit).filterMap asciiDigit?, t.dropWhile isAsciiDigit)

structure PlainInt where
  negative : Bool
  digits : List Nat
  deriving DecidableEq, Repr

namespace PlainInt

/-- A leading minus and what follows it. -/
def takeMinus : Text → Bool × Text
  | '-' :: rest => (true, rest)
  | t => (false, t)

/-- The plain integer that a text begins with, and what follows it. -/
def take? (t : Text) : Option (PlainInt × Text) :=
  let (negative, body) := takeMinus t
  match takeDigits body with
  | ([], _) => none
  | (0 :: _ :: _, _) => none
  | (digits, rest) => some (⟨negative, digits⟩, rest)

/-- Whether it has too many digits to be converted. The minus is not counted. -/
def isOverlong (n : PlainInt) : Bool := digitLimit < n.digits.length

def value (n : PlainInt) : Int := applySign n.negative (digitsValue n.digits)

end PlainInt

end ItemQuery
