import ItemQuery.Fault
import ItemQuery.Number.Basic

/-! Numbers in a query: an optional sign and ASCII digits, with a fraction or without. Integers in an
answer or a link, which cannot be written when they are too long. -/
namespace ItemQuery

structure Literal where
  negative : Bool
  whole : List Nat
  fraction : Option (List Nat)
  deriving DecidableEq, Repr

namespace Literal

/-- A text of digits alone, at least one. -/
def digits? (t : Text) : Option (List Nat) :=
  if t.isEmpty then none else t.mapM asciiDigit?

/-- The parts of a trimmed text that is a number. -/
def read? (t : Text) : Option Literal := do
  let (negative, body) := takeSign t
  let whole := Text.before '.' body
  let digits ← digits? whole
  match body.drop whole.length with
  | [] => return ⟨negative, digits, none⟩
  | _ :: fraction => return ⟨negative, digits, some (← digits? fraction)⟩

/-- The number that a literal denotes: an integer of limited length, or the nearest double. -/
def value : Literal → Except Fault Number
  | ⟨negative, whole, none⟩ =>
    if whole.length ≤ digitLimit then .ok (.int (applySign negative (digitsValue whole)))
    else .error .tooManyDigits
  | ⟨negative, whole, some fraction⟩ =>
    .ok (.double (.ofDecimal negative (digitsValue (whole ++ fraction)) (-(fraction.length : Int))))

end Literal

/-- The number that a text denotes, with blanks around it or without. -/
def Number.read? (t : Text) : Except Fault (Option Number) :=
  match Literal.read? (Text.trim t) with
  | some literal => literal.value.map some
  | none => .ok none

/-- The text of an integer, unless it has too many digits. -/
def writeInt (n : Int) : Except Fault Text :=
  if isReadable n then .ok (intText n) else .error .tooManyDigits

end ItemQuery
