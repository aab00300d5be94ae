import ItemQuery.Query.Operator
import ItemQuery.Text.Alphanumeric
import ItemQuery.Text.Lower

/-! Atoms, the smallest parts of a query: `[tag (':' | operator)] [operator] text`. A tag is a run
of letters and digits right before a colon or an operator. -/
namespace ItemQuery

structure Atom where
  text : Text
  /-- In small letters. -/
  tag : Option Text
  operator : Option Text
  deriving DecidableEq, Repr

namespace Atom

/-- The tag at the start of a text and what follows it. A colon belongs to the tag, another
operator to what follows. -/
def takeTag? (t : Text) : Option (Text × Text) :=
  match t.takeWhile Text.isAlphanumeric, t.dropWhile Text.isAlphanumeric with
  | [], _ => none
  | _ :: _, [] => none
  | tag, c :: rest =>
    if c = ':' then some (tag, rest)
    else (Operator.take? (c :: rest)).map fun _ => (tag, c :: rest)

/-- An optional operator and the text it applies to; none when no text is left. -/
def readBody? (tag : Option Text) (t : Text) : Option Atom :=
  let (operator, rest) := match Operator.take? t with
    | some (op, rest) => (some op, rest)
    | none => (none, t)
  match Text.trim rest with
  | [] => none
  | text => some ⟨text, tag, operator⟩

/-- None when nothing that could be searched for remains. -/
def parse? (t : Text) : Option Atom :=
  match Text.trim t with
  | [] => none
  | t =>
    match takeTag? t with
    | some (tag, rest) => readBody? (some (Text.lower tag)) (Text.trim rest)
    | none => readBody? none t

end Atom

end ItemQuery
