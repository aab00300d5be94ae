import ItemQuery.Number.Basic
import ItemQuery.Text.Basic

/-! Comparison operators. Equality has three spellings and inequality two; inequality is never
handed to a comparison, it is the opposite of equality wherever an attribute took the text. -/
namespace ItemQuery

namespace Operator

/-- All spellings, longer ones first, so that `<=` is not read as `<`. -/
def spellings : List Text :=
  ["<=", ">=", "==", "!=", "~=", "<", ">", "=", ":"].map String.toList

def equality : List Text := ["=", "==", ":"].map String.toList

def notEqual : Text := "!=".toList

def notEqualTilde : Text := "~=".toList

/-- One spelling for each meaning: none for equality and `!=` for inequality. -/
def normalize : Option Text → Option Text
  | none => none
  | some op =>
    if op.isEmpty ∨ op ∈ equality then none
    else if op = notEqualTilde then some notEqual
    else some op

/-- The operator at the start of a text and what follows it. -/
def take? (t : Text) : Option (Text × Text) :=
  spellings.findSome? fun op => (Text.after? op t).map (op, ·)

/-- Whether an operator is given that does not stand for "none". -/
def isGiven : Option Text → Bool
  | none => false
  | some op => !op.isEmpty

end Operator

/-- The relation that an operator asks for. What is no ordering is read as equality. -/
inductive Relation where
  | atMost
  | less
  | greater
  | atLeast
  | equal
  deriving DecidableEq, Repr

namespace Relation

def named : List (String × Relation) :=
  [("<=", .atMost), ("<", .less), (">", .greater), (">=", .atLeast)]

def ofOperator : Option Text → Relation
  | none => .equal
  | some op =>
    match named.find? fun entry => entry.1.toList == op with
    | some (_, relation) => relation
    | none => .equal

def admits : Relation → Ordering → Bool
  | .atMost, o => o.isLE
  | .less, o => o.isLT
  | .greater, o => o.isGT
  | .atLeast, o => o.isGE
  | .equal, o => o.isEq

/-- Whether two numbers stand in a relation. A NaN stands in none. -/
def holds (r : Relation) (a b : Number) : Bool :=
  match a.order? b with
  | some o => r.admits o
  | none => false

end Relation

end ItemQuery
