import ItemQuery.Json.Basic

/-! JSON values as keys. Values that count as equal have the same key: a truth value has the key of
the number that it stands for, and a double that is whole the key of that integer. -/
namespace ItemQuery.Json

inductive Key where
  | null
  | text (t : Text)
  | int (n : Int)
  /-- A double that is not whole. -/
  | double (d : Double)
  deriving DecidableEq, Repr

def doubleKey (d : Double) : Key :=
  match d.truncate? with
  | some n => if d.isWhole then .int n else .double d
  | none => .double d

/-- The key of a value; lists and objects have none. -/
def key? : Json → Option Key
  | .null => some .null
  | .bool b => some (.int (if b then 1 else 0))
  | .number (.int n) => some (.int n)
  | .number (.double d) => some (doubleKey d)
  | .text t => some (.text t)
  | .array _ => none
  | .object _ => none

/-- Whether what is kept under a key can be found again: a NaN is equal to nothing. -/
def Key.isFindable : Key → Bool
  | .double (.nan ..) => false
  | _ => true

end ItemQuery.Json
