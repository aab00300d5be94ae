import ItemQuery.Number.Shortest
import ItemQuery.Text.Quoted

/-! JSON values. The members of an object are kept in the order in which their names first came,
each with the last value given for its name. -/
namespace ItemQuery

inductive Json where
  | null
  | bool (b : Bool)
  | number (n : Number)
  | text (t : Text)
  | array (items : List Json)
  | object (members : List (Text × Json))

namespace Json

/-- Sets a member: a new name goes to the end, a known one keeps its place. -/
def insertMember (name : Text) (value : Json) : List (Text × Json) → List (Text × Json)
  | [] => [(name, value)]
  | (n, v) :: rest =>
    if n = name then (n, value) :: rest else (n, v) :: insertMember name value rest

def member? (name : String) : Json → Option Json
  | .object members => members.lookup name.toList
  | _ => none

/-- Whether a value counts as true: null, zero and whatever is empty do not. -/
def isTruthy : Json → Bool
  | .null => false
  | .bool b => b
  | .number (.int n) => n != 0
  | .number (.double d) => !d.isZero
  | .text t => !t.isEmpty
  | .array items => !items.isEmpty
  | .object members => !members.isEmpty

/-- The number that a value stands for in a comparison; a truth value stands for one or zero. -/
def asNumber? : Json → Option Number
  | .number n => some n
  | .bool b => some (.int (if b then 1 else 0))
  | _ => none

mutual

/-- A value as it stands inside another one: texts are quoted. -/
def shown : Json → Text
  | .null => "None".toList
  | .bool b => (if b then "True" else "False").toList
  | .number n => n.text
  | .text t => Text.quoted t
  | .array items => '[' :: Text.join ", ".toList (shownItems items) ++ [']']
  | .object members => '\x7b' :: Text.join ", ".toList (shownMembers members) ++ ['\x7d']

def shownItems : List Json → List Text
  | [] => []
  | value :: rest => shown value :: shownItems rest

def shownMembers : List (Text × Json) → List Text
  | [] => []
  | (name, value) :: rest =>
    (Text.quoted name ++ ": ".toList ++ shown value) :: shownMembers rest

end

/-- A value on its own: a text is written as it is. -/
def display : Json → Text
  | .text t => t
  | v => v.shown

end Json

end ItemQuery
