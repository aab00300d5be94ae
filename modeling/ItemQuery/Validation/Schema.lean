import ItemQuery.Json.Basic
import ItemQuery.Validation.IntegerText
import ItemQuery.Validation.Validated

/-! Readers for the parts of a schema. They are lenient where nothing is lost: a whole double, a
truth value or the text of an integer is read as an integer, a few words are read as truth
values. Names that a schema does not have are passed over.

The readers stand for the validation library, which the program calls and which is no part of it. What
is proved rests on no more than what they accept (`Schema.Reader.Accepts`) and what can be said of what
they accepted (`Validated.Ensures`). -/
namespace ItemQuery.Schema

open Validated

abbrev Reader (α : Type) := Json → Validated α

def readText : Reader Text
  | .text t => .valid t
  | _ => fail .notAText

def readIntText (t : Text) : Validated Int :=
  match IntegerText.read t with
  | .ok n => .valid n
  | .error defect => fail defect

/-- The whole doubles that stand for an integer lie within this bound, itself excluded. -/
def wordBound : Nat := twoTo 63

def readIntDouble (d : Double) : Validated Int :=
  match d.truncate? with
  | none => fail .notFinite
  | some n =>
    if !d.isWhole then fail .fractional
    else if n.natAbs < wordBound then .valid n
    else fail .integerTooLarge

def readInt : Reader Int
  | .number (.int n) => .valid n
  | .number (.double d) => readIntDouble d
  | .bool b => .valid (if b then 1 else 0)
  | .text t => readIntText t
  | _ => fail .notAnInteger

/-- An integer that is not negative. -/
def readNat : Reader Nat := fun v =>
  (readInt v).andThen fun n => if n < 0 then fail .negative else .valid n.toNat

def trueWords : List String := ["1", "t", "true", "y", "yes", "on"]

def falseWords : List String := ["0", "f", "false", "n", "no", "off"]

def asciiLower (c : Char) : Char := if 'A' ≤ c ∧ c ≤ 'Z' then Char.ofNat (c.toNat + 32) else c

/-- The words are read without regard to case, but with no blanks around them. -/
def readBoolText (t : Text) : Validated Bool :=
  let word := t.map asciiLower
  if trueWords.any (·.toList == word) then .valid true
  else if falseWords.any (·.toList == word) then .valid false
  else fail .unreadableBoolean

def readBoolInt (n : Int) : Validated Bool :=
  if n = 0 then .valid false else if n = 1 then .valid true else fail .unreadableBoolean

/-- Numbers other than zero and one are refused: as unreadable when they are whole and within the
bound, else as no truth value at all. -/
def readBool : Reader Bool
  | .bool b => .valid b
  | .number (.int n) => if -wordBound ≤ n ∧ n < wordBound then readBoolInt n else fail .notABoolean
  | .number (.double d) =>
    match d.truncate? with
    | some n => if d.isWhole ∧ n.natAbs < wordBound then readBoolInt n else fail .notABoolean
    | none => fail .notABoolean
  | .text t => readBoolText t
  | _ => fail .notABoolean

/-- `null` stands for a value that is not there. -/
def nullable {α : Type} (read : Reader α) : Reader (Option α)
  | .null => .valid none
  | v => (read v).map some

def readFrom {α : Type} (read : Reader α) (i : Nat) : List Json → Validated (List α)
  | [] => .valid []
  | v :: rest => ((read v).within (.index i)).map List.cons |>.apply (readFrom read (i + 1) rest)

def readList {α : Type} (read : Reader α) : Reader (List α)
  | .array items => readFrom read 0 items
  | _ => fail .notAList

/-- The members that a schema with fields is read from. -/
def readObject {α : Type} (read : Json → Validated α) : Reader α
  | .object members => read (.object members)
  | _ => fail .notAnObject

def required {α : Type} (name : String) (read : Reader α) (v : Json) : Validated α :=
  within (.field name) <| match v.member? name with
    | some member => read member
    | none => fail .missing

def optional {α : Type} (name : String) (default : α) (read : Reader α) (v : Json) : Validated α :=
  match v.member? name with
  | some member => within (.field name) (read member)
  | none => .valid default

end ItemQuery.Schema
