import ItemQuery.Fault
import ItemQuery.Json.Basic
import ItemQuery.Query.Operator

/-! Predicates: the attributes that an atom can be about. A predicate says whether it understands an
operator and a text, by a capture of its own, and then whether an item answers to the capture.
Both may fail and may change a state; a failure keeps the changes made before it. -/
namespace ItemQuery

/-- A computation of a search over states `σ`. -/
abbrev Search (σ : Type) := EStateM Fault σ

namespace Search

def ofExcept {σ α : Type} : Except Fault α → Search σ α
  | .ok a => pure a
  | .error fault => throw fault

end Search

structure Predicate (σ : Type) where
  id : Text
  /-- The aliases by which a tag reaches it, if it declares any. -/
  declaredTags : Option (List Text)
  /-- Whether it is passed over by atoms without a tag, if it declares that. -/
  declaredTagOnly : Option Bool
  /-- A capture, unless it does not understand the atom. -/
  canSearch : Option Text → Text → Search σ (Option Json)
  evaluate : Text → Option Text → Json → Search σ Bool

namespace Predicate

variable {σ : Type}

def tags (p : Predicate σ) : List Text := p.declaredTags.getD []

def tagOnly (p : Predicate σ) : Bool := p.declaredTagOnly.getD false

/-- Whether it declares everything that a predicate can declare. -/
def declaresAll (p : Predicate σ) : Bool := p.declaredTags.isSome && p.declaredTagOnly.isSome

/-- Judges an item by one predicate. Inequality is judged as equality and turned around, but only
where the predicate understands the text: where it does not, the item fails either way. -/
def judge (p : Predicate σ) (item : Text) (operator : Option Text) (text : Text) :
    Search σ Bool := do
  let operator := Operator.normalize operator
  let negated := operator == some Operator.notEqual
  let operator := if negated then none else operator
  match ← p.canSearch operator text with
  | none => return false
  | some capture =>
    let answer ← p.evaluate item operator capture
    return answer != negated

end Predicate

/-- What is offered for registration: any object, of which nothing is known to be well formed. -/
structure Candidate (σ : Type) where
  id : Option Json
  tags : Option Json
  tagOnly : Option Json
  /-- Absent also when what stands there cannot be called. -/
  canSearch : Option (Option Text → Text → Search σ (Option Json))
  evaluate : Option (Text → Option Text → Json → Search σ Bool)
  /-- How the object shows itself in messages. -/
  shown : Text

namespace Candidate

variable {σ : Type}

/-- The tags that a value lists; a text is refused, since it would list its letters. -/
def tagsOf : Option Json → Except Fault (List Json)
  | none => .ok []
  | some .null => .ok []
  | some (.text t) => .error (.tagsAreText none t)
  | some (.array items) => .ok items
  | some (.object members) => .ok (members.map fun (name, _) => .text name)
  | some _ => .error .unsuitable

def isTagOnly (c : Candidate σ) : Bool := (c.tagOnly.map Json.isTruthy).getD false

/-- A tag that a predicate may have: any text but the empty one. -/
def tag? : Json → Option Text
  | .text (c :: rest) => some (c :: rest)
  | _ => none

def checkId (c : Candidate σ) : Except Fault Text :=
  match c.id with
  | some (.text (a :: rest)) => .ok (a :: rest)
  | _ => .error (.missingId c.shown)

def checkMethod {α : Type} (id : Text) (method : Method) : Option α → Except Fault α
  | some f => .ok f
  | none => .error (.missingMethod id method)

def checkTags (id : Text) (tags : Option Json) : Except Fault (List Text) :=
  match tagsOf tags with
  | .error (.tagsAreText _ t) => .error (.tagsAreText (some id) t)
  | .error fault => .error fault
  | .ok items =>
    match items.mapM tag? with
    | some tags => .ok tags
    | none => .error (.malformedTags id)

/-- The predicate that a candidate is: its id, its two operations and its tags are looked at in
this order. -/
def check (c : Candidate σ) : Except Fault (Predicate σ) := do
  let id ← c.checkId
  let canSearch ← checkMethod id .canSearch c.canSearch
  let evaluate ← checkMethod id .evaluate c.evaluate
  let tags ← checkTags id c.tags
  return {
    id := id
    declaredTags := c.tags.map fun _ => tags
    declaredTagOnly := c.tagOnly.map Json.isTruthy
    canSearch := canSearch
    evaluate := evaluate }

end Candidate

end ItemQuery
