import ItemQuery.Query.Predicate
import ItemQuery.Text.Lower

/-! Registries: predicates in the order in which their ids were first registered. -/
namespace ItemQuery

structure Registry (σ : Type) where
  predicates : List (Predicate σ)

namespace Registry

variable {σ : Type}

def empty : Registry σ := ⟨[]⟩

def put (p : Predicate σ) : List (Predicate σ) → List (Predicate σ)
  | [] => [p]
  | q :: rest => if q.id = p.id then p :: rest else q :: put p rest

/-- A predicate takes the place of the one with its id, or else goes to the end. -/
def insert (r : Registry σ) (p : Predicate σ) : Registry σ := ⟨put p r.predicates⟩

/-- A candidate that is refused leaves the registry as it was. -/
def register (r : Registry σ) (c : Candidate σ) : Except Fault (Registry σ) := c.check.map r.insert

def ofList (ps : List (Predicate σ)) : Registry σ := ps.foldl insert empty

def get? (r : Registry σ) (id : Text) : Option (Predicate σ) := r.predicates.find? (·.id == id)

def contains (r : Registry σ) (id : Text) : Bool := (r.get? id).isSome

def size (r : Registry σ) : Nat := r.predicates.length

def hasAlias (tag : Text) (p : Predicate σ) : Bool := p.tags.any fun t => Text.lower t == tag

def hasAliasFrom (tag : Text) (p : Predicate σ) : Bool :=
  p.tags.any fun t => tag.isPrefixOf (Text.lower t)

/-- The predicate that a tag reaches, without regard to case: the first with this very alias, or
else the first with an alias that begins so. -/
def resolve? (r : Registry σ) (tag : Text) : Option (Predicate σ) :=
  let tag := Text.lower tag
  (r.predicates.find? (hasAlias tag)).or (r.predicates.find? (hasAliasFrom tag))

end Registry

end ItemQuery
