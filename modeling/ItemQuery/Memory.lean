import ItemQuery.Json.Key
import ItemQuery.Query.Predicate

/-! What a search remembers: the state of its source, and the bind texts that were looked for. A
result is kept under the cache it belongs to, what was looked for and the item's id, and is never
dropped. -/
namespace ItemQuery

/-- Several bind predicates may share a cache. -/
structure BindKey where
  cache : Nat
  sought : Json.Key
  id : Int
  deriving DecidableEq, Repr

structure Memory (ω : Type) where
  world : ω
  remembered : List (BindKey × Bool)

namespace Memory

variable {ω : Type}

def result? (m : Memory ω) (key : BindKey) : Option Bool :=
  if key.sought.isFindable then m.remembered.lookup key else none

def remember (m : Memory ω) (key : BindKey) (found : Bool) : Memory ω :=
  { m with remembered := m.remembered ++ [(key, found)] }

/-- How many results a cache holds. -/
def cacheSize (m : Memory ω) (cache : Nat) : Nat :=
  (m.remembered.filter (·.1.cache == cache)).length

end Memory

namespace Search

variable {ω α : Type}

/-- A computation of the source alone; it cannot touch what is remembered. -/
def ofWorld (x : Search ω α) : Search (Memory ω) α := fun m =>
  match x m.world with
  | .ok a w => .ok a { m with world := w }
  | .error fault w => .error fault { m with world := w }

/-- The remembered result for a key, or else a new one, which is then remembered. A computation
that fails leaves nothing behind. -/
def recallOr (key : BindKey) (compute : Search (Memory ω) Bool) : Search (Memory ω) Bool := do
  match (← get).result? key with
  | some found => return found
  | none =>
    let found ← compute
    modify (·.remember key found)
    return found

end Search

end ItemQuery
