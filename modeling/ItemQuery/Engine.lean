import ItemQuery.Attribute.Described
import ItemQuery.Attribute.Membership
import ItemQuery.Attribute.Tooltip
import ItemQuery.Catalog.Lookup
import ItemQuery.Query.Evaluate
import ItemQuery.Sets.Backend

/-! The engine: a source of item data, the named sets and the registered predicates. -/
namespace ItemQuery

structure Engine (ω : Type) where
  source : Source ω
  sets : NamedSets
  registry : Registry (Memory ω)

namespace Engine

variable {ω : Type}

/-- The cache of the bind predicate that an engine starts with. -/
def ownCache : Nat := 0

/-- The seven built-in predicates. Their order decides how atoms without a tag are probed and which
of several aliases with one beginning is meant. -/
def builtIn (source : Source ω) (sets : NamedSets) : Registry (Memory ω) :=
  .ofList [Attribute.name source, Attribute.kind source, Attribute.quality source,
    Attribute.level source, Attribute.bind source Attribute.defaultKeywords ownCache,
    Attribute.tooltip source, Attribute.sets source sets]

def ofSource (source : Source ω) (sets : NamedSets) : Engine ω :=
  ⟨source, sets, builtIn source sets⟩

/-- Whether an item answers to a query. A missing query is a blank one, a missing item is refused
before the query is looked at. -/
def accepts (e : Engine ω) (item query : Option Text) : Search (Memory ω) Bool :=
  match item, query with
  | none, _ => throw .referenceRequired
  | some _, none => return true
  | some item, some query => e.registry.evaluate item query

/-- Whether an item is in a set that the search finds. -/
def inSet (e : Engine ω) (item search : Option Text) : Search (Memory ω) Bool :=
  match item with
  | none => throw .referenceRequired
  | some item => .ofWorld (e.source.inSet e.sets item (search.getD []))

end Engine

namespace Catalog

variable {ω : Type}

/-- The item data of a catalog. It has no state. -/
def source (c : Catalog) : Source ω where
  describe item := .ofExcept (c.describe item)
  qualityLabels := c.qualityLabels
  isEquippable item := .ofExcept (c.isEquippable item)
  lines item := .ofExcept (c.lines item)
  line item i := .ofExcept (c.line item i)

/-- The backend for a catalog's sets: its own choice, or else the caller's, or else the fallback. An
empty name is no choice. -/
def backendName (c : Catalog) (chosen : Option Text) (fallback : Text) : Text :=
  match c.backend, chosen with
  | some (a :: rest), _ => a :: rest
  | _, some (a :: rest) => a :: rest
  | _, _ => fallback

/-- The engine over a catalog whose sets the backend can read. -/
def engine (c : Catalog) (chosen : Option Text) (fallback : Text) : Except Fault (Engine ω) := do
  return .ofSource c.source (← Backend.select (c.backendName chosen fallback) c.setData)

end Catalog

end ItemQuery
