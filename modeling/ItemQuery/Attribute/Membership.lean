import ItemQuery.Attribute.Matching
import ItemQuery.Item.Link
import ItemQuery.Memory
import ItemQuery.Sets.Basic
import ItemQuery.Source

/-! Membership in a named set. Only equipment that has an id can be in one. -/
namespace ItemQuery

variable {ω : Type}

/-- Whether an item is in a set that the search finds. -/
def Source.inSet (source : Source ω) (sets : NamedSets) (item search : Text) : Search ω Bool := do
  if ← source.isEquippable item then
    match ← .ofExcept (Link.itemId? item) with
    | none => return false
    | some id => return sets.belongs id (Text.lower search)
  else return false

/-- The search that a capture stands for: none is the blank one. -/
def Json.asSearch? : Json → Option Text
  | .text t => some t
  | v => if v.isTruthy then none else some []

namespace Attribute

/-- The sets that the item is in. -/
def sets (source : Source ω) (sets : NamedSets) : Predicate (Memory ω) where
  id := "sets".toList
  declaredTags := some (["s", "set"].map String.toList)
  declaredTagOnly := some false
  canSearch operator text := return plainCapture operator text
  evaluate item _ capture :=
    match capture.asSearch? with
    | some search => .ofWorld (source.inSet sets item search)
    | none => .ofWorld do
      if ← source.isEquippable item then
        match ← .ofExcept (Link.itemId? item) with
        | none => return false
        | some _ => throw .noSuchPart
      else return false

end Attribute

end ItemQuery
