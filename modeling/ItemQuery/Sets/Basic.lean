import ItemQuery.Text.Lower

/-! Named sets of item ids, in the order in which the names first came. -/
namespace ItemQuery

structure NamedSets where
  members : List (Text × List Int)
  deriving DecidableEq, Repr

namespace NamedSets

def empty : NamedSets := ⟨[]⟩

/-- Adds ids to the set of a name, which is made if there is none. -/
def extend (name : Text) (ids : List Int) : List (Text × List Int) → List (Text × List Int)
  | [] => [(name, ids)]
  | (n, known) :: rest =>
    if n = name then (n, known ++ ids) :: rest else (n, known) :: extend name ids rest

/-- Gathers what is listed under one name in several places. -/
def gather (parts : List (Text × List Int)) : NamedSets :=
  ⟨parts.foldl (fun sets (name, ids) => extend name ids sets) []⟩

/-- The sets in the order of their names, each with its ids in ascending order and once. -/
def sorted (s : NamedSets) : List (Text × List Int) :=
  (s.members.map fun (name, ids) =>
    (name, ids.eraseDups.mergeSort fun m n => decide (m ≤ n))).mergeSort
      fun a b => Text.notAfter a.1 b.1

/-- The search that any named set answers. -/
def anySet : Text := ['*']

/-- Whether a search finds a set of this name. Sets without a name are never found. -/
def finds (search name : Text) : Bool :=
  !name.isEmpty && (search == anySet || Text.occursIn (Text.lower search) (Text.lower name))

/-- Whether an id is in a set that the search finds. -/
def belongs (s : NamedSets) (id : Int) (search : Text) : Bool :=
  s.members.any fun (name, ids) => finds search name && ids.contains id

end NamedSets

end ItemQuery
