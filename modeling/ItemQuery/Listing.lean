import ItemQuery.Engine

/-! What is shown to the user: entries, result lists, predicates and the answer to a question about
a set. -/
namespace ItemQuery

namespace Entry

/-- The id and the name. Numbers with too many digits cannot be shown, here and below. -/
def title (e : Entry) : Except Fault Text := do
  return '[' :: (← writeInt e.id) ++ "] ".toList ++ e.name

/-- The title and the label of the quality, where there is one. -/
def header (e : Entry) (labels : List Text) : Except Fault Text := do
  let title ← e.title
  match e.quality.bind (labels[·]?) with
  | some label => return title ++ " (".toList ++ label ++ ")".toList
  | none => return title

/-- The parts of an entry that its second line shows; those that are missing or empty are left
out. -/
def shownParts (e : Entry) : List Text :=
  [e.kind, e.subkind, e.slot.map Slot.label].filterMap fun
    | some (c :: rest) => some (c :: rest)
    | _ => none

def details (e : Entry) : Except Fault Text := do
  let level ← e.level.mapM writeInt
  return Text.join " | ".toList (e.shownParts ++ (level.map ("ilvl ".toList ++ ·)).toList)

/-- The header and, unless it would be empty, the indented second line. -/
def compact (e : Entry) (labels : List Text) : Except Fault Text := do
  let header ← e.header labels
  match ← e.details with
  | [] => return header
  | c :: rest => return header ++ "\n  ".toList ++ c :: rest

end Entry

namespace Listing

def noResults : Text := "No results found.".toList

/-- A line that is left out when there is nothing to say. -/
def optionalLine (lead : Text) : Option Text → List Text
  | some (c :: rest) => [lead ++ c :: rest]
  | _ => []

/-- The result list: an optional header, the count, an optional note, a blank line, the results. -/
def results (entries : List Text) (header note : Option Text) : Text :=
  if entries.isEmpty then noResults
  else Text.join ['\n'] <| optionalLine [] header ++
    [natText entries.length ++ " result(s)".toList] ++ optionalLine "Note: ".toList note ++
    [[], Text.join ['\n'] entries]

/-- A predicate's line: its id, its tags and how it can be reached. -/
def predicateLine (id : Text) (tags : List Text) (tagOnly : Bool) : Text :=
  let tags := Text.join ", ".toList (tags.map (· ++ [':']))
  let usage := if tagOnly then "tag only" else if tags.isEmpty then "untagged only"
    else "also untagged"
  id ++ (if tags.isEmpty then [] else ": ".toList ++ tags) ++ " (".toList ++ usage.toList ++
    ")".toList

def predicate {σ : Type} (p : Predicate σ) : Text := predicateLine p.id p.tags p.tagOnly

/-- The line of an object that was never registered, of which any value may stand anywhere. -/
def candidate {σ : Type} (c : Candidate σ) : Except Fault Text := do
  let tags ← Candidate.tagsOf c.tags
  match c.id with
  | some id => return predicateLine id.display (tags.map Json.display) c.isTagOnly
  | none => throw .noSuchPart

def predicates {σ : Type} (r : Registry σ) : Text := Text.join ['\n'] (r.predicates.map predicate)

/-! ## Searching a catalog -/

variable {σ ω : Type}

/-- The entries that are accepted, in order; the search ends once there are as many as the limit,
though never before the first. -/
def searchFrom (accepts : Entry → Search σ Bool) (limit : Int) (found : List Entry) :
    List Entry → Search σ (List Entry)
  | [] => return found
  | e :: rest => do
    if ← accepts e then
      let found := found ++ [e]
      if limit ≤ found.length then return found else searchFrom accepts limit found rest
    else searchFrom accepts limit found rest

/-- What a search has an engine answer: whether an item is accepted by a query. -/
abbrev Question (σ : Type) := Option Text → Option Text → Search σ Bool

/-- An entry is asked about by its link. -/
def asks (accepts : Question σ) (query : Option Text) (e : Entry) : Search σ Bool := do
  accepts (← .ofExcept e.ref?) query

def search (accepts : Question σ) (c : Catalog) (query : Option Text) (limit : Int) :
    Search σ (List Entry) :=
  searchFrom (asks accepts query) limit [] c.entries

def entries (c : Catalog) (found : List Entry) (note : Option Text) : Except Fault Text := do
  return results (← found.mapM (·.compact c.qualityLabels)) none note

/-- The first `limit` of a list; a negative limit counts from the end. -/
def firstOf {α : Type} (limit : Int) (xs : List α) : List α :=
  if 0 ≤ limit then xs.take limit.toNat else xs.take (xs.length + limit).toNat

def limitNote (limit : Int) : Except Fault Text := do
  return "Showing the first ".toList ++ (← writeInt limit) ++ " matches.".toList

/-- What is shown of the entries that were found, up to the limit. -/
def shown (c : Catalog) (found : List Entry) (limit : Int) : Except Fault Text := do
  if limit < found.length then
    let note ← limitNote limit
    entries c (firstOf limit found) (some note)
  else entries c found none

/-- Searches for one entry more than the limit, so as to know whether there are more to mention. -/
def run (accepts : Question σ) (c : Catalog) (query : Option Text) (limit : Int) :
    Search σ Text := do
  let found ← search accepts c query (limit + 1)
  .ofExcept (shown c found limit)

/-- Answers whether an item of the catalog is in a set that the search finds. -/
def checkSet (engine : Engine ω) (c : Catalog) (item search : Text) : Search (Memory ω) Text := do
  match ← .ofExcept (c.find item) with
  | none => return "Item not found: ".toList ++ item
  | some e =>
    let quoted := '\'' :: search ++ "'.".toList
    let ref ← .ofExcept e.ref?
    if ← .ofExcept (c.isEquippable ref) then
      if ← engine.inSet ref search then
        return (← .ofExcept e.title) ++ " is in a set matching ".toList ++ quoted
      else return (← .ofExcept e.title) ++ " is not in any set matching ".toList ++ quoted
    else return (← .ofExcept e.title) ++ " is not equippable.".toList

end Listing

end ItemQuery
