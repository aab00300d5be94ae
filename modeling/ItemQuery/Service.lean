import ItemQuery.Listing
import ItemQuery.Settings.Basic

/-! The service: a catalog, its engine and three tools that a client can call. -/
namespace ItemQuery

structure Service where
  catalog : Catalog
  engine : Engine Unit
  /-- No search shows more results than this. -/
  maxResults : Int

namespace Service

def name : String := "item-search"

def instructions : String :=
  "Searches an item catalog with a compact boolean query language.\n\n" ++
  "QUERY SYNTAX:\n" ++
  "- Terms: plain text matches item names, types, quality names, levels, set " ++
  "names and bind keywords (boe, bop, bou, boa, soulbound, quest).\n" ++
  "- Tags target one attribute: n: name, t: type or slot, q: quality, " ++
  "l:/lvl:/ilvl: item level, tt: tooltip text, s: equipment set (s:* = any set).\n" ++
  "- Comparisons for quality and level: q>=rare, lvl<100, ilvl:80, q!=poor.\n" ++
  "- Combine with '&' (and), '|' (or), and prefix '!' (not). '&' binds tighter " ++
  "than '|': 'sword & epic | shield' is '(sword and epic) or shield'.\n\n" ++
  "TOOLS:\n" ++
  "- item_search: list catalog items matching a query.\n" ++
  "- item_in_set: check one item's equipment set membership.\n" ++
  "- item_search_predicates: show available tags.\n"

def toolNames : List String := ["item_in_set", "item_search", "item_search_predicates"]

def readFile (read : Text → Option ByteArray) (path : Path) : Except Fault Text :=
  match read path.text with
  | none => .error .fileNotFound
  | some bytes =>
    match String.fromUTF8? bytes with
    | some s => .ok s.toList
    | none => .error .notUtf8

def loadCatalog (host : Host) (env : Environment) (read : Text → Option ByteArray) :
    Except Fault Catalog := do
  match ← env.catalogPath host.homes with
  | none => return .empty
  | some path => (Catalog.parse (← readFile read path)).toExcept

/-- Starts the service: the log level, the catalog, its sets and the result cap are looked at in
this order. -/
def start (host : Host) (env : Environment) (read : Text → Option ByteArray) :
    Except Fault Service := do
  env.checkLogLevel host
  let catalog ← loadCatalog host env read
  let engine ← catalog.engine none env.setBackend
  return ⟨catalog, engine, ← env.maxResults⟩

def memory : Memory Unit := ⟨(), []⟩

/-! ## Tools -/

def limitDefault : Int := 20

def limitBound : Int := 200

inductive ToolCall where
  | search (query : Text) (limit : Int)
  | inSet (item search : Text)
  | predicates
  deriving DecidableEq, Repr

/-- Whether a call names no argument that its tool does not have. -/
def knowsAll (names : List String) (args : List (Text × Json)) : Bool :=
  args.all fun (arg, _) => names.any (·.toList == arg)

open Schema in
def readSearch (args : Json) : Validated ToolCall :=
  ToolCall.search <$> required "query" readText args
    <*> optional "limit" limitDefault readLimit args
where
  readLimit : Reader Int := fun v =>
    (readInt v).andThen fun n => if 1 ≤ n ∧ n ≤ limitBound then .valid n else .fail .unreadableInteger

open Schema in
def readInSet (args : Json) : Validated ToolCall :=
  ToolCall.inSet <$> required "item" readText args
    <*> optional "set_query" NamedSets.anySet readText args

/-- The call that a tool's name and its arguments denote. Here the tool framework is at work, which is no
part of the program: it looks the tool up and checks the arguments against the tool's signature. What
is proved of it is that an accepted limit is within its bounds (`isBounded_of_readCall`). -/
def readCall (tool : Text) (args : List (Text × Json)) : Option ToolCall :=
  if tool = "item_search".toList then
    accept ["query", "limit"] (readSearch (.object args))
  else if tool = "item_in_set".toList then
    accept ["item", "set_query"] (readInSet (.object args))
  else if tool = "item_search_predicates".toList then accept [] (.valid .predicates)
  else none
where
  accept (names : List String) : Validated ToolCall → Option ToolCall
    | .valid call => if knowsAll names args then some call else none
    | .invalid _ => none

def perform (s : Service) : ToolCall → Search (Memory Unit) Text
  | .search query limit =>
    Listing.run s.engine.accepts s.catalog (some query) (min limit s.maxResults)
  | .inSet item search => Listing.checkSet s.engine s.catalog item search
  | .predicates => return Listing.predicates s.engine.registry

/-- Calls a tool by name. Whatever goes wrong, the client learns only that it did. -/
def call (s : Service) (tool : Text) (args : List (Text × Json)) :
    Search (Memory Unit) Text := do
  match readCall tool args with
  | none => throw .toolFailed
  | some toolCall => tryCatch (s.perform toolCall) fun _ => throw .toolFailed

end Service

end ItemQuery
