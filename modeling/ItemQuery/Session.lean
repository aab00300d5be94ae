import ItemQuery.Listing
import ItemQuery.Scripted.World

/-! Sessions: an engine, over a catalog or over scripted items, that carries out one action after
the other. What an action changes is there for the next one, even if the action fails. -/
namespace ItemQuery

structure Session where
  engine : Engine Journal
  memory : Memory Journal
  /-- None when the items are scripted. -/
  catalog : Option Catalog
  backend : Backend
  /-- The scripts of the scripted predicates that are registered, by id. -/
  scripts : List (Text × Script)
  /-- The cache of the registered bind predicate, if it is no scripted one. -/
  bindCache : Option Nat
  /-- The first cache number that is not in use. -/
  freshCache : Nat

inductive Action where
  | accepts (item query : Option Text)
  | acceptsAll (items : List (Option Text)) (query : Option Text)
  | inSet (item search : Option Text)
  | register (script : Script)
  | registerBind (keywords : Option Attribute.BindKeywords) (shared : Bool)
  | list
  | get (id : Text)
  | size
  | contains (id : Json)
  | ids
  | resolve (tag : Text)
  | conforms (id : Text)
  | evaluateAtom (item text : Text) (fallback : Bool)
  | evaluateTerm (item text : Text)
  | evaluateGroup (item text : Text)
  | evaluateUnion (item text : Text)
  | evaluate (item text : Text)
  | judge (id item : Text) (operator : Option Text) (text : Text)
  | canSearch (id : Text) (operator : Option Text) (text : Text)
  | evaluateCapture (id item : Text) (operator : Option Text) (capture : Json)
  | tierFor (text : Text)
  | cacheSize
  | belongs (id : Int) (search : Text)
  | sets
  | collaborators
  | predicateList
  | entries
  | find (item : Text)
  | describe (item : Text)
  | qualityLabels
  | isEquippable (item : Text)
  | lines (item : Text)
  | line (item : Text) (i : Int)
  | search (query : Option Text) (limit : Int)
  | runSearch (query : Option Text) (limit : Int)
  | formatResults (query : Option Text) (limit : Int) (note : Option Text)
  | checkSet (item search : Text)

/-- A predicate as a listing shows it. -/
structure PredicateSummary where
  id : Text
  tags : List Text
  tagOnly : Bool

inductive Reply where
  | done
  | truth (b : Bool)
  | truths (bs : List Bool)
  | count (n : Nat)
  | count? (n : Option Nat)
  | text (t : Text)
  | text? (t : Option Text)
  | texts (ts : List Text)
  | value (v : Json)
  | ids (ns : List Int)
  | predicate (p : Option PredicateSummary)
  | predicates (ps : List PredicateSummary)
  | sets (s : List (Text × List Int))
  | collaborators (backend : Backend)
  | entries (es : List Entry)
  | entry (e : Option Entry)
  | profile (p : Option Profile)

namespace Session

def summary {σ : Type} (p : Predicate σ) : PredicateSummary := ⟨p.id, p.tags, p.tagOnly⟩

/-- The cache that bind predicates of a session may share; the next numbers are for own caches. -/
def sharedCache : Nat := Engine.ownCache + 1

def emptyMemory : Memory Journal := ⟨.empty, []⟩

/-- A session over a catalog. -/
def ofCatalog (c : Catalog) (chosen : Option Text) (fallback : Text) : Except Fault Session := do
  let backend ← Backend.ofName (c.backendName chosen fallback)
  return {
    engine := ← c.engine chosen fallback
    memory := emptyMemory
    catalog := some c
    backend := backend
    scripts := []
    bindCache := some Engine.ownCache
    freshCache := sharedCache + 1 }

abbrev Run := EStateM Fault Session

def ofSearch {α : Type} (x : Search (Memory Journal) α) : Run α := fun s =>
  match x s.memory with
  | .ok a m => .ok a { s with memory := m }
  | .error fault m => .error fault { s with memory := m }

def ofExcept {α : Type} : Except Fault α → Run α
  | .ok a => pure a
  | .error fault => throw fault

def setRegistry (r : Registry (Memory Journal)) (s : Session) : Session :=
  { s with engine := { s.engine with registry := r } }

def bindId : Text := "bind".toList

def qualityId : Text := "quality".toList

def registerScript (script : Script) : Run Unit := do
  let s ← get
  let registry ← ofExcept (s.engine.registry.register script.candidate)
  let id := script.idText
  set { s.setRegistry registry with
    scripts := (id, script) :: s.scripts
    bindCache := if id = bindId then none else s.bindCache }

def registerBind (keywords : Option Attribute.BindKeywords) (shared : Bool) : Run Unit :=
  modify fun s =>
    let cache := if shared then sharedCache else s.freshCache
    let predicate :=
      Attribute.bind s.engine.source (keywords.getD Attribute.defaultKeywords) cache
    { s.setRegistry (s.engine.registry.insert predicate) with
      scripts := s.scripts.filter (·.1 ≠ bindId)
      bindCache := some cache
      freshCache := s.freshCache + 1 }

/-- A session over scripted items. With scripts, the registry holds those instead of the built-in
predicates. -/
def ofScript (items : ScriptedItems) (backendName : Text) (setData : Json)
    (scripts : Option (List Script)) : Except Fault Session := do
  let backend ← Backend.ofName backendName
  let sets ← backend.readSets setData
  let engine := Engine.ofSource items.source sets
  let start : Session := {
    engine := engine
    memory := emptyMemory
    catalog := none
    backend := backend
    scripts := []
    bindCache := some Engine.ownCache
    freshCache := sharedCache + 1 }
  match scripts with
  | none => return start
  | some scripts =>
    match (scripts.forM registerScript).run { start.setRegistry .empty with bindCache := none } with
    | .ok _ s => return s
    | .error fault _ => throw fault

/-- The predicate of an id, which has to be registered. -/
def predicate (id : Text) : Run (Predicate (Memory Journal)) := do
  match (← get).engine.registry.get? id with
  | some p => return p
  | none => throw .noSuchPart

/-- The catalog, which has to be there. -/
def theCatalog : Run Catalog := do
  match (← get).catalog with
  | some c => return c
  | none => throw .noSuchPart

/-- The judgement of a predicate: the scripted value, or else a truth value. -/
def evaluateCapture (id item : Text) (operator : Option Text) (capture : Json) : Run Json := do
  let p ← predicate id
  match (← get).scripts.lookup id with
  | some script => ofSearch (.ofWorld (script.judgement item operator capture))
  | none => return .bool (← ofSearch (p.evaluate item operator capture))

/-- Whether a registry holds what a value names. Lists and objects cannot name anything. -/
def contains (r : Registry (Memory Journal)) : Json → Except Fault Bool
  | .text id => .ok (r.contains id)
  | .array _ => .error .unsuitable
  | .object _ => .error .unsuitable
  | _ => .ok false

def perform : Action → Run Reply
  | .accepts item query => do
    return .truth (← ofSearch ((← get).engine.accepts item query))
  | .acceptsAll items query => do
    let engine := (← get).engine
    return .truths (← items.mapM fun item => ofSearch (engine.accepts item query))
  | .inSet item search => do return .truth (← ofSearch ((← get).engine.inSet item search))
  | .register script => do
    registerScript script
    return .done
  | .registerBind keywords shared => do
    registerBind keywords shared
    return .done
  | .list => do return .predicates ((← get).engine.registry.predicates.map summary)
  | .get id => do return .predicate (((← get).engine.registry.get? id).map summary)
  | .size => do return .count (← get).engine.registry.size
  | .contains id => do return .truth (← ofExcept (contains (← get).engine.registry id))
  | .ids => do return .texts ((← get).engine.registry.predicates.map (·.id))
  | .resolve tag => do return .predicate (((← get).engine.registry.resolve? tag).map summary)
  | .conforms id => do
    return .truth ((((← get).engine.registry.get? id).map Predicate.declaresAll).getD false)
  | .evaluateAtom item text fallback => do
    return .truth (← ofSearch ((← get).engine.registry.evaluateAtom item text fallback))
  | .evaluateTerm item text => do
    return .truth (← ofSearch ((← get).engine.registry.evaluateTerm item text))
  | .evaluateGroup item text => do
    return .truth (← ofSearch ((← get).engine.registry.evaluateGroup item text))
  | .evaluateUnion item text => do
    return .truth (← ofSearch ((← get).engine.registry.evaluateUnion item text))
  | .evaluate item text => do
    return .truth (← ofSearch ((← get).engine.registry.evaluate item text))
  | .judge id item operator text => do
    let p ← predicate id
    return .truth (← ofSearch (p.judge item operator text))
  | .canSearch id operator text => do
    let p ← predicate id
    return .value ((← ofSearch (p.canSearch operator text)).getD .null)
  | .evaluateCapture id item operator capture => do
    return .value (← evaluateCapture id item operator capture)
  | .tierFor text => do
    let s ← get
    if (s.scripts.lookup qualityId).isNone && s.engine.registry.contains qualityId then
      return .count? (Attribute.tierFor? s.engine.source.qualityLabels text)
    else throw .noSuchPart
  | .cacheSize => do
    let s ← get
    match s.bindCache with
    | some cache => return .count (s.memory.cacheSize cache)
    | none => throw .noSuchPart
  | .belongs id search => do return .truth ((← get).engine.sets.belongs id search)
  | .sets => do return .sets (← get).engine.sets.sorted
  | .collaborators => do return .collaborators (← get).backend
  | .predicateList => do return .text (Listing.predicates (← get).engine.registry)
  | .entries => do return .entries (← theCatalog).entries
  | .find item => do return .entry (← ofExcept ((← theCatalog).find item))
  | .describe item => do return .profile (← ofExcept ((← theCatalog).describe item))
  | .qualityLabels => do return .texts (← theCatalog).qualityLabels
  | .isEquippable item => do return .truth (← ofExcept ((← theCatalog).isEquippable item))
  | .lines item => do return .texts (← ofExcept ((← theCatalog).lines item))
  | .line item i => do return .text? (← ofExcept ((← theCatalog).line item i))
  | .search query limit => do
    let c ← theCatalog
    return .ids ((← ofSearch (Listing.search (← get).engine.accepts c query limit)).map (·.id))
  | .runSearch query limit => do
    let c ← theCatalog
    return .text (← ofSearch (Listing.run (← get).engine.accepts c query limit))
  | .formatResults query limit note => do
    let c ← theCatalog
    let found ← ofSearch (Listing.search (← get).engine.accepts c query limit)
    return .text (← ofExcept (Listing.entries c found note))
  | .checkSet item search => do
    let c ← theCatalog
    return .text (← ofSearch (Listing.checkSet (← get).engine c item search))

/-- What one action led to: its reply or fault, the scripted calls it made, and how often tooltip
lines and tooltips have been read since the session began. -/
structure Answer where
  reply : Except Fault Reply
  calls : List Call
  lineReads : Nat
  tooltipReads : Nat

def forgetCalls (s : Session) : Session :=
  { s with memory := { s.memory with world := { s.memory.world with calls := [] } } }

def answer (s : Session) (reply : Except Fault Reply) : Answer :=
  let journal := s.memory.world
  ⟨reply, journal.calls, journal.lineReads, journal.tooltipReads⟩

/-- Carries out one action. -/
def act (s : Session) (action : Action) : Answer × Session :=
  match perform action s.forgetCalls with
  | .ok reply s => (s.answer (.ok reply), s)
  | .error fault s => (s.answer (.error fault), s)

/-- Carries out actions in order. -/
def actAll (s : Session) : List Action → List Answer
  | [] => []
  | action :: rest =>
    let (answer, s) := s.act action
    answer :: s.actAll rest

end Session

end ItemQuery
