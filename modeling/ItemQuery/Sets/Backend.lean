import ItemQuery.Sets.Basic
import ItemQuery.Validation.Schema

/-! The three forms in which equipment managers store their sets. Each form is read into named sets,
and missing data stands for no sets.

* equipment: `{name: [ids]}`
* outfit: `[{name, slots: [{item_id, used}]}]`; slots that are not used do not count, and outfits
  of one name are one set
* rack: `{name: {equip: [ids or item strings]}}`; an item string counts by its leading id -/
namespace ItemQuery

inductive Backend where
  | equipment
  | outfit
  | rack
  deriving DecidableEq, Repr

namespace Backend

/-- The elements that a value is iterated by. -/
def elements : Json → Except Fault (List Json)
  | .array items => .ok items
  | .object members => .ok (members.map fun (name, _) => .text name)
  | .text t => .ok (t.map fun c => .text [c])
  | _ => .error .unsuitable

/-- The named members of set data that has to be an object. -/
def members (data : Json) : Except Fault (List (Text × Json)) :=
  if data.isTruthy then
    match data with
    | .object members => .ok members
    | _ => .error .noSuchPart
  else .ok []

/-! ## Equipment -/

/-- The integer that a value converts to; a double loses its fraction. -/
def toInt : Json → Except Fault Int
  | .number (.int n) => .ok n
  | .number (.double d) =>
    match d, d.truncate? with
    | _, some n => .ok n
    | .nan .., none => .error .notAnInteger
    | _, none => .error .infiniteInteger
  | .bool b => .ok (if b then 1 else 0)
  | .text t =>
    match parseInt? t with
    | some n => .ok n
    | none => .error .notAnInteger
  | _ => .error .unsuitable

def readEquipment (data : Json) : Except Fault NamedSets := do
  let sets ← (← members data).mapM fun (name, ids) => do
    return (name, ← (← elements ids).mapM toInt)
  return ⟨sets⟩

/-! ## Outfits -/

structure OutfitSlot where
  itemId : Option Int
  used : Bool

structure Outfit where
  name : Text
  slots : List OutfitSlot

open Schema in
def readOutfitSlot : Reader OutfitSlot := readObject fun v =>
  OutfitSlot.mk <$> optional "item_id" none (nullable readInt) v <*> optional "used" true readBool v

open Schema in
def readOneOutfit : Reader Outfit := readObject fun v =>
  Outfit.mk <$> required "name" readText v <*> optional "slots" [] (readList readOutfitSlot) v

def Outfit.ids (o : Outfit) : List Int :=
  o.slots.filterMap fun slot => if slot.used then slot.itemId else none

def readOutfit (data : Json) : Except Fault NamedSets := do
  let outfits ← (← if data.isTruthy then elements data else .ok []).mapM fun v =>
    (readOneOutfit v).toExcept
  return .gather (outfits.map fun o => (o.name, o.ids))

/-! ## Racks -/

/-- What stands in a rack: an id, or an item string such as `1234:0:0`. -/
inductive RackEntry where
  | id (n : Int)
  | item (t : Text)

/-- The leading id of an item string; none when it has none. -/
def RackEntry.itemId? : RackEntry → Option Int
  | .id n => some n
  | .item t => parseInt? (Text.trim (Text.before ':' t))

open Validated in
/-- Texts are kept and all else has to be an integer; a refusal says why for both. -/
def readRackEntry : Schema.Reader RackEntry
  | .text t => .valid (.item t)
  | v =>
    match Schema.readInt v with
    | .valid n => .valid (.id n)
    | .invalid issues => .invalid <|
      ⟨[.field "str"], .notAText⟩ :: issues.map fun issue =>
        { issue with path := .field "int" :: issue.path }

open Schema in
def readRackSet : Reader (List RackEntry) :=
  readObject (optional "equip" [] (readList readRackEntry))

def readRack (data : Json) : Except Fault NamedSets := do
  let sets ← (← members data).mapM fun (name, v) => do
    return (name, (← (readRackSet v).toExcept).filterMap RackEntry.itemId?)
  return ⟨sets⟩

/-! ## Selection -/

def named : List (String × Backend) :=
  [("equipment", .equipment), ("outfit", .outfit), ("rack", .rack)]

/-- Backends are named without regard to case. -/
def ofName (name : Text) : Except Fault Backend :=
  match named.find? fun entry => entry.1.toList == Text.lower name with
  | some (_, backend) => .ok backend
  | none => .error (.unknownBackend name)

def readSets : Backend → Json → Except Fault NamedSets
  | .equipment => readEquipment
  | .outfit => readOutfit
  | .rack => readRack

/-- The sets that a backend, given by name, finds in its data. -/
def select (name : Text) (data : Json) : Except Fault NamedSets := do
  (← ofName name).readSets data

end Backend

end ItemQuery
