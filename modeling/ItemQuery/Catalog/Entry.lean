import ItemQuery.Item.Link
import ItemQuery.Item.Profile

/-! The entries of a catalog. An entry may carry a link of its own, which has to name the entry's
id: otherwise the link would lead to another entry or to none. -/
namespace ItemQuery

structure Entry where
  id : Int
  name : Text
  link : Option Text
  kind : Option Text
  subkind : Option Text
  /-- A label or a token. -/
  slot : Option Text
  quality : Option Nat
  level : Option Int
  equippable : Option Bool
  tooltip : List Text
  deriving DecidableEq, Repr

namespace Entry

/-- The link by which an entry is referred to: its own, unless that is empty, or else the one that is
built for its id, if the id can be written. -/
def ref? (e : Entry) : Except Fault Text :=
  match e.link with
  | some (c :: rest) => .ok (c :: rest)
  | _ => Link.build e.id e.name Link.defaultColor

/-- The same link as a text. No id is ever read from what stands here for one that cannot be
written. -/
def ref (e : Entry) : Text :=
  match e.link with
  | some (c :: rest) => c :: rest
  | _ => Link.around (intText e.id) e.name Link.defaultColor

/-- What is wrong with the link of an entry, if it has one. -/
def linkDefect? (e : Entry) : Option Defect :=
  match e.link with
  | none => none
  | some link =>
    match Link.itemId? link with
    | .ok id? => if id? = some e.id then none else some (.foreignLink link e.id)
    | .error _ => some (.unreadableLink (((Link.firstNumber? link).map (·.2.length)).getD 0))

/-- The link is looked at once all fields are valid. -/
def checkLink (e : Entry) : Validated Entry :=
  match e.linkDefect? with
  | none => .valid e
  | some defect => .fail defect

open Schema in
def readFields : Reader Entry := readObject fun v =>
  Entry.mk <$> required "id" readInt v
    <*> required "name" readText v
    <*> optional "link" none (nullable readText) v
    <*> optional "type" none (nullable readText) v
    <*> optional "sub_type" none (nullable readText) v
    <*> optional "equip_slot" none (nullable readText) v
    <*> optional "quality" none (nullable readNat) v
    <*> optional "level" none (nullable readInt) v
    <*> optional "equippable" none (nullable readBool) v
    <*> optional "tooltip" [] (readList readText) v

def read : Schema.Reader Entry := fun v => (readFields v).andThen checkLink

end Entry

end ItemQuery
