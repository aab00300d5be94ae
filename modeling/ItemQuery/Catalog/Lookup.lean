import ItemQuery.Catalog.Basic
import ItemQuery.Item.Slot
import ItemQuery.Text.Lower

/-! Finding an item of a catalog by a reference: the id in a link, a bare id, or else the name. Of
several entries with one id the last counts, of several with one name the first. -/
namespace ItemQuery.Catalog

def byId? (c : Catalog) (id : Int) : Option Entry := c.entries.reverse.find? (·.id == id)

/-- Names are compared without regard to case. -/
def byName? (c : Catalog) (name : Text) : Option Entry :=
  c.entries.find? fun e => Text.lower e.name == Text.lower name

/-- A text that reads as an id is never taken for a name. -/
def find (c : Catalog) (item : Text) : Except Fault (Option Entry) := do
  let t := Text.trim item
  match ← Link.itemId? t with
  | some id => return c.byId? id
  | none =>
    match parseInt? t with
    | some id => return c.byId? id
    | none => return c.byName? t

end Catalog

namespace Entry

def profile (e : Entry) : Profile where
  name := some e.name
  kind := e.kind
  subkind := e.subkind
  slot := e.slot.map Slot.label
  quality := e.quality
  level := e.level

/-- An entry that does not say is equipment when it has a slot other than the bag's. -/
def isEquippable (e : Entry) : Bool :=
  match e.equippable, e.slot with
  | some b, _ => b
  | none, some slot => !slot.isEmpty && slot != Slot.bag
  | none, none => false

/-- A line of the tooltip, counted from one. -/
def line? (e : Entry) (i : Int) : Option Text := if 1 ≤ i then e.tooltip[(i - 1).toNat]? else none

end Entry

namespace Catalog

def describe (c : Catalog) (item : Text) : Except Fault (Option Profile) := do
  return (← c.find item).map Entry.profile

def isEquippable (c : Catalog) (item : Text) : Except Fault Bool := do
  return ((← c.find item).map Entry.isEquippable).getD false

def lines (c : Catalog) (item : Text) : Except Fault (List Text) := do
  return ((← c.find item).map Entry.tooltip).getD []

def line (c : Catalog) (item : Text) (i : Int) : Except Fault (Option Text) := do
  return (← c.find item).bind (·.line? i)

end ItemQuery.Catalog
