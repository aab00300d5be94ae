import ItemQuery.Validation.Schema

/-! What is known about an item. Every part may be missing, and a missing part matches no query. -/
namespace ItemQuery

structure Profile where
  name : Option Text
  kind : Option Text
  subkind : Option Text
  /-- The label of the slot, not its token. -/
  slot : Option Text
  /-- A position in the list of quality labels. -/
  quality : Option Nat
  level : Option Int
  deriving DecidableEq, Repr

namespace Profile

open Schema in
def read : Reader Profile := readObject fun v =>
  Profile.mk <$> optional "name" none (nullable readText) v
    <*> optional "type" none (nullable readText) v
    <*> optional "sub_type" none (nullable readText) v
    <*> optional "equip_slot" none (nullable readText) v
    <*> optional "quality" none (nullable readNat) v
    <*> optional "level" none (nullable readInt) v

end Profile

end ItemQuery
