import ItemQuery.Text.Basic

/-! Equipment slots. A slot is given by its label or by the token of the game client; a token is
shown by its label, and whatever is no token is shown as it is. -/
namespace ItemQuery.Slot

def labels : List (String × String) :=
  [("INVTYPE_HEAD", "Head"), ("INVTYPE_NECK", "Neck"), ("INVTYPE_SHOULDER", "Shoulder"),
   ("INVTYPE_BODY", "Shirt"), ("INVTYPE_CHEST", "Chest"), ("INVTYPE_ROBE", "Chest"),
   ("INVTYPE_WAIST", "Waist"), ("INVTYPE_LEGS", "Legs"), ("INVTYPE_FEET", "Feet"),
   ("INVTYPE_WRIST", "Wrist"), ("INVTYPE_HAND", "Hands"), ("INVTYPE_FINGER", "Finger"),
   ("INVTYPE_TRINKET", "Trinket"), ("INVTYPE_CLOAK", "Back"), ("INVTYPE_WEAPON", "One-Hand"),
   ("INVTYPE_SHIELD", "Off Hand"), ("INVTYPE_2HWEAPON", "Two-Hand"),
   ("INVTYPE_WEAPONMAINHAND", "Main Hand"), ("INVTYPE_WEAPONOFFHAND", "Off Hand"),
   ("INVTYPE_HOLDABLE", "Held In Off-hand"), ("INVTYPE_RANGED", "Ranged"),
   ("INVTYPE_RANGEDRIGHT", "Ranged"), ("INVTYPE_THROWN", "Thrown"), ("INVTYPE_RELIC", "Relic"),
   ("INVTYPE_TABARD", "Tabard"), ("INVTYPE_BAG", "Bag")]

/-- The only slot that makes an item no equipment by itself. -/
def bag : Text := "INVTYPE_BAG".toList

def label (slot : Text) : Text :=
  match labels.find? fun entry => entry.1.toList == slot with
  | some (_, label) => label.toList
  | none => slot

end ItemQuery.Slot
