import ItemQuery.Engine
import ItemQuery.Scripted.Predicate

/-! Scripted sources of item data. Everything is looked up by the exact reference, reads of tooltips
are counted, and some tooltips can be made to fail. -/
namespace ItemQuery

structure ScriptedItems where
  profiles : List (Text × Profile)
  qualityLabels : List Text
  /-- The references that are equipment; if none are given, those with a slot. -/
  equippable : Option (List Text)
  tooltips : List (Text × List Text)
  /-- The references whose tooltip cannot be read. -/
  broken : List Text

namespace ScriptedItems

def defaultQualityLabels : List Text :=
  ["poor", "common", "uncommon", "rare", "epic", "legendary"].map String.toList

def isEquippable (w : ScriptedItems) (item : Text) : Bool :=
  match w.equippable with
  | some refs => refs.contains item
  | none => (((w.profiles.lookup item).bind Profile.slot).map (!·.isEmpty)).getD false

def tooltip (w : ScriptedItems) (item : Text) : Search Journal (List Text) :=
  if w.broken.contains item then throw (.scripted "tooltip unavailable".toList)
  else return (w.tooltips.lookup item).getD []

def source (w : ScriptedItems) : Source Journal where
  describe item := return w.profiles.lookup item
  qualityLabels := w.qualityLabels
  isEquippable item := return w.isEquippable item
  lines item := do
    Journal.noteTooltip
    w.tooltip item
  line item i := do
    Journal.noteLine
    let lines ← w.tooltip item
    return if 1 ≤ i then lines[(i - 1).toNat]? else none

end ScriptedItems

end ItemQuery
