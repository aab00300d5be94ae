import ItemQuery.Item.Profile
import ItemQuery.Query.Predicate

/-! Where item data comes from. A source has a state of its own, which its answers may depend on,
and any answer but the quality labels may fail. -/
namespace ItemQuery

structure Source (ω : Type) where
  describe : Text → Search ω (Option Profile)
  /-- In ascending order of tier. -/
  qualityLabels : List Text
  isEquippable : Text → Search ω Bool
  /-- The tooltip from top to bottom. -/
  lines : Text → Search ω (List Text)
  /-- A line of the tooltip, counted from one. -/
  line : Text → Int → Search ω (Option Text)

end ItemQuery
