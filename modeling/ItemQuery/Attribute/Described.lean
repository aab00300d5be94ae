import ItemQuery.Attribute.Matching
import ItemQuery.Memory
import ItemQuery.Number.Literal
import ItemQuery.Source

/-! The attributes that an item's profile answers: its name, its kind, its quality and its level. -/
namespace ItemQuery.Attribute

variable {ω : Type}

/-- The item's display name. -/
def name (source : Source ω) : Predicate (Memory ω) where
  id := "name".toList
  declaredTags := some (["n", "name"].map String.toList)
  declaredTagOnly := some false
  canSearch operator text := return plainCapture operator text
  evaluate item _ capture := do
    match ← .ofWorld (source.describe item) with
    | none => return false
    | some profile => matchCapture capture [profile.name]

/-- The item's kind, the kind within it and the label of its slot. -/
def kind (source : Source ω) : Predicate (Memory ω) where
  id := "type".toList
  declaredTags := some (["t", "type", "slot"].map String.toList)
  declaredTagOnly := some false
  canSearch operator text := return plainCapture operator text
  evaluate item _ capture := do
    match ← .ofWorld (source.describe item) with
    | none => return false
    | some profile => matchCapture capture [profile.kind, profile.subkind, profile.slot]

/-- Compares a known number with a capture. Only a number can be larger or smaller; anything else
is just not equal. -/
def compareCapture {σ : Type} (operator : Option Text) (n : Int) (capture : Json) :
    Search σ Bool :=
  let relation := Relation.ofOperator operator
  match capture.asNumber? with
  | some m => return relation.holds (.int n) m
  | none => if relation = .equal then return false else throw .unsuitable

/-- The tier of the first label that contains a text. -/
def tierFor? (labels : List Text) (text : Text) : Option Nat :=
  labels.findIdx? fun label => Text.occursIn (Text.lower text) (Text.lower label)

/-- The item's quality tier, given by a label or by a number. -/
def quality (source : Source ω) : Predicate (Memory ω) where
  id := "quality".toList
  declaredTags := some (["q", "quality"].map String.toList)
  declaredTagOnly := some false
  canSearch _ text :=
    match tierFor? source.qualityLabels text with
    | some tier => return some (.number (.int tier))
    | none => do return (← .ofExcept (Number.read? text)).map .number
  evaluate item operator capture := do
    match (← .ofWorld (source.describe item)).bind Profile.quality with
    | none => return false
    | some tier => compareCapture operator tier capture

/-- The item's level. -/
def level (source : Source ω) : Predicate (Memory ω) where
  id := "level".toList
  declaredTags := some (["l", "level", "lvl", "ilvl"].map String.toList)
  declaredTagOnly := some false
  canSearch _ text := do return (← .ofExcept (Number.read? text)).map .number
  evaluate item operator capture := do
    match (← .ofWorld (source.describe item)).bind Profile.level with
    | none => return false
    | some level => compareCapture operator level capture

end ItemQuery.Attribute
