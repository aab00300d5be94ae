import ItemQuery.Attribute.Matching
import ItemQuery.Item.Link
import ItemQuery.Memory
import ItemQuery.Source

/-! The attributes that an item's tooltip answers: its whole text, and how the item is bound. The
bind text only ever stands in the second or the third line. -/
namespace ItemQuery.Attribute

variable {ω : Type}

/-- Any line of the tooltip; reached by a tag only. -/
def tooltip (source : Source ω) : Predicate (Memory ω) where
  id := "tooltip".toList
  declaredTags := some (["tt", "tip", "tooltip"].map String.toList)
  declaredTagOnly := some true
  canSearch _ text := return if text.isEmpty then none else some (.text text)
  evaluate item _ capture := do
    let lines ← .ofWorld (source.lines item)
    matchCapture capture (lines.map some)

/-- Words and what they stand for, which is a bind text as a rule. Nothing else is ever found, and
a word that stands for null is not understood. -/
abbrev BindKeywords := List (Text × Json)

def defaultKeywords : BindKeywords :=
  [("soulbound", "Binds when picked up"), ("bound", "Binds when picked up"),
   ("boe", "Binds when equipped"), ("bop", "Binds when picked up"), ("bou", "Binds when used"),
   ("quest", "Quest Item"), ("boa", "Binds to Battle.net account")].map
    fun (keyword, text) => (keyword.toList, .text text.toList)

def bindLines : List Int := [2, 3]

def BindKeywords.capture? (keywords : BindKeywords) (word : Text) : Option Json :=
  match keywords.lookup word with
  | some .null => none
  | found => found

/-- Looks among lines of the tooltip, up to the first line that is not there. -/
def scanLines (source : Source ω) (item : Text) (sought : Json.Key) : List Int → Search ω Bool
  | [] => return false
  | i :: rest => do
    match ← source.line item i with
    | none => return false
    | some line => if .text line = sought then return true else scanLines source item sought rest

/-- How the item is bound, asked for by a keyword without a tag. Results are remembered by the
item's id. -/
def bind (source : Source ω) (keywords : BindKeywords) (cache : Nat) : Predicate (Memory ω) where
  id := "bind".toList
  declaredTags := some []
  declaredTagOnly := some false
  canSearch _ text := return keywords.capture? text
  evaluate item _ capture := do
    match ← .ofExcept (Link.itemId? item) with
    | none => return false
    | some id =>
      match capture.key? with
      | none => throw .unsuitable
      | some sought =>
        Search.recallOr ⟨cache, sought, id⟩ (.ofWorld (scanLines source item sought bindLines))

end ItemQuery.Attribute
