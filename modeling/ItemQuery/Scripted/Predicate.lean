import ItemQuery.Scripted.Journal

/-! Scripted predicates, for rehearsing an engine: they answer from a script and write down each
call. A script may just as well describe an object that no registry takes. -/
namespace ItemQuery

/-- Which texts a scripted predicate understands, and what it captures. -/
inductive Script.Acceptance where
  | any
  | nothing
  /-- Any text, but only without an operator. -/
  | withoutOperator
  | listed (captures : Json)

/-- How a scripted predicate judges an item. -/
inductive Script.Outcome where
  | fails (words : Text)
  /-- By whether the text of the capture is a piece of the item's reference. -/
  | contains
  | fixed (value : Json)

structure Script where
  id : Option Json
  tags : Option Json
  tagOnly : Option Json
  acceptance : Script.Acceptance
  outcome : Script.Outcome
  /-- The operations that are not there or cannot be called. -/
  lacks : List Method

namespace Script

def shown : Text := "<stub>".toList

def idText (s : Script) : Text :=
  match s.id with
  | some (.text t) => t
  | _ => []

def capture (operator : Option Text) (text : Text) : Acceptance → Option Json
  | .any => some (.text text)
  | .nothing => none
  | .withoutOperator => if Operator.isGiven operator then none else some (.text text)
  | .listed captures =>
    match captures with
    | .object members =>
      match members.lookup text with
      | some .null => none
      | found => found
    | _ => none

def canSearch (s : Script) (operator : Option Text) (text : Text) :
    Search Journal (Option Json) := do
  Journal.note (.canSearch s.idText operator text)
  return capture operator text s.acceptance

/-- The judgement as it stands in the script; of it only the truth counts. -/
def judgement (s : Script) (item : Text) (operator : Option Text) (capture : Json) :
    Search Journal Json := do
  Journal.note (.evaluate s.idText item operator capture)
  match s.outcome with
  | .fails words => throw (.scripted words)
  | .contains => return .bool (Text.occursIn capture.display item)
  | .fixed value => return value

def candidate (s : Script) : Candidate (Memory Journal) where
  id := s.id
  tags := s.tags
  tagOnly := s.tagOnly
  canSearch := if .canSearch ∈ s.lacks then none else
    some fun operator text => .ofWorld (s.canSearch operator text)
  evaluate := if .evaluate ∈ s.lacks then none else
    some fun item operator capture => .ofWorld do
      return (← s.judgement item operator capture).isTruthy
  shown := shown

end Script

end ItemQuery
