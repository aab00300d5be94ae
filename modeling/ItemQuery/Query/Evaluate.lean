import ItemQuery.Query.Atom
import ItemQuery.Query.Registry

/-! Evaluating a query for one item. A query is a union of groups joined by `|`, a group an
intersection of terms joined by `&`, and a term an atom that a `!` or `~` in front turns around.
Evaluation goes from left to right and stops as soon as the result is settled. -/
namespace ItemQuery

namespace Registry

variable {σ : Type}

/-- Offers an atom without a tag to the predicates in turn, until one accepts the item. -/
def probe (item : Text) (operator : Option Text) (text : Text) :
    List (Predicate σ) → Search σ Bool
  | [] => return false
  | p :: rest => do
    if p.tagOnly then probe item operator text rest
    else if ← p.judge item operator text then return true
    else probe item operator text rest

/-- Evaluates an atom. What cannot be read, or has a tag that reaches no predicate, gives the
fallback. -/
def evaluateAtom (r : Registry σ) (item t : Text) (fallback : Bool) : Search σ Bool :=
  match Atom.parse? t with
  | none => return fallback
  | some ⟨text, none, operator⟩ => probe item operator text r.predicates
  | some ⟨text, some tag, operator⟩ =>
    match r.resolve? tag with
    | none => return fallback
    | some p => p.judge item operator text

def isNegation (c : Char) : Bool := c == '!' || c == '~'

/-- An atom with a negation in front or without. The fallback is the same for both. -/
def evaluateTerm (r : Registry σ) (item t : Text) : Search σ Bool :=
  match Text.trim t with
  | [] => r.evaluateAtom item [] true
  | c :: rest =>
    if isNegation c then do return !(← r.evaluateAtom item rest true)
    else r.evaluateAtom item (c :: rest) true

/-- Whether an item answers to every term that is not blank. -/
def evaluateTerms (r : Registry σ) (item : Text) : List Text → Search σ Bool
  | [] => return true
  | t :: rest => do
    if (Text.trim t).isEmpty then r.evaluateTerms item rest
    else if ← r.evaluateTerm item t then r.evaluateTerms item rest
    else return false

def evaluateGroup (r : Registry σ) (item t : Text) : Search σ Bool :=
  r.evaluateTerms item (Text.split '&' t)

/-- Whether an item answers to some group that is not blank. -/
def evaluateGroups (r : Registry σ) (item : Text) : List Text → Search σ Bool
  | [] => return false
  | t :: rest => do
    if (Text.trim t).isEmpty then r.evaluateGroups item rest
    else if ← r.evaluateGroup item t then return true
    else r.evaluateGroups item rest

def evaluateUnion (r : Registry σ) (item t : Text) : Search σ Bool :=
  r.evaluateGroups item (Text.split '|' t)

/-- Evaluates a query without regard to case. A blank query accepts every item. -/
def evaluate (r : Registry σ) (item t : Text) : Search σ Bool :=
  if (Text.trim t).isEmpty then return true else r.evaluateUnion item (Text.lower t)

end Registry

end ItemQuery
