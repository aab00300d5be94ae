import ItemQuery.Fault

/-! A value, or everything that is wrong with it. Unlike an exception, a failed part does not keep
the other parts from being looked at: their issues are listed in the order of the parts. -/
namespace ItemQuery

inductive Validated (α : Type) where
  | valid (a : α)
  | invalid (issues : List Issue)

namespace Validated

variable {α β : Type}

def map (f : α → β) : Validated α → Validated β
  | .valid a => .valid (f a)
  | .invalid issues => .invalid issues

/-- Applies what was read so far to the next part. -/
def apply : Validated (α → β) → Validated α → Validated β
  | .valid f, .valid a => .valid (f a)
  | .valid _, .invalid issues => .invalid issues
  | .invalid issues, .valid _ => .invalid issues
  | .invalid issues, .invalid more => .invalid (issues ++ more)

instance : Functor Validated where
  map := Validated.map

instance : Seq Validated where
  seq f a := Validated.apply f (a ())

def fail (defect : Defect) : Validated α := .invalid [⟨[], defect⟩]

/-- The same reading, of a value that stands one step inside another. -/
def within (step : PathStep) : Validated α → Validated α
  | .valid a => .valid a
  | .invalid issues => .invalid (issues.map fun issue => { issue with path := step :: issue.path })

/-- A further reading that is done only of a valid value. -/
def andThen : Validated α → (α → Validated β) → Validated β
  | .valid a, next => next a
  | .invalid issues, _ => .invalid issues

def toExcept : Validated α → Except Fault α
  | .valid a => .ok a
  | .invalid issues => .error (.invalid issues)

end Validated

end ItemQuery
