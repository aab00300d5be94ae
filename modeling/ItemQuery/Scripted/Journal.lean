import ItemQuery.Memory

/-! What scripted collaborators write down: each call of a scripted predicate, in order, and how
often tooltips were read. -/
namespace ItemQuery

inductive Call where
  | canSearch (id : Text) (operator : Option Text) (text : Text)
  | evaluate (id : Text) (item : Text) (operator : Option Text) (capture : Json)

structure Journal where
  calls : List Call
  lineReads : Nat
  tooltipReads : Nat

namespace Journal

def empty : Journal := ⟨[], 0, 0⟩

def note (call : Call) : Search Journal Unit :=
  modify fun j => { j with calls := j.calls ++ [call] }

def noteLine : Search Journal Unit := modify fun j => { j with lineReads := j.lineReads + 1 }

def noteTooltip : Search Journal Unit :=
  modify fun j => { j with tooltipReads := j.tooltipReads + 1 }

end Journal

end ItemQuery
