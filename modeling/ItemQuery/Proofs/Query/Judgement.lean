import ItemQuery.Proofs.Search
import ItemQuery.Query.Predicate

/-!
Judging an item by one predicate. The predicate is asked with one spelling of the operator's meaning,
and for inequality about equality; what it answers, and nothing else, is then turned around
(`Predicate.reply_judge_of_captured`, `Predicate.reply_judge_notEqual_iff`).
-/

namespace ItemQuery

namespace Operator

/-- Whether an operator is judged as equality and turned around. -/
def inverts (op? : Option Text) : Bool := normalize op? == some notEqual

/-- The operator that a predicate is asked with. -/
def asked (op? : Option Text) : Option Text := if inverts op? then none else normalize op?

end Operator

open Operator (asked inverts)

namespace Predicate

variable {σ : Type} {p : Predicate σ} {item x : Text} {op? : Option Text} {s s' : σ}

/-- A predicate is not told how its operator was spelled. -/
theorem judge_of_normalize_eq {op?' : Option Text}
    (h : Operator.normalize op? = Operator.normalize op?') :
    p.judge item op? x = p.judge item op?' x := by
  unfold judge
  rw [h]

/-- A predicate that understands two texts alike does not tell them apart. -/
theorem judge_of_canSearch_eq {y : Text}
    (h : p.canSearch (asked op?) x = p.canSearch (asked op?) y) :
    p.judge item op? x = p.judge item op? y := by
  show (p.canSearch (asked op?) x >>= _) = (p.canSearch (asked op?) y >>= _)
  rw [h]

/-- What a predicate does not understand is false under every operator. -/
theorem judge_of_refuses (h : p.canSearch (asked op?) x = pure none) :
    p.judge item op? x = pure false := by
  show (p.canSearch (asked op?) x >>= _) = _
  rw [h]
  rfl

theorem reply_judge_of_captured {capture : Json}
    (h : p.canSearch (asked op?) x s = .ok (some capture) s') :
    (p.judge item op? x).reply s =
      ((p.evaluate item (asked op?) capture).reply s').map (· != inverts op?) := by
  rw [← Search.reply_map]
  unfold Search.reply
  rw [show p.judge item op? x s = _ from Search.bind_of_ok h _]
  rfl

theorem reply_judge_of_refused (h : p.canSearch (asked op?) x s = .ok none s') :
    (p.judge item op? x).reply s = .ok false := by
  unfold Search.reply
  rw [show p.judge item op? x s = _ from Search.bind_of_ok h _]
  rfl

theorem reply_judge_of_fault {fault : Fault} (h : p.canSearch (asked op?) x s = .error fault s') :
    (p.judge item op? x).reply s = .error fault := by
  unfold Search.reply
  rw [show p.judge item op? x s = _ from Search.bind_of_error h _]

/-- An item is judged "not equal" exactly when the predicate understands the text and does not judge
the item equal. -/
theorem reply_judge_notEqual_iff (p : Predicate σ) (item x : Text) (s : σ) :
    (p.judge item (some Operator.notEqual) x).reply s = .ok true ↔
      (∃ capture s', p.canSearch none x s = .ok (some capture) s') ∧
        (p.judge item none x).reply s = .ok false := by
  cases hcan : p.canSearch none x s with
  | error fault s' =>
    have hfault : (p.judge item (some Operator.notEqual) x).reply s = .error fault :=
      reply_judge_of_fault hcan
    simp [hfault]
  | ok capture? s' =>
    cases capture? with
    | none =>
      have hrefused : (p.judge item (some Operator.notEqual) x).reply s = .ok false :=
        reply_judge_of_refused hcan
      simp [hrefused]
    | some capture =>
      have hdifferent : (p.judge item (some Operator.notEqual) x).reply s =
          ((p.evaluate item none capture).reply s').map (· != true) :=
        reply_judge_of_captured hcan
      have hequal : (p.judge item none x).reply s =
          ((p.evaluate item none capture).reply s').map (· != false) :=
        reply_judge_of_captured hcan
      rw [hdifferent, hequal]
      cases (p.evaluate item none capture).reply s' with
      | error fault => simp [Except.map]
      | ok answer => cases answer <;> simp [Except.map]

end Predicate

end ItemQuery
