import ItemQuery.Proofs.Query.Atoms

/-!
The faults that a computation may end in. A query ends in no other faults than those that the
predicates end in when they judge its atoms, whatever is joined and negated around them
(`Registry.evaluate_ends`).
-/

namespace ItemQuery

variable {σ ω α β : Type}

namespace Search

/-! ## How computations end -/

/-- From every state, a computation ends in a value or in a fault of certain kinds. -/
def Ends (Q : α → Prop) (F : Fault → Prop) (x : Search σ α) : Prop :=
  ∀ s, match x s with
    | .ok a _ => Q a
    | .error fault _ => F fault

/-- A computation of which nothing but the faults is of interest. -/
abbrev FaultsIn (F : Fault → Prop) (x : Search σ α) : Prop := Ends (fun _ => True) F x

variable {Q : α → Prop} {R : β → Prop} {F : Fault → Prop}

theorem Ends.pure {a : α} (h : Q a) : Ends Q F (Pure.pure a : Search σ α) := fun _ => h

theorem Ends.throw {fault : Fault} (h : F fault) :
    Ends Q F (MonadExcept.throw fault : Search σ α) :=
  fun _ => h

theorem Ends.ofExcept {x : Except Fault α} (hok : ∀ a, x = .ok a → Q a)
    (herror : ∀ fault, x = .error fault → F fault) : Ends Q F (Search.ofExcept x : Search σ α) := by
  cases x with
  | ok a => exact .pure (hok a rfl)
  | error fault => exact .throw (herror fault rfl)

theorem Ends.bind {x : Search σ α} {f : α → Search σ β} (hx : Ends Q F x)
    (hf : ∀ a, Q a → Ends R F (f a)) : Ends R F (x >>= f) := by
  intro s
  have hs := hx s
  show match EStateM.bind x f s with
    | .ok b _ => R b
    | .error fault _ => F fault
  unfold EStateM.bind
  cases h : x s with
  | ok a s' =>
    rw [h] at hs
    exact hf a hs s'
  | error fault s' =>
    rw [h] at hs
    exact hs

theorem Ends.ite {x y : Search σ α} {b : Bool} (hx : Ends Q F x) (hy : Ends Q F y) :
    Ends Q F (if b then x else y) := by
  cases b with
  | true => exact hx
  | false => exact hy

theorem Ends.ofWorld {x : Search ω α} (h : Ends Q F x) : Ends Q F (Search.ofWorld x) := by
  intro m
  have hm := h m.world
  unfold Search.ofWorld
  cases hx : x m.world with
  | ok a w =>
    rw [hx] at hm
    exact hm
  | error fault w =>
    rw [hx] at hm
    exact hm

theorem FaultsIn.recallOr {compute : Search (Memory ω) Bool} (h : FaultsIn F compute)
    (key : BindKey) : FaultsIn F (Search.recallOr key compute) := by
  have hget : FaultsIn F (get : Search (Memory ω) (Memory ω)) := fun _ => trivial
  refine .bind hget fun m _ => ?_
  cases m.result? key with
  | some found => exact .pure trivial
  | none =>
    have hremember (found : Bool) :
        FaultsIn F (modify (·.remember key found) : Search (Memory ω) Unit) := fun _ => trivial
    exact .bind h fun found _ => .bind (hremember found) fun _ _ => .pure trivial

/-- The reply of a computation that ends in one fault, and in that only under some condition. -/
theorem FaultsIn.reply_cases {x : Search σ α} {fault : Fault} {P : Prop}
    (h : FaultsIn (fun fault' => fault' = fault ∧ P) x) (s : σ) :
    (∃ a, x.reply s = .ok a) ∨ x.reply s = .error fault ∧ P := by
  have hs := h s
  unfold reply
  cases hx : x s with
  | ok a s' => exact .inl ⟨a, rfl⟩
  | error fault' s' =>
    rw [hx] at hs
    exact .inr ⟨by rw [hs.1], hs.2⟩

end Search

open Search (Ends FaultsIn)

/-! ## Faults of a query -/

variable {F : Fault → Prop} {item : Text}

/-- Judging an item by an atom, a predicate ends in faults of certain kinds alone. -/
def Predicate.JudgesIn (F : Fault → Prop) (item : Text) (atom : Atom) (p : Predicate σ) : Prop :=
  FaultsIn F (p.judge item atom.operator atom.text)

/-- What is captured, if anything is, has a property. -/
abbrev Predicate.Captured (good : Json → Prop) (capture? : Option Json) : Prop :=
  ∀ capture, capture? = some capture → good capture

theorem Predicate.judge_ends {good : Json → Prop} {p : Predicate σ} {text : Text}
    (hcan : ∀ operator, Ends (Captured good) F (p.canSearch operator text))
    (heval : ∀ operator capture, good capture → FaultsIn F (p.evaluate item operator capture))
    (operator : Option Text) : FaultsIn F (p.judge item operator text) := by
  refine .bind (hcan _) fun capture? hgood => ?_
  cases capture? with
  | none => exact .pure trivial
  | some capture => exact .bind (heval _ capture (hgood capture rfl)) fun answer _ => .pure trivial

namespace Registry

variable {r : Registry σ}

theorem probe_ends {ps : List (Predicate σ)} {operator : Option Text} {text : Text}
    (h : ∀ p ∈ ps.filter fun p => !p.tagOnly, FaultsIn F (p.judge item operator text)) :
    FaultsIn F (probe item operator text ps) := by
  induction ps with
  | nil => exact .pure trivial
  | cons p ps ih =>
    unfold probe
    cases hp : p.tagOnly with
    | true =>
      rw [List.filter_cons_of_neg (by simp [hp])] at h
      exact ih h
    | false =>
      rw [List.filter_cons_of_pos (by simp [hp])] at h
      obtain ⟨hjudge, hps⟩ := List.forall_mem_cons.mp h
      exact .bind hjudge fun answer _ => .ite (.pure trivial) (ih hps)

theorem evaluateAtom_ends {t : Text}
    (h : ∀ atom, Atom.parse? t = some atom → ∀ p ∈ r.reached atom, p.JudgesIn F item atom)
    (fallback : Bool) : FaultsIn F (r.evaluateAtom item t fallback) := by
  unfold evaluateAtom
  split
  · exact .pure trivial
  · rename_i text operator hparse
    exact probe_ends (h _ hparse)
  · rename_i text tag operator hparse
    cases hresolve : r.resolve? tag with
    | none => exact .pure trivial
    | some p => exact h _ hparse p (by simp [reached, hresolve])

/-- A negation in front is no part of the atom and raises nothing. -/
theorem evaluateTerm_ends {t : Text}
    (h : ∀ atom, Atom.ofTerm? t = some atom → ∀ p ∈ r.reached atom, p.JudgesIn F item atom) :
    FaultsIn F (r.evaluateTerm item t) := by
  unfold evaluateTerm
  unfold Atom.ofTerm? at h
  split
  · exact evaluateAtom_ends (fun atom hatom => by cases hatom) true
  · rename_i c rest htrim
    rw [htrim] at h
    cases hc : isNegation c with
    | true =>
      simp only [hc, ↓reduceIte] at h
      exact .bind (evaluateAtom_ends h true) fun answer _ => .pure trivial
    | false =>
      simp only [hc, Bool.false_eq_true, ↓reduceIte] at h
      exact evaluateAtom_ends h true

theorem evaluateTerms_ends {ts : List Text}
    (h : ∀ atom ∈ Atom.ofTerms ts, ∀ p ∈ r.reached atom, p.JudgesIn F item atom) :
    FaultsIn F (r.evaluateTerms item ts) := by
  induction ts with
  | nil => exact .pure trivial
  | cons t ts ih =>
    have hrest := ih fun atom hatom => h atom (Atom.mem_ofTerms_cons.mpr (.inr hatom))
    have hterm := evaluateTerm_ends fun atom hatom => h atom (Atom.mem_ofTerms_cons.mpr (.inl hatom))
    exact .ite hrest (.bind hterm fun answer _ => .ite hrest (.pure trivial))

theorem evaluateGroups_ends {ts : List Text}
    (h : ∀ atom ∈ Atom.ofTerms (ts.flatMap (Text.split '&')), ∀ p ∈ r.reached atom,
      p.JudgesIn F item atom) :
    FaultsIn F (r.evaluateGroups item ts) := by
  induction ts with
  | nil => exact .pure trivial
  | cons t ts ih =>
    rw [List.flatMap_cons, Atom.ofTerms_append] at h
    have hrest := ih fun atom hatom => h atom (List.mem_append_right _ hatom)
    have hgroup : FaultsIn F (r.evaluateGroup item t) :=
      evaluateTerms_ends fun atom hatom => h atom (List.mem_append_left _ hatom)
    exact .ite hrest (.bind hgroup fun answer _ => .ite (.pure trivial) hrest)

/-- A query ends in no other faults than judging its atoms does. -/
theorem evaluate_ends {query : Text}
    (h : ∀ atom ∈ Atom.ofQuery query, ∀ p ∈ r.reached atom, p.JudgesIn F item atom) :
    FaultsIn F (r.evaluate item query) :=
  .ite (.pure trivial) (evaluateGroups_ends h)

end Registry

end ItemQuery
