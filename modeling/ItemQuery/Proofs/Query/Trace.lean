import ItemQuery.Proofs.Query.Alike
import ItemQuery.Scripted.Journal

/-!
The calls that an evaluation makes. A traced predicate answers as before and writes each call down
beside the state. Tracing changes no answer and no state, and what is written down does not depend
on what was there before (`evaluate_traced`).
-/

namespace ItemQuery

variable {σ α κ : Type}

/-- A computation of which a note is made. -/
def Search.noting (note : κ) (x : Search σ α) : Search (σ × List κ) α := fun (s, log) =>
  match x s with
  | .ok a s => .ok a (s, log ++ [note])
  | .error fault s => .error fault (s, log ++ [note])

/-- Without the notes, nothing is changed by making them. -/
theorem Search.noting_forget (note : κ) (x : Search σ α) :
    Alike (fun (s : σ) (t : σ × List κ) => s = t.1) x (.noting note x) := by
  rintro s ⟨t, log⟩ rfl
  simp only [Search.noting]
  cases x s with
  | ok a s => exact .ok rfl
  | error fault s => exact .error rfl

def Predicate.traced (p : Predicate σ) : Predicate (σ × List Call) where
  id := p.id
  declaredTags := p.declaredTags
  declaredTagOnly := p.declaredTagOnly
  canSearch operator text := .noting (.canSearch p.id operator text) (p.canSearch operator text)
  evaluate item operator capture :=
    .noting (.evaluate p.id item operator capture) (p.evaluate item operator capture)

namespace Registry

def traced (r : Registry σ) : Registry (σ × List Call) := ⟨r.predicates.map Predicate.traced⟩

/-- The state that an outcome leaves. -/
def finalState {ε : Type} : EStateM.Result ε σ α → σ
  | .ok _ s => s
  | .error _ s => s

/-- The calls of predicates that evaluating a query makes, in order. -/
def calls (r : Registry σ) (item query : Text) (s : σ) : List Call :=
  (finalState (r.traced.evaluate item query (s, []))).2

/-! ## Tracing is not seen -/

/-- Two traced states that agree but for what one of them had written down before. -/
def Behind (log : List Call) (s t : σ × List Call) : Prop := t = (s.1, log ++ s.2)

private theorem noting_behind (log : List Call) (call : Call) (x : Search σ α) :
    Search.Alike (Behind log) (.noting call x) (.noting call x) := by
  rintro ⟨s, l⟩ t rfl
  simp only [Search.noting]
  cases x s with
  | ok a s => exact .ok (by simp [Behind])
  | error fault s => exact .error (by simp [Behind])

theorem traced_behind (r : Registry σ) (item : Text) (log : List Call) :
    r.traced.Alike (Behind log) item item r.traced := by
  refine List.forall₂_same.mpr fun p hp => ?_
  obtain ⟨p, -, rfl⟩ := List.mem_map.mp hp
  exact ⟨rfl, rfl, fun _ _ => noting_behind _ _ _, fun _ _ => noting_behind _ _ _⟩

theorem traced_forget (r : Registry σ) (item : Text) :
    r.Alike (fun (s : σ) (t : σ × List Call) => s = t.1) item item r.traced := by
  unfold Registry.Alike traced
  rw [List.forall₂_map_right_iff]
  exact List.forall₂_same.mpr fun p _ =>
    ⟨rfl, rfl, fun _ _ => Search.noting_forget _ _, fun _ _ => Search.noting_forget _ _⟩

/-- Evaluation in a traced registry is evaluation, with its calls put after those before. -/
theorem evaluate_traced (r : Registry σ) (item query : Text) (s : σ) (log : List Call) :
    r.traced.evaluate item query (s, log) = match r.evaluate item query s with
      | .ok b s' => .ok b (s', log ++ r.calls item query s)
      | .error fault s' => .error fault (s', log ++ r.calls item query s) := by
  have hforget := (r.traced_forget item).evaluate query s (s, []) rfl
  have hbehind := (r.traced_behind item log).evaluate query (s, []) (s, log) (by simp [Behind])
  unfold calls
  generalize r.evaluate item query s = u, r.traced.evaluate item query (s, []) = v,
    r.traced.evaluate item query (s, log) = w at hforget hbehind
  cases hforget with
  | ok h => cases hbehind with | ok h' => subst h; rw [h']; rfl
  | error h => cases hbehind with | error h' => subst h; rw [h']; rfl

end Registry

end ItemQuery
