import ItemQuery.Engine
import ItemQuery.Proofs.Query.Evaluate
import ItemQuery.Proofs.Query.Trace

/-!
Queries joined by `|` and `&`. Evaluating a joined query is evaluating its left part and then, only
where that has not settled the result, its right part from the state that the left one leaves
(`evaluate_joined`). The whole query is lowered before it is split; neither separator lets the end
of a word on one side be seen from the other.
-/

namespace ItemQuery.Registry

variable {σ : Type}

theorem evaluate_bar (r : Registry σ) (item : Text) {a b : Text} (ha : Text.trim a ≠ [])
    (hb : Text.trim b ≠ []) :
    r.evaluate item (a ++ '|' :: b) = (do
      if ← r.evaluate item a then return true else r.evaluate item b) := by
  have hab : Text.trim (a ++ '|' :: b) ≠ [] :=
    Text.trim_ne_nil_of_mem (c := '|') (by simp) (by decide)
  rw [evaluate_of_not_blank r item hab, evaluate_of_not_blank r item ha,
    evaluate_of_not_blank r item hb, Text.divides_bar.lower_append]
  simp only [evaluateUnion, Text.split_append, evaluateGroups_append]

theorem evaluate_ampersand (r : Registry σ) (item : Text) {a b : Text} (ha : Text.trim a ≠ [])
    (hb : Text.trim b ≠ []) (hbar : '|' ∉ a) (hbar' : '|' ∉ b) :
    r.evaluate item (a ++ '&' :: b) = (do
      if ← r.evaluate item a then r.evaluate item b else return false) := by
  have hab : Text.trim (a ++ '&' :: b) ≠ [] :=
    Text.trim_ne_nil_of_mem (c := '&') (by simp) (by decide)
  rw [evaluate_of_no_bar r item hab (by simp [hbar, hbar']), evaluate_of_no_bar r item ha hbar,
    evaluate_of_no_bar r item hb hbar', Text.divides_ampersand.lower_append]
  simp only [evaluateGroup, Text.split_append, evaluateTerms_append]

/-- The calls of two evaluations of which the second is only made when the first gives `b`. -/
private theorem calls_of_traced {r : Registry σ} {item a b q : Text} (settled : Bool)
    (h : r.traced.evaluate item q = (do
      let answer ← r.traced.evaluate item a
      if answer = settled then return settled else r.traced.evaluate item b)) (s : σ) :
    r.calls item q s = r.calls item a s ++ match r.evaluate item a s with
      | .ok answer s' => if answer = settled then [] else r.calls item b s'
      | .error _ _ => [] := by
  have hq : r.calls item q s = (finalState (r.traced.evaluate item q (s, []))).2 := rfl
  rw [hq, h]
  show (finalState (EStateM.bind (r.traced.evaluate item a) _ (s, []))).2 = _
  rw [EStateM.bind, evaluate_traced]
  cases r.evaluate item a s with
  | error fault s' => simp [finalState]
  | ok answer s' =>
    by_cases hanswer : answer = settled
    · simp [hanswer, finalState, pure, EStateM.pure]
    · simp only [hanswer, ↓reduceIte, evaluate_traced]
      cases r.evaluate item b s' <;> simp [finalState]

/-- Joined queries, with everything that can be seen of an evaluation: its answer or fault and its
final state are those of the computation on the right, and so are its calls. -/
theorem evaluate_joined (r : Registry σ) (item : Text) {a b : Text} (ha : Text.trim a ≠ [])
    (hb : Text.trim b ≠ []) :
    r.evaluate item (a ++ '|' :: b) = (do
        if ← r.evaluate item a then return true else r.evaluate item b) ∧
    (∀ s, r.calls item (a ++ '|' :: b) s = match r.evaluate item a s with
      | .ok false s' => r.calls item a s ++ r.calls item b s'
      | _ => r.calls item a s) ∧
    ('|' ∉ a → '|' ∉ b →
      r.evaluate item (a ++ '&' :: b) = (do
        if ← r.evaluate item a then r.evaluate item b else return false) ∧
      ∀ s, r.calls item (a ++ '&' :: b) s = match r.evaluate item a s with
        | .ok true s' => r.calls item a s ++ r.calls item b s'
        | _ => r.calls item a s) := by
  refine ⟨r.evaluate_bar item ha hb, fun s => ?_, fun hbar hbar' =>
    ⟨r.evaluate_ampersand item ha hb hbar hbar', fun s => ?_⟩⟩
  · rw [calls_of_traced true (r.traced.evaluate_bar item ha hb)]
    rcases r.evaluate item a s with ⟨_ | _, s'⟩ | ⟨fault, s'⟩ <;> simp
  · have htraced : r.traced.evaluate item (a ++ '&' :: b) = (do
        let answer ← r.traced.evaluate item a
        if answer = false then return false else r.traced.evaluate item b) := by
      rw [r.traced.evaluate_ampersand item ha hb hbar hbar']
      congr 1
      funext answer
      cases answer <;> rfl
    rw [calls_of_traced false htraced]
    rcases r.evaluate item a s with ⟨_ | _, s'⟩ | ⟨fault, s'⟩ <;> simp

/-- The left part ends in a letter that is lowered differently at the end of a word. -/
theorem evaluate_joined_wordEnd :
    let r : Registry (Memory Unit) := Engine.builtIn Catalog.empty.source ⟨[]⟩
    let item := "|Hitem:7:0|h[Ring]|h".toList
    let a := "n:ΟΔΟΣ".toList
    let b := "!boe".toList
    Text.trim a ≠ [] ∧ Text.trim b ≠ [] ∧ '|' ∉ a ∧ '|' ∉ b ∧
      r.evaluate item (a ++ '|' :: b) =
        (do if ← r.evaluate item a then return true else r.evaluate item b) ∧
      r.evaluate item (a ++ '&' :: b) =
        (do if ← r.evaluate item a then r.evaluate item b else return false) := by
  intro r item a b
  have ha : Text.trim a ≠ [] := by decide
  have hb : Text.trim b ≠ [] := by decide
  have hbar : '|' ∉ a := by decide
  have hbar' : '|' ∉ b := by decide
  exact ⟨ha, hb, hbar, hbar', (evaluate_joined r item ha hb).1,
    ((evaluate_joined r item ha hb).2.2 hbar hbar').1⟩

end ItemQuery.Registry
