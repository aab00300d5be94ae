import ItemQuery.Engine
import ItemQuery.Proofs.Query.Evaluate
import ItemQuery.Proofs.Query.Trace

/-!
Negated queries. A marker in front of a single term turns the answer around and changes nothing
else, also where the term cannot be interpreted, begins with an operator or is blank
(`accepts_negated`).
-/

namespace ItemQuery

namespace Registry

variable {σ : Type}

theorem divides_of_isNegation {m : Char} (hm : isNegation m = true) : Text.Divides m := by
  rcases isNegation_iff.mp hm with rfl | rfl
  · exact Text.divides_exclamation
  · exact Text.divides_tilde

/-- A term that does not begin with a marker is what the atom in it is; a blank one gives the
fallback of atoms. -/
theorem evaluate_of_no_negation (r : Registry σ) (item : Text) {x : Text} (hbar : '|' ∉ x)
    (hamp : '&' ∉ x) (hstart : ∀ m, isNegation m = true → (Text.trim x).head? ≠ some m) :
    r.evaluate item x = r.evaluateAtom item (Text.lower x) true := by
  by_cases hx : Text.trim x = []
  · have hlower : Text.trim (Text.lower x) = Text.trim [] := by
      rw [(Text.trim_lower_eq_nil_iff x).mpr hx]
      rfl
    rw [evaluate_of_blank r item hx, evaluateAtom_congr r item hlower]
    rfl
  · rw [evaluate_of_no_separator r item hx hbar hamp, evaluateTerm_of_no_negation]
    intro m hm
    rw [ne_eq, Text.head?_trim_lower_iff (divides_of_isNegation hm).isFixed]
    exact hstart m hm

/-- A marker in front of a term is never part of an operator: it is the first thing seen. -/
theorem evaluate_marked (r : Registry σ) (item : Text) {m : Char} (hm : isNegation m = true)
    {x : Text} (hbar : '|' ∉ x) (hamp : '&' ∉ x) :
    r.evaluate item (m :: x) = (do return !(← r.evaluateAtom item (Text.lower x) true)) := by
  have hdiv := divides_of_isNegation hm
  have hblank : Text.isBlank m = false := by
    rcases isNegation_iff.mp hm with rfl | rfl <;> decide
  have hne : ∀ c, isNegation c = false → c ≠ m := fun c hc h => by
    rw [h, hm] at hc
    cases hc
  rw [evaluate_of_no_separator r item (Text.trim_ne_nil_of_mem (by simp) hblank)
    (by simp [hbar, hne '|' (by decide)]) (by simp [hamp, hne '&' (by decide)]), hdiv.lower_cons,
    evaluateTerm_of_negation r item (Text.trim_cons_of_not_blank hblank _) hm,
    evaluateAtom_congr r item (Text.trim_trimEnd _)]

theorem evaluate_negated (r : Registry σ) (item : Text) {m : Char} (hm : isNegation m = true)
    {x : Text} (hbar : '|' ∉ x) (hamp : '&' ∉ x)
    (hstart : ∀ m, isNegation m = true → (Text.trim x).head? ≠ some m) :
    r.evaluate item (m :: x) = (do return !(← r.evaluate item x)) := by
  rw [evaluate_marked r item hm hbar hamp, evaluate_of_no_negation r item hbar hamp hstart]

theorem calls_negated (r : Registry σ) (item : Text) {m : Char} (hm : isNegation m = true)
    {x : Text} (hbar : '|' ∉ x) (hamp : '&' ∉ x)
    (hstart : ∀ m, isNegation m = true → (Text.trim x).head? ≠ some m) (s : σ) :
    r.calls item (m :: x) s = r.calls item x s := by
  unfold calls
  rw [evaluate_negated r.traced item hm hbar hamp hstart]
  show (finalState (EStateM.bind (r.traced.evaluate item x) _ (s, []))).2 = _
  unfold EStateM.bind
  cases r.traced.evaluate item x (s, []) <;> rfl

end Registry

/-- Whether the single term is a plain word, a tagged atom, one that begins with an operator, a bare
or unknown tag, or blank: with a marker in front, the opposite answer comes of the same calls, and
the same faults are raised. -/
theorem Engine.accepts_negated {ω : Type} (e : Engine ω) (item : Text) {m : Char}
    (hm : m = '!' ∨ m = '~') {x : Text} (hbar : '|' ∉ x) (hamp : '&' ∉ x)
    (hstart : (Text.trim x).head? ≠ some '!' ∧ (Text.trim x).head? ≠ some '~') :
    e.accepts (some item) (some (m :: x)) = (do return !(← e.accepts (some item) (some x))) ∧
    ∀ s, e.registry.calls item (m :: x) s = e.registry.calls item x s := by
  have hm' : Registry.isNegation m = true := Registry.isNegation_iff.mpr hm
  have hstart' : ∀ c, Registry.isNegation c = true → (Text.trim x).head? ≠ some c := by
    intro c hc
    rcases Registry.isNegation_iff.mp hc with rfl | rfl
    · exact hstart.1
    · exact hstart.2
  exact ⟨e.registry.evaluate_negated item hm' hbar hamp hstart',
    e.registry.calls_negated item hm' hbar hamp hstart'⟩

/-- The marker stands where an operator that begins with it could be read. -/
theorem Engine.accepts_negated_equal :
    let e : Engine Unit := .ofSource Catalog.empty.source ⟨[]⟩
    let item := "|Hitem:7:0|h[Ring]|h".toList
    let x := "= Ring".toList
    '|' ∉ x ∧ '&' ∉ x ∧ (Text.trim x).head? ≠ some '!' ∧ (Text.trim x).head? ≠ some '~' ∧
      e.accepts (some item) (some ('!' :: x)) = (do return !(← e.accepts (some item) (some x))) ∧
      ∀ s, e.registry.calls item ('!' :: x) s = e.registry.calls item x s := by
  intro e item x
  have hbar : '|' ∉ x := by decide
  have hamp : '&' ∉ x := by decide
  have hstart : (Text.trim x).head? ≠ some '!' ∧ (Text.trim x).head? ≠ some '~' := by decide
  exact ⟨hbar, hamp, hstart.1, hstart.2, accepts_negated e item (.inl rfl) hbar hamp hstart⟩

end ItemQuery
