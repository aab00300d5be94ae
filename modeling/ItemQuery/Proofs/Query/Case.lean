import ItemQuery.Engine
import ItemQuery.Proofs.Query.Evaluate
import ItemQuery.Proofs.Query.Trace
import ItemQuery.Proofs.Text.Case

/-!
Queries without regard to case. Of a query nothing counts but its small form: two queries with one
small form are evaluated alike, call by call (`Registry.evaluate_of_lower_eq`). A query has the small
form of its own small form, and the case of ASCII letters is not seen in it at all.
-/

namespace ItemQuery

namespace Registry

variable {σ : Type}

/-- Queries with one small form are blank together. -/
theorem evaluate_of_lower_eq (r : Registry σ) (item : Text) {q q' : Text}
    (h : Text.lower q = Text.lower q') : r.evaluate item q = r.evaluate item q' := by
  have hblank : Text.trim q = [] ↔ Text.trim q' = [] := by
    rw [← Text.trim_lower_eq_nil_iff, h, Text.trim_lower_eq_nil_iff]
  by_cases hq : Text.trim q = []
  · rw [r.evaluate_of_blank item hq, r.evaluate_of_blank item (hblank.mp hq)]
  · have hq' : Text.trim q' ≠ [] := fun hq' => hq (hblank.mpr hq')
    rw [r.evaluate_of_not_blank item hq, r.evaluate_of_not_blank item hq', h]

/-- A traced registry is a registry like any other. -/
theorem calls_of_lower_eq (r : Registry σ) (item : Text) {q q' : Text}
    (h : Text.lower q = Text.lower q') (s : σ) : r.calls item q s = r.calls item q' s := by
  unfold calls
  rw [r.traced.evaluate_of_lower_eq item h]

end Registry

/-- Case does not count: queries with one small form get the same answer or fault, from the same
calls, and leave the same state. That holds of a query and its small form, and of any two queries
that differ at most in the case of ASCII letters. -/
theorem Engine.accepts_ignoringCase {σ ω : Type} (r : Registry σ) (e : Engine ω) (item : Text) :
    (∀ q q', Text.lower q = Text.lower q' →
      r.evaluate item q = r.evaluate item q' ∧ ∀ s, r.calls item q s = r.calls item q' s) ∧
    (∀ q, e.accepts (some item) (some q) = e.accepts (some item) (some (Text.lower q)) ∧
      ∀ s, e.registry.calls item q s = e.registry.calls item (Text.lower q) s) ∧
    ∀ q q', q.map Char.toLower = q'.map Char.toLower →
      e.accepts (some item) (some q) = e.accepts (some item) (some q') ∧
      ∀ s, e.registry.calls item q s = e.registry.calls item q' s := by
  refine ⟨fun q q' h => ?_, fun q => ?_, fun q q' h => ?_⟩
  · exact ⟨r.evaluate_of_lower_eq item h, r.calls_of_lower_eq item h⟩
  · have h := (Text.lower_lower q).symm
    exact ⟨e.registry.evaluate_of_lower_eq item h, e.registry.calls_of_lower_eq item h⟩
  · have h := Text.lower_eq_of_map_toLower h
    exact ⟨e.registry.evaluate_of_lower_eq item h, e.registry.calls_of_lower_eq item h⟩

/-- The first two queries differ in letters beyond ASCII, one of which is lowered to two characters
and one differently at the end of a word; the last two in the letters around a `Σ` that is none. -/
theorem Engine.accepts_ignoringCase_wordEnd :
    let r : Registry (Memory Unit) := Engine.builtIn Catalog.empty.source ⟨[]⟩
    let e : Engine Unit := .ofSource Catalog.empty.source ⟨[]⟩
    let item := "|Hitem:7:0|h[Ring]|h".toList
    let q := "n:İΟΔΟΣ & Q>=Rare".toList
    let q' := "N:i̇οδος & q>=rARE".toList
    let p := "AΣb|!Boe".toList
    let p' := "aΣB|!BOE".toList
    Text.lower q = Text.lower q' ∧ p.map Char.toLower = p'.map Char.toLower ∧
      r.evaluate item q = r.evaluate item q' ∧
      e.accepts (some item) (some p) = e.accepts (some item) (some p') := by
  intro r e item q q' p p'
  have hq : Text.lower q = Text.lower q' := by decide +kernel
  have hp : p.map Char.toLower = p'.map Char.toLower := by decide +kernel
  have h := accepts_ignoringCase r e item
  exact ⟨hq, hp, (h.1 q q' hq).1, (h.2.2 p p' hp).1⟩

end ItemQuery
