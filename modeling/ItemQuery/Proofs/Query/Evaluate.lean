import ItemQuery.Proofs.Text.Lower
import ItemQuery.Query.Evaluate

/-!
Equations of evaluation: how lists of terms and groups are evaluated in parts, what a query without
separators comes to, and that an atom counts by its trimmed text alone.
-/

namespace ItemQuery.Registry

variable {σ : Type} (r : Registry σ) (item : Text)

/-! ## Lists of terms and groups -/

theorem evaluateTerms_append (xs ys : List Text) :
    r.evaluateTerms item (xs ++ ys) = (do
      if ← r.evaluateTerms item xs then r.evaluateTerms item ys else return false) := by
  induction xs with
  | nil => simp [evaluateTerms]
  | cons x xs ih =>
    simp only [List.cons_append, evaluateTerms]
    split
    · exact ih
    · rw [bind_assoc]
      congr 1
      funext b
      cases b with
      | true => exact ih
      | false => simp

theorem evaluateGroups_append (xs ys : List Text) :
    r.evaluateGroups item (xs ++ ys) = (do
      if ← r.evaluateGroups item xs then return true else r.evaluateGroups item ys) := by
  induction xs with
  | nil => simp [evaluateGroups]
  | cons x xs ih =>
    simp only [List.cons_append, evaluateGroups]
    split
    · exact ih
    · rw [bind_assoc]
      congr 1
      funext b
      cases b with
      | true => simp
      | false => exact ih

private theorem bind_ite_bool (x : Search σ Bool) :
    (x >>= fun b => if b = true then pure true else pure false) = x := by
  have hpure : (fun b : Bool => if b = true then pure true else (pure false : Search σ Bool)) =
      pure := by
    funext b
    cases b <;> rfl
  rw [hpure, bind_pure]

theorem evaluateTerms_singleton {t : Text} (ht : Text.trim t ≠ []) :
    r.evaluateTerms item [t] = r.evaluateTerm item t := by
  simp only [evaluateTerms, List.isEmpty_iff, ht, ↓reduceIte]
  exact bind_ite_bool _

theorem evaluateGroups_singleton {t : Text} (ht : Text.trim t ≠ []) :
    r.evaluateGroups item [t] = r.evaluateGroup item t := by
  simp only [evaluateGroups, List.isEmpty_iff, ht, ↓reduceIte]
  exact bind_ite_bool _

/-! ## Whole queries -/

theorem evaluate_of_blank {q : Text} (hq : Text.trim q = []) : r.evaluate item q = pure true := by
  simp [evaluate, hq]

theorem evaluate_of_not_blank {q : Text} (hq : Text.trim q ≠ []) :
    r.evaluate item q = r.evaluateUnion item (Text.lower q) := by
  simp [evaluate, hq]

/-- A query without `|` is one group. -/
theorem evaluate_of_no_bar {q : Text} (hq : Text.trim q ≠ []) (hbar : '|' ∉ q) :
    r.evaluate item q = r.evaluateGroup item (Text.lower q) := by
  have hlower : '|' ∉ Text.lower q := by rwa [Text.mem_lower_iff Text.divides_bar.isFixed]
  rw [evaluate_of_not_blank r item hq, evaluateUnion, Text.split_of_not_mem hlower,
    evaluateGroups_singleton]
  rwa [ne_eq, Text.trim_lower_eq_nil_iff]

/-- A query without `|` and `&` is one term. -/
theorem evaluate_of_no_separator {q : Text} (hq : Text.trim q ≠ []) (hbar : '|' ∉ q)
    (hamp : '&' ∉ q) : r.evaluate item q = r.evaluateTerm item (Text.lower q) := by
  have hlower : '&' ∉ Text.lower q := by rwa [Text.mem_lower_iff Text.divides_ampersand.isFixed]
  rw [evaluate_of_no_bar r item hq hbar, evaluateGroup, Text.split_of_not_mem hlower,
    evaluateTerms_singleton]
  rwa [ne_eq, Text.trim_lower_eq_nil_iff]

/-! ## Terms and atoms -/

theorem evaluateAtom_congr {t t' : Text} (h : Text.trim t = Text.trim t') (fallback : Bool) :
    r.evaluateAtom item t fallback = r.evaluateAtom item t' fallback := by
  have hparse : Atom.parse? t = Atom.parse? t' := by
    unfold Atom.parse?
    rw [h]
  unfold evaluateAtom
  rw [hparse]

theorem isNegation_iff {m : Char} : isNegation m = true ↔ m = '!' ∨ m = '~' := by
  simp [isNegation]

/-- A term with a negation in front is the opposite of what follows it. -/
theorem evaluateTerm_of_negation {t rest : Text} {m : Char} (ht : Text.trim t = m :: rest)
    (hm : isNegation m = true) :
    r.evaluateTerm item t = (do return !(← r.evaluateAtom item rest true)) := by
  simp [evaluateTerm, ht, hm]

/-- A term without a negation in front is an atom. -/
theorem evaluateTerm_of_no_negation {t : Text}
    (hm : ∀ m, isNegation m = true → (Text.trim t).head? ≠ some m) :
    r.evaluateTerm item t = r.evaluateAtom item t true := by
  have hatom : r.evaluateAtom item t true = r.evaluateAtom item (Text.trim t) true :=
    r.evaluateAtom_congr item (Text.trim_trim t).symm true
  rw [hatom]
  cases h : Text.trim t with
  | nil => simp [evaluateTerm, h]
  | cons c rest =>
    have hc : isNegation c = false := by
      rw [← Bool.not_eq_true]
      exact fun hc => hm c hc (by simp [h])
    simp [evaluateTerm, h, hc]

end ItemQuery.Registry
