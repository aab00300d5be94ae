import ItemQuery.Proofs.Query.Atoms
import Mathlib.Data.List.Forall2

/-!
Two registries that evaluate the atoms of a query alike evaluate the query alike
(`Registry.evaluate_alike`), and an atom is evaluated alike where the predicates that it reaches
answer alike (`Registry.evaluateRead_alike`). So do registries whose predicates answer alike, place by
place. They may belong to different states and the two runs may be about different items; which
predicates an atom reaches depends on the tags and on who needs one, which have to be the same.
-/

namespace ItemQuery

open Search (Alike)

variable {σ τ : Type}

/-- Two predicates that are reached in the same way and answer alike, the first about `item`, the
second about `item'`. -/
structure Predicate.Alike (R : σ → τ → Prop) (item item' : Text) (p : Predicate σ)
    (q : Predicate τ) : Prop where
  tags : p.tags = q.tags
  tagOnly : p.tagOnly = q.tagOnly
  canSearch : ∀ operator text, Search.Alike R (p.canSearch operator text) (q.canSearch operator text)
  evaluate : ∀ operator capture,
    Search.Alike R (p.evaluate item operator capture) (q.evaluate item' operator capture)

def Registry.Alike (R : σ → τ → Prop) (item item' : Text) (r : Registry σ) (r' : Registry τ) :
    Prop :=
  List.Forall₂ (Predicate.Alike R item item') r.predicates r'.predicates

variable {R : σ → τ → Prop} {item item' : Text}

theorem Predicate.Alike.judge {p : Predicate σ} {q : Predicate τ}
    (h : p.Alike R item item' q) (operator : Option Text) (text : Text) :
    Search.Alike R (p.judge item operator text) (q.judge item' operator text) := by
  refine .bind (h.canSearch _ _) fun capture? => ?_
  cases capture? with
  | none => exact .pure _
  | some capture => exact .bind (h.evaluate _ _) fun answer => .pure _

theorem anyOf_alike {xs : List (Search σ Bool)} {ys : List (Search τ Bool)}
    (h : List.Forall₂ (Search.Alike R) xs ys) : Search.Alike R (.anyOf xs) (.anyOf ys) := by
  induction h with
  | nil => exact .pure _
  | cons hxy _ ih => exact .bind hxy fun answer => .ite (.pure _) ih

/-- The first elements that pass, when related elements pass or fail together. -/
theorem find?_rel {α β : Type} {P : α → β → Prop} {f : α → Bool} {g : β → Bool}
    (hfg : ∀ a b, P a b → f a = g b) {as : List α} {bs : List β} (h : List.Forall₂ P as bs) :
    Option.Rel P (as.find? f) (bs.find? g) := by
  induction h with
  | nil => exact .none
  | @cons a b _ _ hab _ ih =>
    rw [List.find?_cons, List.find?_cons, hfg a b hab]
    cases g b with
    | true => exact .some hab
    | false => exact ih

namespace Registry

/-! ## The predicates that an atom reaches -/

variable {r : Registry σ} {r' : Registry τ}

theorem resolve?_rel {P : Predicate σ → Predicate τ → Prop} (htags : ∀ p q, P p q → p.tags = q.tags)
    (h : List.Forall₂ P r.predicates r'.predicates) (tag : Text) :
    Option.Rel P (r.resolve? tag) (r'.resolve? tag) := by
  have hexact := find?_rel (f := hasAlias (Text.lower tag)) (g := hasAlias (Text.lower tag))
    (fun p q hpq => by simp [hasAlias, htags p q hpq]) h
  have hfrom := find?_rel (f := hasAliasFrom (Text.lower tag)) (g := hasAliasFrom (Text.lower tag))
    (fun p q hpq => by simp [hasAliasFrom, htags p q hpq]) h
  simp only [Registry.resolve?]
  generalize r.predicates.find? (hasAlias (Text.lower tag)) = u,
    r'.predicates.find? (hasAlias (Text.lower tag)) = v at hexact ⊢
  cases hexact with
  | none => exact hfrom
  | some hpq => exact .some hpq

/-- Where two registries list related predicates, an atom reaches related ones: what it reaches
depends on the tags and on who needs one. -/
theorem reached_rel {P : Predicate σ → Predicate τ → Prop} (htags : ∀ p q, P p q → p.tags = q.tags)
    (honly : ∀ p q, P p q → p.tagOnly = q.tagOnly) (h : List.Forall₂ P r.predicates r'.predicates)
    (atom : Atom) : List.Forall₂ P (r.reached atom) (r'.reached atom) := by
  unfold reached
  cases atom.tag with
  | none => exact List.rel_filter (fun p q hpq => by simp [honly p q hpq]) h
  | some tag =>
    have hresolved := resolve?_rel htags h tag
    dsimp only
    generalize r.resolve? tag = u, r'.resolve? tag = v at hresolved
    cases hresolved with
    | none => exact .nil
    | some hpq => exact .cons hpq .nil

/-- An atom is evaluated alike where the predicates that it reaches answer alike. -/
theorem evaluateRead_alike {atom : Atom}
    (h : List.Forall₂ (Predicate.Alike R item item') (r.reached atom) (r'.reached atom))
    (fallback : Bool) :
    Search.Alike R (r.evaluateRead item fallback atom) (r'.evaluateRead item' fallback atom) := by
  unfold reached at h
  unfold Registry.evaluateRead
  cases htag : atom.tag with
  | none =>
    rw [htag] at h
    dsimp only
    rw [probe_eq, probe_eq]
    exact anyOf_alike (List.rel_map (fun p q hpq => hpq.judge atom.operator atom.text) h)
  | some tag =>
    rw [htag] at h
    dsimp only at h ⊢
    generalize r.resolve? tag = u, r'.resolve? tag = v at h ⊢
    cases u with
    | none =>
      cases v with
      | none => exact .pure _
      | some q => cases h
    | some p =>
      cases v with
      | none => cases h
      | some q =>
        cases h with
        | cons hpq _ => exact hpq.judge _ _

theorem Alike.evaluateRead (h : r.Alike R item item' r') (fallback : Bool) (atom : Atom) :
    Search.Alike R (r.evaluateRead item fallback atom) (r'.evaluateRead item' fallback atom) :=
  evaluateRead_alike (reached_rel (fun _ _ h => h.tags) (fun _ _ h => h.tagOnly) h atom) fallback

/-! ## From atoms to queries -/

theorem evaluateAtom_alike {t : Text} {fallback : Bool}
    (h : ∀ atom, Atom.parse? t = some atom →
      Search.Alike R (r.evaluateRead item fallback atom) (r'.evaluateRead item' fallback atom)) :
    Search.Alike R (r.evaluateAtom item t fallback) (r'.evaluateAtom item' t fallback) := by
  rw [evaluateAtom_eq, evaluateAtom_eq]
  cases hparse : Atom.parse? t with
  | none => exact .pure _
  | some atom => exact h atom hparse

/-- A negation in front is no part of the atom and turns both answers around. -/
theorem evaluateTerm_alike {t : Text}
    (h : ∀ atom, Atom.ofTerm? t = some atom →
      Search.Alike R (r.evaluateRead item true atom) (r'.evaluateRead item' true atom)) :
    Search.Alike R (r.evaluateTerm item t) (r'.evaluateTerm item' t) := by
  unfold Registry.evaluateTerm
  unfold Atom.ofTerm? at h
  split
  · exact evaluateAtom_alike fun atom hatom => by cases hatom
  · rename_i c rest htrim
    rw [htrim] at h
    cases hc : isNegation c with
    | true =>
      simp only [hc, ↓reduceIte] at h
      exact .bind (evaluateAtom_alike h) fun answer => .pure _
    | false =>
      simp only [hc, Bool.false_eq_true, ↓reduceIte] at h
      exact evaluateAtom_alike h

theorem evaluateTerms_alike {ts : List Text}
    (h : ∀ atom ∈ Atom.ofTerms ts,
      Search.Alike R (r.evaluateRead item true atom) (r'.evaluateRead item' true atom)) :
    Search.Alike R (r.evaluateTerms item ts) (r'.evaluateTerms item' ts) := by
  induction ts with
  | nil => exact .pure _
  | cons t ts ih =>
    have hrest := ih fun atom hatom => h atom (Atom.mem_ofTerms_cons.mpr (.inr hatom))
    have hterm := evaluateTerm_alike fun atom hatom => h atom (Atom.mem_ofTerms_cons.mpr (.inl hatom))
    exact .ite hrest (.bind hterm fun answer => .ite hrest (.pure _))

theorem evaluateGroups_alike {ts : List Text}
    (h : ∀ atom ∈ Atom.ofTerms (ts.flatMap (Text.split '&')),
      Search.Alike R (r.evaluateRead item true atom) (r'.evaluateRead item' true atom)) :
    Search.Alike R (r.evaluateGroups item ts) (r'.evaluateGroups item' ts) := by
  induction ts with
  | nil => exact .pure _
  | cons t ts ih =>
    rw [List.flatMap_cons, Atom.ofTerms_append] at h
    have hrest := ih fun atom hatom => h atom (List.mem_append_right _ hatom)
    have hgroup : Search.Alike R (r.evaluateGroup item t) (r'.evaluateGroup item' t) :=
      evaluateTerms_alike fun atom hatom => h atom (List.mem_append_left _ hatom)
    exact .ite hrest (.bind hgroup fun answer => .ite (.pure _) hrest)

/-- Where the atoms of a query are evaluated alike, the query is. -/
theorem evaluate_alike {query : Text}
    (h : ∀ atom ∈ Atom.ofQuery query,
      Search.Alike R (r.evaluateRead item true atom) (r'.evaluateRead item' true atom)) :
    Search.Alike R (r.evaluate item query) (r'.evaluate item' query) :=
  .ite (.pure _) (evaluateGroups_alike h)

theorem Alike.evaluateAtom (h : r.Alike R item item' r') (t : Text) (fallback : Bool) :
    Search.Alike R (r.evaluateAtom item t fallback) (r'.evaluateAtom item' t fallback) :=
  evaluateAtom_alike fun atom _ => h.evaluateRead fallback atom

theorem Alike.evaluateTerm (h : r.Alike R item item' r') (t : Text) :
    Search.Alike R (r.evaluateTerm item t) (r'.evaluateTerm item' t) :=
  evaluateTerm_alike fun atom _ => h.evaluateRead true atom

theorem Alike.evaluateTerms (h : r.Alike R item item' r') (ts : List Text) :
    Search.Alike R (r.evaluateTerms item ts) (r'.evaluateTerms item' ts) :=
  evaluateTerms_alike fun atom _ => h.evaluateRead true atom

theorem Alike.evaluateGroups (h : r.Alike R item item' r') (ts : List Text) :
    Search.Alike R (r.evaluateGroups item ts) (r'.evaluateGroups item' ts) :=
  evaluateGroups_alike fun atom _ => h.evaluateRead true atom

theorem Alike.evaluate (h : r.Alike R item item' r') (query : Text) :
    Search.Alike R (r.evaluate item query) (r'.evaluate item' query) :=
  evaluate_alike fun atom _ => h.evaluateRead true atom

end Registry

end ItemQuery
