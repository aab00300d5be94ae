import ItemQuery.Proofs.Query.Extension
import ItemQuery.Proofs.Query.Grammar
import ItemQuery.Proofs.Query.History

/-!
Aliases as tags. A registry takes any text that is not empty for an alias, but only letters and digits
are read as a tag in front of a colon. An alias of letters and digits that no earlier predicate bears
hands the text behind it to its predicate (`Registry.evaluateAtom_of_alias`); any other alias never
reads as itself, and its predicate may not be asked at all.
-/

namespace ItemQuery.Registry

variable {σ : Type}

open Atom (IsTag IsText parse?)

theorem ne_nil_of_mem_tags {history : List (Candidate σ)} {p : Predicate σ} {tag : Text}
    (hp : p ∈ (after history).predicates) (htag : tag ∈ p.tags) : tag ≠ [] := by
  rw [after_eq_ofList] at hp
  obtain ⟨c, -, hcheck⟩ := exists_of_mem_accepted (mem_of_mem_ofList hp)
  exact (Candidate.tags_of_check hcheck).2 tag htag

/-- Whole aliases come first, so those that only begin with the tag do not matter. -/
theorem resolve?_of_first {r : Registry σ} {earlier later : List (Predicate σ)} {p : Predicate σ}
    {tag : Text} (hsplit : r.predicates = earlier ++ p :: later) (htag : p.NamedBy tag)
    (hfirst : ∀ q ∈ earlier, ¬q.NamedBy tag) : r.resolve? tag = some p := by
  rw [resolve?_eq, hsplit, List.find?_append, find?_hasAlias_eq_none.mpr hfirst,
    List.find?_cons_of_pos (hasAlias_iff.mpr htag)]
  rfl

theorem resolve?_lower (r : Registry σ) (tag : Text) :
    r.resolve? (Text.lower tag) = r.resolve? tag := by
  rw [resolve?_eq, resolve?_eq, Text.lower_lower]

/-- A tag in front of a text hands the text to the predicate that it reaches. -/
theorem evaluateAtom_tagged {r : Registry σ} {tag x : Text} {p : Predicate σ} (htag : IsTag tag)
    (hx : IsText x) (hp : r.resolve? tag = some p) (item : Text) (fallback : Bool) :
    r.evaluateAtom item (tag ++ ':' :: x) fallback = p.judge item none x := by
  rw [evaluateAtom_eq, hx.parse?_tagged htag]
  dsimp only [evaluateRead]
  rw [resolve?_lower, hp]

/-- An alias reads as a tag in front of a text exactly when it is made of letters and digits, and then
an atom with it is judged by the first predicate that bears it, about the text alone. -/
theorem evaluateAtom_of_alias (history : List (Candidate σ)) {earlier later : List (Predicate σ)}
    {p : Predicate σ} (hsplit : (after history).predicates = earlier ++ p :: later) {tag : Text}
    (htag : tag ∈ p.tags) (hfirst : ∀ q ∈ earlier, ¬q.NamedBy tag) {x : Text} (hx : IsText x)
    (item : Text) (fallback : Bool) :
    ((∀ c ∈ tag, Text.isAlphanumeric c = true) →
      (after history).evaluateAtom item (tag ++ ':' :: x) fallback = p.judge item none x) ∧
    ((∃ atom, parse? (tag ++ ':' :: x) = some atom ∧ atom.tag = some (Text.lower tag)) ↔
      ∀ c ∈ tag, Text.isAlphanumeric c = true) := by
  have hne : tag ≠ [] := ne_nil_of_mem_tags (by rw [hsplit]; simp) htag
  have hresolve := resolve?_of_first hsplit ⟨tag, htag, rfl⟩ hfirst
  refine ⟨fun halnum => evaluateAtom_tagged ⟨hne, halnum⟩ hx hresolve item fallback, ?_, ?_⟩
  · rintro ⟨atom, hatom, htag⟩
    exact (Atom.isTag_of_parse? hatom htag).isAlphanumeric
  · intro halnum
    exact ⟨_, hx.parse?_tagged ⟨hne, halnum⟩, rfl⟩

/-- An alias that is lowered differently at its end, borne by the second of two predicates. -/
theorem evaluateAtom_of_alias_wordEnd :
    let history : List (Candidate (Memory Journal)) :=
      [(Script.seeking "title" ["ΛΟΓΟΣ2"] false).candidate,
        (Script.seeking "word" ["w", "ΛΟΓΟΣ"] true).candidate]
    let tag := "ΛΟΓΟΣ".toList
    let x := "item".toList
    ∃ p q, (after history).predicates = [q] ++ p :: [] ∧ tag ∈ p.tags ∧
      (∀ q' ∈ [q], ¬q'.NamedBy tag) ∧ IsText x ∧ (∀ c ∈ tag, Text.isAlphanumeric c = true) ∧
      (after history).evaluateAtom "item:7".toList (tag ++ ':' :: x) false =
        p.judge "item:7".toList none x := by
  intro history tag x
  obtain ⟨p, q, hsplit, hp, hq⟩ : ∃ p q, (after history).predicates = [q] ++ p :: [] ∧
      p.tags = ["w", "ΛΟΓΟΣ"].map String.toList ∧ q.tags = ["ΛΟΓΟΣ2".toList] :=
    ⟨_, _, rfl, rfl, rfl⟩
  have htag : tag ∈ p.tags := by
    rw [hp]
    decide
  have hfirst : ∀ q' ∈ [q], ¬q'.NamedBy tag := by
    simp only [List.forall_mem_singleton, Predicate.NamedBy, hq]
    decide
  have hx : IsText x := ⟨by decide, by decide, by decide⟩
  have halnum : ∀ c ∈ tag, Text.isAlphanumeric c = true := List.all_eq_true.mp (by decide)
  exact ⟨p, q, hsplit, htag, hfirst, hx, halnum,
    (evaluateAtom_of_alias history hsplit htag hfirst hx "item:7".toList false).1 halnum⟩

/-- The only predicate there is bears the alias and would accept the item for the text. It is not
asked: the alias and the text are read as one untagged text. -/
theorem evaluateAtom_of_alias_hyphen :
    let history : List (Candidate (Memory Journal)) :=
      [(Script.seeking "word" ["item-word"] true).candidate]
    let tag := "item-word".toList
    let x := "item".toList
    let s : Memory Journal := ⟨.empty, []⟩
    ∃ p, (after history).predicates = [] ++ p :: [] ∧ tag ∈ p.tags ∧ IsText x ∧
      (after history).evaluateAtom "item:7".toList (tag ++ ':' :: x) true s = .ok false s ∧
      (p.judge "item:7".toList none x).reply s = .ok true := by
  intro history tag x s
  have hx : IsText x := ⟨by decide, by decide, by decide⟩
  exact ⟨_, rfl, by decide, hx, rfl, rfl⟩

end ItemQuery.Registry
