import ItemQuery.Proofs.Search
import ItemQuery.Query.Evaluate

/-!
The atoms of a query. A registry is asked about a query by its atoms alone: about one with a tag the
predicate that the tag reaches (`Registry.evaluateAtom_eq`), about one without the predicates that
need no tag, until one accepts the item (`Registry.probe_eq`).
-/

namespace ItemQuery

variable {σ : Type}

/-! ## Atoms of a query -/

/-- The atom that a term is about, without a negation in front. -/
def Atom.ofTerm? (t : Text) : Option Atom :=
  match Text.trim t with
  | [] => none
  | c :: rest => parse? (if Registry.isNegation c then rest else c :: rest)

def Atom.ofTerms (ts : List Text) : List Atom := ts.filterMap ofTerm?

/-- The atoms of a query, in order. -/
def Atom.ofQuery (query : Text) : List Atom :=
  ofTerms ((Text.split '|' (Text.lower query)).flatMap (Text.split '&'))

theorem Atom.mem_ofTerms_cons {t : Text} {ts : List Text} {atom : Atom} :
    atom ∈ ofTerms (t :: ts) ↔ ofTerm? t = some atom ∨ atom ∈ ofTerms ts := by
  simp [ofTerms]

theorem Atom.ofTerms_append (ts us : List Text) : ofTerms (ts ++ us) = ofTerms ts ++ ofTerms us :=
  List.filterMap_append

/-! ## Asking about an atom -/

/-- A predicate that reads its captures off the text is asked about the capture, if there is one. -/
theorem Predicate.judge_of_canSearch {p : Predicate σ} (item : Text) {text : Text}
    {capture? : Option Json} : p.canSearch none text = pure capture? →
    p.judge item none text = match capture? with
      | none => return false
      | some capture => p.evaluate item none capture := by
  intro h
  have hsame : ∀ x : Search σ Bool, (do return (← x) != false) = x := by
    intro x
    simp
  show (p.canSearch none text >>= fun capture? => match capture? with
    | none => pure false
    | some capture => do return (← p.evaluate item none capture) != false) = _
  rw [h, pure_bind]
  cases capture? with
  | none => rfl
  | some capture => exact hsame _

namespace Registry

variable {r : Registry σ}

/-- Evaluates an atom that has been read. -/
def evaluateRead (r : Registry σ) (item : Text) (fallback : Bool) (atom : Atom) : Search σ Bool :=
  match atom.tag with
  | none => probe item atom.operator atom.text r.predicates
  | some tag =>
    match r.resolve? tag with
    | none => return fallback
    | some p => p.judge item atom.operator atom.text

theorem evaluateAtom_eq (r : Registry σ) (item t : Text) (fallback : Bool) :
    r.evaluateAtom item t fallback = match Atom.parse? t with
      | none => return fallback
      | some atom => r.evaluateRead item fallback atom := by
  unfold evaluateAtom
  split
  · rename_i h
    rw [h]
  · rename_i text operator h
    rw [h]
    rfl
  · rename_i text tag operator h
    rw [h]
    rfl

/-- Probing asks the predicates that need no tag, one after the other. -/
theorem probe_eq (item : Text) (operator : Option Text) (text : Text) (ps : List (Predicate σ)) :
    probe item operator text ps =
      .anyOf ((ps.filter fun p => !p.tagOnly).map fun p => p.judge item operator text) := by
  induction ps with
  | nil => rfl
  | cons p ps ih =>
    unfold probe
    cases hp : p.tagOnly with
    | true =>
      rw [List.filter_cons_of_neg (by simp [hp])]
      exact ih
    | false =>
      rw [List.filter_cons_of_pos (by simp [hp]), List.map_cons, Search.anyOf, ← ih]
      rfl

theorem probe_append (item : Text) (operator : Option Text) (text : Text) (ps qs : List (Predicate σ)) :
    probe item operator text (ps ++ qs) = (do
      if ← probe item operator text ps then return true else probe item operator text qs) := by
  rw [probe_eq, probe_eq, probe_eq, List.filter_append, List.map_append, Search.anyOf_append]

/-- The predicates that an atom may be judged by: the one that its tag reaches, or without a tag all
that need none. -/
def reached (r : Registry σ) (atom : Atom) : List (Predicate σ) :=
  match atom.tag with
  | none => r.predicates.filter fun p => !p.tagOnly
  | some tag => (r.resolve? tag).toList

theorem mem_of_resolve? {tag : Text} {p : Predicate σ} (h : r.resolve? tag = some p) :
    p ∈ r.predicates := by
  rcases Option.or_eq_some_iff.mp h with hexact | ⟨-, hfrom⟩
  · exact List.mem_of_find?_eq_some hexact
  · exact List.mem_of_find?_eq_some hfrom

theorem mem_of_mem_reached {atom : Atom} {p : Predicate σ} (h : p ∈ r.reached atom) :
    p ∈ r.predicates := by
  unfold reached at h
  split at h
  · exact (List.mem_filter.mp h).1
  · exact mem_of_resolve? (Option.mem_toList.mp h)

end Registry

end ItemQuery
