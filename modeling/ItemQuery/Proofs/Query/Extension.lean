import ItemQuery.Proofs.Query.History
import ItemQuery.Scripted.Predicate

/-!
What one more predicate changes. A new predicate takes over the tags that no registered one bears, or
that none of them begins with; every other tag goes on reaching what it reached. So a query that does
not ask for a new predicate by a tag is evaluated as before, if the predicate needs a tag
(`Registry.register_extends`).
-/

namespace ItemQuery

variable {σ : Type}

namespace Registry

/-! ## Tags of an extended registry -/

variable {r : Registry σ} {p : Predicate σ}

/-- A predicate with a new id goes to the end. -/
theorem predicates_insert_of_fresh (h : p.id ∉ r.ids) :
    (r.insert p).predicates = r.predicates ++ [p] := by
  obtain ⟨ps⟩ := r
  unfold ids at h
  show put p ps = ps ++ [p]
  induction ps with
  | nil => rfl
  | cons q ps ih =>
    obtain ⟨hq, hps⟩ := not_or.mp (mt List.mem_cons.mpr h)
    rw [put, if_neg (Ne.symm hq), ih hps, List.cons_append]

/-- The new predicate comes last in both rounds of the search, first by whole aliases and then by
beginnings. -/
theorem resolve?_insert_of_fresh (h : p.id ∉ r.ids) (tag : Text) :
    (r.insert p).resolve? tag =
      ((r.predicates.find? (hasAlias (Text.lower tag))).or
        (if hasAlias (Text.lower tag) p then some p else none)).or
      ((r.predicates.find? (hasAliasFrom (Text.lower tag))).or
        (if hasAliasFrom (Text.lower tag) p then some p else none)) := by
  simp only [resolve?, predicates_insert_of_fresh h, List.find?_append, List.find?_singleton]

theorem find?_ne_of_fresh (h : p.id ∉ r.ids) (f : Predicate σ → Bool) :
    r.predicates.find? f ≠ some p :=
  fun hfind => h (List.mem_map_of_mem (List.mem_of_find?_eq_some hfind))

/-- A tag reaches a fresh predicate exactly when that is named by it and none before is, or is begun by
it and none before is. -/
theorem resolve?_insert_eq_some_iff (h : p.id ∉ r.ids) (tag : Text) :
    (r.insert p).resolve? tag = some p ↔
      (p.NamedBy tag ∧ ∀ q ∈ r.predicates, ¬q.NamedBy tag) ∨
      (p.BegunBy tag ∧ ∀ q ∈ r.predicates, ¬q.BegunBy tag) := by
  have hnamed := find?_ne_of_fresh h (hasAlias (Text.lower tag))
  have hbegun := find?_ne_of_fresh h (hasAliasFrom (Text.lower tag))
  have hnone : r.predicates.find? (hasAliasFrom (Text.lower tag)) = none →
      r.predicates.find? (hasAlias (Text.lower tag)) = none := by
    rw [find?_hasAliasFrom_eq_none, find?_hasAlias_eq_none]
    exact fun hall q hq hname => hall q hq hname.begunBy
  rw [resolve?_insert_of_fresh h, ← find?_hasAlias_eq_none, ← find?_hasAliasFrom_eq_none,
    ← hasAlias_iff, ← hasAliasFrom_iff]
  cases hexact : r.predicates.find? (hasAlias (Text.lower tag)) with
  | some q =>
    have hfrom : r.predicates.find? (hasAliasFrom (Text.lower tag)) ≠ none := by
      intro hfrom
      rw [hnone hfrom] at hexact
      cases hexact
    rw [hexact] at hnamed
    simpa [hfrom] using hnamed
  | none =>
    by_cases hp : hasAlias (Text.lower tag) p = true
    · simp [hp]
    · cases hfrom : r.predicates.find? (hasAliasFrom (Text.lower tag)) with
      | some q =>
        rw [hfrom] at hbegun
        simpa [hp] using hbegun
      | none => simp [hp]

theorem resolve?_insert_of_ne (h : p.id ∉ r.ids) {tag : Text}
    (hne : (r.insert p).resolve? tag ≠ some p) :
    (r.insert p).resolve? tag = r.resolve? tag := by
  rw [resolve?_insert_of_fresh h] at hne ⊢
  rw [resolve?_eq]
  generalize r.predicates.find? (hasAlias (Text.lower tag)) = named,
    r.predicates.find? (hasAliasFrom (Text.lower tag)) = begun at hne ⊢
  by_cases hp : hasAlias (Text.lower tag) p = true
  · cases named with
    | some q => rfl
    | none => simp [hp] at hne
  · cases begun with
    | some q => simp [hp]
    | none =>
      by_cases hq : hasAliasFrom (Text.lower tag) p = true
      · cases named with
        | some q => rfl
        | none => simp [hp, hq] at hne
      · simp [hp, hq]

/-! ## Queries over an extended registry -/

/-- A query is evaluated by the predicates that need no tag and by those that its tags reach. -/
theorem evaluate_congr {r r' : Registry σ}
    (huntagged : r.predicates.filter (!·.tagOnly) = r'.predicates.filter (!·.tagOnly))
    {query : Text} (htags : ∀ atom ∈ Atom.ofQuery query, ∀ tag, atom.tag = some tag →
      r.resolve? tag = r'.resolve? tag) (item : Text) :
    r.evaluate item query = r'.evaluate item query := by
  refine (evaluate_alike fun atom hatom => ?_ : Search.Alike Eq _ _).eq
  have hread : r.evaluateRead item true atom = r'.evaluateRead item true atom := by
    unfold evaluateRead
    cases htag : atom.tag with
    | none => simp only [probe_eq, huntagged]
    | some tag => simp only [htags atom hatom tag htag]
  rw [hread]
  exact .refl _

theorem resolve?_traced (r : Registry σ) (tag : Text) :
    r.traced.resolve? tag = (r.resolve? tag).map Predicate.traced := by
  simp only [resolve?, traced, List.find?_map, Option.map_or]
  rfl

/-- The calls of a query are made by the same predicates as its answer. -/
theorem calls_congr {r r' : Registry σ}
    (huntagged : r.predicates.filter (!·.tagOnly) = r'.predicates.filter (!·.tagOnly))
    {query : Text} (htags : ∀ atom ∈ Atom.ofQuery query, ∀ tag, atom.tag = some tag →
      r.resolve? tag = r'.resolve? tag) (item : Text) (s : σ) :
    r.calls item query s = r'.calls item query s := by
  have htraced : r.traced.evaluate item query = r'.traced.evaluate item query := by
    refine evaluate_congr ?_ (fun atom hatom tag htag => ?_) item
    · simp only [traced, List.filter_map]
      exact congrArg _ huntagged
    · rw [resolve?_traced, resolve?_traced, htags atom hatom tag htag]
  unfold calls
  rw [htraced]

/-- Registering a predicate with a new id. A tag reaches it exactly where no registered predicate has
the tag for an alias or else where none has an alias that begins so; all other tags reach what they
reached. If it needs a tag, queries that do not reach it by one have the same answers, faults and
states, and make the same calls. -/
theorem register_extends {c : Candidate σ} (hcheck : c.check = .ok p) (hfresh : p.id ∉ r.ids) :
    ∃ r', r.register c = .ok r' ∧
      (∀ tag, r'.resolve? tag = some p ↔
        (p.NamedBy tag ∧ ∀ q ∈ r.predicates, ¬q.NamedBy tag) ∨
        (p.BegunBy tag ∧ ∀ q ∈ r.predicates, ¬q.BegunBy tag)) ∧
      (∀ tag, r'.resolve? tag ≠ some p → r'.resolve? tag = r.resolve? tag) ∧
      (p.tagOnly = true → ∀ query, (∀ atom ∈ Atom.ofQuery query, ∀ tag, atom.tag = some tag →
          r'.resolve? tag ≠ some p) →
        ∀ item, r'.evaluate item query = r.evaluate item query ∧
          ∀ s, r'.calls item query s = r.calls item query s) := by
  have hregister : r.register c = .ok (r.insert p) := by
    rw [register, hcheck]
    rfl
  refine ⟨r.insert p, hregister, resolve?_insert_eq_some_iff hfresh,
    fun tag hne => resolve?_insert_of_ne hfresh hne, fun honly query hquery item => ?_⟩
  have huntagged : (r.insert p).predicates.filter (!·.tagOnly) = r.predicates.filter (!·.tagOnly) := by
    rw [predicates_insert_of_fresh hfresh, List.filter_append,
      List.filter_cons_of_neg (by simp [honly]), List.filter_nil, List.append_nil]
  have htags : ∀ atom ∈ Atom.ofQuery query, ∀ tag, atom.tag = some tag →
      (r.insert p).resolve? tag = r.resolve? tag :=
    fun atom hatom tag htag => resolve?_insert_of_ne hfresh (hquery atom hatom tag htag)
  exact ⟨evaluate_congr huntagged htags item, fun s => calls_congr huntagged htags item s⟩

end Registry

/-- A script that takes any text and looks for it in the reference. -/
def Script.seeking (id : String) (tags : List String) (tagOnly : Bool) : Script where
  id := some (.text id.toList)
  tags := some (.array (tags.map fun tag => .text tag.toList))
  tagOnly := some (.bool tagOnly)
  acceptance := .any
  outcome := .contains
  lacks := []

/-- The new alias takes a tag over that has so far reached another predicate by its beginning. -/
theorem Registry.register_extends_price :
    let r : Registry (Memory Journal) := after [(Script.seeking "name" ["Name"] false).candidate]
    let c := (Script.seeking "price" ["na"] true).candidate
    let query := "name:ring & gold".toList
    ∃ p r', c.check = .ok p ∧ p.id ∉ r.ids ∧ r.register c = .ok r' ∧
      (r.resolve? "NA".toList).map (·.id) = some "name".toList ∧
      r'.resolve? "NA".toList = some p ∧ p.tagOnly = true ∧
      (∀ atom ∈ Atom.ofQuery query, ∀ tag, atom.tag = some tag → r'.resolve? tag ≠ some p) ∧
      r'.evaluate "item:7".toList query = r.evaluate "item:7".toList query := by
  intro r c query
  obtain ⟨p, hcheck, hid, htags, honly⟩ : ∃ p, c.check = .ok p ∧ p.id = "price".toList ∧
      p.tags = ["na".toList] ∧ p.tagOnly = true := ⟨_, rfl, rfl, rfl, rfl⟩
  have hfresh : p.id ∉ r.ids := by
    rw [hid]
    decide
  obtain ⟨r', hregister, hnew, -, hquery⟩ := register_extends hcheck hfresh
  have hna : r'.resolve? "NA".toList = some p := by
    rw [hnew]
    refine .inl ⟨?_, by decide⟩
    simp only [Predicate.NamedBy, htags]
    decide
  have hatoms : Atom.ofQuery query =
      [⟨"ring".toList, some "name".toList, none⟩, ⟨"gold".toList, none, none⟩] := by decide
  have hothers : ∀ atom ∈ Atom.ofQuery query, ∀ tag, atom.tag = some tag →
      r'.resolve? tag ≠ some p := by
    intro atom hatom tag htag
    rw [ne_eq, hnew]
    simp only [Predicate.NamedBy, Predicate.BegunBy, htags]
    rw [hatoms] at hatom
    rcases List.mem_pair.mp hatom with rfl | rfl
    · cases htag
      decide
    · cases htag
  exact ⟨p, r', hcheck, hfresh, hregister, by decide, hna, honly, hothers,
    (hquery honly query hothers _).1⟩

end ItemQuery
